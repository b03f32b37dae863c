import RelayClient.Bytes

/-!
# Blocks of sixteen words

Stream ciphers work on a block of sixteen words of 32 bits, read from bytes and
written to bytes least significant byte first.
-/

namespace RelayClient.Cipher

/-- Sixteen words of 32 bits. -/
structure Words where
  w0 : UInt32
  w1 : UInt32
  w2 : UInt32
  w3 : UInt32
  w4 : UInt32
  w5 : UInt32
  w6 : UInt32
  w7 : UInt32
  w8 : UInt32
  w9 : UInt32
  w10 : UInt32
  w11 : UInt32
  w12 : UInt32
  w13 : UInt32
  w14 : UInt32
  w15 : UInt32

/-- A word turned left by a number of bits below its width. -/
@[inline] def turnLeft (word bits : UInt32) : UInt32 :=
  word <<< bits ||| word >>> (32 - bits)

/-- The word of four bytes at an offset, missing bytes counting as zero. -/
def wordAt (bytes : Bytes) (offset : Nat) : UInt32 :=
  UInt32.ofNat (Bytes.ofLittleEndian ((bytes.drop offset).take 4))

def wordBytes (word : UInt32) : Bytes :=
  [word.toUInt8, (word >>> 8).toUInt8, (word >>> 16).toUInt8, (word >>> 24).toUInt8]

namespace Words

def toList (block : Words) : List UInt32 :=
  [block.w0, block.w1, block.w2, block.w3, block.w4, block.w5, block.w6, block.w7, block.w8,
    block.w9, block.w10, block.w11, block.w12, block.w13, block.w14, block.w15]

def toBytes (block : Words) : Bytes :=
  block.toList.flatMap wordBytes

def add (first second : Words) : Words :=
  ⟨first.w0 + second.w0, first.w1 + second.w1, first.w2 + second.w2, first.w3 + second.w3,
    first.w4 + second.w4, first.w5 + second.w5, first.w6 + second.w6, first.w7 + second.w7,
    first.w8 + second.w8, first.w9 + second.w9, first.w10 + second.w10, first.w11 + second.w11,
    first.w12 + second.w12, first.w13 + second.w13, first.w14 + second.w14, first.w15 +
    second.w15⟩

end Words

end RelayClient.Cipher
