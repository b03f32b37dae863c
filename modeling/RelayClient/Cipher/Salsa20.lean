import RelayClient.Cipher.Words

/-!
# Salsa20

A block of constants, key, nonce and counter is mixed by double rounds. Added to
what it was mixed from, it is a block of key stream; eight of its words alone
are a key for a longer nonce.
-/

namespace RelayClient.Cipher.Salsa20

/-- Mixes the words of a block by double rounds. -/
def mix : (rounds : Nat) →
    (w0 w1 w2 w3 w4 w5 w6 w7 w8 w9 w10 w11 w12 w13 w14 w15 : UInt32) → Words
  | 0, w0, w1, w2, w3, w4, w5, w6, w7, w8, w9, w10, w11, w12, w13, w14, w15 =>
      ⟨w0, w1, w2, w3, w4, w5, w6, w7, w8, w9, w10, w11, w12, w13, w14, w15⟩
  | rounds + 1, w0, w1, w2, w3, w4, w5, w6, w7, w8, w9, w10, w11, w12, w13, w14, w15 =>
      let w4 := w4 ^^^ turnLeft (w0 + w12) 7
      let w8 := w8 ^^^ turnLeft (w4 + w0) 9
      let w12 := w12 ^^^ turnLeft (w8 + w4) 13
      let w0 := w0 ^^^ turnLeft (w12 + w8) 18
      let w9 := w9 ^^^ turnLeft (w5 + w1) 7
      let w13 := w13 ^^^ turnLeft (w9 + w5) 9
      let w1 := w1 ^^^ turnLeft (w13 + w9) 13
      let w5 := w5 ^^^ turnLeft (w1 + w13) 18
      let w14 := w14 ^^^ turnLeft (w10 + w6) 7
      let w2 := w2 ^^^ turnLeft (w14 + w10) 9
      let w6 := w6 ^^^ turnLeft (w2 + w14) 13
      let w10 := w10 ^^^ turnLeft (w6 + w2) 18
      let w3 := w3 ^^^ turnLeft (w15 + w11) 7
      let w7 := w7 ^^^ turnLeft (w3 + w15) 9
      let w11 := w11 ^^^ turnLeft (w7 + w3) 13
      let w15 := w15 ^^^ turnLeft (w11 + w7) 18
      let w1 := w1 ^^^ turnLeft (w0 + w3) 7
      let w2 := w2 ^^^ turnLeft (w1 + w0) 9
      let w3 := w3 ^^^ turnLeft (w2 + w1) 13
      let w0 := w0 ^^^ turnLeft (w3 + w2) 18
      let w6 := w6 ^^^ turnLeft (w5 + w4) 7
      let w7 := w7 ^^^ turnLeft (w6 + w5) 9
      let w4 := w4 ^^^ turnLeft (w7 + w6) 13
      let w5 := w5 ^^^ turnLeft (w4 + w7) 18
      let w11 := w11 ^^^ turnLeft (w10 + w9) 7
      let w8 := w8 ^^^ turnLeft (w11 + w10) 9
      let w9 := w9 ^^^ turnLeft (w8 + w11) 13
      let w10 := w10 ^^^ turnLeft (w9 + w8) 18
      let w12 := w12 ^^^ turnLeft (w15 + w14) 7
      let w13 := w13 ^^^ turnLeft (w12 + w15) 9
      let w14 := w14 ^^^ turnLeft (w13 + w12) 13
      let w15 := w15 ^^^ turnLeft (w14 + w13) 18
      mix rounds w0 w1 w2 w3 w4 w5 w6 w7 w8 w9 w10 w11 w12 w13 w14 w15

/-- The block of a key and the four words between its halves. -/
def start (key : Bytes) (first second third fourth : UInt32) : Words :=
  ⟨0x61707865, wordAt key 0, wordAt key 4, wordAt key 8,
    wordAt key 12, 0x3320646e, first, second,
    third, fourth, 0x79622d32, wordAt key 16,
    wordAt key 20, wordAt key 24, wordAt key 28, 0x6b206574⟩

/-- A block mixed by ten double rounds. -/
def mixed (block : Words) : Words :=
  mix 10 block.w0 block.w1 block.w2 block.w3 block.w4 block.w5 block.w6 block.w7 block.w8
    block.w9 block.w10 block.w11 block.w12 block.w13 block.w14 block.w15

def streamBlock (key nonce : Bytes) (counter : Nat) : Bytes :=
  let block := start key (wordAt nonce 0) (wordAt nonce 4) (UInt32.ofNat counter)
    (UInt32.ofNat (counter / 2 ^ 32))
  ((mixed block).add block).toBytes

/-- The key for the rest of a long nonce, from its first sixteen bytes. -/
def innerKey (key nonce : Bytes) : Bytes :=
  let block := mixed (start key (wordAt nonce 0) (wordAt nonce 4) (wordAt nonce 8) (wordAt nonce
    12))
  [block.w0, block.w5, block.w10, block.w15, block.w6, block.w7, block.w8, block.w9].flatMap
    wordBytes

/-- Blocks of key stream for a nonce of 24 bytes, from the start. -/
def longStream (key nonce : Bytes) (blocks : Nat) : Bytes :=
  let inner := innerKey key nonce
  let rest := nonce.drop 16
  (List.range blocks).flatMap (streamBlock inner rest)

theorem length_streamBlock (key nonce : Bytes) (counter : Nat) :
    (streamBlock key nonce counter).length = 64 := rfl

end RelayClient.Cipher.Salsa20
