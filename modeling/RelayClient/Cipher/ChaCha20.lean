import RelayClient.Cipher.Words

/-!
# ChaCha20

A block of constants, key, counter and nonce is mixed by ten double rounds. Added
to what it was mixed from, it is a block of key stream; its outer words alone
are a key for a longer nonce.
-/

namespace RelayClient.Cipher.ChaCha20

/-- Mixes the words of a block by double rounds. -/
def mix : (rounds : Nat) →
    (w0 w1 w2 w3 w4 w5 w6 w7 w8 w9 w10 w11 w12 w13 w14 w15 : UInt32) → Words
  | 0, w0, w1, w2, w3, w4, w5, w6, w7, w8, w9, w10, w11, w12, w13, w14, w15 =>
      ⟨w0, w1, w2, w3, w4, w5, w6, w7, w8, w9, w10, w11, w12, w13, w14, w15⟩
  | rounds + 1, w0, w1, w2, w3, w4, w5, w6, w7, w8, w9, w10, w11, w12, w13, w14, w15 =>
      let w0 := w0 + w4
      let w12 := turnLeft (w12 ^^^ w0) 16
      let w8 := w8 + w12
      let w4 := turnLeft (w4 ^^^ w8) 12
      let w0 := w0 + w4
      let w12 := turnLeft (w12 ^^^ w0) 8
      let w8 := w8 + w12
      let w4 := turnLeft (w4 ^^^ w8) 7
      let w1 := w1 + w5
      let w13 := turnLeft (w13 ^^^ w1) 16
      let w9 := w9 + w13
      let w5 := turnLeft (w5 ^^^ w9) 12
      let w1 := w1 + w5
      let w13 := turnLeft (w13 ^^^ w1) 8
      let w9 := w9 + w13
      let w5 := turnLeft (w5 ^^^ w9) 7
      let w2 := w2 + w6
      let w14 := turnLeft (w14 ^^^ w2) 16
      let w10 := w10 + w14
      let w6 := turnLeft (w6 ^^^ w10) 12
      let w2 := w2 + w6
      let w14 := turnLeft (w14 ^^^ w2) 8
      let w10 := w10 + w14
      let w6 := turnLeft (w6 ^^^ w10) 7
      let w3 := w3 + w7
      let w15 := turnLeft (w15 ^^^ w3) 16
      let w11 := w11 + w15
      let w7 := turnLeft (w7 ^^^ w11) 12
      let w3 := w3 + w7
      let w15 := turnLeft (w15 ^^^ w3) 8
      let w11 := w11 + w15
      let w7 := turnLeft (w7 ^^^ w11) 7
      let w0 := w0 + w5
      let w15 := turnLeft (w15 ^^^ w0) 16
      let w10 := w10 + w15
      let w5 := turnLeft (w5 ^^^ w10) 12
      let w0 := w0 + w5
      let w15 := turnLeft (w15 ^^^ w0) 8
      let w10 := w10 + w15
      let w5 := turnLeft (w5 ^^^ w10) 7
      let w1 := w1 + w6
      let w12 := turnLeft (w12 ^^^ w1) 16
      let w11 := w11 + w12
      let w6 := turnLeft (w6 ^^^ w11) 12
      let w1 := w1 + w6
      let w12 := turnLeft (w12 ^^^ w1) 8
      let w11 := w11 + w12
      let w6 := turnLeft (w6 ^^^ w11) 7
      let w2 := w2 + w7
      let w13 := turnLeft (w13 ^^^ w2) 16
      let w8 := w8 + w13
      let w7 := turnLeft (w7 ^^^ w8) 12
      let w2 := w2 + w7
      let w13 := turnLeft (w13 ^^^ w2) 8
      let w8 := w8 + w13
      let w7 := turnLeft (w7 ^^^ w8) 7
      let w3 := w3 + w4
      let w14 := turnLeft (w14 ^^^ w3) 16
      let w9 := w9 + w14
      let w4 := turnLeft (w4 ^^^ w9) 12
      let w3 := w3 + w4
      let w14 := turnLeft (w14 ^^^ w3) 8
      let w9 := w9 + w14
      let w4 := turnLeft (w4 ^^^ w9) 7
      mix rounds w0 w1 w2 w3 w4 w5 w6 w7 w8 w9 w10 w11 w12 w13 w14 w15

/-- The block of a key and the four words after it. -/
def start (key : Bytes) (counter first second third : UInt32) : Words :=
  ⟨0x61707865, 0x3320646e, 0x79622d32, 0x6b206574,
    wordAt key 0, wordAt key 4, wordAt key 8, wordAt key 12,
    wordAt key 16, wordAt key 20, wordAt key 24, wordAt key 28,
    counter, first, second, third⟩

/-- A block mixed by ten double rounds. -/
def mixed (block : Words) : Words :=
  mix 10 block.w0 block.w1 block.w2 block.w3 block.w4 block.w5 block.w6 block.w7 block.w8
    block.w9 block.w10 block.w11 block.w12 block.w13 block.w14 block.w15

def streamBlock (key : Bytes) (nonce : Bytes) (counter : UInt32) : Bytes :=
  let block := start key counter (wordAt nonce 0) (wordAt nonce 4) (wordAt nonce 8)
  ((mixed block).add block).toBytes

/-- The key for the rest of a long nonce, from its first sixteen bytes. -/
def innerKey (key nonce : Bytes) : Bytes :=
  let block := mixed (start key (wordAt nonce 0) (wordAt nonce 4) (wordAt nonce 8) (wordAt nonce
    12))
  [block.w0, block.w1, block.w2, block.w3, block.w12, block.w13, block.w14, block.w15].flatMap
    wordBytes

/-- Blocks of key stream for a nonce of 24 bytes, from a given counter on. -/
def longStream (key nonce : Bytes) (counter blocks : Nat) : Bytes :=
  let inner := innerKey key nonce
  let rest := [0, 0, 0, 0] ++ nonce.drop 16
  (List.range blocks).flatMap fun block => streamBlock inner rest (UInt32.ofNat (counter + block))

theorem length_streamBlock (key nonce : Bytes) (counter : UInt32) :
    (streamBlock key nonce counter).length = 64 := rfl

end RelayClient.Cipher.ChaCha20
