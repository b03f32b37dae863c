import RelayClient.Bytes

/-!
# SHA-256

A message is filled up to whole blocks of 64 bytes. Each block is stretched
to 64 words, which mix eight words of state; the state after the last block
is the digest.
-/

namespace RelayClient.Cipher.Sha256

/-- A word turned right by a number of bits below its width. -/
@[inline] def turnRight (word bits : UInt32) : UInt32 :=
  word >>> bits ||| word <<< (32 - bits)

def roundWords : Array UInt32 := #[
  0x428a2f98, 0x71374491, 0xb5c0fbcf, 0xe9b5dba5, 0x3956c25b, 0x59f111f1, 0x923f82a4, 0xab1c5ed5,
  0xd807aa98, 0x12835b01, 0x243185be, 0x550c7dc3, 0x72be5d74, 0x80deb1fe, 0x9bdc06a7, 0xc19bf174,
  0xe49b69c1, 0xefbe4786, 0x0fc19dc6, 0x240ca1cc, 0x2de92c6f, 0x4a7484aa, 0x5cb0a9dc, 0x76f988da,
  0x983e5152, 0xa831c66d, 0xb00327c8, 0xbf597fc7, 0xc6e00bf3, 0xd5a79147, 0x06ca6351, 0x14292967,
  0x27b70a85, 0x2e1b2138, 0x4d2c6dfc, 0x53380d13, 0x650a7354, 0x766a0abb, 0x81c2c92e, 0x92722c85,
  0xa2bfe8a1, 0xa81a664b, 0xc24b8b70, 0xc76c51a3, 0xd192e819, 0xd6990624, 0xf40e3585, 0x106aa070,
  0x19a4c116, 0x1e376c08, 0x2748774c, 0x34b0bcb5, 0x391c0cb3, 0x4ed8aa4a, 0x5b9cca4f, 0x682e6ff3,
  0x748f82ee, 0x78a5636f, 0x84c87814, 0x8cc70208, 0x90befffa, 0xa4506ceb, 0xbef9a3f7, 0xc67178f2]

/-- The eight words of state. -/
structure State where
  a : UInt32
  b : UInt32
  c : UInt32
  d : UInt32
  e : UInt32
  f : UInt32
  g : UInt32
  h : UInt32

/-- The state before the first block. -/
def State.start : State :=
  ⟨0x6a09e667, 0xbb67ae85, 0x3c6ef372, 0xa54ff53a,
    0x510e527f, 0x9b05688c, 0x1f83d9ab, 0x5be0cd19⟩

def State.add (first second : State) : State :=
  ⟨first.a + second.a, first.b + second.b, first.c + second.c, first.d + second.d,
    first.e + second.e, first.f + second.f, first.g + second.g, first.h + second.h⟩

/-- The words of a block, most significant byte first. -/
def blockWords (block : Bytes) : Array UInt32 :=
  Array.ofFn fun place : Fin 16 => UInt32.ofNat (Bytes.ofBigEndian ((block.drop (4 * place.val)).take 4))

/-- Stretches the words of a block by a count of words. -/
def stretch : (count : Nat) → Array UInt32 → Array UInt32
  | 0, words => words
  | count + 1, words =>
      let near := words[words.size - 2]!
      let far := words[words.size - 15]!
      let early := turnRight far 7 ^^^ turnRight far 18 ^^^ far >>> 3
      let late := turnRight near 17 ^^^ turnRight near 19 ^^^ near >>> 10
      stretch count (words.push (words[words.size - 16]! + early + words[words.size - 7]! + late))

/-- Mixes the state with the words from a given round on. -/
def rounds : (count : Nat) → (round : Nat) → Array UInt32 → State → State
  | 0, _, _, state => state
  | count + 1, round, words, ⟨a, b, c, d, e, f, g, h⟩ =>
      let upper := turnRight e 6 ^^^ turnRight e 11 ^^^ turnRight e 25
      let choice := (e &&& f) ^^^ (~~~e &&& g)
      let first := h + upper + choice + roundWords[round]! + words[round]!
      let lower := turnRight a 2 ^^^ turnRight a 13 ^^^ turnRight a 22
      let majority := (a &&& b) ^^^ (a &&& c) ^^^ (b &&& c)
      rounds count (round + 1) words ⟨first + lower + majority, a, b, c, d + first, e, f, g⟩

def compress (state : State) (block : Bytes) : State :=
  state.add (rounds 64 0 (stretch 48 (blockWords block)) state)

/-- A message filled up to whole blocks, with its length in bits at the end. -/
def padded (message : Bytes) : Bytes :=
  let zeros := (64 - (message.length + 9) % 64) % 64
  message ++ 0x80 :: List.replicate zeros 0 ++ Bytes.bigEndian 8 (8 * message.length)

def digest (message : Bytes) : Bytes :=
  let input := padded message
  let state := (List.range (input.length / 64)).foldl
    (fun state block => compress state ((input.drop (64 * block)).take 64)) .start
  [state.a, state.b, state.c, state.d, state.e, state.f, state.g, state.h].flatMap fun word =>
    Bytes.bigEndian 4 word.toNat

end RelayClient.Cipher.Sha256
