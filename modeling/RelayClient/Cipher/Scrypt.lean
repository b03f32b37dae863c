import RelayClient.Cipher.Salsa20
import RelayClient.Cipher.Sha256

/-!
# Password-based keys

A key is derived from a password and a salt at a cost in memory and time: the
password and salt are stretched, the result is mixed through a large table of
its own earlier states, and what comes out is stretched to the key.
-/

namespace RelayClient.Cipher

def keyedDigest (key message : Bytes) : Bytes :=
  let short := if key.length ≤ 64 then key else Sha256.digest key
  let block := short ++ List.replicate (64 - short.length) 0
  Sha256.digest (block.map (· ^^^ 0x5c) ++ Sha256.digest (block.map (· ^^^ 0x36) ++ message))

/-- A count of bytes stretched from a password and a salt in one pass. -/
def stretchPassword (password salt : Bytes) (count : Nat) : Bytes :=
  ((List.range ((count + 31) / 32)).flatMap fun block =>
    keyedDigest password (salt ++ Bytes.bigEndian 4 (block + 1))).take count

namespace Scrypt

/-- The words of bytes, least significant byte first. -/
def words (bytes : Bytes) : Array UInt32 :=
  Array.ofFn fun place : Fin (bytes.length / 4) => wordAt bytes (4 * place.val)

def bytes (words : Array UInt32) : Bytes :=
  words.toList.flatMap wordBytes

/-- Mixes a block by four double rounds and adds it to what it was. -/
@[inline] def core (block : Words) : Words :=
  (Salsa20.mix 4 block.w0 block.w1 block.w2 block.w3 block.w4 block.w5 block.w6 block.w7
    block.w8 block.w9 block.w10 block.w11 block.w12 block.w13 block.w14 block.w15).add block

/-- Sixteen words at an offset, added by exclusive or to a block. -/
@[inline] def load (input : Array UInt32) (offset : Nat) (block : Words) : Words :=
  ⟨block.w0 ^^^ input[offset]!, block.w1 ^^^ input[offset + 1]!,
    block.w2 ^^^ input[offset + 2]!, block.w3 ^^^ input[offset + 3]!,
    block.w4 ^^^ input[offset + 4]!, block.w5 ^^^ input[offset + 5]!,
    block.w6 ^^^ input[offset + 6]!, block.w7 ^^^ input[offset + 7]!,
    block.w8 ^^^ input[offset + 8]!, block.w9 ^^^ input[offset + 9]!,
    block.w10 ^^^ input[offset + 10]!, block.w11 ^^^ input[offset + 11]!,
    block.w12 ^^^ input[offset + 12]!, block.w13 ^^^ input[offset + 13]!,
    block.w14 ^^^ input[offset + 14]!, block.w15 ^^^ input[offset + 15]!⟩

@[inline] def save (output : Array UInt32) (offset : Nat) (block : Words) : Array UInt32 :=
  output
    |>.set! offset block.w0 |>.set! (offset + 1) block.w1
    |>.set! (offset + 2) block.w2 |>.set! (offset + 3) block.w3
    |>.set! (offset + 4) block.w4 |>.set! (offset + 5) block.w5
    |>.set! (offset + 6) block.w6 |>.set! (offset + 7) block.w7
    |>.set! (offset + 8) block.w8 |>.set! (offset + 9) block.w9
    |>.set! (offset + 10) block.w10 |>.set! (offset + 11) block.w11
    |>.set! (offset + 12) block.w12 |>.set! (offset + 13) block.w13
    |>.set! (offset + 14) block.w14 |>.set! (offset + 15) block.w15

def zeroBlock : Words := ⟨0, 0, 0, 0, 0, 0, 0, 0, 0, 0, 0, 0, 0, 0, 0, 0⟩

/-- Mixes the blocks of the input from a given one on; even blocks fill the first
half of the output and odd blocks the second. -/
def mixBlocks (r : Nat) : (count block : Nat) → Words → Array UInt32 → Array UInt32 → Array UInt32
  | 0, _, _, _, output => output
  | count + 1, block, carried, input, output =>
      let mixed := core (load input (16 * block) carried)
      let place := if block % 2 = 0 then block / 2 else r + block / 2
      mixBlocks r count (block + 1) mixed input (save output (16 * place) mixed)

def mixAll (r : Nat) (input output : Array UInt32) : Array UInt32 :=
  mixBlocks r (2 * r) 0 (load input (16 * (2 * r - 1)) zeroBlock) input output

/-- Appends a count of words of the input to a table. -/
def record : (count place : Nat) → Array UInt32 → Array UInt32 → Array UInt32
  | 0, _, _, table => table
  | count + 1, place, input, table => record count (place + 1) input (table.push input[place]!)

def fill (r : Nat) : (count : Nat) → (state spare table : Array UInt32) → Array UInt32 × Array UInt32
  | 0, state, _, table => (state, table)
  | count + 1, state, spare, table =>
      let table := record (32 * r) 0 state table
      fill r count (mixAll r state spare) state table

/-- Adds a count of words of the table, from an offset on, to a state. -/
def combine : (count place offset : Nat) → (table state : Array UInt32) → Array UInt32
  | 0, _, _, _, state => state
  | count + 1, place, offset, table, state =>
      combine count (place + 1) offset table (state.set! place (state[place]! ^^^ table[offset + place]!))

/-- Mixes a state with states of the table that it picks itself. -/
def revisit (r entries : Nat) : (count : Nat) → (state spare table : Array UInt32) → Array UInt32
  | 0, state, _, _ => state
  | count + 1, state, spare, table =>
      let pick := (state[32 * r - 16]!.toNat + 2 ^ 32 * state[32 * r - 15]!.toNat) % entries
      let state := combine (32 * r) 0 (32 * r * pick) table state
      revisit r entries count (mixAll r state spare) state table

/-- Mixes one lane of 128 times `r` bytes through a table of a given count of entries. -/
def mixLane (r entries : Nat) (lane : Bytes) : Bytes :=
  let state := words lane
  let filled := fill r entries state (Array.replicate (32 * r) 0) (Array.mkEmpty (32 * r * entries))
  bytes (revisit r entries entries filled.1 (Array.replicate (32 * r) 0) filled.2)

/-- The key of a password and a salt at a given cost. -/
def derive (password salt : Bytes) (entries r p count : Nat) : Bytes :=
  let start := stretchPassword password salt (128 * r * p)
  let mixed := (List.range p).flatMap fun lane =>
    mixLane r entries ((start.drop (128 * r * lane)).take (128 * r))
  stretchPassword password mixed count

end Scrypt

end RelayClient.Cipher
