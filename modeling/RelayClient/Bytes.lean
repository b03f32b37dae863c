import RelayClient.Powers

/-!
# Byte strings

A byte string is a list of bytes. A natural number is laid out over a fixed
count of bytes, either most significant byte first or least significant byte
first; reading takes a whole byte string back to the number it spells.
-/

namespace RelayClient

abbrev Bytes := List UInt8

namespace Bytes

/-- The low `count` bytes of a number, most significant first. -/
def bigEndian : (count : Nat) → (value : Nat) → Bytes
  | 0, _ => []
  | count + 1, value => UInt8.ofNat (value / 256 ^ count) :: bigEndian count value

/-- The number a byte string spells, most significant byte first. -/
def ofBigEndian (bytes : Bytes) : Nat :=
  bytes.foldl (fun value byte => value * 256 + byte.toNat) 0

/-- The low `count` bytes of a number, least significant first. -/
def littleEndian : (count : Nat) → (value : Nat) → Bytes
  | 0, _ => []
  | count + 1, value => UInt8.ofNat value :: littleEndian count (value / 256)

/-- The number a byte string spells, least significant byte first. -/
def ofLittleEndian : Bytes → Nat
  | [] => 0
  | byte :: rest => byte.toNat + 256 * ofLittleEndian rest

theorem length_bigEndian (count value : Nat) : (bigEndian count value).length = count := by
  induction count with
  | zero => rfl
  | succ count ih => simp [bigEndian, ih]

theorem length_littleEndian (count value : Nat) : (littleEndian count value).length = count := by
  induction count generalizing value with
  | zero => rfl
  | succ count ih => simp [littleEndian, ih]

theorem foldl_bigEndian (count value start : Nat) :
    (bigEndian count value).foldl (fun total byte => total * 256 + byte.toNat) start =
      start * 256 ^ count + value % 256 ^ count := by
  induction count generalizing start with
  | zero => simp [bigEndian, Nat.mod_one]
  | succ count ih =>
      have byte : (UInt8.ofNat (value / 256 ^ count)).toNat = value / 256 ^ count % 256 := rfl
      rw [bigEndian, List.foldl_cons, ih, byte, Nat.pow_succ, Nat.mod_mul, Nat.add_mul, Nat.mul_assoc,
        Nat.mul_comm 256, Nat.mul_comm (value / 256 ^ count % 256), Nat.add_assoc, Nat.add_comm (_ * (_ % 256))]

theorem ofBigEndian_bigEndian (count value : Nat) : ofBigEndian (bigEndian count value) = value % 256 ^ count := by
  rw [ofBigEndian, foldl_bigEndian, Nat.zero_mul, Nat.zero_add]

/-- The first `count` bytes and what follows them, when there are that many. -/
def split? (count : Nat) (bytes : Bytes) : Option (Bytes × Bytes) :=
  if count ≤ bytes.length then some (bytes.take count, bytes.drop count) else none

theorem split?_append (front rest : Bytes) : split? front.length (front ++ rest) = some (front, rest) := by
  simp [split?]

/-- Bytes of two strings of one length combined by exclusive or. -/
def xor (first second : Bytes) : Bytes :=
  List.zipWith (· ^^^ ·) first second

end Bytes

end RelayClient
