import RelayClient.Cipher.Scrypt
import RelayClient.Cipher.Sha512
import RelayClient.Cipher.SealedBox
import RelayClient.Failure
import RelayClient.Text.Duration
import RelayClient.Text.Units
import RelayClient.Text.Utf8

/-!
# Work factors

The cost of deriving a key from a password: the binary logarithm of the count of
table entries, a block size and a count of lanes. A new record gets the cost that
a timed run lets expect to take a target time, within fixed bounds. What a stored
record costs is bounded by nothing but its fields: a derivation that asks for more
memory than there is ends the program.
-/

namespace RelayClient

open Cipher (Key Sized)

/-- The cost of a derived key. -/
structure WorkFactor where
  logN : UInt8
  r : UInt32
  p : UInt32
  deriving DecidableEq

namespace WorkFactor

/-- The least and the largest cost a new record gets. -/
def minLogN : Nat := 14
def maxLogN : Nat := 20

/-- The cost of the timed run. -/
def benchmarkLogN : Nat := 10

def saltLength : Nat := 32

/-- The work factor of new records at a given cost. -/
def standard (logN : UInt8) : WorkFactor := ⟨logN, 8, 1⟩

/-- The work factor of the timed run. -/
def benchmark : WorkFactor := standard (UInt8.ofNat benchmarkLogN)

/-- The count of table entries, in 64 bits. -/
def n (work : WorkFactor) : UInt64 :=
  1 <<< work.logN.toUInt64

/-- The logarithm of a count of entries that is a power of two above one. -/
def logOf? (count : Nat) : Option Nat :=
  if 2 ≤ count ∧ 2 ^ count.log2 = count then some count.log2 else none

def tableLength (work : WorkFactor) : Nat :=
  128 * work.r.toNat * 2 ^ work.logN.toNat

/-- Whether a cost is well formed: no parameter is zero, lengths fit 64 bits, and
the standard's limits hold. -/
def isUsable (work : WorkFactor) : Bool :=
  let r := work.r.toNat
  let p := work.p.toNat
  let logN := work.logN.toNat
  0 < r && 0 < p && logN < 64 && work.tableLength < 2 ^ 64 && 128 * r * p < 2 ^ 64 &&
    logN < 16 * r && r * p ≤ 0x3fffffff

/-- No buffer is longer: lengths are signed. -/
def maxBuffer : Nat := 2 ^ 63 - 1

/-- The buffers of a derivation in the order it asks for them: the lanes, the table and one row of it. -/
def buffers (work : WorkFactor) : List Nat :=
  [128 * work.r.toNat * work.p.toNat, work.tableLength, 128 * work.r.toNat]

/-- The key of a password and a salt, where all memory that is asked for is granted. A table that is
longer than any buffer fails the derivation. -/
def deriveKey (work : WorkFactor) (password : String) (salt : Bytes) : Except Failure Key :=
  if !work.isUsable then .error (.crypto "Invalid scrypt params: invalid scrypt parameters")
  else if maxBuffer < work.tableLength then .error (.internal "Background task failed: capacity overflow")
  else
    .ok (Sized.fit 32 (Cipher.Scrypt.derive (Text.utf8 password) salt (2 ^ work.logN.toNat)
      work.r.toNat work.p.toNat 32))

def seconds (nanoseconds : Nat) : Float :=
  (UInt64.ofNat (nanoseconds / 10 ^ 9)).toFloat + (UInt64.ofNat (nanoseconds % 10 ^ 9)).toFloat / 1e9

/-- The cost that is expected to take a target time, from the time of one run.
Durations are in nanoseconds. A time from which no cost follows is refused. -/
def extrapolate (elapsed benchmark target : Nat) : Except Failure Nat :=
  let perEntry := seconds elapsed / ((1 : UInt64) <<< UInt64.ofNat benchmark).toFloat
  let entries := seconds target / perEntry
  if !entries.isFinite || entries <= 0 then
    .error (.crypto ("Cannot extrapolate scrypt cost (benchmark took " ++ Text.duration elapsed ++ ")"))
  else
    .ok (max minLogN (min maxLogN entries.log2.floor.toUInt64.toNat))

end WorkFactor

/-- The memory that a machine grants a program: whether a buffer of so many bytes can be had. -/
abbrev Memory := Nat → Bool

namespace Memory

/-- A program has addresses of 47 bits at most. -/
def addressSpace : Memory := fun length => length < 2 ^ 47

/-- Whether one of some buffers is refused when they are asked for one after another. A buffer that
is longer than any can be is not asked for, nor are those behind it. -/
def refuses (memory : Memory) : List Nat → Bool
  | [] => false
  | length :: rest => length ≤ WorkFactor.maxBuffer && (!memory length || refuses memory rest)

/-- Whether a derivation ends the program, as it does when a buffer is refused. -/
def isExhaustedBy (memory : Memory) (work : WorkFactor) : Bool :=
  work.isUsable && memory.refuses work.buffers

end Memory

/-- The key of deprecated records: half a digest of the low bytes of the
password's units of sixteen bits. -/
def deprecatedKey (password : String) : Key :=
  Sized.fit 32 (Cipher.Sha512.digest ((Text.units password).map UInt8.ofNat))

end RelayClient
