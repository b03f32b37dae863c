import RelayClient.Text.Utf8

/-!
# Packed values

The values a packed frame carries: nil, booleans, integers of 64 bits of either
sign, floating-point numbers of two widths as their bits, text, binary, lists,
maps with their entries in written order, and tagged extensions. Text that is
not UTF-8 keeps its bytes and is no text to any reader of text. The module also
has the comparison that frames use, in which numbers of the two widths differ,
a number that is not a number differs from itself, and both zeros agree.
-/

namespace RelayClient.Pack

/-- An integer that fits 64 bits, signed or unsigned. -/
structure Integer where
  value : Int
  lower : -(2 ^ 63) ≤ value
  upper : value < 2 ^ 64
  deriving DecidableEq

namespace Integer

/-- The integer of a natural number below 2 to the 64th. -/
def ofNat (n : Nat) (small : n < 2 ^ 64) : Integer :=
  ⟨n, by omega, by omega⟩

/-- The integer nearest to a number. -/
def clamp (n : Int) : Integer :=
  if below : n < -(2 ^ 63) then ⟨-(2 ^ 63), by decide, by decide⟩
  else if above : 2 ^ 64 ≤ n then ⟨2 ^ 64 - 1, by decide, by decide⟩
  else ⟨n, by omega, by omega⟩

/-- The integer of a number in range. -/
def ofInt? (n : Int) : Option Integer :=
  if fits : -(2 ^ 63) ≤ n ∧ n < 2 ^ 64 then some ⟨n, fits.1, fits.2⟩ else none

instance : Inhabited Integer := ⟨ofNat 0 (by decide)⟩

end Integer

inductive Value where
  | nil
  | bool (flag : Bool)
  | int (number : Integer)
  | single (bits : UInt32)
  | double (bits : UInt64)
  | text (content : String)
  | brokenText (bytes : Bytes)
  | binary (bytes : Bytes)
  | list (items : List Value)
  | map (entries : List (Value × Value))
  | ext (tag : Int8) (bytes : Bytes)
  deriving Inhabited

namespace Value

/-- The value of a natural number below 2 to the 32nd. -/
def ofUInt32 (n : UInt32) : Value :=
  .int (.ofNat n.toNat (Nat.lt_trans n.toNat_lt (by decide)))

/-- The text of bytes that were written as text. -/
def ofTextBytes (bytes : Bytes) : Value :=
  match Text.ofUtf8? bytes with
  | some content => .text content
  | none => .brokenText bytes

def text? : Value → Option String
  | .text content => some content
  | _ => none

def bool? : Value → Option Bool
  | .bool flag => some flag
  | _ => none

def list? : Value → Option (List Value)
  | .list items => some items
  | _ => none

def map? : Value → Option (List (Value × Value))
  | .map entries => some entries
  | _ => none

/-- The natural number of an integer that is not negative. -/
def nat? : Value → Option Nat
  | .int number => if 0 ≤ number.value then some number.value.toNat else none
  | _ => none

/-- The value under a text key, the first if the key is repeated. -/
def firstUnder? (key : String) : List (Value × Value) → Option Value
  | [] => none
  | (name, value) :: rest => if name.text? = some key then some value else firstUnder? key rest

/-- The first value under a text key of a map. -/
def get? (value : Value) (key : String) : Option Value :=
  value.map?.bind (firstUnder? key)

/-- A map with text keys. -/
def record (fields : List (String × Value)) : Value :=
  .map (fields.map fun field => (.text field.1, field.2))

end Value

/-- Whether the bits of a single-width number stand for no number. -/
def singleIsNaN (bits : UInt32) : Bool :=
  0x7f800000 < (bits &&& 0x7fffffff)

/-- Whether the bits of a double-width number stand for no number. -/
def doubleIsNaN (bits : UInt64) : Bool :=
  0x7ff0000000000000 < (bits &&& 0x7fffffffffffffff)

/-- Equality of single-width numbers: no NaN equals anything, and zero has two signs. -/
def singleSame (first second : UInt32) : Bool :=
  !singleIsNaN first && (first == second || (first &&& 0x7fffffff) == 0 && (second &&& 0x7fffffff) == 0)

/-- Equality of double-width numbers: no NaN equals anything, and zero has two signs. -/
def doubleSame (first second : UInt64) : Bool :=
  !doubleIsNaN first &&
    (first == second || (first &&& 0x7fffffffffffffff) == 0 && (second &&& 0x7fffffffffffffff) == 0)

namespace Value

mutual

/-- Equality of values as frames compare them. -/
def same : Value → Value → Bool
  | .nil, .nil => true
  | .bool first, .bool second => first == second
  | .int first, .int second => first == second
  | .single first, .single second => singleSame first second
  | .double first, .double second => doubleSame first second
  | .text first, .text second => first == second
  | .brokenText first, .brokenText second => first == second
  | .binary first, .binary second => first == second
  | .list first, .list second => sameItems first second
  | .map first, .map second => sameEntries first second
  | .ext tag first, .ext other second => tag == other && first == second
  | _, _ => false

def sameItems : List Value → List Value → Bool
  | [], [] => true
  | first :: rest, second :: others => same first second && sameItems rest others
  | _, _ => false

def sameEntries : List (Value × Value) → List (Value × Value) → Bool
  | [], [] => true
  | (key, value) :: rest, (name, content) :: others =>
      same key name && same value content && sameEntries rest others
  | _, _ => false

end

end Value

end RelayClient.Pack
