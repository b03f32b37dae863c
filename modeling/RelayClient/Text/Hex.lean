import RelayClient.Bytes
import RelayClient.Text.Quoted

/-!
# Hexadecimal text

Two digits spell a byte, the high half first. Writing uses lower case; reading
takes either case and reports the first thing wrong: an odd count of digits
before any digit is looked at, then the first character that is no digit, with
its position.
-/

namespace RelayClient.Text.Hex

/-- The lower-case digit of a number below sixteen. -/
def digit (value : UInt8) : Char :=
  if value < 10 then Char.ofNat (48 + value.toNat) else Char.ofNat (87 + value.toNat)

/-- The value of a hexadecimal digit of either case. -/
def digitValue? (c : Char) : Option UInt8 :=
  if '0' ≤ c ∧ c ≤ '9' then some (UInt8.ofNat (c.toNat - 48))
  else if 'a' ≤ c ∧ c ≤ 'f' then some (UInt8.ofNat (c.toNat - 87))
  else if 'A' ≤ c ∧ c ≤ 'F' then some (UInt8.ofNat (c.toNat - 55))
  else none

def digits : Bytes → List Char
  | [] => []
  | byte :: rest => digit (byte >>> 4) :: digit (byte &&& 15) :: digits rest

/-- A byte string as lower-case hexadecimal text. -/
def encode (bytes : Bytes) : String :=
  String.ofList (digits bytes)

/-- Why a text spells no byte string. -/
inductive Problem where
  /-- The text has an odd count of bytes. -/
  | oddLength
  /-- A byte that is no digit, taken as a character, and its position. -/
  | badDigit (found : Char) (position : Nat)
  deriving DecidableEq

/-- The text shown for a problem. -/
def Problem.message : Problem → String
  | .oddLength => "Odd number of digits"
  | .badDigit found position =>
      "Invalid character " ++ quotedChar found ++ " at position " ++ toString position

/-- Reads digit pairs; `position` is that of the first character given. -/
def ofDigits (position : Nat) : List Char → Except Problem Bytes
  | [] => .ok []
  | [_] => .error .oddLength
  | high :: low :: rest =>
      match digitValue? high, digitValue? low with
      | none, _ => .error (.badDigit high position)
      | some _, none => .error (.badDigit low (position + 1))
      | some upper, some lower =>
          match ofDigits (position + 2) rest with
          | .ok bytes => .ok ((upper <<< 4 ||| lower) :: bytes)
          | .error problem => .error problem

/-- The byte string a text spells. The text is taken byte by byte, so a
character outside ASCII counts as its several bytes. -/
def decode (text : String) : Except Problem Bytes :=
  let units := text.toUTF8.data.toList.map fun byte => Char.ofNat byte.toNat
  if units.length % 2 = 0 then ofDigits 0 units else .error .oddLength

/-- The byte string a text spells, with no word on what is wrong. -/
def decode? (text : String) : Option Bytes :=
  (decode text).toOption

/-- A number as exactly `count` lower-case digits. -/
def ofNat (count value : Nat) : String :=
  String.ofList ((List.range count).map fun place =>
    digit (UInt8.ofNat (value / 16 ^ (count - 1 - place) % 16)))

end RelayClient.Text.Hex
