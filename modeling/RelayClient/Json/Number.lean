import RelayClient.Powers

/-!
# Numbers in JSON

A number without point and exponent that fits 64 bits is whole. Any other is the
double-width number of its leading digits times or divided by one power of ten:
digits count as leading while they fit 64 bits, later whole digits raise the
power, and later digits after the point are dropped. A number that would be
infinite is refused.
-/

namespace RelayClient.Json

/-- A number that was read: whole and not negative, whole and negative, or the
bits of a double-width number. -/
inductive Number where
  | natural (value : Nat)
  | negative (size : Nat)
  | real (bits : UInt64)
  deriving DecidableEq, Inhabited

namespace Number

def digitValue (c : Char) : Nat := c.toNat - 48

/-- Whether a digit still fits behind leading digits. -/
def fits (leading : Nat) (digit : Char) : Bool :=
  10 * leading + digitValue digit < 2 ^ 64

/-- Takes whole digits while they fit; the count of later ones is the power. -/
def takeWhole (leading : Nat) : List Char → Nat × Nat
  | [] => (leading, 0)
  | digit :: rest =>
      if fits leading digit then takeWhole (10 * leading + digitValue digit) rest
      else (leading, rest.length + 1)

/-- Takes digits after the point while they fit, each lowering the power. -/
def takeFraction (leading : Nat) (power : Int) : List Char → Nat × Int
  | [] => (leading, power)
  | digit :: rest =>
      if fits leading digit then takeFraction (10 * leading + digitValue digit) (power - 1) rest
      else (leading, power)

/-- The largest exponent of 32 bits. -/
def maxExponent : Nat := 2 ^ 31 - 1

/-- Moves a value by a power of ten, in steps of at most 308; `none` when it would be infinite. -/
def scale : (fuel : Nat) → Float → Int → Option Float
  | 0, value, _ => some value
  | fuel + 1, value, power =>
      if power.natAbs ≤ 308 then
        if 0 ≤ power then
          let result := value * Float.ofScientific 1 false power.natAbs
          if result.isInf then none else some result
        else some (value / Float.ofScientific 1 false power.natAbs)
      else if value == 0 then some value
      else if 0 ≤ power then none
      else scale fuel (value / Float.ofScientific 1 false 308) (power + 308)

def signed (negative : Bool) (value : Float) : Number :=
  .real (if negative then (-value).toBits else value.toBits)

/-- The number of leading digits and a power of ten. -/
def ofParts? (negative : Bool) (leading : Nat) (power : Int) : Option Number :=
  (scale 8 (UInt64.ofNat leading).toFloat power).map (signed negative)

/-- The whole number of a sign and digits, if it fits 64 bits with its sign. -/
def ofWhole (negative : Bool) (value : Nat) : Number :=
  if !negative then .natural value
  else if 1 ≤ value ∧ value ≤ 2 ^ 63 then .negative value
  else signed true (UInt64.ofNat value).toFloat

/-- The parts of a literal: sign, whole digits, digits after the point, and exponent. -/
structure Literal where
  negative : Bool
  whole : List Char
  fraction : List Char
  exponent : Option (Bool × List Char)

/-- Splits a literal at its marks. -/
def Literal.ofChars (literal : List Char) : Literal :=
  let negative := literal.head? == some '-'
  let body := if negative then literal.drop 1 else literal
  let whole := body.takeWhile Char.isDigit
  let rest := body.dropWhile Char.isDigit
  let pointed := rest.head? == some '.'
  let afterPoint := if pointed then rest.drop 1 else rest
  let fraction := if pointed then afterPoint.takeWhile Char.isDigit else []
  let tail := if pointed then afterPoint.dropWhile Char.isDigit else rest
  match tail with
  | [] => ⟨negative, whole, fraction, none⟩
  | _ :: '-' :: digits => ⟨negative, whole, fraction, some (true, digits)⟩
  | _ :: '+' :: digits => ⟨negative, whole, fraction, some (false, digits)⟩
  | _ :: digits => ⟨negative, whole, fraction, some (false, digits)⟩

def ofDigits (digits : List Char) : Nat :=
  digits.foldl (fun value digit => 10 * value + digitValue digit) 0

def ofLiteral? (literal : List Char) : Option Number :=
  let parts := Literal.ofChars literal
  let whole := takeWhole 0 parts.whole
  let leading := takeFraction whole.1 whole.2 parts.fraction
  match parts.exponent with
  | none =>
      if parts.fraction.isEmpty then
        if whole.2 = 0 then some (ofWhole parts.negative whole.1)
        else ofParts? parts.negative whole.1 whole.2
      else ofParts? parts.negative leading.1 leading.2
  | some (down, digits) =>
      let size := ofDigits digits
      if maxExponent < size then
        if leading.1 ≠ 0 ∧ !down then none else some (signed parts.negative 0)
      else ofParts? parts.negative leading.1 (if down then leading.2 - size else leading.2 + size)

/-- The number as a natural number, when it is whole and not negative. -/
def nat? : Number → Option Nat
  | .natural value => some value
  | _ => none

/-- The number in double width. -/
def toFloat : Number → Float
  | .natural value => (UInt64.ofNat value).toFloat
  | .negative size => -(UInt64.ofNat size).toFloat
  | .real bits => Float.ofBits bits

end Number

end RelayClient.Json
