import RelayClient.Powers

/-!
# Shortest decimals

A floating-point number stands for an interval of reals: those that round to
it. Its shortest decimal has the fewest digits of all decimals in the interval,
and lies nearest to the number among those. Where two lie equally near, the
format that asks decides. All arithmetic is on naturals.
-/

namespace RelayClient.Decimal

/-- Which of two neighbours on a grid is taken when a number lies halfway between them. -/
inductive Tie where
  /-- The one with an even last digit. -/
  | toEven
  /-- The one with the greater magnitude. -/
  | away
  deriving DecidableEq

/-- The neighbour taken halfway above `floor`. -/
def Tie.pick (tie : Tie) (floor : Nat) : Nat :=
  match tie with
  | .toEven => if floor % 2 = 0 then floor else floor + 1
  | .away => floor + 1

/-- A finite positive floating-point number, `mantissa * 2 ^ exponent`. -/
structure Binary where
  mantissa : Nat
  exponent : Int
  /-- The gap below is half the gap above. -/
  narrowBelow : Bool

/-- A sign and a magnitude, or no number at all. -/
inductive Reading where
  | nan
  | infinite (negative : Bool)
  | zero (negative : Bool)
  | finite (negative : Bool) (magnitude : Binary)

/-- Reads the bits of a floating-point number with the given field widths. -/
def Reading.ofBits (fractionBits exponentBits bits : Nat) : Reading :=
  let fraction := bits % 2 ^ fractionBits
  let power := bits / 2 ^ fractionBits % 2 ^ exponentBits
  let negative := bits / 2 ^ (fractionBits + exponentBits) % 2 == 1
  let bias : Int := 2 ^ (exponentBits - 1) - 1 + fractionBits
  if power = 2 ^ exponentBits - 1 then
    if fraction = 0 then .infinite negative else .nan
  else if power = 0 then
    if fraction = 0 then .zero negative
    else .finite negative ⟨fraction, 1 - bias, false⟩
  else
    .finite negative ⟨fraction + 2 ^ fractionBits, power - bias, fraction == 0 && power > 1⟩

def Reading.ofDouble (bits : UInt64) : Reading :=
  .ofBits 52 11 bits.toNat

def Reading.ofSingle (bits : UInt32) : Reading :=
  .ofBits 23 8 bits.toNat

/-- A positive fraction of naturals. -/
structure Ratio where
  numerator : Nat
  denominator : Nat

/-- `value * base ^ power`, for a power of either sign. -/
def Ratio.scaled (value base : Nat) (power : Int) : Ratio :=
  if 0 ≤ power then ⟨value * base ^ power.toNat, 1⟩ else ⟨value, base ^ (-power).toNat⟩

def Ratio.less (first second : Ratio) : Bool :=
  first.numerator * second.denominator < second.numerator * first.denominator

/-- The digits of a decimal and the power of ten of the last one. -/
structure Digits where
  value : Nat
  power : Int

namespace Binary

def ratio (number : Binary) : Ratio :=
  .scaled number.mantissa 2 number.exponent

/-- The lower end of the interval of reals that round to a number. -/
def lowEnd (number : Binary) : Ratio :=
  if number.narrowBelow then .scaled (4 * number.mantissa - 1) 2 (number.exponent - 2)
  else .scaled (2 * number.mantissa - 1) 2 (number.exponent - 1)

/-- The upper end of the interval of reals that round to a number. -/
def highEnd (number : Binary) : Ratio :=
  .scaled (2 * number.mantissa + 1) 2 (number.exponent - 1)

/-- Whether a decimal rounds to a number. The ends belong to an even mantissa. -/
def readsBack (number : Binary) (digits : Digits) : Bool :=
  let decimal := Ratio.scaled digits.value 10 digits.power
  if number.mantissa % 2 = 0 then
    !decimal.less number.lowEnd && !number.highEnd.less decimal
  else
    number.lowEnd.less decimal && decimal.less number.highEnd

/-- The least power of ten above a ratio. -/
def scale (ratio : Ratio) : Int :=
  let whole := ratio.numerator / ratio.denominator
  if whole = 0 then
    match (List.range 400).find? fun power => ratio.denominator ≤ ratio.numerator * 10 ^ power with
    | some power => 1 - power
    | none => 0
  else (Nat.toDigits 10 whole).length

/-- The decimal with a given last power of ten that rounds to a number, the
nearer one of two. -/
def onGrid (tie : Tie) (number : Binary) (power : Int) : Option Digits :=
  let grid := Ratio.scaled 1 10 power
  let exact := number.ratio
  let above := exact.numerator * grid.denominator
  let below := exact.denominator * grid.numerator
  let floor := above / below
  let low := number.readsBack ⟨floor, power⟩
  let high := number.readsBack ⟨floor + 1, power⟩
  if low && high then
    let middle := (2 * floor + 1) * below
    if 2 * above < middle then some ⟨floor, power⟩
    else if middle < 2 * above then some ⟨floor + 1, power⟩
    else some ⟨tie.pick floor, power⟩
  else if low then some ⟨floor, power⟩
  else if high then some ⟨floor + 1, power⟩
  else none

/-- Moves trailing zeros of the digits into the power. -/
def strip : (fuel : Nat) → Digits → Digits
  | 0, digits => digits
  | fuel + 1, digits =>
      if digits.value ≠ 0 ∧ digits.value % 10 = 0 then strip fuel ⟨digits.value / 10, digits.power + 1⟩
      else digits

def shortest (tie : Tie) (number : Binary) : Digits :=
  let top := scale number.ratio
  match (List.range 17).findSome? fun (count : Nat) => number.onGrid tie (top - (count + 1)) with
  | some digits => strip 20 digits
  | none => ⟨number.mantissa, number.exponent⟩

end Binary

end RelayClient.Decimal
