import RelayClient.Decimal.Shortest

/-!
# Layout of decimals

How the digits of a number are laid out: positionally, or with an exponent
outside a range of magnitudes.
-/

namespace RelayClient.Decimal

/-- The decisions of a number format. -/
structure Layout where
  /-- Which of two equally near decimals is written. -/
  tie : Tie
  /-- The exponents of the leading digit that are written positionally, if not all are. -/
  positional : Option (Int × Int)
  /-- Whether a whole number keeps a point and a zero. -/
  wholeMark : String
  /-- The texts of no number and of infinity. -/
  nan : String
  infinity : String

/-- Every magnitude is written out, whole numbers have no point, and a tie goes
away from zero. -/
def plainLayout : Layout := ⟨.away, none, "", "NaN", "inf"⟩

/-- Sixteen whole digits and four leading zeros are written out, whole numbers
keep a zero after the point, and a tie goes to the even digit. -/
def exchangeLayout : Layout := ⟨.toEven, some (-5, 15), ".0", "null", "null"⟩

namespace Layout

/-- A power of ten with its sign. -/
def exponentText (power : Int) : String :=
  (if power < 0 then "-" else "+") ++ toString power.natAbs

/-- The digits of a positive number, laid out. -/
def digits (layout : Layout) (number : Digits) : String :=
  let text := Nat.toDigits 10 number.value
  let lead : Int := number.power + text.length - 1
  let within := match layout.positional with
    | none => true
    | some (low, high) => low ≤ lead && lead ≤ high
  if !within then
    String.ofList (text.take 1) ++ (if text.length = 1 then "" else "." ++ String.ofList (text.drop 1))
      ++ "e" ++ exponentText lead
  else if 0 ≤ number.power then
    String.ofList (text ++ List.replicate number.power.toNat '0') ++ layout.wholeMark
  else if 0 ≤ lead then
    String.ofList (text.take (lead.toNat + 1)) ++ "." ++ String.ofList (text.drop (lead.toNat + 1))
  else
    "0." ++ String.ofList (List.replicate (-lead - 1).toNat '0' ++ text)

def signed (negative : Bool) (text : String) : String :=
  if negative then "-" ++ text else text

/-- The text of a floating-point number. -/
def render (layout : Layout) : Reading → String
  | .nan => layout.nan
  | .infinite negative => signed negative layout.infinity
  | .zero negative => signed negative ("0" ++ layout.wholeMark)
  | .finite negative magnitude => signed negative (layout.digits (magnitude.shortest layout.tie))

end Layout

end RelayClient.Decimal
