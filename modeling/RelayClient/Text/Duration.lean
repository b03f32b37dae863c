import RelayClient.Powers

/-!
# Durations as text

A duration is shown in the largest of seconds, milliseconds, microseconds and
nanoseconds that it reaches, with as many decimals as it has.
-/

namespace RelayClient.Text

/-- A whole part and a part of `unit`, without zeros at the end. -/
def withFraction (whole part unit : Nat) : String :=
  if part = 0 then toString whole
  else
    let digits := (Nat.toDigits 10 (unit + part)).drop 1
    toString whole ++ "." ++ String.ofList (digits.reverse.dropWhile (· = '0')).reverse

def duration (nanoseconds : Nat) : String :=
  let show_ := fun (unit : Nat) (name : String) =>
    withFraction (nanoseconds / unit) (nanoseconds % unit) unit ++ name
  if 10 ^ 9 ≤ nanoseconds then show_ (10 ^ 9) "s"
  else if 10 ^ 6 ≤ nanoseconds then show_ (10 ^ 6) "ms"
  else if 10 ^ 3 ≤ nanoseconds then show_ (10 ^ 3) "µs"
  else toString nanoseconds ++ "ns"

end RelayClient.Text
