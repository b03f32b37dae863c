/-!
# Ranges of characters

A class of characters is a list of ranges of their numbers, in ascending order.
-/

namespace RelayClient.Text

/-- Whether a number lies in one of the ascending ranges. -/
def inRanges (value : Nat) : List (Nat × Nat) → Bool
  | [] => false
  | (first, last) :: rest => first ≤ value && (value ≤ last || inRanges value rest)

end RelayClient.Text
