import RelayClient.Pack.Value
import RelayClient.Text.Quoted
import RelayClient.Decimal.Layout

/-!
# Packed values for people

The text of a value: lists in brackets, maps in braces, text in quotes, bytes
as lists of numbers and numbers written out.
-/

namespace RelayClient.Pack.Value

/-- Bytes as a list of numbers. -/
def displayBytes (bytes : Bytes) : String :=
  "[" ++ String.intercalate ", " (bytes.map fun byte => toString byte.toNat) ++ "]"

mutual

def display : Value → String
  | .nil => "nil"
  | .bool flag => if flag then "true" else "false"
  | .int number => toString number.value
  | .single bits => Decimal.plainLayout.render (.ofSingle bits)
  | .double bits => Decimal.plainLayout.render (.ofDouble bits)
  | .text content => Text.quoted content
  | .brokenText bytes => displayBytes bytes
  | .binary bytes => displayBytes bytes
  | .list items => "[" ++ String.intercalate ", " (displayItems items) ++ "]"
  | .map entries => "\x7b" ++ String.intercalate ", " (displayEntries entries) ++ "\x7d"
  | .ext tag bytes => "[" ++ toString tag.toInt ++ ", " ++ displayBytes bytes ++ "]"

def displayItems : List Value → List String
  | [] => []
  | item :: rest => display item :: displayItems rest

def displayEntries : List (Value × Value) → List String
  | [] => []
  | (key, value) :: rest => (display key ++ ": " ++ display value) :: displayEntries rest

end

end RelayClient.Pack.Value
