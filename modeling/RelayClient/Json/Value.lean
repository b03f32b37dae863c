import RelayClient.Dictionary
import RelayClient.Decimal.Layout
import RelayClient.Json.Number
import RelayClient.Json.Syntax

/-!
# JSON values

A tree is a value when its strings are text, its numbers are finite and it is
not nested too deeply. Of a repeated key the last entry stays, and entries are
kept in key order. Values are written without blanks.
-/

namespace RelayClient

/-- A JSON value, with the entries of objects in key order. -/
inductive JsonValue where
  | null
  | bool (flag : Bool)
  | number (value : Json.Number)
  | string (text : String)
  | array (items : List JsonValue)
  | object (entries : List (String × JsonValue))
  deriving Inhabited

def Json.Number.render : Json.Number → String
  | .natural value => toString value
  | .negative size => "-" ++ toString size
  | .real bits => Decimal.exchangeLayout.render (.ofDouble bits)

open Json (Tree Piece Number text? quoted)

namespace JsonValue

/-- The levels of arrays and objects that are read. -/
def levelLimit : Nat := 127

mutual

/-- The value of a tree, within a count of levels. -/
def ofTree? (levels : Nat) : Tree → Option JsonValue
  | .null => some .null
  | .bool flag => some (.bool flag)
  | .number literal => (Number.ofLiteral? literal).map .number
  | .string pieces => (text? pieces).map .string
  | .array items =>
      match levels with
      | 0 => none
      | left + 1 => (ofTrees? left items).map .array
  | .object entries =>
      match levels with
      | 0 => none
      | left + 1 => (ofEntries? left [] entries).map .object

def ofTrees? (levels : Nat) : List Tree → Option (List JsonValue)
  | [] => some []
  | tree :: rest =>
      match ofTree? levels tree, ofTrees? levels rest with
      | some first, some others => some (first :: others)
      | _, _ => none

/-- The entries of trees, added to those before them. -/
def ofEntries? (levels : Nat) (before : List (String × JsonValue)) :
    List (List Piece × Tree) → Option (List (String × JsonValue))
  | [] => some before
  | (pieces, tree) :: rest =>
      match text? pieces, ofTree? levels tree with
      | some key, some value => ofEntries? levels (Dictionary.place key value before) rest
      | _, _ => none

end

def parse? (text : String) : Option JsonValue :=
  (Tree.parse? text).bind (ofTree? levelLimit)

def get? (json : JsonValue) (key : String) : Option JsonValue :=
  match json with
  | .object entries => Dictionary.find? key entries
  | _ => none

mutual

/-- The text of a value without blanks. -/
def compact : JsonValue → String
  | .null => "null"
  | .bool flag => if flag then "true" else "false"
  | .number value => value.render
  | .string text => quoted text
  | .array items => "[" ++ String.intercalate "," (compactItems items) ++ "]"
  | .object entries => "\x7b" ++ String.intercalate "," (compactEntries entries) ++ "\x7d"

def compactItems : List JsonValue → List String
  | [] => []
  | item :: rest => compact item :: compactItems rest

def compactEntries : List (String × JsonValue) → List String
  | [] => []
  | (key, value) :: rest => (quoted key ++ ":" ++ compact value) :: compactEntries rest

end

end JsonValue

end RelayClient
