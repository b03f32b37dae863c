import RelayClient.Dictionary
import RelayClient.Json.Syntax

/-!
# Maps from text to text

A map from text to text is written as one object over several lines, in key
order. Reading accepts any object whose values are strings; the last value of a
repeated key stays.
-/

namespace RelayClient.Json

def textLine (entry : String × String) : List Char :=
  '\n' :: ' ' :: ' ' :: quote entry.1 ++ ':' :: ' ' :: quote entry.2

/-- Lines with a comma between them. -/
def textLines : List (String × String) → List Char
  | [] => []
  | [entry] => textLine entry
  | entry :: rest => textLine entry ++ ',' :: textLines rest

def textMapChars (map : Dictionary String) : List Char :=
  if map.isEmpty then ['\x7b', '\x7d']
  else '\x7b' :: textLines map.entries ++ ['\n', '\x7d']

def writeTextMap (map : Dictionary String) : String :=
  String.ofList (textMapChars map)

/-- The text of a key and of its value. -/
def textEntry? (entry : List Piece × Tree) : Option (String × String) :=
  match text? entry.1, entry.2 with
  | some key, .string pieces => (text? pieces).map fun value => (key, value)
  | _, _ => none

def readTextMap? (text : String) : Option (Dictionary String) :=
  match Tree.parse? text with
  | some (.object entries) => (entries.mapM textEntry?).map Dictionary.ofList
  | _ => none

end RelayClient.Json
