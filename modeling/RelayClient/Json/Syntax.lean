import RelayClient.Text.Units

/-!
# The grammar of JSON

A text is read to a tree that keeps numbers as their characters and strings as
their characters and escaped units, so that each reader of the tree decides
which of them it accepts. The writer of strings is here as well.
-/

namespace RelayClient.Json

/-- A piece of a string: a character, or an escaped unit of sixteen bits. -/
inductive Piece where
  | char (c : Char)
  | unit (value : Nat)

/-- A tree in the grammar of JSON. -/
inductive Tree where
  | null
  | bool (flag : Bool)
  | number (literal : List Char)
  | string (pieces : List Piece)
  | array (items : List Tree)
  | object (entries : List (List Piece × Tree))
  deriving Inhabited

/-- The blanks that may stand between tokens. -/
def isSpace (c : Char) : Bool :=
  c == ' ' || c == '\n' || c == '\t' || c == '\r'

def skipSpace (input : List Char) : List Char :=
  input.dropWhile isSpace

def hexValue? (c : Char) : Option Nat :=
  if '0' ≤ c ∧ c ≤ '9' then some (c.toNat - 48)
  else if 'a' ≤ c ∧ c ≤ 'f' then some (c.toNat - 87)
  else if 'A' ≤ c ∧ c ≤ 'F' then some (c.toNat - 55)
  else none

/-- Reads four hexadecimal digits. -/
def readUnit : List Char → Option (Nat × List Char)
  | a :: b :: c :: d :: rest =>
      match hexValue? a, hexValue? b, hexValue? c, hexValue? d with
      | some a, some b, some c, some d => some (4096 * a + 256 * b + 16 * c + d, rest)
      | _, _, _, _ => none
  | _ => none

def escapeChar? : Char → Option Char
  | '"' => some '"'
  | '\\' => some '\\'
  | '/' => some '/'
  | 'b' => some '\x08'
  | 'f' => some '\x0c'
  | 'n' => some '\n'
  | 'r' => some '\r'
  | 't' => some '\t'
  | _ => none

/-- Reads the pieces of a string up to its closing quote. -/
def readPieces : List Char → Option (List Piece × List Char)
  | [] => none
  | '"' :: rest => some ([], rest)
  | '\\' :: 'u' :: a :: b :: c :: d :: rest =>
      match readUnit [a, b, c, d] with
      | none => none
      | some (value, _) => (readPieces rest).map fun found => (.unit value :: found.1, found.2)
  | '\\' :: letter :: rest =>
      match escapeChar? letter with
      | none => none
      | some c => (readPieces rest).map fun found => (.char c :: found.1, found.2)
  | c :: rest =>
      if c.toNat < 32 ∨ c = '\\' then none
      else (readPieces rest).map fun found => (.char c :: found.1, found.2)

def takeDigits (input : List Char) : List Char × List Char :=
  (input.takeWhile Char.isDigit, input.dropWhile Char.isDigit)

/-- Reads the digits of a whole number, which has no leading zero. -/
def readWhole (input : List Char) : Option (List Char × List Char) :=
  match takeDigits input with
  | ([], _) => none
  | (['0'], rest) => some (['0'], rest)
  | ('0' :: _, _) => none
  | (digits, rest) => some (digits, rest)

/-- Reads a point and digits, when there is a point. -/
def readFraction : List Char → Option (List Char × List Char)
  | '.' :: rest =>
      match takeDigits rest with
      | ([], _) => none
      | (digits, remaining) => some ('.' :: digits, remaining)
  | input => some ([], input)

def readSign : List Char → List Char × List Char
  | '+' :: rest => (['+'], rest)
  | '-' :: rest => (['-'], rest)
  | input => ([], input)

def readExponent : List Char → Option (List Char × List Char)
  | [] => some ([], [])
  | mark :: rest =>
      if mark = 'e' ∨ mark = 'E' then
        let signed := readSign rest
        match takeDigits signed.2 with
        | ([], _) => none
        | (digits, remaining) => some (mark :: signed.1 ++ digits, remaining)
      else some ([], mark :: rest)

def readNumber (input : List Char) : Option (List Char × List Char) :=
  match readWhole input with
  | none => none
  | some (whole, rest) =>
      match readFraction rest with
      | none => none
      | some (fraction, rest) =>
          match readExponent rest with
          | none => none
          | some (exponent, rest) => some (whole ++ fraction ++ exponent, rest)

/-- Reads the items of an array after its opening bracket, with a reader of one. -/
def readItems (one : List Char → Option (Tree × List Char)) :
    (fuel : Nat) → List Char → Option (List Tree × List Char)
  | 0, _ => none
  | fuel + 1, input =>
      match one input with
      | none => none
      | some (first, rest) =>
          match skipSpace rest with
          | ']' :: rest => some ([first], rest)
          | ',' :: rest => (readItems one fuel rest).map fun found => (first :: found.1, found.2)
          | _ => none

/-- Reads a key, a colon and a value. -/
def readEntry (one : List Char → Option (Tree × List Char)) (input : List Char) :
    Option ((List Piece × Tree) × List Char) :=
  match skipSpace input with
  | '"' :: rest =>
      match readPieces rest with
      | none => none
      | some (key, rest) =>
          match skipSpace rest with
          | ':' :: rest => (one rest).map fun found => ((key, found.1), found.2)
          | _ => none
  | _ => none

/-- Reads the entries of an object after its opening brace, with a reader of values. -/
def readEntries (one : List Char → Option (Tree × List Char)) :
    (fuel : Nat) → List Char → Option (List (List Piece × Tree) × List Char)
  | 0, _ => none
  | fuel + 1, input =>
      match readEntry one input with
      | none => none
      | some (first, rest) =>
          match skipSpace rest with
          | '\x7d' :: rest => some ([first], rest)
          | ',' :: rest => (readEntries one fuel rest).map fun found => (first :: found.1, found.2)
          | _ => none

namespace Tree

/-- Reads a value that starts with a given character. -/
def readFrom (one : List Char → Option (Tree × List Char)) (fuel : Nat) :
    List Char → Option (Tree × List Char)
  | 'n' :: 'u' :: 'l' :: 'l' :: rest => some (.null, rest)
  | 't' :: 'r' :: 'u' :: 'e' :: rest => some (.bool true, rest)
  | 'f' :: 'a' :: 'l' :: 's' :: 'e' :: rest => some (.bool false, rest)
  | '"' :: rest => (readPieces rest).map fun found => (.string found.1, found.2)
  | '-' :: rest => (readNumber rest).map fun found => (.number ('-' :: found.1), found.2)
  | '[' :: rest =>
      match skipSpace rest with
      | ']' :: rest => some (.array [], rest)
      | rest => (readItems one fuel rest).map fun found => (.array found.1, found.2)
  | '\x7b' :: rest =>
      match skipSpace rest with
      | '\x7d' :: rest => some (.object [], rest)
      | rest => (readEntries one fuel rest).map fun found => (.object found.1, found.2)
  | input => (readNumber input).map fun found => (.number found.1, found.2)

/-- Reads a value at the start of an input. -/
def read : (fuel : Nat) → List Char → Option (Tree × List Char)
  | 0, _ => none
  | fuel + 1, input => readFrom (read fuel) (fuel + 1) (skipSpace input)

/-- The tree of a whole text. Each level of a tree takes a character, so the
length of the text bounds the recursion. -/
def parse? (text : String) : Option Tree :=
  match read (text.toList.length + 1) text.toList with
  | some (tree, rest) => if (skipSpace rest).isEmpty then some tree else none
  | none => none

end Tree

/-- The text of the pieces of a string; a surrogate must stand in a pair. -/
def piecesText? : List Piece → Option (List Char)
  | [] => some []
  | .char c :: rest => (piecesText? rest).map (c :: ·)
  | .unit high :: rest =>
      if Text.isHighSurrogate high then
        match rest with
        | .unit low :: rest =>
            if Text.isLowSurrogate low then (piecesText? rest).map (Text.joinSurrogates high low :: ·)
            else none
        | _ => none
      else if Text.isLowSurrogate high then none
      else (piecesText? rest).map (Char.ofNat high :: ·)

def text? (pieces : List Piece) : Option String :=
  (piecesText? pieces).map String.ofList

/-- The lower-case hexadecimal digit of a number below sixteen. -/
def hexDigit (value : Nat) : Char :=
  if value < 10 then Char.ofNat (48 + value) else Char.ofNat (87 + value)

def escape (c : Char) : List Char :=
  if c = '"' then ['\\', '"']
  else if c = '\\' then ['\\', '\\']
  else if c = '\x08' then ['\\', 'b']
  else if c = '\x0c' then ['\\', 'f']
  else if c = '\n' then ['\\', 'n']
  else if c = '\r' then ['\\', 'r']
  else if c = '\t' then ['\\', 't']
  else if c.toNat < 32 then ['\\', 'u', '0', '0', hexDigit (c.toNat / 16), hexDigit (c.toNat % 16)]
  else [c]

def quote (text : String) : List Char :=
  '"' :: text.toList.flatMap escape ++ ['"']

def quoted (text : String) : String :=
  String.ofList (quote text)

end RelayClient.Json
