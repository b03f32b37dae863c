import RelayClient.Dictionary
import RelayClient.Text.Alphanumeric
import RelayClient.Text.Blank

/-!
# Environment files

An environment file sets variables line by line. A value may be quoted, may
escape characters, and may name variables whose values it takes over. A quoted
value may go over several lines. The first line that cannot be read ends the
file; what stands before it holds. A file that sets what no variable can hold
gives no environment at all.
-/

namespace RelayClient.Settings.EnvironmentFile

/-- Where the reading of a line stands, as far as it decides whether the line goes on. -/
inductive LineState where
  | complete
  | blank
  | escape
  | strong
  | strongEscape
  | weak
  | weakEscape
  | comment
  deriving DecidableEq

namespace LineState

def next (state : LineState) (c : Char) : LineState :=
  match state with
  | .blank =>
      if c = '#' then .comment
      else if c = '\\' then .escape
      else if c = '"' then .weak
      else if c = '\'' then .strong
      else .complete
  | .escape => .complete
  | .complete =>
      if Text.isBlank c && c != '\n' && c != '\r' then .blank
      else if c = '\\' then .escape
      else if c = '"' then .weak
      else if c = '\'' then .strong
      else .complete
  | .weak => if c = '\\' then .weakEscape else if c = '"' then .complete else .weak
  | .weakEscape => .weak
  | .strong => if c = '\\' then .strongEscape else if c = '\'' then .complete else .strong
  | .strongEscape => .strong
  | .comment => .comment

/-- Takes the characters of a line up to a comment: the state after them, and what
stands before the comment. -/
def scan (state : LineState) : List Char → LineState × List Char
  | [] => (state, [])
  | c :: rest =>
      if state.next c = .comment then (.comment, [])
      else
        let result := scan (state.next c) rest
        (result.1, c :: result.2)

end LineState

def stripEnd (line : List Char) : List Char :=
  match line.reverse with
  | '\n' :: '\r' :: rest => rest.reverse
  | '\n' :: rest => rest.reverse
  | _ => line

/-- Splits a text behind each end mark. -/
def rawLines : (line : List Char) → List Char → List (List Char)
  | [], [] => []
  | line, [] => [line]
  | line, '\n' :: rest => (line ++ ['\n']) :: rawLines [] rest
  | line, c :: rest => rawLines (line ++ [c]) rest

/-- Joins raw lines to lines, as long as a quote, an escape or blanks stay open.
A text that ends inside a line gives `none` as its last line. -/
def joinLines (buffer : List Char) (state : LineState) : List (List Char) → List (Option (List Char))
  | [] => if state = .complete then [] else [none]
  | line :: rest =>
      let whole := buffer ++ line
      if (whole.dropWhile Text.isBlank).head? = some '#' then some [] :: joinLines [] .complete rest
      else
        match state.scan line with
        | (.complete, _) => some (stripEnd whole) :: joinLines [] .complete rest
        | (.comment, before) => some (buffer ++ before) :: joinLines [] .complete rest
        | (other, _) => joinLines whole other rest

/-- What follows a name and an equals sign in a line. -/
def behindName? (name line : List Char) : Option (List Char) :=
  if (name ++ ['=']).isPrefixOf line then some (line.drop (name.length + 1)) else none

/-- The value of a variable. An environment is lines of a name, an equals sign and a
value, and a name is looked up as what stands before an equals sign of a line, so
that it may hold one itself. The empty name has no value. -/
def valueOf? (environment : Dictionary String) (name : String) : Option String :=
  if name.isEmpty then none
  else
    environment.entries.findSome? fun entry =>
      (behindName? name.toList (entry.1 ++ "=" ++ entry.2).toList).map String.ofList

/-- How a name of a variable inside a value ends. -/
inductive Naming where
  | off
  /-- After a dollar sign: at the first character that is no letter or number. -/
  | bare
  | braced
  deriving DecidableEq

structure ValueState where
  output : List Char := []
  strong : Bool := false
  weak : Bool := false
  escaped : Bool := false
  ending : Bool := false
  done : Bool := false
  naming : Naming := .off
  name : List Char := []

/-- Puts the value of the variable that was named behind the output. -/
def ValueState.apply (lookup : String → String) (state : ValueState) : ValueState :=
  { state with
    output := state.output ++ (lookup (String.ofList state.name)).toList
    name := [] }

def ValueState.take (lookup : String → String) (state : ValueState) (c : Char) : Option ValueState :=
  if state.done then some state
  else if state.ending then
    if c = ' ' ∨ c = '\t' then some state
    else if c = '#' then some { state with done := true }
    else none
  else if state.escaped then
    if c = '\\' ∨ c = '\'' ∨ c = '"' ∨ c = '$' ∨ c = ' ' then
      some { state with output := state.output ++ [c], escaped := false }
    else if c = 'n' then some { state with output := state.output ++ ['\n'], escaped := false }
    else none
  else if state.strong then
    if c = '\'' then some { state with strong := false }
    else some { state with output := state.output ++ [c] }
  else
    match state.naming with
    | .bare =>
        if Text.isAlphanumeric c then some { state with name := state.name ++ [c] }
        else if c = '\x7b' ∧ state.name.isEmpty then some { state with naming := .braced }
        else if c = '$' then some (state.apply lookup)
        else
          let applied := state.apply lookup
          some { applied with naming := .off, output := applied.output ++ [c] }
    | .braced =>
        if Text.isAlphanumeric c then some { state with name := state.name ++ [c] }
        else if c = '\x7d' then some { state.apply lookup with naming := .off }
        else some { state with name := state.name ++ [c] }
    | .off =>
        if c = '$' then some { state with naming := .bare }
        else if state.weak then
          if c = '"' then some { state with weak := false }
          else if c = '\\' then some { state with escaped := true }
          else some { state with output := state.output ++ [c] }
        else if c = '\'' then some { state with strong := true }
        else if c = '"' then some { state with weak := true }
        else if c = '\\' then some { state with escaped := true }
        else if c = ' ' ∨ c = '\t' then some { state with ending := true }
        else some { state with output := state.output ++ [c] }

def value? (lookup : String → String) (chars : List Char) : Option String :=
  match chars.foldlM (ValueState.take lookup) {} with
  | none => none
  | some state =>
      if state.naming = .braced ∨ state.strong ∨ state.weak then none
      else some (String.ofList (state.apply lookup).output)

/-- Whether a character may stand in the name of a variable that is set. -/
def isKeyChar (c : Char) : Bool :=
  c.isAlphanum || c == '_' || c == '.'

/-- The name at the start of a line, and the rest. -/
def key? (chars : List Char) : Option (String × List Char) :=
  match chars with
  | [] => none
  | first :: _ =>
      if first.isAlpha || first == '_' then
        some (String.ofList (chars.takeWhile isKeyChar), chars.dropWhile isKeyChar)
      else none

/-- What follows an equals sign. -/
def afterEquals? (chars : List Char) : Option (List Char) :=
  match chars.dropWhile Text.isBlank with
  | '=' :: rest => some rest
  | _ => none

/-- The name and the characters of the value of a line that sets a variable. -/
def assignment? (chars : List Char) : Option (String × List Char) :=
  match key? chars with
  | none => none
  | some (name, rest) =>
      match afterEquals? rest with
      | some value => some (name, value)
      | none =>
          if name = "export" then
            match key? (rest.dropWhile Text.isBlank) with
            | none => none
            | some (name, rest) => (afterEquals? rest).map fun value => (name, value)
          else none

/-- What a line sets: nothing, a variable, or `none` when it cannot be read. -/
def readLine (lookup : String → String) (line : List Char) : Option (Option (String × String)) :=
  let chars := Text.trimChars line
  if chars.isEmpty || chars.head? == some '#' then some none
  else
    match assignment? chars with
    | none => none
    | some (name, value) =>
        let value := value.dropWhile Text.isBlank
        if value.isEmpty || value.head? == some '#' then some (some (name, ""))
        else (value? lookup value).map fun text => some (name, text)

/-- Whether a variable can hold a text. A value ends at its first NUL, so it cannot hold one itself. -/
def canHold (text : String) : Bool :=
  !text.toList.contains '\x00'

/-- An environment with a variable more, unless it is set already. What no variable
can hold is given up. -/
def setVariable? (environment : Dictionary String) (name value : String) : Option (Dictionary String) :=
  if (valueOf? environment name).isSome then some environment
  else if canHold value then some (environment.insert name value)
  else none

/-- Adds the variables of lines to an environment; `seen` holds what the file itself
sets. There is no environment when a line sets what no variable can hold. -/
def addLines? (environment seen : Dictionary String) : List (Option (List Char)) → Option (Dictionary String)
  | [] => some environment
  | none :: _ => some environment
  | some line :: rest =>
      let lookup := fun name => ((valueOf? environment name).or (seen.get? name)).getD ""
      match readLine lookup line with
      | none => some environment
      | some none => addLines? environment seen rest
      | some (some (name, value)) =>
          match setVariable? environment name value with
          | none => none
          | some added => addLines? added (seen.insert name value) rest

/-- Adds the variables of an environment file. -/
def load? (environment : Dictionary String) (text : String) : Option (Dictionary String) :=
  let chars := match text.toList with
    | '\ufeff' :: rest => rest
    | chars => chars
  addLines? environment .empty (joinLines [] .complete (rawLines [] chars))

end RelayClient.Settings.EnvironmentFile
