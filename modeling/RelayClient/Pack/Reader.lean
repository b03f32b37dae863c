import RelayClient.Pack.Head

/-!
# Reading packed values

Reading spends a budget of levels: each value costs one, the children of a list
or map one more, text two more, binary one more and an extension two more. A
level that cannot be paid is an error, raised before what it would have read.
Bytes after the value are left over.
-/

namespace RelayClient.Pack

/-- Takes the bytes of a content whose length is known. -/
def takeContent (length : Nat) (bytes : Bytes) : Except ReadError (Bytes × Bytes) :=
  match Bytes.split? length bytes with
  | some parts => .ok parts
  | none => .error .cutShort

/-- Reads a fixed count of things with one reader. -/
def readMany {α : Type} (one : Bytes → Except ReadError (α × Bytes)) :
    Nat → Bytes → Except ReadError (List α × Bytes)
  | 0, bytes => .ok ([], bytes)
  | count + 1, bytes =>
      match one bytes with
      | .error problem => .error problem
      | .ok (first, rest) =>
          match readMany one count rest with
          | .error problem => .error problem
          | .ok (others, remaining) => .ok (first :: others, remaining)

def readPair (one : Bytes → Except ReadError (Value × Bytes)) (bytes : Bytes) :
    Except ReadError ((Value × Value) × Bytes) :=
  match one bytes with
  | .error problem => .error problem
  | .ok (key, rest) =>
      match one rest with
      | .error problem => .error problem
      | .ok (value, remaining) => .ok ((key, value), remaining)

/-- Reads the tag and the content of an extension; `budget` pays for the content. -/
def readExtension (budget length : Nat) : Bytes → Except ReadError (Value × Bytes)
  | [] => .error .cutShort
  | tag :: rest =>
      match budget with
      | 0 => .error .tooDeep
      | _ + 1 => (takeContent length rest).map fun parts => (.ext tag.toInt8 parts.1, parts.2)

/-- Reads the content after a head that is no list and no map. -/
def readFlat (budget : Nat) (head : Head) (rest : Bytes) : Except ReadError (Value × Bytes) :=
  match head with
  | .nil => .ok (.nil, rest)
  | .bool flag => .ok (.bool flag, rest)
  | .int number => .ok (.int number, rest)
  | .single bits => .ok (.single bits, rest)
  | .double bits => .ok (.double bits, rest)
  | .text length =>
      if budget < 2 then .error .tooDeep
      else (takeContent length rest).map fun parts => (.ofTextBytes parts.1, parts.2)
  | .binary length =>
      if budget < 1 then .error .tooDeep
      else (takeContent length rest).map fun parts => (.binary parts.1, parts.2)
  | .ext length =>
      match budget with
      | 0 => .error .tooDeep
      | left + 1 => readExtension left length rest
  | .list _ | .map _ => .error .tooDeep

namespace Value

/-- Reads a value within a budget of levels. -/
def read : (budget : Nat) → Bytes → Except ReadError (Value × Bytes)
  | 0, _ => .error .tooDeep
  | 1, bytes =>
      match Head.read bytes with
      | .error problem => .error problem
      | .ok (head, rest) => readFlat 0 head rest
  | budget + 2, bytes =>
      match Head.read bytes with
      | .error problem => .error problem
      | .ok (.list length, rest) =>
          (readMany (read budget) length rest).map fun parts => (.list parts.1, parts.2)
      | .ok (.map length, rest) =>
          (readMany (readPair (read budget)) length rest).map fun parts => (.map parts.1, parts.2)
      | .ok (head, rest) => readFlat (budget + 1) head rest

/-- The levels a frame may use. -/
def depthLimit : Nat := 1024

/-- The value at the start of a frame. -/
def decode (bytes : Bytes) : Except ReadError Value :=
  (read depthLimit bytes).map (·.1)

end Value

end RelayClient.Pack
