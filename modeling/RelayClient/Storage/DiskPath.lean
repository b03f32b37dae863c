/-!
# Paths

A path is a text with separators. What stands between them are names: an empty
name and a point stay in place, two points lead to the directory above, and all
other names lead to an entry. A path is kept as it is spelled, since where it
leads depends on what stands on the way, and a path that ends in a separator or
a point can only lead to a directory.
-/

namespace RelayClient

/-- A path as the texts between its separators. -/
structure DiskPath where
  segments : List String
  deriving DecidableEq

namespace DiskPath

def parse (text : String) : DiskPath :=
  ⟨text.splitOn "/"⟩

def text (path : DiskPath) : String :=
  String.intercalate "/" path.segments

def isPlace (segment : String) : Bool :=
  segment == "" || segment == "."

/-- The segments that are not empty, outermost first. -/
def names (path : DiskPath) : List String :=
  path.segments.filter (· != "")

def isRooted (path : DiskPath) : Bool :=
  match path.segments with
  | "" :: _ :: _ => true
  | _ => false

def endsOpen (path : DiskPath) : Bool :=
  1 < path.segments.length && path.segments.getLast? == some ""

/-- A name before and behind its last point. A point at the start divides nothing. -/
def divide? (name : String) : Option (String × String) :=
  let back := name.toList.reverse
  let before := (back.dropWhile (· != '.')).drop 1
  if before.isEmpty then none
  else some (String.ofList before.reverse, String.ofList (back.takeWhile (· != '.')).reverse)

/-- A name with its extension replaced. The old extension is cut off first, and
`atEnd` tells that nothing follows the name in its path: a name of which the cut
leaves two points has become the directory above, which takes no extension. -/
def renamed (name extension : String) (atEnd : Bool) : String :=
  match divide? name with
  | none => name ++ "." ++ extension
  | some (stem, old) =>
      if atEnd && stem == "." && old != "" then ".." else stem ++ "." ++ extension

/-- The path with the extension of its last name replaced. A path without such a
name stays as it is. -/
def withExtension (path : DiskPath) (extension : String) : DiskPath :=
  match path.segments.reverse.dropWhile isPlace with
  | [] => path
  | name :: before =>
      if name = ".." then path
      else ⟨(renamed name extension (path.segments.getLast? == some name) :: before).reverse⟩

/-- The paths that a path, spelled backwards, passes through, innermost first. -/
def passed : (back : List String) → List DiskPath
  | [] => []
  | segment :: before =>
      if isPlace segment then passed before else ⟨(segment :: before).reverse⟩ :: passed before

/-- A path and the directories above it, as it is spelled, innermost first. -/
def ancestors (path : DiskPath) : List DiskPath :=
  path :: (passed path.segments.reverse).drop 1

end DiskPath

end RelayClient
