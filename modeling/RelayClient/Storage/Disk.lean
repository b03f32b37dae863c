import RelayClient.Dictionary
import RelayClient.Storage.DiskPath
import RelayClient.Text.Utf8

/-!
# Disks

A disk is a tree of directories and files. A path is followed name by name, from
the root or from the starting directory, and every name on the way has to lead
to a directory. An operation that is refused leaves the disk as it was, except
for those that make or remove several directories.
-/

namespace RelayClient

/-- What stands at a location. -/
inductive DiskEntry where
  | file (content : Bytes)
  | directory
  deriving DecidableEq

/-- Why a disk refused an operation. -/
inductive DiskError where
  | notFound
  | notUtf8
  /-- A path holds the character that ends names. -/
  | nameBroken
  /-- Anything else that stands in the way, such as a directory in place of a file. -/
  | refused
  deriving DecidableEq

/-- The entries of a tree by their locations, and where relative paths start. A
location is the names that lead to an entry from the root. -/
structure Disk where
  entries : Dictionary DiskEntry := .empty
  start : List String := []
  deriving Inhabited

/-- How a path ends. -/
inductive DiskEnding where
  /-- With a name, behind which a separator may ask for a directory. -/
  | name (directoryOnly : Bool)
  /-- In the directory reached so far. -/
  | here
  | above
  deriving DecidableEq

/-- Where a path leads. -/
structure DiskTarget where
  location : List String
  ending : DiskEnding

namespace Disk

/-- The most bytes of a name. -/
def nameLimit : Nat := 255

/-- The most bytes of a path. -/
def pathLimit : Nat := 4095

def key (location : List String) : String :=
  String.intercalate "/" location

def ofKey (key : String) : List String :=
  key.splitOn "/"

/-- What stands at a location; no names are the root. -/
def entryAt? (disk : Disk) (location : List String) : Option DiskEntry :=
  if location.isEmpty then some .directory else disk.entries.get? (key location)

def put (disk : Disk) (location : List String) (entry : DiskEntry) : Disk :=
  { disk with entries := disk.entries.insert (key location) entry }

/-- Puts directories at a location and at all locations above it. -/
def putDirectories (disk : Disk) (location : List String) : Disk :=
  (List.range location.length).foldl
    (fun current count => current.put (location.take (count + 1)) .directory) disk

/-- The disk with nothing but a starting directory. -/
def within (start : List String) : Disk :=
  ({ start } : Disk).putDirectories start

/-- Puts an entry and the directories it needs below the starting directory. -/
def place (disk : Disk) (names : List String) (entry : DiskEntry) : Disk :=
  (disk.putDirectories (disk.start ++ names.dropLast)).put (disk.start ++ names) entry

/-- Follows one name from a directory to a directory. -/
def enter (disk : Disk) (location : List String) (name : String) : Except DiskError (List String) :=
  if name = "." then .ok location
  else if name = ".." then .ok location.dropLast
  else if nameLimit < name.utf8ByteSize then .error .refused
  else
    match disk.entryAt? (location ++ [name]) with
    | some .directory => .ok (location ++ [name])
    | some (.file _) => .error .refused
    | none => .error .notFound

/-- Follows names from a directory to a directory. -/
def walk (disk : Disk) (location : List String) : List String → Except DiskError (List String)
  | [] => .ok location
  | name :: rest =>
      match disk.enter location name with
      | .error problem => .error problem
      | .ok next => walk disk next rest

/-- Where the last name of a path leads from a directory. -/
def finish (location : List String) (name : String) (directoryOnly : Bool) : Except DiskError DiskTarget :=
  if name = "." then .ok ⟨location, .here⟩
  else if name = ".." then .ok ⟨location.dropLast, .above⟩
  else if nameLimit < name.utf8ByteSize then .error .refused
  else .ok ⟨location ++ [name], .name directoryOnly⟩

/-- Follows a path. The entry it leads to need not exist, but the directory that
would hold it does. -/
def resolve (disk : Disk) (path : DiskPath) : Except DiskError DiskTarget :=
  if path.text.toList.contains '\x00' then .error .nameBroken
  else if path.text.isEmpty then .error .notFound
  else if pathLimit < path.text.utf8ByteSize then .error .refused
  else
    let origin := if path.isRooted then [] else disk.start
    match path.names.getLast? with
    | none => .ok ⟨origin, .here⟩
    | some last =>
        match disk.walk origin path.names.dropLast with
        | .error problem => .error problem
        | .ok location => finish location last path.endsOpen

/-- The content of a file. -/
def read (disk : Disk) (path : DiskPath) : Except DiskError Bytes :=
  match disk.resolve path with
  | .error problem => .error problem
  | .ok target =>
      match disk.entryAt? target.location with
      | none => .error .notFound
      | some .directory => .error .refused
      | some (.file content) => if target.ending = .name false then .ok content else .error .refused

/-- The content of a file as text. -/
def readText (disk : Disk) (path : DiskPath) : Except DiskError String :=
  match disk.read path with
  | .error problem => .error problem
  | .ok content =>
      match Text.ofUtf8? content with
      | some text => .ok text
      | none => .error .notUtf8

/-- The location a path gives to a file: not that of a directory. -/
def fileLocation (disk : Disk) (path : DiskPath) : Except DiskError (List String) :=
  match disk.resolve path with
  | .error problem => .error problem
  | .ok target =>
      if target.ending = .name false ∧ disk.entryAt? target.location ≠ some .directory then .ok target.location
      else .error .refused

/-- Writes a file, over one that is there. -/
def write (disk : Disk) (path : DiskPath) (content : Bytes) : Except DiskError Disk :=
  match disk.fileLocation path with
  | .error problem => .error problem
  | .ok location => .ok (disk.put location (.file content))

/-- Moves a file to another path, over a file that is there. -/
def rename (disk : Disk) (source target : DiskPath) : Except DiskError Disk :=
  match disk.read source with
  | .error problem => .error problem
  | .ok content =>
      match disk.fileLocation source, disk.fileLocation target with
      | .ok former, .ok location =>
          .ok ({ disk with entries := disk.entries.erase (key former) }.put location (.file content))
      | .error problem, _ | _, .error problem => .error problem

def isDirectory (disk : Disk) (path : DiskPath) : Bool :=
  match disk.resolve path with
  | .ok target => disk.entryAt? target.location == some .directory
  | .error _ => false

def makeDirectory (disk : Disk) (path : DiskPath) : Except DiskError Disk :=
  match disk.resolve path with
  | .error problem => .error problem
  | .ok target =>
      if (disk.entryAt? target.location).isSome then .error .refused
      else .ok (disk.put target.location .directory)

/-- Makes the first of some paths a directory, each of which needs those after it.
Directories that are there already are left as they are. -/
def makeChain (disk : Disk) : List DiskPath → Disk × Except DiskError Unit
  | [] => (disk, .ok ())
  | path :: above =>
      let settle := fun (current : Disk) =>
        match current.makeDirectory path with
        | .ok made => (made, Except.ok ())
        | .error problem => (current, if current.isDirectory path then .ok () else .error problem)
      match disk.makeDirectory path with
      | .error .notFound =>
          match makeChain disk above with
          | (made, .error problem) => (made, .error problem)
          | (made, .ok _) => settle made
      | _ => settle disk

def makeDirectories (disk : Disk) (path : DiskPath) : Disk × Except DiskError Unit :=
  disk.makeChain path.ancestors

def removeBelow (disk : Disk) (location : List String) : Disk :=
  { disk with
    entries := disk.entries.entries.foldl
      (fun current entry =>
        let names := ofKey entry.1
        if location.isPrefixOf names && location.length < names.length then current.erase entry.1 else current)
      disk.entries }

/-- Removes a directory with all below it. The directory is emptied first and then
removed by its path. A path that led through what is gone by then is done, and one
that ends in a point is refused. -/
def removeDirectory (disk : Disk) (path : DiskPath) : Disk × Except DiskError Unit :=
  match disk.resolve path with
  | .error problem => (disk, .error problem)
  | .ok target =>
      match disk.entryAt? target.location with
      | none => (disk, .error .notFound)
      | some (.file _) => (disk, .error .refused)
      | some .directory =>
          let emptied := disk.removeBelow target.location
          match emptied.resolve path with
          | .error _ => (emptied, .ok ())
          | .ok ⟨_, .name _⟩ => ({ emptied with entries := emptied.entries.erase (key target.location) }, .ok ())
          | .ok _ => (emptied, .error .refused)

/-- The names directly below a directory, in order. -/
def namesIn (disk : Disk) (location : List String) : List String :=
  disk.entries.entries.filterMap fun entry =>
    if (ofKey entry.1).dropLast = location then (ofKey entry.1).getLast? else none

/-- The names in the directory of a path; there are none where there is no directory. -/
def list (disk : Disk) (path : DiskPath) : List String :=
  match disk.resolve path with
  | .ok target => if disk.isDirectory path then disk.namesIn target.location else []
  | .error _ => []

end Disk

end RelayClient
