import RelayClient.Failure
import RelayClient.Json.TextMap
import RelayClient.Storage.Disk
import RelayClient.Text.Blank

/-!
# File stores

A file store keeps a map from text to text in memory and as one JSON object in a
file. Each change of the map writes the whole object to a sibling file and
renames that over the file. An entry that is absent is removed without writing.
-/

namespace RelayClient

namespace DiskError

def failure : DiskError → Failure
  | .notFound | .refused => .storage "OS error"
  | .notUtf8 => .storage "stream did not contain valid UTF-8"
  | .nameBroken => .storage "file name contained an unexpected NUL byte"

end DiskError

/-- A map and the file it is kept in. -/
structure FileStore where
  path : DiskPath
  items : Dictionary String

namespace FileStore

/-- The sibling that a change is written to first. -/
def temporary (path : DiskPath) : DiskPath :=
  path.withExtension "tmp"

/-- The content of the file of a map. -/
def content (items : Dictionary String) : Bytes :=
  Text.utf8 (Json.writeTextMap items)

/-- Writes a map to the sibling and renames it over the file. The disk is
returned also when one of the two fails. -/
def persist (path : DiskPath) (items : Dictionary String) (disk : Disk) : Disk × Except Failure Unit :=
  match disk.write (temporary path) (content items) with
  | .error problem => (disk, .error problem.failure)
  | .ok written =>
      match written.rename (temporary path) path with
      | .error problem => (written, .error problem.failure)
      | .ok renamed => (renamed, .ok ())

/-- The map that a file's text holds; a blank text holds the empty map. -/
def itemsOf (text : String) : Except Failure (Dictionary String) :=
  if Text.isBlankText text then .ok .empty
  else
    match Json.readTextMap? text with
    | some items => .ok items
    | none => .error (.storage "JSON error")

/-- The map that a file holds; a missing file holds the empty map. -/
def load (path : DiskPath) (disk : Disk) : Except Failure (Dictionary String) :=
  match disk.readText path with
  | .ok text => itemsOf text
  | .error .notFound => .ok .empty
  | .error problem => .error problem.failure

/-- Opens the store of a path and writes it once, so that a path that cannot be
written is refused at the start. -/
def openPath (path : DiskPath) (disk : Disk) : Disk × Except Failure FileStore :=
  match load path disk with
  | .error failure => (disk, .error failure)
  | .ok items =>
      match persist path items disk with
      | (after, .error failure) => (after, .error failure)
      | (after, .ok _) => (after, .ok ⟨path, items⟩)

/-- Opens the store of a path given as text. -/
def openAt (path : String) (disk : Disk) : Disk × Except Failure FileStore :=
  openPath (.parse path) disk

def set (store : FileStore) (key value : String) (disk : Disk) : FileStore × Disk × Except Failure Unit :=
  let items := store.items.insert key value
  ({ store with items }, persist store.path items disk)

/-- Removes a value and writes the map, if there was one. -/
def remove (store : FileStore) (key : String) (disk : Disk) : FileStore × Disk × Except Failure Unit :=
  if store.items.contains key then
    let items := store.items.erase key
    ({ store with items }, persist store.path items disk)
  else (store, disk, .ok ())

end FileStore

end RelayClient
