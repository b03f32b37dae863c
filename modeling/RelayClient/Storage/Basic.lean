import RelayClient.Storage.FileStore

/-!
# Storage

Storage keeps texts by key, in memory or in a file. Each of its operations may
be set to refuse. When a file cannot be opened, storage falls back to memory and
is marked as blocked.
-/

namespace RelayClient

/-- Where texts are kept. -/
inductive Backend where
  | memory (items : Dictionary String)
  | file (store : FileStore)

structure Refusals where
  get : Bool := false
  set : Bool := false
  remove : Bool := false
  deriving DecidableEq

/-- Texts by key, with the disk they may lie on. -/
structure Storage where
  backend : Backend := .memory .empty
  disk : Disk := {}
  refusals : Refusals := {}
  /-- The file could not be opened, so that nothing outlives the process. -/
  blocked : Bool := false

namespace Storage

/-- The texts a backend holds. -/
def items (storage : Storage) : Dictionary String :=
  match storage.backend with
  | .memory items => items
  | .file store => store.items

def get (storage : Storage) (key : String) : Except Failure (Option String) :=
  if storage.refusals.get then .error (.storage "get refused") else .ok (storage.items.get? key)

def set (storage : Storage) (key value : String) : Storage × Except Failure Unit :=
  if storage.refusals.set then (storage, .error (.storage "set refused"))
  else
    match storage.backend with
    | .memory items => ({ storage with backend := .memory (items.insert key value) }, .ok ())
    | .file store =>
        let (store, disk, result) := store.set key value storage.disk
        ({ storage with backend := .file store, disk }, result)

/-- Removes the text under a key; there need not be one. -/
def remove (storage : Storage) (key : String) : Storage × Except Failure Unit :=
  if storage.refusals.remove then (storage, .error (.storage "remove refused"))
  else
    match storage.backend with
    | .memory items => ({ storage with backend := .memory (items.erase key) }, .ok ())
    | .file store =>
        let (store, disk, result) := store.remove key storage.disk
        ({ storage with backend := .file store, disk }, result)

/-- Opens the file of a path; on failure storage stays as it was. -/
def openFile (storage : Storage) (path : String) : Storage × Except Failure Unit :=
  match FileStore.openAt path storage.disk with
  | (disk, .error failure) => ({ storage with disk }, .error failure)
  | (disk, .ok store) => ({ storage with backend := .file store, disk }, .ok ())

/-- Opens the file of a path, or falls back to empty memory. -/
def openPersistent (path : String) (disk : Disk) : Storage :=
  match FileStore.openAt path disk with
  | (disk, .error _) => { disk, blocked := true }
  | (disk, .ok store) => { backend := .file store, disk }

end Storage

end RelayClient
