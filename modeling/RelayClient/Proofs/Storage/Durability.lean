import Mathlib.Logic.Function.Basic
import RelayClient.Proofs.Json.TextMaps
import RelayClient.Proofs.Storage.Paths
import RelayClient.Proofs.Storage.Reliable

/-!
# File stores last

A file store answers as a plain map, and what it holds is what its file holds:
whoever opens the path again finds the same map. A store changes no directory, so
that one which could be opened can be written from then on.
-/

namespace RelayClient

namespace FileStore

variable {path : DiskPath} {disk after : Disk} {items : Dictionary String} {store : FileStore}

/-- The file of a path and its sibling can be written. -/
structure IsWritable (path : DiskPath) (disk : Disk) : Prop where
  file : ∃ location, disk.fileLocation path = .ok location
  sibling : ∃ location, disk.fileLocation (temporary path) = .ok location

/-- The file of a store holds what the store holds, and can be written. -/
structure IsKept (store : FileStore) (disk : Disk) : Prop where
  loads : load store.path disk = .ok store.items
  writable : IsWritable store.path disk

theorem itemsOf_writeTextMap (items : Dictionary String) : itemsOf (Json.writeTextMap items) = .ok items := by
  have solid : Text.isBlankText (Json.writeTextMap items) = false := by
    rw [Text.isBlankText, Json.writeTextMap, String.toList_ofList, Json.textMapChars]
    split <;> rfl
  rw [itemsOf, solid, Json.readTextMap?_writeTextMap]
  rfl

/-- A map is persisted in two steps: the sibling is written, and renamed over the file. -/
theorem persist_eq_ok_iff : persist path items disk = (after, .ok ()) ↔
    ∃ written, disk.write (temporary path) (content items) = .ok written ∧
      written.rename (temporary path) path = .ok after := by
  rw [persist]
  cases disk.write (temporary path) (content items) with
  | error problem => simp
  | ok written =>
      dsimp only
      cases moved : written.rename (temporary path) path with
      | error problem => simp [moved]
      | ok renamed => simp [moved]

/-- A store is opened with what the file holds, once that could be persisted. -/
theorem openPath_eq_ok_iff : openPath path disk = (after, .ok store) ↔
    ∃ items, load path disk = .ok items ∧ persist path items disk = (after, .ok ()) ∧ store = ⟨path, items⟩ := by
  rw [openPath]
  cases load path disk with
  | error failure => simp
  | ok items =>
      dsimp only
      cases done : persist path items disk with
      | mk reached result =>
          cases result with
          | error failure => simp [done]
          | ok _ => simp [done, eq_comm]

/-- A file that is the whole object of a map is loaded to it. -/
theorem load_of_read (reads : disk.read path = .ok (content items)) : load path disk = .ok items := by
  rw [load, Disk.readText, reads]
  dsimp only
  rw [content, Text.ofUtf8?_utf8]
  exact itemsOf_writeTextMap items

/-- A map that was put at the place of a file is loaded from it. -/
theorem load_put {location : List String} (found : disk.fileLocation path = .ok location)
    (items : Dictionary String) : load path (disk.put location (.file (content items))) = .ok items :=
  load_of_read (Disk.read_put found _)

/-- A map is written where the file and its sibling can be, and is kept from then on. -/
theorem IsWritable.persist (writable : IsWritable path disk) (items : Dictionary String) :
    ∃ after, FileStore.persist path items disk = (after, .ok ()) ∧ IsKept ⟨path, items⟩ after := by
  obtain ⟨⟨place, file⟩, ⟨aside, sibling⟩⟩ := writable
  have asideFree := (Disk.fileLocation_eq_ok_iff.mp sibling).2
  -- The disk with the sibling written, without it, and with the file over what was there.
  let written := disk.put aside (.file (content items))
  let cleared : Disk := { written with entries := written.entries.erase (Disk.key aside) }
  let renamed := cleared.put place (.file (content items))
  have toWritten : Disk.SameDirectories disk written := Disk.sameDirectories_put asideFree _
  have siblingWritten := toWritten.fileLocation sibling
  have fileWritten := toWritten.fileLocation file
  have toCleared : Disk.SameDirectories written cleared :=
    Disk.sameDirectories_erase (Disk.fileLocation_eq_ok_iff.mp siblingWritten).2
  have fileCleared := toCleared.fileLocation fileWritten
  have toRenamed : Disk.SameDirectories cleared renamed :=
    Disk.sameDirectories_put (Disk.fileLocation_eq_ok_iff.mp fileCleared).2 _
  have whole := (toWritten.trans toCleared).trans toRenamed
  refine ⟨renamed, ?_, load_put fileCleared items, ⟨place, whole.fileLocation file⟩, ⟨aside, whole.fileLocation sibling⟩⟩
  refine persist_eq_ok_iff.mpr ⟨written, Disk.write_eq_ok_iff.mpr ⟨aside, sibling, rfl⟩, ?_⟩
  exact (Disk.rename_eq_ok_iff (Disk.read_put sibling _)).mpr ⟨aside, place, siblingWritten, fileWritten, rfl⟩

/-- A map that could be written tells that any can be. -/
theorem isWritable_of_persist (done : persist path items disk = (after, .ok ())) : IsWritable path disk := by
  obtain ⟨written, wrote, moved⟩ := persist_eq_ok_iff.mp done
  obtain ⟨aside, sibling, rfl⟩ := Disk.write_eq_ok_iff.mp wrote
  obtain ⟨former, place, -, file, -⟩ := (Disk.rename_eq_ok_iff (Disk.read_put sibling _)).mp moved
  have same := Disk.sameDirectories_put (Disk.fileLocation_eq_ok_iff.mp sibling).2 (content items)
  exact ⟨⟨place, same.symm.fileLocation file⟩, aside, sibling⟩

theorem isKept_of_persist (done : persist path items disk = (after, .ok ())) : IsKept ⟨path, items⟩ after := by
  obtain ⟨reached, again, kept⟩ := (isWritable_of_persist done).persist items
  rw [done] at again
  cases again
  exact kept

/-- A store that was opened holds what its file held, and is kept. -/
theorem isKept_openPath (opened : openPath path disk = (after, .ok store)) :
    store.path = path ∧ load path disk = .ok store.items ∧ IsKept store after := by
  obtain ⟨items, loaded, done, rfl⟩ := openPath_eq_ok_iff.mp opened
  exact ⟨rfl, loaded, isKept_of_persist done⟩

/-- Whoever opens the path of a kept store finds that store. -/
theorem IsKept.reopens (kept : store.IsKept disk) : ∃ after, openPath store.path disk = (after, .ok store) := by
  obtain ⟨after, written, _⟩ := kept.writable.persist store.items
  exact ⟨after, openPath_eq_ok_iff.mpr ⟨store.items, kept.loads, written, rfl⟩⟩

theorem IsKept.set (kept : store.IsKept disk) (key value : String) :
    ∃ after, store.set key value disk = ({ store with items := store.items.insert key value }, after, .ok ()) ∧
      IsKept { store with items := store.items.insert key value } after := by
  obtain ⟨after, written, next⟩ := kept.writable.persist (store.items.insert key value)
  exact ⟨after, by rw [FileStore.set, written], next⟩

/-- Removing writes the file, or finds nothing to remove and leaves it as it is. -/
theorem IsKept.remove (kept : store.IsKept disk) (key : String) :
    ∃ left after, store.remove key disk = (left, after, .ok ()) ∧ left.path = store.path ∧ IsKept left after := by
  rw [FileStore.remove]
  split
  · obtain ⟨after, written, next⟩ := kept.writable.persist (store.items.erase key)
    dsimp only
    rw [written]
    exact ⟨_, after, rfl, rfl, next⟩
  · exact ⟨store, disk, rfl, rfl, kept⟩

end FileStore

namespace StorageWrite

/-- A plain map after a change. -/
def on (map : String → Option String) : StorageWrite → String → Option String
  | .set key value => Function.update map key (some value)
  | .remove key => Function.update map key none

end StorageWrite

/-- What is asked of storage. -/
inductive StorageCall where
  | get (key : String)
  | write (change : StorageWrite)

namespace StorageCall

def after (map : String → Option String) : StorageCall → String → Option String
  | .get _ => map
  | .write change => change.on map

def afterAll (map : String → Option String) (calls : List StorageCall) : String → Option String :=
  calls.foldl after map

/-- What a plain map answers; a change has no answer. -/
def answer (map : String → Option String) : StorageCall → Option String
  | .get key => map key
  | .write _ => none

def answers (map : String → Option String) : List StorageCall → List (Option String)
  | [] => []
  | call :: rest => call.answer map :: answers (call.after map) rest

end StorageCall

namespace Storage

def call (storage : Storage) : StorageCall → Storage × Except Failure (Option String)
  | .get key => (storage, storage.get key)
  | .write write => ((storage.write write).1, (storage.write write).2.map fun _ => none)

def callAll (storage : Storage) (calls : List StorageCall) : Storage :=
  calls.foldl (fun current call => (current.call call).1) storage

def answers (storage : Storage) : List StorageCall → List (Except Failure (Option String))
  | [] => []
  | call :: rest => (storage.call call).2 :: (storage.call call).1.answers rest

variable {storage : Storage}

theorem Reliable.call (reliable : storage.Reliable) (call : StorageCall) : (storage.call call).1.Reliable := by
  cases call with
  | get key => exact reliable
  | write write => exact reliable.write write

theorem Reliable.get?_write (reliable : storage.Reliable) (write : StorageWrite) :
    (storage.write write).1.items.get? = write.on storage.items.get? := by
  funext other
  cases write with
  | set key value => rw [reliable.get?_set, StorageWrite.on, Function.update_apply]
  | remove key => rw [reliable.get?_remove, StorageWrite.on, Function.update_apply]

/-- Reliable storage changes as a plain map. -/
theorem Reliable.get?_call (reliable : storage.Reliable) (call : StorageCall) :
    (storage.call call).1.items.get? = call.after storage.items.get? := by
  cases call with
  | get key => rfl
  | write write => exact reliable.get?_write write

theorem Reliable.answer_call (reliable : storage.Reliable) (call : StorageCall) :
    (storage.call call).2 = .ok (call.answer storage.items.get?) := by
  cases call with
  | get key => exact reliable.get key
  | write write => rw [Storage.call, reliable.ok write]; rfl

theorem Reliable.get?_callAll (reliable : storage.Reliable) (calls : List StorageCall) :
    (storage.callAll calls).items.get? = StorageCall.afterAll storage.items.get? calls := by
  induction calls generalizing storage with
  | nil => rfl
  | cons call rest ih =>
      have later := ih (reliable.call call)
      rw [reliable.get?_call] at later
      exact later

/-- Reliable storage answers as a plain map. -/
theorem Reliable.answers (reliable : storage.Reliable) (calls : List StorageCall) :
    storage.answers calls = (StorageCall.answers storage.items.get? calls).map .ok := by
  induction calls generalizing storage with
  | nil => rfl
  | cons call rest ih =>
      rw [Storage.answers, ih (reliable.call call), reliable.answer_call, reliable.get?_call]
      rfl

/-- Storage in a file that is kept, where nothing is refused. -/
def IsKeptAt (path : DiskPath) (storage : Storage) : Prop :=
  ∃ store : FileStore, storage.backend = .file store ∧ storage.refusals = {} ∧ store.path = path ∧
    store.IsKept storage.disk

theorem IsKeptAt.write {path : DiskPath} (kept : storage.IsKeptAt path) (write : StorageWrite) :
    (storage.write write).1.IsKeptAt path ∧ (storage.write write).2 = .ok () := by
  obtain ⟨backend, disk, refusals, blocked⟩ := storage
  obtain ⟨store, rfl, rfl, rfl, kept⟩ := kept
  cases write with
  | set key value =>
      obtain ⟨after, done, next⟩ := kept.set key value
      simp only [Storage.write, Storage.set, done]
      exact ⟨⟨_, rfl, rfl, rfl, next⟩, rfl⟩
  | remove key =>
      obtain ⟨left, after, done, same, next⟩ := kept.remove key
      simp only [Storage.write, Storage.remove, done]
      exact ⟨⟨left, rfl, rfl, same, next⟩, rfl⟩

theorem IsKeptAt.call {path : DiskPath} (kept : storage.IsKeptAt path) (call : StorageCall) :
    (storage.call call).1.IsKeptAt path := by
  cases call with
  | get key => exact kept
  | write write => exact (kept.write write).1

theorem IsKeptAt.callAll {path : DiskPath} (kept : storage.IsKeptAt path) (calls : List StorageCall) :
    (storage.callAll calls).IsKeptAt path := by
  induction calls generalizing storage with
  | nil => exact kept
  | cons call rest ih => exact ih (kept.call call)

/-- A file that could be opened never refuses a change afterwards. -/
theorem IsKeptAt.reliable {path : DiskPath} (kept : storage.IsKeptAt path) : storage.Reliable where
  reads := by
    obtain ⟨_, _, unrefused, _⟩ := kept
    rw [unrefused]
  writes before write := by
    induction before generalizing storage with
    | nil => exact (kept.write write).2
    | cons first rest ih => exact ih (kept.write first).1

theorem IsKeptAt.reopens {path : DiskPath} (kept : storage.IsKeptAt path) :
    ∃ after, FileStore.openPath path storage.disk = (after, .ok ⟨path, storage.items⟩) := by
  obtain ⟨store, file, _, rfl, kept⟩ := kept
  rw [items, file]
  exact kept.reopens

end Storage

namespace FileStore

/-- A store that was opened from a disk is a map that lasts, whatever it is asked. -/
structure IsDurable (path : DiskPath) (disk : Disk) (opened : Storage) (calls : List StorageCall) : Prop where
  /-- The map is what the file held. -/
  loads : load path disk = .ok opened.items
  /-- Every call succeeds, and look-ups find what they find in a plain map. -/
  asMap : opened.answers calls = (StorageCall.answers opened.items.get? calls).map .ok
  asMemory : opened.answers calls = ({ backend := .memory opened.items } : Storage).answers calls
  /-- After any of the calls the store holds what a plain map does. -/
  holds : ∀ count, (opened.callAll (calls.take count)).items.get? =
    StorageCall.afterAll opened.items.get? (calls.take count)
  /-- Whoever opens the path then finds the very same. -/
  reopens : ∀ count, ∃ after, openPath path (opened.callAll (calls.take count)).disk =
    (after, .ok ⟨path, (opened.callAll (calls.take count)).items⟩)

/-- Whatever file could be opened, and wherever, is a durable map. -/
theorem isDurable_of_openPath {path : DiskPath} {disk after : Disk} {store : FileStore}
    (opened : openPath path disk = (after, .ok store)) (calls : List StorageCall) :
    IsDurable path disk { backend := .file store, disk := after } calls := by
  obtain ⟨same, loaded, kept⟩ := isKept_openPath opened
  have lasting : ({ backend := .file store, disk := after } : Storage).IsKeptAt path := ⟨store, rfl, rfl, same, kept⟩
  constructor
  case loads => exact loaded
  case asMap => exact lasting.reliable.answers calls
  case asMemory =>
    rw [lasting.reliable.answers calls, (Storage.reliable_memory _).answers calls]
    rfl
  case holds => exact fun count => lasting.reliable.get?_callAll (calls.take count)
  case reopens => exact fun count => (lasting.callAll (calls.take count)).reopens

/-- A disk with a file that no store has written: a key stands twice, and one value is escaped. -/
def foreignDisk : Disk :=
  ({} : Disk).put ["vault.json"] (.file (Text.utf8 "\x7b \"a\" : \"1\" ,\n\"b\":\"\\u0041\", \"a\":\"2\"\x7d"))

def strangeCalls : List StorageCall :=
  [.write (.set "" "\"\\\n\x01é😀"), .get "", .write (.remove "none"), .write (.remove "a"), .get "a"]

theorem isDurable_foreignDisk : ∃ after store, openPath ⟨["vault.json"]⟩ foreignDisk = (after, .ok store) ∧
    store.items.entries = [("a", "2"), ("b", "A")] ∧
    IsDurable ⟨["vault.json"]⟩ foreignDisk { backend := .file store, disk := after } strangeCalls := by
  have found : (openPath ⟨["vault.json"]⟩ foreignDisk).2.toOption.map (·.items.entries) =
      some [("a", "2"), ("b", "A")] := by decide +kernel
  cases opened : openPath ⟨["vault.json"]⟩ foreignDisk with
  | mk after result =>
      rw [opened] at found
      cases result with
      | error failure => cases found
      | ok store => exact ⟨after, store, rfl, Option.some.inj found, isDurable_of_openPath opened strangeCalls⟩

end FileStore

end RelayClient
