import RelayClient.Proofs.Storage.Changes
import RelayClient.Proofs.Storage.Siblings
import RelayClient.Proofs.Text.Hex

/-!
# Stopping in the middle of a change

A change writes the whole map to a sibling, byte after byte, and renames that over the file at once. The
process may stop at any point on the way. What it leaves at the path of the file is then all of the old
map or all of the new one, unless the file is its own sibling: such a file is written in place.
-/

namespace RelayClient

namespace Disk

variable {disk after : Disk} {source target : DiskPath} {content : Bytes}

/-- Writing a file changes no directory. -/
theorem sameDirectories_write {path : DiskPath} (wrote : disk.write path content = .ok after) :
    SameDirectories disk after := by
  obtain ⟨place, found, rfl⟩ := write_eq_ok_iff.mp wrote
  exact sameDirectories_put (fileLocation_eq_ok_iff.mp found).2 content

theorem read_of_write {path : DiskPath} (wrote : disk.write path content = .ok after) : after.read path = .ok content := by
  obtain ⟨place, found, rfl⟩ := write_eq_ok_iff.mp wrote
  exact read_put found content

/-- A file that was moved is read where it was moved to. -/
theorem read_of_rename (held : disk.read source = .ok content) (moved : disk.rename source target = .ok after) :
    after.read target = .ok content := by
  obtain ⟨former, place, left, found, rfl⟩ := (rename_eq_ok_iff held).mp moved
  have cleared := sameDirectories_erase (fileLocation_eq_ok_iff.mp left).2
  exact read_put (cleared.fileLocation found) content

end Disk

namespace FileStore

variable {path : DiskPath} {disk after left : Disk} {items : Dictionary String} {store : FileStore}
  {change : StorageWrite}

/-- On some disk a store is opened at a path. -/
def IsOpenable (path : DiskPath) : Prop :=
  ∃ disk after store, openPath path disk = (after, .ok store)

theorem IsOpenable.exists_endsIn (openable : IsOpenable path) : ∃ before name, path.EndsIn before name := by
  obtain ⟨disk, after, store, opened⟩ := openable
  obtain ⟨rfl, -, kept⟩ := isKept_openPath opened
  obtain ⟨place, file⟩ := kept.writable.file
  exact Disk.exists_endsIn_of_fileLocation file

/-- What is left of a disk where rewriting a file breaks off before the sibling is renamed: the sibling
holds the bytes that were written so far. -/
inductive Interrupted (path : DiskPath) (items : Dictionary String) (disk : Disk) : Disk → Prop
  | before : Interrupted path items disk disk
  | writing {written : Bytes} {left : Disk} (part : written <+: content items)
      (wrote : disk.write (temporary path) written = .ok left) : Interrupted path items disk left

/-- What a process leaves of a disk when it stops during a change. -/
inductive StopsIn (store : FileStore) (disk : Disk) (change : StorageWrite) : Disk → Prop
  | interrupted {left : Disk} (rewrites : change.rewrites store.items = true)
      (broken : Interrupted store.path (change.apply store.items) disk left) : StopsIn store disk change left
  | done : StopsIn store disk change (store.write disk change).2.1

/-- A store that was opened at a path and changed any number of times, and the disk it lies on. -/
inductive Lives (path : DiskPath) : FileStore → Disk → Prop
  | opened {disk after : Disk} {store : FileStore} (opened : openPath path disk = (after, .ok store)) :
      Lives path store after
  | changed {disk : Disk} {store : FileStore} (lives : Lives path store disk) (change : StorageWrite) :
      Lives path (store.write disk change).1 (store.write disk change).2.1

/-- The file of a store is the whole object of what the store holds, and can be written. -/
structure IsWhole (store : FileStore) (disk : Disk) : Prop where
  reads : disk.read store.path = .ok (content store.items)
  writable : IsWritable store.path disk

theorem read_of_persist (done : persist path items disk = (after, .ok ())) : after.read path = .ok (content items) := by
  obtain ⟨written, wrote, moved⟩ := persist_eq_ok_iff.mp done
  exact Disk.read_of_rename (Disk.read_of_write wrote) moved

theorem isWhole_of_persist (done : persist path items disk = (after, .ok ())) : IsWhole ⟨path, items⟩ after :=
  ⟨read_of_persist done, (isKept_of_persist done).writable⟩

theorem IsWhole.isKept (whole : store.IsWhole disk) : store.IsKept disk :=
  ⟨load_of_read whole.reads, whole.writable⟩

theorem isWhole_openPath (opened : openPath path disk = (after, .ok store)) :
    store.path = path ∧ store.IsWhole after := by
  obtain ⟨items, -, done, rfl⟩ := openPath_eq_ok_iff.mp opened
  exact ⟨rfl, isWhole_of_persist done⟩

/-- A change of a store whose file is whole leaves the file of the changed store whole. -/
theorem IsWhole.write (whole : store.IsWhole disk) (change : StorageWrite) :
    (store.write disk change).1.path = store.path ∧
      (store.write disk change).1.IsWhole (store.write disk change).2.1 ∧
      ((store.write disk change).1.items = store.items ∨ (store.write disk change).1.items = change.apply store.items) := by
  cases rewrites : change.rewrites store.items with
  | false =>
      rw [write_of_not_rewrites rewrites]
      exact ⟨rfl, whole, .inl rfl⟩
  | true =>
      obtain ⟨after, done, -⟩ := whole.writable.persist (change.apply store.items)
      rw [write_of_rewrites rewrites, done]
      exact ⟨rfl, isWhole_of_persist done, .inr rfl⟩

theorem Lives.isWhole (lives : Lives path store disk) : store.path = path ∧ store.IsWhole disk := by
  induction lives with
  | opened opened => exact isWhole_openPath opened
  | changed lives change ih =>
      obtain ⟨same, whole, -⟩ := ih.2.write change
      exact ⟨same.trans ih.1, whole⟩

/-- Writing that breaks off beside a file is not seen at its path. -/
theorem Interrupted.read_eq {before : List String} {name : String} (broken : Interrupted path items disk left)
    (ends : path.EndsIn before name) (distinct : ¬ path.HasTemporaryName) : left.read path = disk.read path := by
  cases broken with
  | before => rfl
  | writing part wrote => exact read_of_write_temporary ends distinct wrote

theorem Interrupted.sameDirectories (broken : Interrupted path items disk left) : Disk.SameDirectories disk left := by
  cases broken with
  | before => exact ⟨rfl, fun _ => Iff.rfl⟩
  | writing part wrote => exact Disk.sameDirectories_write wrote

/-- Writing that breaks off beside a whole file leaves that file whole. -/
theorem IsWhole.interrupted (whole : store.IsWhole disk) (distinct : ¬ store.path.HasTemporaryName)
    (broken : Interrupted store.path items disk left) : store.IsWhole left := by
  obtain ⟨⟨place, file⟩, ⟨aside, sibling⟩⟩ := whole.writable
  obtain ⟨before, name, ends⟩ := Disk.exists_endsIn_of_fileLocation file
  have same := broken.sameDirectories
  refine ⟨?_, ⟨place, same.fileLocation file⟩, ⟨aside, same.fileLocation sibling⟩⟩
  rw [broken.read_eq ends distinct]
  exact whole.reads

theorem content_ne_nil (items : Dictionary String) : content items ≠ [] := by
  intro empty
  have chars : (Json.textMapChars items).flatMap String.utf8EncodeChar = [] := by
    rw [← empty, content, Json.writeTextMap, Text.utf8_ofList]
  rw [Json.textMapChars] at chars
  split at chars <;> cases chars

/-- Whenever the process stops during a change, the file of a path is the whole object of the old map or of
the new one, and whoever opens it finds that map. -/
def IsCrashSafe (path : DiskPath) : Prop :=
  ∀ store disk change left, Lives path store disk → StopsIn store disk change left →
    ∃ items, (items = store.items ∨ items = change.apply store.items) ∧ left.read path = .ok (content items) ∧
      ∃ after, openPath path left = (after, .ok ⟨path, items⟩)

theorem isCrashSafe_of_distinct (distinct : ¬ path.HasTemporaryName) : IsCrashSafe path := by
  intro store disk change left lives stops
  obtain ⟨rfl, whole⟩ := lives.isWhole
  cases stops with
  | interrupted rewrites broken =>
      have kept := whole.interrupted distinct broken
      exact ⟨store.items, .inl rfl, kept.reads, kept.isKept.reopens⟩
  | done =>
      obtain ⟨same, changed, either⟩ := whole.write change
      rw [← same]
      exact ⟨_, either, changed.reads, changed.isKept.reopens⟩

/-- A path that can be opened is safe from crashes just if its file is not its own sibling. -/
theorem isCrashSafe_iff (openable : IsOpenable path) : IsCrashSafe path ↔ ¬ path.HasTemporaryName := by
  refine ⟨fun safe own => ?_, isCrashSafe_of_distinct⟩
  obtain ⟨disk, after, store, opened⟩ := openable
  have lives := Lives.opened opened
  obtain ⟨rfl, whole⟩ := lives.isWhole
  obtain ⟨⟨place, file⟩, ⟨aside, sibling⟩⟩ := whole.writable
  -- The process stops when the file has been cleared and nothing is written yet.
  have wrote : after.write (temporary store.path) [] = .ok (after.put aside (.file [])) :=
    Disk.write_eq_ok_iff.mpr ⟨aside, sibling, rfl⟩
  have stops : StopsIn store after (.set "" "") _ := .interrupted rfl (.writing (List.nil_prefix) wrote)
  obtain ⟨items, -, reads, -⟩ := safe store after (.set "" "") _ lives stops
  rw [read_of_write_own own file wrote] at reads
  exact content_ne_nil items (Except.ok.inj reads).symm

/-- A store with one entry. -/
def vault : FileStore :=
  ⟨⟨["vault.json"]⟩, Dictionary.empty.insert "a" "1"⟩

def vaultDisk : Disk :=
  ({} : Disk).put ["vault.json"] (.file (content vault.items))

theorem isOpenable_vault : IsOpenable ⟨["vault.json"]⟩ :=
  ⟨vaultDisk, vaultDisk, vault, rfl⟩

theorem isCrashSafe_vault : IsCrashSafe ⟨["vault.json"]⟩ :=
  (isCrashSafe_iff isOpenable_vault).mpr (by decide)

/-- A store whose file is its own sibling. -/
def ownVault : FileStore :=
  ⟨⟨["vault.tmp"]⟩, vault.items⟩

def ownDisk : Disk :=
  ({} : Disk).put ["vault.tmp"] (.file (content ownVault.items))

/-- The process stops when a part of a file that is its own sibling is written: the old map is lost, and
what stands there is no map. -/
theorem lost_ownVault : ∃ left, openPath ownVault.path ownDisk = (ownDisk, .ok ownVault) ∧
    StopsIn ownVault ownDisk (.set "b" "2") left ∧ (∀ items, left.read ownVault.path ≠ .ok (content items)) ∧
    openPath ownVault.path left = (left, .error (.storage "JSON error")) := by
  refine ⟨_, rfl, .interrupted rfl (.writing (List.take_prefix 9 _) rfl), fun items whole => ?_, rfl⟩
  cases load_of_read whole

end FileStore

end RelayClient
