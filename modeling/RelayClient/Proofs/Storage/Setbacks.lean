import RelayClient.Proofs.Storage.Interruption

/-!
# Changes that fail

A change is made in memory before the file is written, and is not taken back when writing fails. The
file holds what it held, so that memory shows a map which whoever opens the path does not find. A removal
that is tried again finds nothing to remove and does not write. The next change that is written takes the
failed one along.
-/

namespace RelayClient

namespace FileStore

variable {path : DiskPath} {disk left : Disk} {items : Dictionary String} {store after : FileStore}
  {change : StorageWrite}

theorem load_congr (same : left.read path = disk.read path) : load path left = load path disk := by
  rw [load, load, Disk.readText, Disk.readText, same]

/-- Where writing a map is refused, it breaks off: with nothing written, or with all of the sibling. -/
theorem interrupted_of_persist {failure : Failure} (refused : persist path items disk = (left, .error failure)) :
    Interrupted path items disk left := by
  rw [persist] at refused
  cases wrote : disk.write (temporary path) (content items) with
  | error problem =>
      rw [wrote] at refused
      cases refused
      exact .before
  | ok written =>
      rw [wrote] at refused
      dsimp only at refused
      cases moved : written.rename (temporary path) path with
      | error problem =>
          rw [moved] at refused
          cases refused
          exact .writing List.prefix_rfl wrote
      | ok renamed => rw [moved] at refused; cases refused

/-- A change of a store that fails, with the store and the disk it leaves. -/
inductive Fails (store : FileStore) (disk : Disk) (change : StorageWrite) : FileStore → Disk → Prop
  /-- The disk refuses to write the sibling or to rename it. -/
  | refused {after : FileStore} {left : Disk} {failure : Failure}
      (done : store.write disk change = (after, left, .error failure)) : Fails store disk change after left
  /-- Writing the sibling breaks off, or the disk fails to rename it. -/
  | broken {left : Disk} (rewrites : change.rewrites store.items = true)
      (broken : Interrupted store.path (change.apply store.items) disk left) :
      Fails store disk change (store.write disk change).1 left

/-- Only a change that rewrites the file can fail. It is made in memory, and writing it breaks off. -/
theorem Fails.interrupted (fails : Fails store disk change after left) :
    change.rewrites store.items = true ∧ after = { store with items := change.apply store.items } ∧
      Interrupted store.path (change.apply store.items) disk left := by
  cases fails with
  | refused done =>
      cases rewrites : change.rewrites store.items with
      | false => rw [write_of_not_rewrites rewrites] at done; cases done
      | true =>
          rw [write_of_rewrites rewrites] at done
          obtain ⟨rfl, refused⟩ := Prod.mk.inj done
          exact ⟨rfl, rfl, interrupted_of_persist refused⟩
  | broken rewrites broken => exact ⟨rewrites, by rw [write_of_rewrites rewrites], broken⟩

/-- What a failed change leaves: a store in memory that is ahead of its file. -/
structure RunsAhead (store : FileStore) (disk : Disk) (change : StorageWrite) (after : FileStore) (left : Disk) :
    Prop where
  /-- In memory the change is made as if it had succeeded. -/
  shows : after.path = store.path ∧ after.items.get? = change.on store.items.get?
  /-- The file is as it was, unless it is its own sibling. -/
  keeps : ¬ store.path.HasTemporaryName → left.read store.path = disk.read store.path
  /-- Whoever opens the path finds what the file held before. -/
  reopens : ¬ store.path.HasTemporaryName → ∀ {final reopened}, openPath store.path left = (final, .ok reopened) →
    load store.path disk = .ok reopened.items
  reopenable : ¬ store.path.HasTemporaryName → ∀ {items}, load store.path disk = .ok items →
    IsWritable store.path left → ∃ final, openPath store.path left = (final, .ok ⟨store.path, items⟩)
  /-- A file that agreed with memory does so no longer, unless the change changes nothing. -/
  disagrees : ¬ store.path.HasTemporaryName → load store.path disk = .ok store.items →
    (load store.path left = .ok after.items ↔ change.on store.items.get? = store.items.get?)
  /-- To try a removal again succeeds and leaves the file alone, on whatever disk. -/
  forgets : ∀ {key}, change = .remove key → ∀ later, after.write later (.remove key) = (after, later, .ok ())
  /-- The next change that is written takes the failed one along. -/
  carries : ∀ {next later final last}, next.rewrites after.items = true → after.write later next = (last, final, .ok ()) →
    load store.path final = .ok last.items ∧ last.items.get? = next.on (change.on store.items.get?)

theorem Fails.runsAhead (fails : Fails store disk change after left) (openable : IsOpenable store.path) :
    RunsAhead store disk change after left := by
  obtain ⟨rewrites, rfl, broken⟩ := fails.interrupted
  obtain ⟨before, name, ends⟩ := openable.exists_endsIn
  have keeps (distinct : ¬ store.path.HasTemporaryName) : load store.path left = load store.path disk :=
    load_congr (broken.read_eq ends distinct)
  constructor
  case shows => exact ⟨rfl, StorageWrite.get?_apply store.items change⟩
  case keeps => exact fun distinct => broken.read_eq ends distinct
  case reopens =>
    intro distinct final reopened opened
    rw [← keeps distinct]
    exact (isKept_openPath opened).2.1
  case reopenable =>
    intro distinct items loads writable
    rw [← keeps distinct] at loads
    have kept : IsKept ⟨store.path, items⟩ left := ⟨loads, writable⟩
    exact kept.reopens
  case disagrees =>
    intro distinct loads
    rw [keeps distinct, loads, ← StorageWrite.get?_apply]
    constructor
    · intro same
      exact congrArg Dictionary.get? (Except.ok.inj same).symm
    · intro same
      exact congrArg Except.ok (Dictionary.ext_get? (congrFun same)).symm
  case forgets =>
    rintro key rfl later
    have gone : (store.items.erase key).get? key = none := (Dictionary.get?_erase store.items key key).trans (if_pos rfl)
    refine write_of_not_rewrites ?_
    rw [StorageWrite.rewrites, StorageWrite.apply, Dictionary.contains, gone]
    rfl
  case carries =>
    intro next later final last rewrites done
    rw [write_of_rewrites rewrites] at done
    obtain ⟨rfl, written⟩ := Prod.mk.inj done
    refine ⟨(isKept_of_persist written).loads, ?_⟩
    dsimp only
    rw [StorageWrite.get?_apply, StorageWrite.get?_apply]

/-- A disk where a directory stands in the place of the sibling. -/
def blockedDisk : Disk :=
  vaultDisk.put ["vault.tmp"] .directory

theorem runsAhead_blockedDisk : ∃ after, RunsAhead vault blockedDisk (.set "b" "2") after blockedDisk := by
  have done : vault.write blockedDisk (.set "b" "2") =
      (⟨vault.path, vault.items.insert "b" "2"⟩, blockedDisk, .error (.storage "OS error")) := rfl
  exact ⟨_, Fails.runsAhead (.refused done) isOpenable_vault⟩

/-- An entry that could not be written is shown by the store, and is not in the file. -/
theorem shown_blockedDisk : ∃ after, openPath vault.path vaultDisk = (vaultDisk, .ok vault) ∧
    vaultDisk.makeDirectory ⟨["vault.tmp"]⟩ = .ok blockedDisk ∧
    vault.set "b" "2" blockedDisk = (after, blockedDisk, .error (.storage "OS error")) ∧
    vault.items.get? "b" = none ∧ after.items.get? "b" = some "2" ∧ load vault.path blockedDisk = .ok vault.items :=
  ⟨_, rfl, rfl, rfl, rfl, rfl, rfl⟩

end FileStore

end RelayClient
