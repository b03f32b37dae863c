import RelayClient.Storage.Basic

/-!
# Reliable storage

Storage is reliable when nothing it is asked for is refused, now or after any
writes. Reliable storage behaves as the dictionary of its items, in memory and in
a file alike.
-/

namespace RelayClient

inductive StorageWrite where
  | set (key value : String)
  | remove (key : String)

namespace Storage

/-- Makes a change. -/
def write (storage : Storage) : StorageWrite → Storage × Except Failure Unit
  | .set key value => storage.set key value
  | .remove key => storage.remove key

/-- Storage after changes, whatever became of them. -/
def writeAll (storage : Storage) (writes : List StorageWrite) : Storage :=
  writes.foldl (fun current write => (current.write write).1) storage

/-- Neither reading nor any change is ever refused. -/
structure Reliable (storage : Storage) : Prop where
  reads : storage.refusals.get = false
  writes : ∀ before write, ((storage.writeAll before).write write).2 = .ok ()

theorem write_refusals (storage : Storage) (write : StorageWrite) :
    (storage.write write).1.refusals = storage.refusals := by
  cases write with
  | set key value =>
      rw [Storage.write, set]
      split
      · rfl
      · split <;> rfl
  | remove key =>
      rw [Storage.write, remove]
      split
      · rfl
      · split <;> rfl

variable {storage : Storage}

theorem get_eq_ok_iff {key : String} {found : Option String} :
    storage.get key = .ok found ↔ storage.refusals.get = false ∧ storage.items.get? key = found := by
  rw [get]
  cases storage.refusals.get <;> simp

theorem Reliable.ok (reliable : storage.Reliable) (write : StorageWrite) : (storage.write write).2 = .ok () :=
  reliable.writes [] write

theorem Reliable.write (reliable : storage.Reliable) (write : StorageWrite) : (storage.write write).1.Reliable where
  reads := by rw [write_refusals]; exact reliable.reads
  writes before other := reliable.writes (write :: before) other

theorem Reliable.get (reliable : storage.Reliable) (key : String) : storage.get key = .ok (storage.items.get? key) := by
  rw [Storage.get, reliable.reads]
  rfl

theorem Reliable.not_refused (reliable : storage.Reliable) :
    storage.refusals.set = false ∧ storage.refusals.remove = false := by
  have set : (storage.set "" "").2 = .ok () := reliable.ok (.set "" "")
  have remove : (storage.remove "").2 = .ok () := reliable.ok (.remove "")
  unfold Storage.set at set
  unfold Storage.remove at remove
  constructor
  · cases refused : storage.refusals.set with
    | false => rfl
    | true => rw [refused] at set; cases set
  · cases refused : storage.refusals.remove with
    | false => rfl
    | true => rw [refused] at remove; cases remove

theorem Reliable.get?_set (reliable : storage.Reliable) (key value other : String) :
    (storage.write (.set key value)).1.items.get? other =
      if other = key then some value else storage.items.get? other := by
  have accepted := reliable.not_refused.1
  obtain ⟨backend, disk, refusals, blocked⟩ := storage
  rw [Storage.write, Storage.set, accepted]
  cases backend with
  | memory items => exact Dictionary.get?_insert items key other value
  | file store => exact Dictionary.get?_insert store.items key other value

/-- What is removed is not found any more. -/
theorem Reliable.get?_remove (reliable : storage.Reliable) (key other : String) :
    (storage.write (.remove key)).1.items.get? other =
      if other = key then none else storage.items.get? other := by
  have accepted := reliable.not_refused.2
  obtain ⟨backend, disk, refusals, blocked⟩ := storage
  rw [Storage.write, Storage.remove, accepted]
  cases backend with
  | memory items => exact Dictionary.get?_erase items key other
  | file store =>
      simp only [Bool.false_eq_true, if_false, FileStore.remove, items]
      by_cases present : store.items.contains key = true
      · rw [if_pos present]
        exact Dictionary.get?_erase store.items key other
      · have absent : store.items.get? key = none := by simpa [Dictionary.contains] using present
        rw [if_neg present]
        by_cases same : other = key
        · rw [if_pos same, same]
          exact absent
        · rw [if_neg same]

/-- Memory that refuses nothing stays so. -/
theorem exists_write_memory (items : Dictionary String) (write : StorageWrite) :
    ∃ after, ({ backend := .memory items } : Storage).write write = ({ backend := .memory after }, .ok ()) := by
  cases write with
  | set key value => exact ⟨items.insert key value, rfl⟩
  | remove key => exact ⟨items.erase key, rfl⟩

theorem reliable_memory (items : Dictionary String) : ({ backend := .memory items } : Storage).Reliable where
  reads := rfl
  writes before write := by
    induction before generalizing items with
    | nil =>
        obtain ⟨after, same⟩ := exists_write_memory items write
        rw [writeAll, List.foldl_nil, same]
    | cons first rest ih =>
        obtain ⟨after, same⟩ := exists_write_memory items first
        rw [writeAll, List.foldl_cons, same]
        exact ih after

/-- Memory finds what was put into it last. -/
theorem get_memory_insert (items : Dictionary String) (key value : String) :
    ({ backend := .memory (items.insert key value) } : Storage).get key = .ok (some value) := by
  have found : (items.insert key value).get? key = some value := by
    rw [Dictionary.get?_insert, if_pos rfl]
  exact congrArg Except.ok found

end Storage

end RelayClient
