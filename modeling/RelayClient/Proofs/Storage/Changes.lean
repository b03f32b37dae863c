import RelayClient.Proofs.Storage.Durability

/-!
# Changes of storage

A change is made to a map, and written to the file of the map if it has one. Only a removal of what is
not there is not written. A change that is carried out changes storage as a plain map, whether the storage
is reliable or not; one that is refused leaves storage as it was, unless it is the file that fails.
-/

namespace RelayClient

namespace StorageWrite

/-- A map after a change. -/
def apply (before : Dictionary String) : StorageWrite → Dictionary String
  | .set key value => before.insert key value
  | .remove key => before.erase key

/-- Whether a change of a map rewrites its file: what is not there is removed without writing. -/
def rewrites (before : Dictionary String) : StorageWrite → Bool
  | .set _ _ => true
  | .remove key => before.contains key

theorem get?_apply (before : Dictionary String) (change : StorageWrite) :
    (change.apply before).get? = change.on before.get? := by
  funext other
  cases change with
  | set key value => rw [on, Function.update_apply]; exact Dictionary.get?_insert before key other value
  | remove key => rw [on, Function.update_apply]; exact Dictionary.get?_erase before key other

/-- A change that does not rewrite a map changes nothing in it. -/
theorem on_of_not_rewrites {items : Dictionary String} {change : StorageWrite} (idle : change.rewrites items = false) :
    change.on items.get? = items.get? := by
  cases change with
  | set key value => cases idle
  | remove key =>
      have absent : items.get? key = none := Option.not_isSome_iff_eq_none.mp (Bool.eq_false_iff.mp idle)
      rw [on, ← absent]
      exact Function.update_eq_self key items.get?

end StorageWrite

namespace FileStore

variable {disk : Disk} {store : FileStore} {change : StorageWrite}

/-- Makes a change. -/
def write (store : FileStore) (disk : Disk) : StorageWrite → FileStore × Disk × Except Failure Unit
  | .set key value => store.set key value disk
  | .remove key => store.remove key disk

theorem write_of_rewrites (rewrites : change.rewrites store.items = true) :
    store.write disk change =
      ({ store with items := change.apply store.items }, persist store.path (change.apply store.items) disk) := by
  cases change with
  | set key value => rfl
  | remove key => exact if_pos rewrites

theorem write_of_not_rewrites (idle : change.rewrites store.items = false) :
    store.write disk change = (store, disk, .ok ()) := by
  cases change with
  | set key value => cases idle
  | remove key => exact if_neg (by rw [show store.items.contains key = false from idle]; exact Bool.false_ne_true)

/-- A change of a store whose file is kept succeeds, and the file stays kept. -/
theorem IsKept.write (kept : store.IsKept disk) (change : StorageWrite) :
    (store.write disk change).2.2 = .ok () ∧ (store.write disk change).1.IsKept (store.write disk change).2.1 := by
  cases change with
  | set key value =>
      obtain ⟨after, done, next⟩ := kept.set key value
      rw [FileStore.write, done]
      exact ⟨rfl, next⟩
  | remove key =>
      obtain ⟨left, after, done, -, next⟩ := kept.remove key
      rw [FileStore.write, done]
      exact ⟨rfl, next⟩

end FileStore

/-- Whether a change is set to be refused. -/
def Refusals.refuses (refusals : Refusals) : StorageWrite → Bool
  | .set _ _ => refusals.set
  | .remove _ => refusals.remove

namespace Storage

variable {storage : Storage} {change : StorageWrite}

theorem write_of_refused (refused : storage.refusals.refuses change = true) :
    ∃ failure, storage.write change = (storage, .error failure) := by
  cases change with
  | set key value => exact ⟨_, if_pos refused⟩
  | remove key => exact ⟨_, if_pos refused⟩

theorem write_memory {items : Dictionary String} (held : storage.backend = .memory items)
    (accepted : storage.refusals.refuses change = false) :
    storage.write change = ({ storage with backend := .memory (change.apply items) }, .ok ()) := by
  cases change with
  | set key value => rw [write, set, show storage.refusals.set = false from accepted, held]; rfl
  | remove key => rw [write, remove, show storage.refusals.remove = false from accepted, held]; rfl

theorem write_file {store : FileStore} (held : storage.backend = .file store)
    (accepted : storage.refusals.refuses change = false) :
    storage.write change =
      ({ storage with backend := .file (store.write storage.disk change).1, disk := (store.write storage.disk change).2.1 },
        (store.write storage.disk change).2.2) := by
  cases change with
  | set key value => rw [write, set, show storage.refusals.set = false from accepted, held]; rfl
  | remove key => rw [write, remove, show storage.refusals.remove = false from accepted, held]; rfl

/-- A change that is carried out changes storage as a plain map, in memory and in a file alike. -/
theorem get?_write_of_ok (done : (storage.write change).2 = .ok ()) :
    (storage.write change).1.items.get? = change.on storage.items.get? := by
  cases accepted : storage.refusals.refuses change with
  | true =>
      obtain ⟨failure, refused⟩ := write_of_refused accepted
      rw [refused] at done
      cases done
  | false =>
      cases held : storage.backend with
      | memory items =>
          rw [write_memory held accepted, Storage.items, Storage.items, held]
          exact StorageWrite.get?_apply items change
      | file store =>
          rw [write_file held accepted, Storage.items, Storage.items, held]
          cases rewrites : change.rewrites store.items with
          | false =>
              rw [FileStore.write_of_not_rewrites rewrites]
              exact (StorageWrite.on_of_not_rewrites rewrites).symm
          | true =>
              rw [FileStore.write_of_rewrites rewrites]
              exact StorageWrite.get?_apply store.items change

/-- Memory, or a file that is kept: nothing but a refusal keeps such storage from being changed. -/
inductive IsSound (storage : Storage) : Prop
  | memory {items : Dictionary String} (held : storage.backend = .memory items) : IsSound storage
  | file {store : FileStore} (held : storage.backend = .file store) (kept : store.IsKept storage.disk) : IsSound storage

/-- Sound storage is left as it was by a change that it refuses, and stays sound. -/
theorem IsSound.write (sound : storage.IsSound) (change : StorageWrite) :
    (storage.write change).1.IsSound ∧ ((storage.write change).2 ≠ .ok () → (storage.write change).1 = storage) := by
  cases accepted : storage.refusals.refuses change with
  | true =>
      obtain ⟨failure, refused⟩ := write_of_refused accepted
      rw [refused]
      exact ⟨sound, fun _ => rfl⟩
  | false =>
      cases sound with
      | memory held =>
          rw [write_memory held accepted]
          exact ⟨.memory rfl, fun failed => absurd rfl failed⟩
      | file held kept =>
          obtain ⟨done, next⟩ := kept.write change
          rw [write_file held accepted]
          exact ⟨.file rfl next, fun failed => absurd done failed⟩

end Storage

end RelayClient
