import RelayClient.Proofs.Credential.Sealing
import RelayClient.Proofs.Storage.Reliable

/-!
# What a key store holds

On reliable storage a key store holds a credential or nothing, and each call
either replaces what it holds or leaves it alone.
-/

namespace RelayClient

theorem WorkFactor.extrapolate_bounds {elapsed benchmark target logN : Nat}
    (picked : extrapolate elapsed benchmark target = .ok logN) : minLogN ≤ logN ∧ logN ≤ maxLogN := by
  unfold extrapolate at picked
  dsimp only at picked
  split at picked
  · cases picked
  · cases picked
    exact ⟨Nat.le_max_left _ _, Nat.max_le.mpr ⟨by decide, Nat.min_le_left _ _⟩⟩

namespace KeyStore

/-- A cost lies within the bounds, if one was picked. -/
def IsWithinBounds (cost : Except Failure Nat) : Prop :=
  ∀ logN, cost = .ok logN → WorkFactor.minLogN ≤ logN ∧ logN ≤ WorkFactor.maxLogN

def Holds (keys : KeyStore) (trusted : TrustedKey) (password : String) (auto : Bool) : Prop :=
  ∃ record, openCurrent (KeyRecord.render record) password = .ok trusted ∧
    keys.storage.items.get? recordKey = some record.render ∧
    keys.storage.items.get? autoKey = if auto then some autoValue else none

/-- The store holds nothing. -/
def IsEmpty (keys : KeyStore) : Prop :=
  keys.storage.items.get? recordKey = none ∧ keys.storage.items.get? autoKey = none

variable {keys : KeyStore} {trusted : TrustedKey} {password : String} {auto : Bool}

theorem Holds.isAutoSession (holds : keys.Holds trusted password auto) (reliable : keys.storage.Reliable) :
    keys.isAutoSession = auto := by
  obtain ⟨_, _, _, flag⟩ := holds
  rw [KeyStore.isAutoSession, reliable.get, flag]
  cases auto <;> rfl

/-- A record in the current format is opened where it is. -/
theorem retrieve_of_current {raw text : String} (stored : keys.storage.get recordKey = .ok (some raw))
    (format : StoredFormat.classify raw = .current text) (attempt : String) (draw : Draw) :
    keys.retrieve attempt draw = (keys, (openCurrent raw attempt).map some) := by
  rw [KeyStore.retrieve, stored]
  dsimp only
  rw [format]
  dsimp only
  rw [retrieveCurrent, stored]

/-- A credential that is held is left where it is, and its password opens it. -/
theorem Holds.retrieve (holds : keys.Holds trusted password auto) (reliable : keys.storage.Reliable)
    (attempt : String) (draw : Draw) :
    (keys.retrieve attempt draw).1 = keys ∧ keys.retrieve password draw = (keys, .ok (some trusted)) := by
  obtain ⟨record, opens, held, _⟩ := holds
  have found : keys.storage.get recordKey = .ok (some record.render) := by rw [reliable.get, held]
  rw [retrieve_of_current found record.classify_render, retrieve_of_current found record.classify_render, opens]
  exact ⟨rfl, rfl⟩

theorem IsEmpty.retrieve (empty : keys.IsEmpty) (reliable : keys.storage.Reliable) (attempt : String) (draw : Draw) :
    keys.retrieve attempt draw = (keys, .ok none) := by
  rw [KeyStore.retrieve, reliable.get, empty.1]

theorem IsEmpty.hasTrustedKey (empty : keys.IsEmpty) (reliable : keys.storage.Reliable) :
    keys.hasTrustedKey = false := by
  rw [KeyStore.hasTrustedKey, reliable.get, empty.1]

theorem IsEmpty.isAutoSession (empty : keys.IsEmpty) (reliable : keys.storage.Reliable) :
    keys.isAutoSession = false := by
  rw [KeyStore.isAutoSession, reliable.get, empty.2]

/-- The change of the flag that a write makes. -/
def autoWrite (auto : Bool) : StorageWrite :=
  if auto then .set autoKey autoValue else .remove autoKey

theorem writeAuto_eq (storage : Storage) (auto : Bool) : writeAuto storage auto = storage.write (autoWrite auto) := by
  cases auto <;> rfl

/-- The flag is what was written, and no other entry changes. -/
theorem get?_autoWrite {storage : Storage} (reliable : storage.Reliable) (auto : Bool) (key : String) :
    (storage.write (autoWrite auto)).1.items.get? key =
      if key = autoKey then (if auto then some autoValue else none) else storage.items.get? key := by
  cases auto with
  | true => exact reliable.get?_set autoKey autoValue key
  | false => exact reliable.get?_remove autoKey key

/-- On reliable storage a write fails only where no record was sealed, and else is carried out. -/
theorem storeAt_eq (reliable : keys.storage.Reliable) (cost : Except Failure Nat) (draw : Draw) :
    keys.storeAt cost trusted password auto draw =
      match cost.bind (sealRecord trusted password draw) with
      | .error failure => (keys, .error failure)
      | .ok record => ({ keys with
          storage := ((keys.storage.write (.set recordKey record.render)).1.write (autoWrite auto)).1 }, .ok ()) := by
  unfold storeAt
  cases cost.bind (sealRecord trusted password draw) with
  | error failure => rfl
  | ok record =>
      have wrote : keys.storage.set recordKey record.render =
          ((keys.storage.write (.set recordKey record.render)).1, .ok ()) :=
        Prod.ext rfl (reliable.ok (.set recordKey record.render))
      have flagged := (reliable.write (.set recordKey record.render)).ok (autoWrite auto)
      dsimp only
      rw [wrote]
      dsimp only
      rw [writeAuto_eq, flagged]

/-- On reliable storage a write at any cost within the bounds succeeds. -/
theorem storeAt_ok (reliable : keys.storage.Reliable) {logN : Nat} (least : WorkFactor.minLogN ≤ logN)
    (most : logN ≤ WorkFactor.maxLogN) (draw : Draw) :
    (keys.storeAt (.ok logN) trusted password auto draw).2 = .ok () := by
  have sealable : ∃ record, sealRecord trusted password draw logN = .ok record := exists_sealRecord_eq least most
  obtain ⟨record, sealed⟩ := sealable
  have bound : (Except.ok logN : Except Failure Nat).bind (sealRecord trusted password draw) = .ok record := sealed
  rw [storeAt_eq reliable, bound]

/-- A record that is sealed at a cost within the bounds can be opened again. -/
theorem openCurrent_of_sealed {record : KeyRecord} {cost : Except Failure Nat} {draw : Draw}
    (bounded : IsWithinBounds cost) (sealed : cost.bind (sealRecord trusted password draw) = .ok record) :
    openCurrent record.render password = .ok trusted := by
  cases cost with
  | error failure => cases sealed
  | ok logN =>
      obtain ⟨least, most⟩ := bounded logN rfl
      exact openCurrent_render (Nat.le_trans (by decide) least) (Nat.lt_of_le_of_lt most (by decide)) sealed

/-- A write that succeeds leaves its credential; one that fails leaves the store as it was. -/
theorem storeAt_cases (reliable : keys.storage.Reliable) {cost : Except Failure Nat} (bounded : IsWithinBounds cost)
    (draw : Draw) :
    ((keys.storeAt cost trusted password auto draw).2 ≠ .ok () ∧
        (keys.storeAt cost trusted password auto draw).1 = keys) ∨
      ((keys.storeAt cost trusted password auto draw).2 = .ok () ∧
        (keys.storeAt cost trusted password auto draw).1.Holds trusted password auto ∧
        (keys.storeAt cost trusted password auto draw).1.storage.Reliable) := by
  rw [storeAt_eq reliable]
  cases sealed : cost.bind (sealRecord trusted password draw) with
  | error failure => exact .inl ⟨nofun, rfl⟩
  | ok record =>
      have written := reliable.write (.set recordKey record.render)
      refine .inr ⟨rfl, ⟨record, openCurrent_of_sealed bounded sealed, ?_, ?_⟩, written.write _⟩
      · dsimp only
        rw [get?_autoWrite written, if_neg (by decide), reliable.get?_set, if_pos rfl]
      · dsimp only
        rw [get?_autoWrite written, if_pos rfl]

/-- Forgetting leaves nothing, not even a password. -/
theorem clear_spec (reliable : keys.storage.Reliable) :
    keys.clear.IsEmpty ∧ keys.clear.storage.Reliable ∧ keys.clear.password = none := by
  have removed := reliable.write (.remove recordKey)
  refine ⟨⟨?_, ?_⟩, removed.write (.remove autoKey), rfl⟩
  · have kept := removed.get?_remove autoKey recordKey
    rw [if_neg (by decide), reliable.get?_remove, if_pos rfl] at kept
    exact kept
  · have gone := removed.get?_remove autoKey autoKey
    rw [if_pos rfl] at gone
    exact gone

/-- Reading leaves the store as it was, or writes a deprecated record anew. -/
theorem retrieve_cases (keys : KeyStore) (attempt : String) (draw : Draw) :
    (keys.retrieve attempt draw).1 = keys ∨ ∃ trusted,
      (keys.retrieve attempt draw).1 = (keys.store trusted attempt keys.isAutoSession draw).1 := by
  unfold KeyStore.retrieve
  split
  · exact .inl rfl
  · exact .inl rfl
  split
  · exact .inl rfl
  split
  · exact .inl rfl
  · next trusted _ =>
      refine .inr ⟨trusted, ?_⟩
      split
      · next wrote => rw [wrote]
      · next wrote => rw [wrote]

theorem isWithinBounds_extrapolate (elapsed benchmark target : Nat) :
    IsWithinBounds (WorkFactor.extrapolate elapsed benchmark target) :=
  fun _ picked => WorkFactor.extrapolate_bounds picked

theorem reliable_retrieve (reliable : keys.storage.Reliable) (attempt : String) (draw : Draw) :
    (keys.retrieve attempt draw).1.storage.Reliable := by
  rcases keys.retrieve_cases attempt draw with same | ⟨trusted, same⟩
  · rw [same]
    exact reliable
  · rw [same, store]
    rcases storeAt_cases reliable (isWithinBounds_extrapolate _ _ _) draw with ⟨_, kept⟩ | ⟨_, _, after⟩
    · rw [kept]
      exact reliable
    · exact after

end KeyStore

end RelayClient
