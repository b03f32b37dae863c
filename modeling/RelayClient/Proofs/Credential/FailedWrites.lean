import RelayClient.Proofs.Credential.Contents
import RelayClient.Proofs.Storage.Changes

/-!
# Writes of a credential that fail

A write picks a cost, seals the credential, writes its record, and then sets or removes the flag. Any of
these may fail, and the write ends there. Record and flag are entries of their own, which nothing binds
together: where only the flag cannot be written, the new record stays.
-/

namespace RelayClient

/-- An outcome, or the failure that befalls it. -/
def Failure.struck {α : Type} (fault : Option Failure) (outcome : Except Failure α) : Except Failure α :=
  match fault with
  | some failure => .error failure
  | none => outcome

namespace Storage

variable {storage : Storage}

/-- Makes a change, which may be kept from happening. -/
def attempt (storage : Storage) (fault : Option Failure) (change : StorageWrite) : Storage × Except Failure Unit :=
  match fault with
  | some failure => (storage, .error failure)
  | none => storage.write change

theorem IsSound.attempt (sound : storage.IsSound) (fault : Option Failure) (change : StorageWrite) :
    (storage.attempt fault change).1.IsSound ∧
      ((storage.attempt fault change).2 ≠ .ok () → (storage.attempt fault change).1 = storage) := by
  cases fault with
  | none => exact sound.write change
  | some failure => exact ⟨sound, fun _ => rfl⟩

theorem attempt_of_ok {fault : Option Failure} {change : StorageWrite}
    (done : (storage.attempt fault change).2 = .ok ()) :
    (storage.attempt fault change).1.items.get? = change.on storage.items.get? ∧
      (storage.attempt fault change).1.refusals = storage.refusals := by
  cases fault with
  | none => exact ⟨get?_write_of_ok done, write_refusals storage change⟩
  | some failure => cases done

end Storage

namespace KeyStore

/-- What befalls the steps of a write. -/
structure Faults where
  cost : Option Failure := none
  /-- Deriving the key, or sealing with it. -/
  sealing : Option Failure := none
  record : Option Failure := none
  flag : Option Failure := none

/-- Seals a credential and writes its record. -/
def writeRecord (keys : KeyStore) (faults : Faults) (trusted : TrustedKey) (password : String) (draw : Draw) :
    KeyStore × Except Failure Unit :=
  let cost := WorkFactor.extrapolate draw.elapsed WorkFactor.benchmarkLogN keys.target
  match (Failure.struck faults.cost cost).bind fun logN =>
      Failure.struck faults.sealing (sealRecord trusted password draw logN) with
  | .error failure => (keys, .error failure)
  | .ok record =>
      let written := keys.storage.attempt faults.record (.set recordKey record.render)
      ({ keys with storage := written.1 }, written.2)

/-- Writes a credential over any other, with what befalls the steps of that. -/
def storeWith (keys : KeyStore) (faults : Faults) (trusted : TrustedKey) (password : String) (auto : Bool) (draw : Draw) :
    KeyStore × Except Failure Unit :=
  match keys.writeRecord faults trusted password draw with
  | (after, .error failure) => (after, .error failure)
  | (after, .ok _) =>
      let flagged := after.storage.attempt faults.flag (autoWrite auto)
      ({ after with storage := flagged.1 }, flagged.2)

variable {keys after : KeyStore} {faults : Faults} {trusted : TrustedKey} {password : String} {auto : Bool} {draw : Draw}

/-- Where nothing befalls its steps, a write is just that. -/
theorem storeWith_unstruck : keys.storeWith {} trusted password auto draw = keys.store trusted password auto draw := by
  rw [storeWith, writeRecord, store, storeAt]
  dsimp only [Failure.struck]
  cases (WorkFactor.extrapolate draw.elapsed WorkFactor.benchmarkLogN keys.target).bind
      (sealRecord trusted password draw) with
  | error failure => rfl
  | ok record =>
      dsimp only [Storage.attempt]
      rw [Storage.write]
      cases keys.storage.set recordKey record.render with
      | mk storage result =>
          cases result with
          | error failure => rfl
          | ok _ =>
              dsimp only
              rw [writeAuto_eq]

/-- The record of a credential was written, and nothing else was. -/
structure Wrote (keys : KeyStore) (trusted : TrustedKey) (password : String) (after : KeyStore) : Prop where
  sound : after.storage.IsSound
  refusals : after.storage.refusals = keys.storage.refusals
  record : ∃ record, openCurrent (KeyRecord.render record) password = .ok trusted ∧
    after.storage.items.get? = Function.update keys.storage.items.get? recordKey (some record.render)

/-- So it can where a failure might have befallen its steps. -/
theorem openCurrent_of_struck {record : KeyRecord} {cost : Except Failure Nat} (bounded : IsWithinBounds cost)
    (sealed : (Failure.struck faults.cost cost).bind (fun logN =>
      Failure.struck faults.sealing (sealRecord trusted password draw logN)) = .ok record) :
    openCurrent record.render password = .ok trusted := by
  obtain ⟨costFault, sealingFault, recordFault, flagFault⟩ := faults
  cases costFault with
  | some failure => cases sealed
  | none =>
      cases sealingFault with
      | some failure => cases cost <;> cases sealed
      | none => exact openCurrent_of_sealed bounded sealed

/-- The record is written, or nothing is. -/
theorem writeRecord_cases (sound : keys.storage.IsSound) (faults : Faults) (trusted : TrustedKey) (password : String)
    (draw : Draw) :
    ((keys.writeRecord faults trusted password draw).2 ≠ .ok () ∧
        (keys.writeRecord faults trusted password draw).1 = keys) ∨
      ((keys.writeRecord faults trusted password draw).2 = .ok () ∧
        keys.Wrote trusted password (keys.writeRecord faults trusted password draw).1) := by
  have bounded := isWithinBounds_extrapolate draw.elapsed WorkFactor.benchmarkLogN keys.target
  rw [writeRecord]
  dsimp only
  cases sealed : (Failure.struck faults.cost _).bind _ with
  | error failure => exact .inl ⟨nofun, rfl⟩
  | ok record =>
      dsimp only
      obtain ⟨written, kept⟩ := sound.attempt faults.record (.set recordKey record.render)
      by_cases done : (keys.storage.attempt faults.record (.set recordKey record.render)).2 = .ok ()
      · obtain ⟨changed, refusals⟩ := Storage.attempt_of_ok done
        exact .inr ⟨done, written, refusals, record, openCurrent_of_struck bounded sealed, changed⟩
      · refine .inl ⟨done, ?_⟩
        rw [kept done]

/-- What a write leaves when it fails. -/
structure LeftBy (keys : KeyStore) (faults : Faults) (trusted : TrustedKey) (password : String) (draw : Draw)
    (after : KeyStore) : Prop where
  /-- Every entry but the record reads as before, the flag among them. -/
  others : ∀ key, key ≠ recordKey → after.storage.get key = keys.storage.get key
  auto : after.isAutoSession = keys.isAutoSession
  /-- Nothing changes where the record was not written. -/
  early : (keys.writeRecord faults trusted password draw).2 ≠ .ok () → after = keys
  /-- Where it was, the new credential stays. -/
  late : (keys.writeRecord faults trusted password draw).2 = .ok () →
    ∃ record, openCurrent (KeyRecord.render record) password = .ok trusted ∧
      after.storage.get recordKey = (keys.storage.get recordKey).map fun _ => some record.render

theorem Wrote.get (wrote : keys.Wrote trusted password after) {key : String} (other : key ≠ recordKey) :
    after.storage.get key = keys.storage.get key := by
  obtain ⟨record, -, changed⟩ := wrote.record
  rw [Storage.get, Storage.get, wrote.refusals, changed, Function.update_of_ne other]

theorem Wrote.get_record (wrote : keys.Wrote trusted password after) :
    ∃ record, openCurrent (KeyRecord.render record) password = .ok trusted ∧
      after.storage.get recordKey = (keys.storage.get recordKey).map fun _ => some record.render := by
  obtain ⟨record, opens, changed⟩ := wrote.record
  refine ⟨record, opens, ?_⟩
  rw [Storage.get, Storage.get, wrote.refusals, changed, Function.update_self]
  cases keys.storage.refusals.get <;> rfl

/-- A write that fails leaves what writing the record left. -/
theorem storeWith_of_failed (sound : keys.storage.IsSound) {failure : Failure}
    (failed : keys.storeWith faults trusted password auto draw = (after, .error failure)) :
    after = (keys.writeRecord faults trusted password draw).1 := by
  have outcome := writeRecord_cases sound faults trusted password draw
  rw [storeWith] at failed
  cases wrote : keys.writeRecord faults trusted password draw with
  | mk reached result =>
      rw [wrote] at failed outcome
      cases result with
      | error failure =>
          cases failed
          rfl
      | ok _ =>
          rcases outcome with ⟨unwritten, -⟩ | ⟨-, written⟩
          · exact absurd rfl unwritten
          dsimp only at failed
          obtain ⟨rfl, refused⟩ := Prod.mk.inj failed
          have kept := (written.sound.attempt faults.flag (autoWrite auto)).2 (by rw [refused]; exact nofun)
          rw [kept]

theorem leftBy_of_failed (sound : keys.storage.IsSound) {failure : Failure}
    (failed : keys.storeWith faults trusted password auto draw = (after, .error failure)) :
    keys.LeftBy faults trusted password draw after := by
  have left := storeWith_of_failed sound failed
  rcases writeRecord_cases sound faults trusted password draw with ⟨unwritten, same⟩ | ⟨written, wrote⟩
  · rw [left, same]
    exact ⟨fun _ _ => rfl, rfl, fun _ => rfl, fun written => absurd written unwritten⟩
  · rw [← left] at wrote
    constructor
    case others => exact fun key other => wrote.get other
    case auto => rw [isAutoSession, isAutoSession, wrote.get (by decide)]
    case early => exact fun unwritten => absurd written unwritten
    case late => exact fun _ => wrote.get_record

/-- Writes fail in two parts: the record, and behind it the flag. -/
structure FailsInParts (keys : KeyStore) : Prop where
  /-- Without faults of their own, the steps fail where storage refuses. -/
  unstruck : ∀ trusted password auto draw,
    keys.storeWith {} trusted password auto draw = keys.store trusted password auto draw
  failed : ∀ faults trusted password auto draw after failure,
    keys.storeWith faults trusted password auto draw = (after, .error failure) →
      keys.LeftBy faults trusted password draw after

/-- Whichever of its steps fails, a write over sound storage leaves the flag, and the record as well unless that was
written already. -/
theorem failsInParts_of_isSound (sound : keys.storage.IsSound) : keys.FailsInParts where
  unstruck _ _ _ _ := storeWith_unstruck
  failed _ _ _ _ _ _ _ failed := leftBy_of_failed sound failed

/-- Where a cost is picked and the record can be written, how a write ends is up to the flag. -/
theorem exists_store_eq (keys : KeyStore) (trusted : TrustedKey) (password : String) (auto : Bool) {logN : Nat}
    (picked : WorkFactor.extrapolate draw.elapsed WorkFactor.benchmarkLogN keys.target = .ok logN)
    (accepts : ∀ value, (keys.storage.write (.set recordKey value)).2 = .ok ()) :
    ∃ record, openCurrent (KeyRecord.render record) password = .ok trusted ∧
      keys.store trusted password auto draw =
        ({ keys with storage := ((keys.storage.write (.set recordKey record.render)).1.write (autoWrite auto)).1 },
          ((keys.storage.write (.set recordKey record.render)).1.write (autoWrite auto)).2) := by
  obtain ⟨least, most⟩ := WorkFactor.extrapolate_bounds picked
  have sealable : ∃ record, sealRecord trusted password draw logN = .ok record := exists_sealRecord_eq least most
  obtain ⟨record, sealed⟩ := sealable
  have bound : (WorkFactor.extrapolate draw.elapsed WorkFactor.benchmarkLogN keys.target).bind
      (sealRecord trusted password draw) = .ok record := by rw [picked]; exact sealed
  have wrote : keys.storage.set recordKey record.render =
      ((keys.storage.write (.set recordKey record.render)).1, .ok ()) := Prod.ext rfl (accepts record.render)
  refine ⟨record, openCurrent_of_sealed (isWithinBounds_extrapolate _ _ _) bound, ?_⟩
  rw [store, storeAt, bound]
  dsimp only
  rw [wrote]
  dsimp only
  rw [writeAuto_eq]

/-- A write whose timed run takes a millisecond. -/
def swiftDraw : Draw :=
  ⟨.fit _ [], .fit _ [], 10 ^ 6⟩

/-- After such a run a cost can be picked for a second. -/
theorem exists_extrapolate_swiftDraw :
    ∃ logN, WorkFactor.extrapolate swiftDraw.elapsed WorkFactor.benchmarkLogN (10 ^ 9) = .ok logN := by
  unfold WorkFactor.extrapolate
  dsimp only
  rw [if_neg (by decide +kernel)]
  exact ⟨_, rfl⟩

/-- A store over memory that removes nothing. -/
def stubbornKeys : KeyStore :=
  ⟨{ refusals := { remove := true } }, 10 ^ 9, none⟩

theorem failsInParts_stubbornKeys : stubbornKeys.FailsInParts :=
  failsInParts_of_isSound (.memory rfl)

def plainKey : TrustedKey :=
  ⟨.fit 32 [1], .fit 32 [2], none⟩

/-- The flag cannot be removed, so that the write fails, and yet its credential can be read from then on. -/
theorem replaced_stubbornKeys : ∃ after raw,
    stubbornKeys.store plainKey "p" false swiftDraw = (after, .error (.storage "remove refused")) ∧
    stubbornKeys.storage.get recordKey = .ok none ∧ after.storage.get recordKey = .ok (some raw) ∧
    openCurrent raw "p" = .ok plainKey := by
  obtain ⟨logN, picked⟩ := exists_extrapolate_swiftDraw
  have accepts (value : String) : (stubbornKeys.storage.write (.set recordKey value)).2 = .ok () := rfl
  obtain ⟨record, opens, stored⟩ := exists_store_eq stubbornKeys plainKey "p" false picked accepts
  have kept : (stubbornKeys.storage.write (.set recordKey record.render)).1.write (autoWrite false) =
      ((stubbornKeys.storage.write (.set recordKey record.render)).1, .error (.storage "remove refused")) := rfl
  rw [kept] at stored
  have held := congrFun (Storage.get?_write_of_ok (accepts record.render)) recordKey
  refine ⟨_, record.render, stored, rfl, ?_, opens⟩
  rw [Storage.get, held, StorageWrite.on, Function.update_self]
  rfl

end KeyStore

end RelayClient
