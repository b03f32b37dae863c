import RelayClient.Proofs.Credential.Record
import RelayClient.Proofs.Json.Members

/-!
# Fields of a stored record

Each of the six fields of a record is read and checked by itself. A record is decoded when every field can be
used, and what is noted about a field hangs on what is found under its name alone.
-/

namespace RelayClient

theorem WorkFactor.logOf?_eq_some_iff {count log : Nat} : logOf? count = some log ↔ 1 ≤ log ∧ count = 2 ^ log := by
  constructor
  · intro found
    rw [logOf?] at found
    split at found
    · next power =>
        cases found
        obtain ⟨large, whole⟩ := power
        rcases Nat.eq_zero_or_pos count.log2 with zero | positive
        · rw [zero] at whole
          omega
        · exact ⟨positive, whole.symm⟩
    · cases found
  · rintro ⟨positive, rfl⟩
    exact logOf?_pow positive

namespace DecodedRecord

variable {found : Option JsonValue} {json : JsonValue} {record : DecodedRecord} {field : RecordField}

/-- A string of digits is found, and it spells a byte string. -/
def HoldsBytes (found : Option JsonValue) (bytes : Bytes) : Prop :=
  ∃ text, found = some (.string text) ∧ Text.Hex.Spells text.toList bytes

/-- The natural number that a number is used as: whole numbers may be written with a point. -/
def whole? (number : Json.Number) : Option Nat :=
  number.nat?.or (wholeOf? number.toFloat)

/-- A number is found, and it is used as a natural number. -/
def HoldsWhole (found : Option JsonValue) (value : Nat) : Prop :=
  ∃ number, found = some (.number number) ∧ whole? number = some value

theorem hexField_value_iff {bytes : Bytes} : (hexField found).value = some bytes ↔ HoldsBytes found bytes := by
  constructor
  · intro read
    rw [hexField.eq_def] at read
    split at read
    · cases read
    · next text =>
        split at read
        · next decoded =>
            cases read
            exact ⟨text, rfl, Text.Hex.decode_eq_ok_iff_spells.mp decoded⟩
        · cases read
    · cases read
  · rintro ⟨text, rfl, spells⟩
    rw [hexField, Text.Hex.decode_eq_ok_iff_spells.mpr spells]

/-- The digits that bytes are written in hold them. -/
theorem holdsBytes_encode (bytes : Bytes) : HoldsBytes (some (.string (Text.Hex.encode bytes))) bytes :=
  ⟨_, rfl, Text.Hex.decode_eq_ok_iff_spells.mp (Text.Hex.decode_encode bytes)⟩

/-- Bytes that are had leave nothing to note, and where there are none a fault is noted. -/
theorem hexField_faults : (hexField found).faults = [] ↔ ∃ bytes, (hexField found).value = some bytes := by
  rw [hexField.eq_def]
  split
  · simp
  · split <;> simp
  · simp

theorem whole?_natural (value : Nat) : whole? (.natural value) = some value := rfl

theorem holdsWhole_natural {value other : Nat} : HoldsWhole (some (.number (.natural value))) other ↔ value = other := by
  simp [HoldsWhole, whole?_natural]

theorem numberField_value_iff {value : Nat} : (numberField found).value = some value ↔ HoldsWhole found value := by
  cases found with
  | none => simp [numberField, HoldsWhole]
  | some json =>
      cases json with
      | null | bool | string | array | object => simp [numberField, HoldsWhole]
      | number number => cases number <;> simp [numberField, HoldsWhole, whole?, Json.Number.nat?]

/-- Only a natural number leaves nothing to note. -/
theorem numberField_faults : (numberField found).faults = [] ↔ ∃ value, found = some (.number (.natural value)) := by
  cases found with
  | none => simp [numberField]
  | some json =>
      cases json with
      | null | bool | string | array | object => simp [numberField]
      | number number => cases number <;> simp [numberField]

theorem check_faults {α : Type} (recovered : Recovered α) (fault? : α → Option RecordFault) :
    (recovered.check fault?).faults = recovered.faults ++ (recovered.value.bind fault?).toList := by
  rw [Recovered.check]
  split
  · next found => rw [found, Option.toList_some]
  · next found => rw [found, Option.toList_none, List.append_nil]

/-- What is noted about a field, by what is found under its name. -/
def faultsOf (found : Option JsonValue) : RecordField → List RecordFault
  | .nonce => ((hexField found).check nonceFault).faults
  | .salt => ((hexField found).check saltFault).faults
  | .n => ((numberField found).check entriesFault).faults
  | .r | .p => ((numberField found).check zeroFault).faults
  | .encrypted => ((hexField found).check ciphertextFault).faults

/-- The faults that are listed for a field. -/
def about (field : RecordField) (problems : List RecordProblem) : List RecordFault :=
  (problems.filter fun problem => problem.field = field).map RecordProblem.fault

theorem about_append (field : RecordField) (first second : List RecordProblem) :
    about field (first ++ second) = about field first ++ about field second := by
  rw [about, List.filter_append, List.map_append]
  rfl

theorem about_problemsOf (field other : RecordField) (faults : List RecordFault) :
    about field (problemsOf other faults) = if other = field then faults else [] := by
  rw [about, problemsOf, List.filter_map, List.map_map]
  split
  · next same => simp [Function.comp_def, same]
  · next apart => simp [Function.comp_def, apart]

/-- The problems of a value, field by field. -/
theorem ofJson_snd (json : JsonValue) : (ofJson json).2 =
    problemsOf .nonce (faultsOf (json.get? RecordField.nonce.name) .nonce) ++
      problemsOf .salt (faultsOf (json.get? RecordField.salt.name) .salt) ++
      problemsOf .n (faultsOf (json.get? RecordField.n.name) .n) ++
      problemsOf .r (faultsOf (json.get? RecordField.r.name) .r) ++
      problemsOf .p (faultsOf (json.get? RecordField.p.name) .p) ++
      problemsOf .encrypted (faultsOf (json.get? RecordField.encrypted.name) .encrypted) := by
  rw [ofJson]
  split <;> rfl

theorem about_ofJson (field : RecordField) (json : JsonValue) :
    about field (ofJson json).2 = faultsOf (json.get? field.name) field := by
  rw [ofJson_snd]
  cases field <;> simp [about_append, about_problemsOf]

theorem mem_about_iff {fault : RecordFault} {problems : List RecordProblem} :
    fault ∈ about field problems ↔ ⟨field, fault⟩ ∈ problems := by
  rw [about, List.mem_map]
  constructor
  · rintro ⟨⟨name, _⟩, mem, rfl⟩
    obtain ⟨inside, same⟩ := List.mem_filter.mp mem
    cases of_decide_eq_true same
    exact inside
  · intro mem
    exact ⟨⟨field, fault⟩, List.mem_filter.mpr ⟨mem, decide_eq_true rfl⟩, rfl⟩

/-- What is found can be used for a field. -/
def IsUsable (found : Option JsonValue) : RecordField → Prop
  | .nonce | .salt | .encrypted => ∃ bytes, HoldsBytes found bytes
  | .n => ∃ log, 1 ≤ log ∧ HoldsWhole found (2 ^ log)
  | .r | .p => ∃ value, value < 2 ^ 32 ∧ HoldsWhole found value

/-- The values that are found under the names of the fields hold a record. -/
structure Holds (found : RecordField → Option JsonValue) (record : DecodedRecord) : Prop where
  nonce : HoldsBytes (found .nonce) record.nonce
  salt : HoldsBytes (found .salt) record.salt
  entries : ∃ log, 1 ≤ log ∧ HoldsWhole (found .n) (2 ^ log) ∧ record.work.logN = UInt8.ofNat log
  r : HoldsWhole (found .r) record.work.r.toNat
  p : HoldsWhole (found .p) record.work.p.toNat
  encrypted : HoldsBytes (found .encrypted) record.encrypted

theorem word?_eq_some_iff {value : Nat} {word : UInt32} : word? value = some word ↔ value = word.toNat := by
  constructor
  · intro fits
    rw [word?] at fits
    split at fits
    · next small =>
        cases fits
        exact (UInt32.toNat_ofNat_of_lt' small).symm
    · cases fits
  · rintro rfl
    exact word?_toNat word

/-- A value is decoded to just the record that its fields hold. -/
theorem ofJson_eq_some_iff : (ofJson json).1 = some record ↔ Holds (fun field => json.get? field.name) record := by
  constructor
  · intro decoded
    rw [ofJson] at decoded
    split at decoded
    · next nonceIs saltIs entriesIs rIs pIs encryptedIs =>
        cases decoded
        rw [check_value] at nonceIs saltIs entriesIs rIs pIs encryptedIs
        obtain ⟨entries, whole, log⟩ := Option.bind_eq_some_iff.mp entriesIs
        obtain ⟨positive, rfl⟩ := WorkFactor.logOf?_eq_some_iff.mp log
        obtain ⟨r, rWhole, rWord⟩ := Option.bind_eq_some_iff.mp rIs
        obtain ⟨p, pWhole, pWord⟩ := Option.bind_eq_some_iff.mp pIs
        rw [word?_eq_some_iff] at rWord pWord
        subst rWord pWord
        exact {
          nonce := hexField_value_iff.mp nonceIs
          salt := hexField_value_iff.mp saltIs
          entries := ⟨_, positive, numberField_value_iff.mp whole, rfl⟩
          r := numberField_value_iff.mp rWhole
          p := numberField_value_iff.mp pWhole
          encrypted := hexField_value_iff.mp encryptedIs }
    · cases decoded
  · rintro ⟨nonce, salt, ⟨log, positive, whole, logIs⟩, r, p, encrypted⟩
    obtain ⟨nonceBytes, saltBytes, ⟨logN, rWord, pWord⟩, encryptedBytes⟩ := record
    dsimp only [RecordField.name] at nonce salt whole logIs r p encrypted
    subst logIs
    simp only [ofJson, check_value, hexField_value_iff.mpr nonce, hexField_value_iff.mpr salt,
      numberField_value_iff.mpr whole, numberField_value_iff.mpr r, numberField_value_iff.mpr p,
      hexField_value_iff.mpr encrypted, Option.bind_some, WorkFactor.logOf?_pow positive, word?_toNat]

/-- A value is refused where some field cannot be used, and only there. -/
theorem ofJson_eq_none_iff : (ofJson json).1 = none ↔ ∃ field, ¬ IsUsable (json.get? field.name) field := by
  rw [← Option.not_isSome_iff_eq_none, ← Classical.not_forall, not_congr]
  constructor
  · intro decoded field
    obtain ⟨record, decoded⟩ := Option.isSome_iff_exists.mp decoded
    obtain ⟨nonce, salt, ⟨log, positive, whole, -⟩, r, p, encrypted⟩ := ofJson_eq_some_iff.mp decoded
    cases field with
    | nonce => exact ⟨_, nonce⟩
    | salt => exact ⟨_, salt⟩
    | n => exact ⟨log, positive, whole⟩
    | r => exact ⟨_, record.work.r.toNat_lt, r⟩
    | p => exact ⟨_, record.work.p.toNat_lt, p⟩
    | encrypted => exact ⟨_, encrypted⟩
  · intro usable
    obtain ⟨nonceBytes, nonce⟩ := usable .nonce
    obtain ⟨saltBytes, salt⟩ := usable .salt
    obtain ⟨log, positive, whole⟩ := usable .n
    obtain ⟨r, rSmall, rWhole⟩ := usable .r
    obtain ⟨p, pSmall, pWhole⟩ := usable .p
    obtain ⟨encryptedBytes, encrypted⟩ := usable .encrypted
    rw [← UInt32.toNat_ofNat_of_lt' rSmall] at rWhole
    rw [← UInt32.toNat_ofNat_of_lt' pSmall] at pWhole
    refine Option.isSome_iff_exists.mpr ⟨⟨nonceBytes, saltBytes, ⟨.ofNat log, .ofNat r, .ofNat p⟩, encryptedBytes⟩, ?_⟩
    exact ofJson_eq_some_iff.mpr ⟨nonce, salt, ⟨log, positive, whole, rfl⟩, rWhole, pWhole, encrypted⟩

end DecodedRecord

end RelayClient
