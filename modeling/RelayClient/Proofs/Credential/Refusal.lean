import RelayClient.Proofs.Credential.Leniency

/-!
# Why a record is refused

A text is refused when some field of it cannot be used, and each such field is named among the problems, with one
exception: a block size or a count of lanes that is a natural number too large for 32 bits is dropped without a
word.
-/

namespace RelayClient

namespace DecodedRecord

open JsonValue (Lists last?)

variable {raw : String} {json : JsonValue} {found : Option JsonValue} {field : RecordField}

/-- What is found is a natural number that does not fit the word that its field needs. -/
def IsOversized (found : Option JsonValue) (field : RecordField) : Prop :=
  (field = .r ∨ field = .p) ∧ ∃ value, 2 ^ 32 ≤ value ∧ found = some (.number (.natural value))

theorem check_faults_ne_nil {α : Type} {recovered : Recovered α} (noted : recovered.faults ≠ [])
    (fault? : α → Option RecordFault) : (recovered.check fault?).faults ≠ [] := by
  rw [check_faults]
  intro nothing
  exact noted (List.append_eq_nil_iff.mp nothing).1

/-- Where no bytes are had, it is noted why. -/
theorem faults_of_no_bytes (none : ¬ ∃ bytes, HoldsBytes found bytes) (fault? : Bytes → Option RecordFault) :
    ((hexField found).check fault?).faults ≠ [] := by
  refine check_faults_ne_nil (fun nothing => ?_) fault?
  obtain ⟨bytes, had⟩ := hexField_faults.mp nothing
  exact none ⟨bytes, hexField_value_iff.mp had⟩

theorem faults_of_no_power (none : ¬ IsUsable found .n) : faultsOf found .n ≠ [] := by
  rw [faultsOf]
  by_cases natural : (numberField found).faults = []
  · obtain ⟨value, rfl⟩ := numberField_faults.mp natural
    have noPower : WorkFactor.logOf? value = Option.none := by
      refine Option.eq_none_iff_forall_ne_some.mpr fun log power => ?_
      obtain ⟨positive, rfl⟩ := WorkFactor.logOf?_eq_some_iff.mp power
      exact none ⟨log, positive, holdsWhole_natural.mpr rfl⟩
    rw [check_faults, numberField, Option.bind_some, entriesFault, noPower]
    exact List.cons_ne_nil _ _
  · exact check_faults_ne_nil natural entriesFault

/-- A natural number that is no word is large, and then nothing is noted of it. -/
theorem faults_of_no_word (none : ¬ ∃ value, value < 2 ^ 32 ∧ HoldsWhole found value) :
    ((numberField found).check zeroFault).faults = [] ↔
      ∃ value, 2 ^ 32 ≤ value ∧ found = some (.number (.natural value)) := by
  constructor
  · intro nothing
    rw [check_faults] at nothing
    obtain ⟨value, rfl⟩ := numberField_faults.mp (List.append_eq_nil_iff.mp nothing).1
    refine ⟨value, Nat.le_of_not_lt fun small => ?_, rfl⟩
    exact none ⟨value, small, holdsWhole_natural.mpr rfl⟩
  · rintro ⟨value, large, rfl⟩
    have nonzero : value ≠ 0 := by
      rintro rfl
      exact absurd large (by decide)
    rw [check_faults, numberField, Option.bind_some, zeroFault, if_neg nonzero]
    rfl

/-- Of a field that cannot be used something is noted, unless it is oversized. -/
theorem faultsOf_eq_nil_iff (unusable : ¬ IsUsable found field) : faultsOf found field = [] ↔ IsOversized found field := by
  cases field with
  | nonce | salt | encrypted =>
      have noted := faults_of_no_bytes unusable
      simp [faultsOf, noted, IsOversized]
  | n =>
      have noted := faults_of_no_power unusable
      simp [noted, IsOversized]
  | r | p =>
      have silent := faults_of_no_word unusable
      simpa [faultsOf, IsOversized] using silent

/-- A field is named among the problems of a value just where something is noted of it. -/
theorem named_iff : (∃ fault, ⟨field, fault⟩ ∈ (ofJson json).2) ↔ faultsOf (json.get? field.name) field ≠ [] := by
  rw [← about_ofJson]
  constructor
  · rintro ⟨fault, mem⟩
    exact List.ne_nil_of_mem (mem_about_iff.mpr mem)
  · intro some
    obtain ⟨fault, mem⟩ := List.exists_mem_of_ne_nil _ some
    exact ⟨fault, mem_about_iff.mp mem⟩

/-- What is told of a text that is JSON. -/
structure Explains (raw : String) (json : JsonValue) : Prop where
  /-- It is refused where a field cannot be used. -/
  refused_iff : (decode raw).1 = none ↔ ∃ field, ¬ IsUsable (json.get? field.name) field
  /-- A field that cannot be used is named by a problem, unless it is oversized. -/
  named : ∀ field, ¬ IsUsable (json.get? field.name) field →
    ((∃ fault, ⟨field, fault⟩ ∈ (decode raw).2) ↔ ¬ IsOversized (json.get? field.name) field)
  /-- So some problem names a field that cannot be used, unless all of these are oversized. -/
  explained_iff : (∃ problem ∈ (decode raw).2, ¬ IsUsable (json.get? problem.field.name) problem.field) ↔
    ∃ field, ¬ IsUsable (json.get? field.name) field ∧ ¬ IsOversized (json.get? field.name) field

theorem explains_of_parse (parsed : JsonValue.parse? raw = some json) : Explains raw json := by
  have decoded : decode raw = ofJson json := by rw [decode, parsed]
  have named : ∀ field, ¬ IsUsable (json.get? field.name) field →
      ((∃ fault, ⟨field, fault⟩ ∈ (ofJson json).2) ↔ ¬ IsOversized (json.get? field.name) field) := by
    intro field unusable
    rw [named_iff, ne_eq, faultsOf_eq_nil_iff unusable]
  constructor
  case refused_iff => rw [decoded, ofJson_eq_none_iff]
  case named => rwa [decoded]
  case explained_iff =>
    rw [decoded]
    constructor
    · rintro ⟨⟨field, fault⟩, mem, unusable⟩
      exact ⟨field, unusable, (named field unusable).mp ⟨fault, mem⟩⟩
    · rintro ⟨field, unusable, sized⟩
      obtain ⟨fault, mem⟩ := (named field unusable).mpr sized
      exact ⟨⟨field, fault⟩, mem, unusable⟩

/-- A record in good order, but for a count of lanes that just does not fit 32 bits. -/
def oversizedFields : List (String × JsonValue.Plain) :=
  [("nonce", .text (Text.Hex.encode (List.replicate 24 0))), ("salt", .text (Text.Hex.encode (List.replicate 32 0))),
    ("N", .word 0x4000), ("r", .word 8), ("p", .word 0x100000000), ("encrypted", .text (Text.Hex.encode (List.replicate 17 0)))]

def oversizedText : String :=
  JsonValue.Plain.write oversizedFields

theorem lists_oversizedText : Lists oversizedText (oversizedFields.map fun field => (field.1, field.2.json)) :=
  JsonValue.Plain.lists_write (List.cons_ne_nil _ _)

theorem explains_oversizedText : ∃ json, JsonValue.parse? oversizedText = some json ∧ Explains oversizedText json := by
  have parsed := JsonValue.parse?_of_lists lists_oversizedText
  exact ⟨_, parsed, explains_of_parse parsed⟩

/-- The record is refused, and no problem is noted. -/
theorem refused_oversizedText :
    (∃ json, JsonValue.parse? oversizedText = some json) ∧ decode oversizedText = (none, []) := by
  obtain ⟨json, parsed, decoded, same⟩ := decode_of_lists lists_oversizedText
  have found (field : RecordField) : json.get? field.name = last? field.name _ := congrFun same field
  have nonce : HoldsBytes (json.get? RecordField.nonce.name) (List.replicate 24 0) := by
    rw [found]
    exact holdsBytes_encode _
  have salt : HoldsBytes (json.get? RecordField.salt.name) (List.replicate 32 0) := by
    rw [found]
    exact holdsBytes_encode _
  have encrypted : HoldsBytes (json.get? RecordField.encrypted.name) (List.replicate 17 0) := by
    rw [found]
    exact holdsBytes_encode _
  have n : json.get? RecordField.n.name = some (.number (.natural (2 ^ 14))) := found .n
  have r : json.get? RecordField.r.name = some (.number (.natural 8)) := found .r
  have p : json.get? RecordField.p.name = some (.number (.natural (2 ^ 32))) := found .p
  have refused : (ofJson json).1 = none := by
    refine ofJson_eq_none_iff.mpr ⟨.p, ?_⟩
    rintro ⟨value, small, whole⟩
    rw [p, holdsWhole_natural] at whole
    omega
  have silent : (ofJson json).2 = [] := by
    rw [ofJson_snd, faultsOf_nonce nonce, faultsOf_salt salt, n, faultsOf_entries (by decide), r, p,
      faultsOf_encrypted encrypted, faultsOf, faults_parameter, faultsOf, faults_parameter]
    rfl
  exact ⟨⟨json, parsed⟩, decoded.trans (Prod.ext refused silent)⟩

end DecodedRecord

end RelayClient
