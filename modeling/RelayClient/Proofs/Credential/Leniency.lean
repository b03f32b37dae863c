import RelayClient.Proofs.Credential.Fields
import RelayClient.Proofs.Json.Values

/-!
# Lenient validation

An object that can be held as a value is decoded whenever its last members under the six names hold what decryption
needs: bytes in digits, a count of table entries that is a power of two, and two words. Limits that are missed are
noted, one problem for each, and other members do not count. An object with a member that cannot be held is dropped
without a word, even if that member is one that is not known.
-/

namespace RelayClient

namespace DecodedRecord

open Json (Tree Piece)
open JsonValue (AreHeld Lists last? value?)

variable {raw : String} {json : JsonValue} {record : DecodedRecord} {found : RecordField → Option JsonValue}

/-- Where numbers are found for the work factor, they are natural numbers of 64 bits. -/
def HasNaturals (found : RecordField → Option JsonValue) : Prop :=
  ∀ field, field = .n ∨ field = .r ∨ field = .p →
    ∀ number, found field = some (.number number) → ∃ value, value < 2 ^ 64 ∧ number = .natural value

/-- The values found under the names of the fields spell a record: digits of either case, and natural numbers. -/
structure Spells (found : RecordField → Option JsonValue) (record : DecodedRecord) : Prop where
  nonce : HoldsBytes (found .nonce) record.nonce
  salt : HoldsBytes (found .salt) record.salt
  entries : found .n = some (.number (.natural (2 ^ record.work.logN.toNat)))
  least : 1 ≤ record.work.logN.toNat
  most : record.work.logN.toNat ≤ 63
  r : found .r = some (.number (.natural record.work.r.toNat))
  p : found .p = some (.number (.natural record.work.p.toNat))
  encrypted : HoldsBytes (found .encrypted) record.encrypted

/-- What is noted about a nonce: it has 24 bytes. -/
def nonceWarnings (nonce : Bytes) : List RecordFault :=
  if nonce.length = 24 then [] else [.wrongNonceLength nonce.length]

/-- About a salt: it has 32 bytes at least. -/
def saltWarnings (salt : Bytes) : List RecordFault :=
  if 32 ≤ salt.length then [] else [.shortSalt salt.length]

/-- About a count of table entries, by its logarithm: the floor is 14. -/
def entriesWarnings (log : Nat) : List RecordFault :=
  if 14 ≤ log then [] else [.belowMinimum (2 ^ log)]

/-- About a block size and a count of lanes: they are not zero. -/
def parameterWarnings (value : Nat) : List RecordFault :=
  if 1 ≤ value then [] else [.zero]

/-- About a ciphertext: it is longer than a tag, which has 16 bytes. -/
def ciphertextWarnings (encrypted : Bytes) : List RecordFault :=
  if 16 < encrypted.length then [] else [.emptyCiphertext]

/-- The problems of a record that is used nevertheless. -/
def warnings (record : DecodedRecord) : List RecordProblem :=
  problemsOf .nonce (nonceWarnings record.nonce) ++ problemsOf .salt (saltWarnings record.salt) ++
    problemsOf .n (entriesWarnings record.work.logN.toNat) ++ problemsOf .r (parameterWarnings record.work.r.toNat) ++
    problemsOf .p (parameterWarnings record.work.p.toNat) ++
    problemsOf .encrypted (ciphertextWarnings record.encrypted)

/-- Each value that can be used is warned of by itself, whatever the other fields hold. -/
structure Warns (found : RecordField → Option JsonValue) (problems : List RecordProblem) : Prop where
  nonce : ∀ bytes, HoldsBytes (found .nonce) bytes → about .nonce problems = nonceWarnings bytes
  salt : ∀ bytes, HoldsBytes (found .salt) bytes → about .salt problems = saltWarnings bytes
  entries : ∀ log, 1 ≤ log → found .n = some (.number (.natural (2 ^ log))) → about .n problems = entriesWarnings log
  r : ∀ value, found .r = some (.number (.natural value)) → about .r problems = parameterWarnings value
  p : ∀ value, found .p = some (.number (.natural value)) → about .p problems = parameterWarnings value
  encrypted : ∀ bytes, HoldsBytes (found .encrypted) bytes → about .encrypted problems = ciphertextWarnings bytes

section Faults

variable {value : Option JsonValue} {bytes : Bytes}

/-- Bytes that are had are noted just where the check of their field finds fault. -/
theorem faults_of_holdsBytes (holds : HoldsBytes value bytes) (fault? : Bytes → Option RecordFault) :
    ((hexField value).check fault?).faults = (fault? bytes).toList := by
  have had := hexField_value_iff.mpr holds
  rw [check_faults, hexField_faults.mpr ⟨bytes, had⟩, had]
  rfl

theorem faultsOf_nonce (holds : HoldsBytes value bytes) : faultsOf value .nonce = nonceWarnings bytes := by
  rw [faultsOf, faults_of_holdsBytes holds, nonceFault, nonceWarnings, Cipher.nonceLength, ite_not]
  split <;> rfl

theorem faultsOf_salt (holds : HoldsBytes value bytes) : faultsOf value .salt = saltWarnings bytes := by
  rw [faultsOf, faults_of_holdsBytes holds, saltFault, saltWarnings, WorkFactor.saltLength]
  by_cases short : bytes.length < 32
  · rw [if_pos short, if_neg (by omega)]
    rfl
  · rw [if_neg short, if_pos (by omega)]
    rfl

theorem faultsOf_encrypted (holds : HoldsBytes value bytes) : faultsOf value .encrypted = ciphertextWarnings bytes := by
  rw [faultsOf, faults_of_holdsBytes holds, ciphertextFault, ciphertextWarnings, Cipher.Poly1305.tagLength]
  by_cases short : bytes.length ≤ 16
  · rw [if_pos short, if_neg (by omega)]
    rfl
  · rw [if_neg short, if_pos (by omega)]
    rfl

theorem faultsOf_entries {log : Nat} (positive : 1 ≤ log) :
    faultsOf (some (.number (.natural (2 ^ log)))) .n = entriesWarnings log := by
  rw [faultsOf, check_faults, numberField, Option.bind_some, entriesFault, WorkFactor.logOf?_pow positive,
    entriesWarnings, WorkFactor.minLogN]
  dsimp only
  by_cases low : log < 14
  · rw [if_pos low, if_neg (by omega)]
    rfl
  · rw [if_neg low, if_pos (by omega)]
    rfl

/-- The two parameters are checked alike. -/
theorem faults_parameter (value : Nat) :
    ((numberField (some (.number (.natural value)))).check zeroFault).faults = parameterWarnings value := by
  rw [check_faults, numberField, Option.bind_some, zeroFault, parameterWarnings]
  by_cases zero : value = 0
  · rw [if_pos zero, if_neg (by omega)]
    rfl
  · rw [if_neg zero, if_pos (by omega)]
    rfl

end Faults

theorem warns_ofJson (json : JsonValue) : Warns (fun field => json.get? field.name) (ofJson json).2 where
  nonce bytes holds := by rw [about_ofJson, faultsOf_nonce holds]
  salt bytes holds := by rw [about_ofJson, faultsOf_salt holds]
  entries log positive found := by rw [about_ofJson, found, faultsOf_entries positive]
  r value found := by rw [about_ofJson, found, faultsOf, faults_parameter]
  p value found := by rw [about_ofJson, found, faultsOf, faults_parameter]
  encrypted bytes holds := by rw [about_ofJson, faultsOf_encrypted holds]

theorem Spells.holds (spells : Spells found record) : Holds found record where
  nonce := spells.nonce
  salt := spells.salt
  entries := ⟨record.work.logN.toNat, spells.least, by rw [spells.entries]; exact holdsWhole_natural.mpr rfl,
    UInt8.ofNat_toNat.symm⟩
  r := by rw [spells.r]; exact holdsWhole_natural.mpr rfl
  p := by rw [spells.p]; exact holdsWhole_natural.mpr rfl
  encrypted := spells.encrypted

/-- A record that is spelled is decoded, with the problems that it is used in spite of. -/
theorem ofJson_of_spells (spells : Spells (fun field => json.get? field.name) record) :
    ofJson json = (some record, warnings record) := by
  have warned : (ofJson json).2 = warnings record := by
    rw [ofJson_snd, faultsOf_nonce spells.nonce, faultsOf_salt spells.salt, spells.entries,
      faultsOf_entries spells.least, spells.r, spells.p, faultsOf, faults_parameter, faultsOf, faults_parameter,
      faultsOf_encrypted spells.encrypted, warnings]
  exact Prod.ext (ofJson_eq_some_iff.mpr spells.holds) warned

theorem value_of_holdsWhole (naturals : HasNaturals found) {field : RecordField}
    (counts : field = .n ∨ field = .r ∨ field = .p) {value : Nat} (holds : HoldsWhole (found field) value) :
    value < 2 ^ 64 ∧ found field = some (.number (.natural value)) := by
  obtain ⟨number, isNumber, whole⟩ := holds
  obtain ⟨natural, small, rfl⟩ := naturals field counts number isNumber
  cases whole
  exact ⟨small, isNumber⟩

/-- Among natural numbers, holding a record is spelling it. -/
theorem Holds.spells (holds : Holds found record) (naturals : HasNaturals found) : Spells found record := by
  obtain ⟨nonce, salt, ⟨log, positive, whole, logIs⟩, r, p, encrypted⟩ := holds
  obtain ⟨small, entries⟩ := value_of_holdsWhole naturals (.inl rfl) whole
  have most : log < 64 := (Nat.pow_lt_pow_iff_right Nat.one_lt_two).mp small
  have logN : record.work.logN.toNat = log := by
    rw [logIs]
    exact Nat.mod_eq_of_lt (by omega)
  exact {
    nonce, salt, encrypted
    entries := by rw [entries, logN]
    least := by rw [logN]; exact positive
    most := by rw [logN]; exact Nat.le_of_lt_succ most
    r := (value_of_holdsWhole naturals (.inr (.inl rfl)) r).2
    p := (value_of_holdsWhole naturals (.inr (.inr rfl)) p).2 }

/-- A text is validated leniently, as far as it can be held as a value. -/
structure IsLenient (raw : String) : Prop where
  /-- Decoded are just the records that the last entries of an object spell, if all of its entries can be held. -/
  decoded_iff : ∀ record, (decode raw).1 = some record ↔
    ∃ entries, Tree.parse? raw = some (.object entries) ∧ AreHeld entries ∧
      Spells (fun field => value? field.name entries) record
  /-- An entry that cannot be held has the text dropped, and nothing is noted of it. -/
  unheld : ∀ entries, Tree.parse? raw = some (.object entries) → ¬ AreHeld entries → decode raw = (none, [])
  /-- Each limit that a decoded record misses is noted, and nothing else is. -/
  warned : ∀ record, (decode raw).1 = some record → (decode raw).2 = warnings record
  /-- So is each limit that a single value misses where other fields keep the text from being decoded. -/
  warns : ∀ entries, Tree.parse? raw = some (.object entries) → AreHeld entries →
    Warns (fun field => value? field.name entries) (decode raw).2
  /-- Two objects with the same fields are decoded alike, whatever else they hold. -/
  extra : ∀ entries other others, Tree.parse? raw = some (.object entries) → AreHeld entries →
    Tree.parse? other = some (.object others) → AreHeld others →
    (∀ field : RecordField, value? field.name entries = value? field.name others) → decode other = decode raw

theorem decode_of_lists {members : List (String × JsonValue)} (lists : Lists raw members) :
    ∃ json, JsonValue.parse? raw = some json ∧ decode raw = ofJson json ∧
      (fun field : RecordField => json.get? field.name) = fun field => last? field.name members := by
  have parsed := JsonValue.parse?_of_lists lists
  refine ⟨_, parsed, ?_, funext fun field => JsonValue.get?_of_lists lists parsed field.name⟩
  rw [decode, parsed]

/-- What is decoded hangs on the six fields alone. -/
theorem ofJson_congr {other : JsonValue}
    (same : (fun field : RecordField => json.get? field.name) = fun field => other.get? field.name) :
    ofJson json = ofJson other := by
  have each (field : RecordField) : json.get? field.name = other.get? field.name := congrFun same field
  have nonce : json.get? "nonce" = other.get? "nonce" := each .nonce
  have salt : json.get? "salt" = other.get? "salt" := each .salt
  have n : json.get? "N" = other.get? "N" := each .n
  have r : json.get? "r" = other.get? "r" := each .r
  have p : json.get? "p" = other.get? "p" := each .p
  have encrypted : json.get? "encrypted" = other.get? "encrypted" := each .encrypted
  simp only [ofJson, nonce, salt, n, r, p, encrypted]

theorem decode_of_spells {members : List (String × JsonValue)} (lists : Lists raw members)
    (spells : Spells (fun field => last? field.name members) record) : decode raw = (some record, warnings record) := by
  obtain ⟨json, -, decoded, same⟩ := decode_of_lists lists
  rw [decoded]
  exact ofJson_of_spells (by rw [same]; exact spells)

/-- The value of an object that can be held has the fields that the text has. -/
theorem decode_of_areHeld {entries : List (List Piece × Tree)} (parsed : Tree.parse? raw = some (.object entries))
    (held : AreHeld entries) : ∃ json, decode raw = ofJson json ∧
      (fun field : RecordField => json.get? field.name) = fun field => value? field.name entries := by
  obtain ⟨members, lists, same⟩ := held.exists_lists parsed
  obtain ⟨json, -, decoded, found⟩ := decode_of_lists lists
  exact ⟨json, decoded, found.trans (funext fun field => same field.name)⟩

/-- Only an object that can be held is decoded. -/
theorem exists_spells_of_decode
    (naturals : ∀ entries, Tree.parse? raw = some (.object entries) → HasNaturals fun field => value? field.name entries)
    (decoded : (decode raw).1 = some record) :
    ∃ entries, Tree.parse? raw = some (.object entries) ∧ AreHeld entries ∧
      Spells (fun field => value? field.name entries) record := by
  rw [decode] at decoded
  split at decoded
  · cases decoded
  · next json valued =>
      have holds := ofJson_eq_some_iff.mp decoded
      obtain ⟨text, named, -⟩ := holds.nonce
      obtain ⟨members, lists⟩ := JsonValue.exists_lists_of_get? valued named
      obtain ⟨entries, parsed, held, same⟩ := lists.exists_areHeld
      have found : (fun field : RecordField => json.get? field.name) = fun field => value? field.name entries :=
        funext fun field => (JsonValue.get?_of_lists lists valued field.name).trans (same field.name)
      rw [found] at holds
      exact ⟨entries, parsed, held, holds.spells (naturals entries parsed)⟩

/-- Every text whose numbers in the work factor are natural is validated leniently. -/
theorem isLenient_of_naturals
    (naturals : ∀ entries, Tree.parse? raw = some (.object entries) → HasNaturals fun field => value? field.name entries) :
    IsLenient raw where
  decoded_iff record := by
    constructor
    · exact exists_spells_of_decode naturals
    · rintro ⟨entries, parsed, held, spells⟩
      obtain ⟨json, decoded, same⟩ := decode_of_areHeld parsed held
      rw [decoded, ofJson_of_spells (by rw [same]; exact spells)]
  unheld entries parsed unheld := by rw [decode, JsonValue.parse?_of_not_areHeld parsed unheld]
  warned record decoded := by
    obtain ⟨entries, parsed, held, spells⟩ := exists_spells_of_decode naturals decoded
    obtain ⟨json, decoded, same⟩ := decode_of_areHeld parsed held
    rw [decoded, ofJson_of_spells (by rw [same]; exact spells)]
  warns entries parsed held := by
    obtain ⟨json, decoded, same⟩ := decode_of_areHeld parsed held
    rw [decoded, ← same]
    exact warns_ofJson json
  extra entries other others parsed held parsedToo heldToo same := by
    obtain ⟨json, decoded, first⟩ := decode_of_areHeld parsed held
    obtain ⟨otherJson, decodedToo, second⟩ := decode_of_areHeld parsedToo heldToo
    rw [decoded, decodedToo]
    exact ofJson_congr (by rw [first, second]; exact funext fun field => (same field).symm)

/-- A record in which each limit is missed, under a key that stands twice and beside a key that is not known. -/
def laxFields : List (String × JsonValue.Plain) :=
  [("nonce", .text "x"), ("salt", .text "aB"), ("N", .word 2), ("r", .word 0), ("p", .word 0),
    ("note", .text "new"), ("encrypted", .text ""), ("nonce", .text "")]

def laxText : String :=
  JsonValue.Plain.write laxFields

theorem lists_laxText : Lists laxText (laxFields.map fun field => (field.1, field.2.json)) :=
  JsonValue.Plain.lists_write (List.cons_ne_nil _ _)

/-- It is decoded nevertheless, and each limit is noted. -/
theorem isLenient_laxText : IsLenient laxText ∧
    decode laxText = (some ⟨[], [0xab], ⟨1, 0, 0⟩, []⟩,
      [⟨.nonce, .wrongNonceLength 0⟩, ⟨.salt, .shortSalt 1⟩, ⟨.n, .belowMinimum 2⟩, ⟨.r, .zero⟩, ⟨.p, .zero⟩,
        ⟨.encrypted, .emptyCiphertext⟩]) := by
  constructor
  · refine isLenient_of_naturals fun entries parsed => ?_
    obtain ⟨listed, parsedToo, -, same⟩ := lists_laxText.exists_areHeld
    cases parsed.symm.trans parsedToo
    rw [← funext fun field : RecordField => same field.name]
    rintro field (rfl | rfl | rfl) number found
    · cases found
      exact ⟨2, by decide, rfl⟩
    · cases found
      exact ⟨0, by decide, rfl⟩
    · cases found
      exact ⟨0, by decide, rfl⟩
  · refine decode_of_spells lists_laxText ?_
    exact {
      nonce := ⟨"", rfl, .nil⟩
      salt := ⟨"aB", rfl, .byte (by decide : Text.Hex.IsDigitOf 'a' 10) (by decide : Text.Hex.IsDigitOf 'B' 11) .nil⟩
      entries := rfl
      least := by decide
      most := by decide
      r := rfl
      p := rfl
      encrypted := ⟨"", rfl, .nil⟩ }

/-- The fields of a record in good order. -/
def soundFields : List (String × JsonValue.Plain) :=
  [("nonce", .text (Text.Hex.encode (List.replicate 24 0))), ("salt", .text (Text.Hex.encode (List.replicate 32 0))),
    ("N", .word 0x4000), ("r", .word 8), ("p", .word 1), ("encrypted", .text (Text.Hex.encode (List.replicate 17 0)))]

/-- A note whose text is a surrogate that stands alone. -/
def strayNote : Json.Member :=
  ⟨"note", ['"', '\\', 'u', 'd', '8', '0', '0', '"'], .string [.unit 0xd800]⟩

def strayText : String :=
  String.ofList ('\x7b' :: (Json.Member.writeAll (JsonValue.Plain.members soundFields ++ [strayNote]) ++ ['\x7d']))

def strayEntries : List (List Piece × Tree) :=
  (JsonValue.Plain.members soundFields).map Json.Member.entry ++ [strayNote.entry]

theorem parse?_strayText : Tree.parse? strayText = some (.object strayEntries) := by
  rw [strayEntries, ← List.map_singleton, ← List.map_append]
  refine Json.parse?_object (List.append_ne_nil_of_right_ne_nil _ (List.cons_ne_nil _ _)) (fun fuel member mem => ?_)
    String.toList_ofList
  rcases List.mem_append.mp mem with mem | mem
  · obtain ⟨field, -, rfl⟩ := List.mem_map.mp mem
    exact field.2.reads_member field.1 fuel
  · cases List.mem_singleton.mp mem
    exact fun _ _ => rfl

theorem value?_strayEntries (field : RecordField) :
    value? field.name strayEntries = last? field.name (soundFields.map fun field => (field.1, field.2.json)) := by
  rw [JsonValue.last?_of_mapM (JsonValue.Plain.mapM_member? _ soundFields)]
  refine JsonValue.value?_concat ?_
  rw [strayNote, Json.Member.entry, Json.text?_piecesOf]
  cases field <;> decide

theorem not_areHeld_strayEntries : ¬ AreHeld strayEntries := by
  intro held
  cases (held _ (List.mem_append_right _ (List.mem_singleton_self _))).2 with
  | string paired => cases paired

/-- All six fields are in good order, and still the record is dropped for the note. -/
theorem decode_strayText :
    (∃ entries, Tree.parse? strayText = some (.object entries) ∧
      Spells (fun field => value? field.name entries)
        ⟨List.replicate 24 0, List.replicate 32 0, ⟨14, 8, 1⟩, List.replicate 17 0⟩) ∧
      decode strayText = (none, []) := by
  constructor
  · refine ⟨_, parse?_strayText, ?_⟩
    rw [funext value?_strayEntries]
    exact {
      nonce := holdsBytes_encode _
      salt := holdsBytes_encode _
      entries := rfl
      least := by decide
      most := by decide
      r := rfl
      p := rfl
      encrypted := holdsBytes_encode _ }
  · rw [decode, JsonValue.parse?_of_not_areHeld parse?_strayText not_areHeld_strayEntries]

end DecodedRecord

end RelayClient
