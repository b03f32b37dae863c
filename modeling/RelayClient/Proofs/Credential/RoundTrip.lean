import RelayClient.Proofs.Credential.Leniency

/-!
# Stored records round trip

The text of a record is told apart as one of the current format, is read strictly as the same record, and is
decoded to the byte strings and the work factor that it was made of. A problem is noted just where one of these
misses a limit.
-/

namespace RelayClient

namespace KeyRecord

theorem string?_ofText (key text : String) : string? (Json.Member.ofText key text).entry.2 = some text :=
  Json.text?_piecesOf text

theorem natural?_ofNat (key : String) {bound n : Nat} (below : n < bound) (fits : n < 2 ^ 64) :
    natural? bound (Json.Member.ofNat key n).entry.2 = some n := by
  rw [Json.Member.ofNat, Json.Member.entry, natural?, Json.Number.ofLiteral?_toDigits fits]
  exact if_pos below

/-- Read strictly, the text of a record is that record. -/
theorem parse?_render (record : KeyRecord) : parse? record.render = some record := by
  have n := natural?_ofNat "N" record.n.toNat_lt record.n.toNat_lt
  have r := natural?_ofNat "r" record.r.toNat_lt (Nat.lt_trans record.r.toNat_lt (by decide))
  have p := natural?_ofNat "p" record.p.toNat_lt (Nat.lt_trans record.p.toNat_lt (by decide))
  have key (key text : String) : Json.text? (Json.Member.ofText key text).entry.1 = some key := Json.text?_piecesOf key
  have keyOfNat (key : String) (n : Nat) : Json.text? (Json.Member.ofNat key n).entry.1 = some key := Json.text?_piecesOf key
  rw [parse?, parseTree_render]
  simp [members, Fields.take, key, keyOfNat, string?_ofText, n, r, p, fresh, Fields.record?]

end KeyRecord

namespace DecodedRecord

variable {nonce salt encrypted : Bytes} {work : WorkFactor}

theorem spells_ofParts (least : 1 ≤ work.logN.toNat) (most : work.logN.toNat ≤ 63) :
    Spells (fun field => (KeyRecord.ofParts nonce salt work encrypted).json.get? field.name)
      ⟨nonce, salt, work, encrypted⟩ := by
  obtain ⟨nonceIs, saltIs, nIs, rIs, pIs, encryptedIs⟩ := (KeyRecord.ofParts nonce salt work encrypted).json_get?
  have entries : (KeyRecord.ofParts nonce salt work encrypted).n.toNat = 2 ^ work.logN.toNat :=
    WorkFactor.toNat_n (Nat.lt_succ_of_le most)
  rw [entries] at nIs
  constructor
  case nonce => exact nonceIs ▸ holdsBytes_encode nonce
  case salt => exact saltIs ▸ holdsBytes_encode salt
  case entries => exact nIs
  case least => exact least
  case most => exact most
  case r => exact rIs
  case p => exact pIs
  case encrypted => exact encryptedIs ▸ holdsBytes_encode encrypted

/-- The record of bytes and a work factor is decoded to them. -/
theorem decode_render (nonce salt encrypted : Bytes) (least : 1 ≤ work.logN.toNat) (most : work.logN.toNat ≤ 63) :
    decode (KeyRecord.ofParts nonce salt work encrypted).render =
      (some ⟨nonce, salt, work, encrypted⟩, warnings ⟨nonce, salt, work, encrypted⟩) := by
  rw [decode, KeyRecord.parseJson_render]
  exact ofJson_of_spells (spells_ofParts least most)

/-- A record is free of problems just where it misses no limit. -/
theorem warnings_eq_nil_iff {record : DecodedRecord} : warnings record = [] ↔
    record.nonce.length = 24 ∧ 32 ≤ record.salt.length ∧ 14 ≤ record.work.logN.toNat ∧ 1 ≤ record.work.r.toNat ∧
      1 ≤ record.work.p.toNat ∧ 16 < record.encrypted.length := by
  simp only [warnings, problemsOf, List.append_eq_nil_iff, List.map_eq_nil_iff, nonceWarnings, saltWarnings,
    entriesWarnings, parameterWarnings, ciphertextWarnings, ite_eq_left_iff, reduceCtorEq, imp_false, Classical.not_not,
    and_assoc]

/-- A stored record keeps what it is made of. -/
structure RoundTrips (nonce salt : Bytes) (work : WorkFactor) (encrypted : Bytes) : Prop where
  format : StoredFormat.classify (KeyRecord.ofParts nonce salt work encrypted).render =
    .current (KeyRecord.ofParts nonce salt work encrypted).render
  /-- Read strictly, its text is the same record. -/
  strict : KeyRecord.parse? (KeyRecord.ofParts nonce salt work encrypted).render =
    some (KeyRecord.ofParts nonce salt work encrypted)
  decoded : (decode (KeyRecord.ofParts nonce salt work encrypted).render).1 = some ⟨nonce, salt, work, encrypted⟩
  /-- Nothing is noted just where all limits are kept. -/
  clean_iff : (decode (KeyRecord.ofParts nonce salt work encrypted).render).2 = [] ↔
    nonce.length = 24 ∧ 32 ≤ salt.length ∧ 14 ≤ work.logN.toNat ∧ 1 ≤ work.r.toNat ∧ 1 ≤ work.p.toNat ∧
      16 < encrypted.length

/-- So does every record whose count of table entries is a power of two from 2 to 2^63. -/
theorem roundTrips_of_range (least : 1 ≤ work.logN.toNat) (most : work.logN.toNat ≤ 63) :
    RoundTrips nonce salt work encrypted := by
  have decoded := decode_render nonce salt encrypted least most
  constructor
  case format => exact KeyRecord.classify_render _
  case strict => exact KeyRecord.parse?_render _
  case decoded => rw [decoded]
  case clean_iff => rw [decoded, warnings_eq_nil_iff]

/-- The largest work factor, with no nonce to speak of and nothing sealed. -/
theorem roundTrips_largest :
    1 ≤ (⟨63, 0xffffffff, 0⟩ : WorkFactor).logN.toNat ∧ (⟨63, 0xffffffff, 0⟩ : WorkFactor).logN.toNat ≤ 63 ∧
      RoundTrips [0xff] [] ⟨63, 0xffffffff, 0⟩ [] :=
  ⟨by decide, by decide, roundTrips_of_range (by decide) (by decide)⟩

end DecodedRecord

end RelayClient
