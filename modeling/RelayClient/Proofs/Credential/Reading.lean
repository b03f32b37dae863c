import RelayClient.Proofs.Credential.Migration

/-!
# Reading what is stored

A text opens under a password when it spells a box in one of the two formats, a key can be derived
for the box, and the box was sealed under that key over a credential. Where memory suffices, every
other text is refused, and only a deprecated record that opened changes what is stored.
-/

namespace RelayClient

open Cipher (Key Nonce Sized)

theorem Cipher.Sized.ofBytes?_eq_some_iff {count : Nat} {bytes : Bytes} {sized : Sized count} :
    Sized.ofBytes? count bytes = some sized ↔ sized.bytes = bytes := by
  constructor
  · intro read
    unfold ofBytes? at read
    split at read
    · cases read
      rfl
    · cases read
  · rintro rfl
    exact sized.ofBytes?_bytes

/-- Read as a credential are just the plaintexts that start with two keys; the rest is the token. -/
theorem TrustedKey.ofPlaintext?_eq_some_iff {plaintext : Bytes} {trusted : TrustedKey} :
    ofPlaintext? plaintext = some trusted ↔ ∃ (secret peer : Key) (token : Bytes),
      plaintext = secret.bytes ++ (peer.bytes ++ token) ∧ trusted = KeyStore.credentialOf secret peer token := by
  constructor
  · intro read
    unfold ofPlaintext? at read
    split at read
    · next secret peer first second =>
        cases read
        have rest : (plaintext.drop 32).drop 32 = plaintext.drop 64 := List.drop_drop
        refine ⟨secret, peer, plaintext.drop 64, ?_, rfl⟩
        rw [Sized.ofBytes?_eq_some_iff.mp first, Sized.ofBytes?_eq_some_iff.mp second, ← rest, List.take_append_drop,
          List.take_append_drop]
    · cases read
  · rintro ⟨secret, peer, token, rfl, rfl⟩
    exact ofPlaintext?_append secret peer token

/-- In front of what is left without 32 bytes stands a key. -/
theorem exists_key_append {bytes rest : Bytes} (behind : bytes.drop 32 = rest) (positive : 0 < rest.length) :
    ∃ key : Key, bytes = key.bytes ++ rest := by
  have long : 32 ≤ bytes.length := by
    rw [← behind, List.length_drop] at positive
    omega
  refine ⟨⟨bytes.take 32, List.length_take_of_le long⟩, ?_⟩
  rw [← behind, List.take_append_drop]

/-- A sealed box as a record holds it, with what its key is derived from. -/
inductive StoredBox where
  | current (record : DecodedRecord)
  | deprecated (nonce box : Bytes)

namespace StoredBox

/-- A text can be parsed: it has one of the formats, and its parts are read. -/
inductive SpelledBy (raw : String) : StoredBox → Prop where
  | current {text : String} {record : DecodedRecord} (format : StoredFormat.classify raw = .current text)
      (read : (DecodedRecord.decode raw).1 = some record) : SpelledBy raw (.current record)
  | deprecated {nonceText boxText : String} {nonce box : Bytes}
      (format : StoredFormat.classify raw = .deprecated nonceText boxText)
      (nonceIs : Text.Hex.decode? nonceText = some nonce) (boxIs : Text.Hex.decode? boxText = some box) :
      SpelledBy raw (.deprecated nonce box)

/-- The key of a box under a password. Only a record says what the key costs. -/
def deriveKey (password : String) : StoredBox → Except Failure Key
  | .current record => record.work.deriveKey password record.salt
  | .deprecated _ _ => .ok (deprecatedKey password)

/-- A box authenticates: it was sealed under a key over a plaintext, which in a deprecated box
stands behind the client's public key. -/
inductive SealedOver (key : Key) : StoredBox → Bytes → Prop where
  | current {record : DecodedRecord} {nonce : Nonce} {plaintext : Bytes} (nonceIs : record.nonce = nonce.bytes)
      (boxIs : record.encrypted = Cipher.SealedBox.close key nonce plaintext) :
      SealedOver key (.current record) plaintext
  | deprecated {nonce : Nonce} {own : Key} {plaintext : Bytes} :
      SealedOver key (.deprecated nonce.bytes (Cipher.SealedBox.Deprecated.close key nonce (own.bytes ++ plaintext)))
        plaintext

/-- A deprecated record of a nonce and a box spells the two. -/
theorem spelledBy_of_spells {raw : String} {nonce box : Bytes} (spells : StoredFormat.Spells raw nonce box)
    (someNonce : nonce ≠ []) (someBox : box ≠ []) : SpelledBy raw (.deprecated nonce box) := by
  obtain ⟨nonceText, boxText, format, nonceIs, boxIs⟩ := spells.classify someNonce someBox
  exact .deprecated format nonceIs boxIs

end StoredBox

namespace KeyStore

/-- A text opens under a password: it can be parsed, a key can be derived for its box, and the box
authenticates under it over two keys and the bytes of a token. -/
inductive Opens (raw password : String) : TrustedKey → Prop where
  | intro {box : StoredBox} {key secret peer : Key} {token : Bytes} (spelled : box.SpelledBy raw)
      (derived : box.deriveKey password = .ok key)
      (authentic : box.SealedOver key (secret.bytes ++ (peer.bytes ++ token))) :
      Opens raw password (credentialOf secret peer token)

variable {raw password text nonceText boxText : String} {trusted : TrustedKey}

/-- What opens as a record of the current format was sealed over a credential. -/
theorem exists_sealedOver_of_openCurrent (opened : openCurrent raw password = .ok trusted) :
    ∃ (record : DecodedRecord) (key secret peer : Key) (token : Bytes), (DecodedRecord.decode raw).1 = some record ∧
      record.work.deriveKey password record.salt = .ok key ∧
      (StoredBox.current record).SealedOver key (secret.bytes ++ (peer.bytes ++ token)) ∧
      trusted = credentialOf secret peer token := by
  unfold openCurrent at opened
  split at opened
  · cases opened
  next record read =>
  split at opened
  · cases opened
  next key derived =>
  split at opened
  · next found plain =>
      cases opened
      obtain ⟨plaintext, unsealed, parts⟩ := Option.bind_eq_some_iff.mp plain
      obtain ⟨nonce, nonceIs, boxIs⟩ := Cipher.SealedBox.exists_close_of_open? unsealed
      obtain ⟨secret, peer, token, rfl, rfl⟩ := TrustedKey.ofPlaintext?_eq_some_iff.mp parts
      exact ⟨record, key, secret, peer, token, read, derived, .current nonceIs boxIs, rfl⟩
  · cases opened

theorem openCurrent_eq_ok_iff (format : StoredFormat.classify raw = .current text) :
    openCurrent raw password = .ok trusted ↔ Opens raw password trusted := by
  constructor
  · intro opened
    obtain ⟨record, key, secret, peer, token, read, derived, authentic, rfl⟩ := exists_sealedOver_of_openCurrent opened
    exact .intro (.current format read) derived authentic
  · rintro ⟨spelled, derived, authentic⟩
    cases spelled with
    | current _ read =>
        cases authentic with
        | current nonceIs boxIs =>
            have derives : WorkFactor.deriveKey _ password _ = _ := derived
            rw [openCurrent, read]
            dsimp only
            rw [derives]
            dsimp only
            rw [nonceIs, boxIs, Cipher.SealedBox.open?_close, Option.bind_some, TrustedKey.ofPlaintext?_append]
            rfl
    | deprecated other =>
        rw [format] at other
        cases other

theorem openDeprecated_eq_ok_iff (format : StoredFormat.classify raw = .deprecated nonceText boxText) :
    openDeprecated nonceText boxText password = .ok trusted ↔ Opens raw password trusted := by
  constructor
  · intro opened
    unfold openDeprecated at opened
    split at opened
    · next nonce box nonceIs boxIs =>
        split at opened
        · next found plain =>
            cases opened
            obtain ⟨plaintext, unsealed, parts⟩ := Option.bind_eq_some_iff.mp plain
            obtain ⟨nonce, rfl, rfl⟩ := Cipher.SealedBox.Deprecated.exists_close_of_open? unsealed
            obtain ⟨secret, peer, token, behind, rfl⟩ := TrustedKey.ofPlaintext?_eq_some_iff.mp parts
            have positive : 0 < (secret.bytes ++ (peer.bytes ++ token)).length := by
              rw [List.length_append, secret.length_eq]
              omega
            obtain ⟨own, rfl⟩ := exists_key_append behind positive
            exact .intro (.deprecated format nonceIs boxIs) rfl .deprecated
        · cases opened
    · cases opened
  · rintro ⟨spelled, derived, authentic⟩
    cases spelled with
    | current other =>
        rw [format] at other
        cases other
    | deprecated same nonceIs boxIs =>
        rw [format] at same
        cases same
        cases derived
        cases authentic with
        | deprecated => exact openDeprecated_deprecatedBox nonceIs boxIs

theorem openCurrent_cases (raw password : String) :
    (∃ trusted, openCurrent raw password = .ok trusted) ∨ openCurrent raw password = .error .decryptionFailed := by
  unfold openCurrent
  repeat' split
  all_goals first
    | exact .inr rfl
    | exact .inl ⟨_, rfl⟩

theorem openDeprecated_cases (nonceText boxText password : String) :
    (∃ trusted, openDeprecated nonceText boxText password = .ok trusted) ∨
      openDeprecated nonceText boxText password = .error .decryptionFailed := by
  unfold openDeprecated
  repeat' split
  all_goals first
    | exact .inr rfl
    | exact .inl ⟨_, rfl⟩

/-- A text opens to one credential at most. -/
theorem Opens.unique {other : TrustedKey} (opens : Opens raw password trusted) (opensToo : Opens raw password other) :
    trusted = other := by
  cases format : StoredFormat.classify raw with
  | current text =>
      have opened := (openCurrent_eq_ok_iff format).mpr opens
      rw [(openCurrent_eq_ok_iff format).mpr opensToo] at opened
      exact (Except.ok.inj opened).symm
  | deprecated nonceText boxText =>
      have opened := (openDeprecated_eq_ok_iff format).mpr opens
      rw [(openDeprecated_eq_ok_iff format).mpr opensToo] at opened
      exact (Except.ok.inj opened).symm

theorem extrapolate_ne_decryptionFailed (elapsed benchmark target : Nat) :
    WorkFactor.extrapolate elapsed benchmark target ≠ .error .decryptionFailed := by
  unfold WorkFactor.extrapolate
  dsimp only
  split
  · nofun
  · nofun

variable {keys : KeyStore} {draw : Draw}

/-- What reading can come to: the store after it, and the result. -/
inductive Retrieved (keys : KeyStore) (password : String) (draw : Draw) :
    KeyStore × Except Failure (Option TrustedKey) → Prop where
  | absent (stored : keys.storage.get recordKey = .ok none) : Retrieved keys password draw (keys, .ok none)
  | refused {raw : String} (stored : keys.storage.get recordKey = .ok (some raw))
      (closed : ∀ trusted, ¬ Opens raw password trusted) :
      Retrieved keys password draw (keys, .error .decryptionFailed)
  | current {raw text : String} {trusted : TrustedKey} (stored : keys.storage.get recordKey = .ok (some raw))
      (format : StoredFormat.classify raw = .current text) (opens : Opens raw password trusted) :
      Retrieved keys password draw (keys, .ok (some trusted))
  /-- A deprecated record opened, but there is no cost to write it anew at. -/
  | unpicked {raw nonceText boxText : String} {trusted : TrustedKey} {failure : Failure}
      (stored : keys.storage.get recordKey = .ok (some raw))
      (format : StoredFormat.classify raw = .deprecated nonceText boxText) (opens : Opens raw password trusted)
      (unpicked : WorkFactor.extrapolate draw.elapsed WorkFactor.benchmarkLogN keys.target = .error failure) :
      Retrieved keys password draw (keys, .error failure)
  | migrated {raw nonceText boxText : String} {trusted : TrustedKey} {after : KeyStore}
      (stored : keys.storage.get recordKey = .ok (some raw))
      (format : StoredFormat.classify raw = .deprecated nonceText boxText) (opens : Opens raw password trusted) :
      Retrieved keys password draw (after, .ok (some trusted))

theorem retrieved_retrieve (reliable : keys.storage.Reliable) (password : String) (draw : Draw) :
    Retrieved keys password draw (keys.retrieve password draw) := by
  have stored := reliable.get recordKey
  cases held : keys.storage.items.get? recordKey with
  | none =>
      rw [held] at stored
      rw [retrieve, stored]
      exact .absent stored
  | some raw =>
      rw [held] at stored
      cases format : StoredFormat.classify raw with
      | current text =>
          rw [retrieve_of_current stored format]
          rcases openCurrent_cases raw password with ⟨trusted, opened⟩ | failed
          · rw [opened]
            exact .current stored format ((openCurrent_eq_ok_iff format).mp opened)
          · rw [failed]
            refine .refused stored fun trusted opens => ?_
            rw [(openCurrent_eq_ok_iff format).mpr opens] at failed
            cases failed
      | deprecated nonceText boxText =>
          rcases openDeprecated_cases nonceText boxText password with ⟨trusted, opened⟩ | failed
          · have opens := (openDeprecated_eq_ok_iff format).mp opened
            cases picked : WorkFactor.extrapolate draw.elapsed WorkFactor.benchmarkLogN keys.target with
            | error failure =>
                rw [retrieve_of_unpicked stored format opened picked]
                exact .unpicked stored format opens picked
            | ok logN =>
                obtain ⟨after, read, -, -⟩ := retrieve_of_picked stored format opened reliable picked
                rw [read]
                exact .migrated stored format opens
          · have reads : keys.retrieve password draw = (keys, .error .decryptionFailed) := by
              rw [retrieve, stored]
              dsimp only
              rw [format]
              dsimp only
              rw [failed]
            rw [reads]
            refine .refused stored fun trusted opens => ?_
            rw [(openDeprecated_eq_ok_iff format).mpr opens] at failed
            cases failed

namespace Retrieved

variable {read : KeyStore × Except Failure (Option TrustedKey)} (outcome : Retrieved keys password draw read)

include outcome

theorem absent_iff : read.2 = .ok none ↔ keys.storage.get recordKey = .ok none := by
  cases outcome with
  | absent stored => simp [stored]
  | refused stored | current stored | unpicked stored | migrated stored => simp [stored]

/-- A credential that is told is the one that the text opens to. -/
theorem opens (told : read.2 = .ok (some trusted)) :
    ∃ raw, keys.storage.get recordKey = .ok (some raw) ∧ Opens raw password trusted := by
  cases outcome with
  | absent | refused | unpicked => cases told
  | current stored format opens | migrated stored format opens =>
      cases told
      exact ⟨_, stored, opens⟩

/-- A text that opens is told, unless it is deprecated and there is no cost to write it anew at. -/
theorem told (stored : keys.storage.get recordKey = .ok (some raw)) (opens : Opens raw password trusted) :
    read.2 = .ok (some trusted) ∨
      ∃ nonceText boxText failure, StoredFormat.classify raw = .deprecated nonceText boxText ∧
        WorkFactor.extrapolate draw.elapsed WorkFactor.benchmarkLogN keys.target = .error failure ∧
        read.2 = .error failure := by
  cases outcome with
  | absent nothing =>
      rw [stored] at nothing
      cases nothing
  | refused held closed =>
      cases stored.symm.trans held
      exact absurd opens (closed trusted)
  | current held format opensToo | migrated held format opensToo =>
      cases stored.symm.trans held
      exact .inl (by rw [opens.unique opensToo])
  | unpicked held format opensToo unpicked =>
      cases stored.symm.trans held
      exact .inr ⟨_, _, _, format, unpicked, rfl⟩

/-- Refused is just what does not open. -/
theorem refused_iff : read.2 = .error .decryptionFailed ↔
    ∃ raw, keys.storage.get recordKey = .ok (some raw) ∧ ∀ trusted, ¬ Opens raw password trusted := by
  constructor
  · intro failed
    cases outcome with
    | absent | current | migrated => cases failed
    | refused stored closed => exact ⟨_, stored, closed⟩
    | unpicked stored format opens unpicked =>
        cases failed
        exact absurd unpicked (extrapolate_ne_decryptionFailed _ _ _)
  · rintro ⟨raw, stored, closed⟩
    cases outcome with
    | absent nothing =>
        rw [stored] at nothing
        cases nothing
    | refused => rfl
    | current held format opens | unpicked held format opens | migrated held format opens =>
        cases stored.symm.trans held
        exact absurd opens (closed _)

/-- The store stays as it is, unless a deprecated record was opened. -/
theorem unchanged : read.1 = keys ∨
    ∃ raw nonceText boxText trusted, keys.storage.get recordKey = .ok (some raw) ∧
      StoredFormat.classify raw = .deprecated nonceText boxText ∧ read.2 = .ok (some trusted) := by
  cases outcome with
  | absent | refused | current | unpicked => exact .inl rfl
  | migrated stored format opens => exact .inr ⟨_, _, _, _, stored, format, rfl⟩

end Retrieved

end KeyStore

end RelayClient
