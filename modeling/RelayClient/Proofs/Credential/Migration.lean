import RelayClient.Proofs.Credential.Contents

/-!
# Deprecated records

A deprecated record is written anew in the current format when it is first
opened. Nothing of it is lost, and from then on opening it changes nothing. Only
a cost that cannot be picked keeps it from being opened.
-/

namespace RelayClient

theorem Text.trimChars_eq_self {chars : List Char} (solid : ∀ c ∈ chars, isBlank c = false) :
    trimChars chars = chars := by
  have stays (some : List Char) (solid : ∀ c ∈ some, isBlank c = false) : some.dropWhile isBlank = some := by
    cases some with
    | nil => rfl
    | cons c rest => exact List.dropWhile_cons_of_neg (by rw [solid c (.head _)]; exact Bool.false_ne_true)
  rw [trimChars, stays chars solid, stays chars.reverse fun c mem => solid c (List.mem_reverse.mp mem),
    List.reverse_reverse]

theorem Text.isBlank_eq_false {c : Char} (least : 48 ≤ c.toNat) (most : c.toNat < 103) : isBlank c = false := by
  simp only [isBlank, Bool.or_eq_false_iff, Bool.and_eq_false_iff, decide_eq_false_iff_not, beq_eq_false_iff_ne]
  omega

namespace StoredFormat

/-- A text is the deprecated record of a nonce and a box: their digits, of either case, with a colon between them. -/
def Spells (raw : String) (nonce box : Bytes) : Prop :=
  ∃ nonceDigits boxDigits, Text.Hex.ofDigits 0 nonceDigits = .ok nonce ∧ Text.Hex.ofDigits 0 boxDigits = .ok box ∧
    raw = String.ofList (nonceDigits ++ ':' :: boxDigits)

theorem spells_encode (nonce box : Bytes) :
    Spells (String.ofList (Text.Hex.digits nonce ++ ':' :: Text.Hex.digits box)) nonce box :=
  ⟨_, _, Text.Hex.ofDigits_digits 0 nonce, Text.Hex.ofDigits_digits 0 box, rfl⟩

theorem isHexRun_of_ofDigits {chars : List Char} {bytes : Bytes} (read : Text.Hex.ofDigits 0 chars = .ok bytes)
    (nonempty : bytes ≠ []) : isHexRun chars = true := by
  have digits := (Text.Hex.spells_of_ofDigits read).isSome_of_mem
  cases chars with
  | nil =>
      cases read
      exact absurd rfl nonempty
  | cons c rest => exact List.all_eq_true.mpr digits

/-- A deprecated record is told apart from a current one, and its parts are read back. -/
theorem Spells.classify {raw : String} {nonce box : Bytes} (spells : Spells raw nonce box) (someNonce : nonce ≠ [])
    (someBox : box ≠ []) : ∃ nonceText boxText, StoredFormat.classify raw = .deprecated nonceText boxText ∧
      Text.Hex.decode? nonceText = some nonce ∧ Text.Hex.decode? boxText = some box := by
  obtain ⟨nonceDigits, boxDigits, nonceIs, boxIs, rfl⟩ := spells
  have nonceRun := isHexRun_of_ofDigits nonceIs someNonce
  have boxRun := isHexRun_of_ofDigits boxIs someBox
  have nonceHex := (Text.Hex.spells_of_ofDigits nonceIs).isSome_of_mem
  have boxHex := (Text.Hex.spells_of_ofDigits boxIs).isSome_of_mem
  have solid : ∀ c ∈ nonceDigits ++ ':' :: boxDigits, Text.isBlank c = false := by
    intro c mem
    rcases List.mem_append.mp mem with mem | mem
    · have range := Text.Hex.lt_of_isSome (nonceHex c mem)
      exact Text.isBlank_eq_false range.1 range.2
    rcases List.mem_cons.mp mem with rfl | mem
    · decide
    · have range := Text.Hex.lt_of_isSome (boxHex c mem)
      exact Text.isBlank_eq_false range.1 range.2
  have colonless : ∀ c ∈ nonceDigits, (c != ':') = true := by
    intro c mem
    rw [bne_iff_ne]
    rintro rfl
    exact absurd (nonceHex ':' mem) (by decide)
  have before : (nonceDigits ++ ':' :: boxDigits).takeWhile (· != ':') = nonceDigits := by
    rw [List.takeWhile_append_of_pos colonless]
    exact List.append_nil nonceDigits
  have behind : ((nonceDigits ++ ':' :: boxDigits).dropWhile (· != ':')).drop 1 = boxDigits := by
    rw [List.dropWhile_append_of_pos colonless]
    rfl
  refine ⟨String.ofList nonceDigits, String.ofList boxDigits, ?_, ?_, ?_⟩
  · unfold StoredFormat.classify
    rw [String.toList_ofList, Text.trimChars_eq_self solid]
    dsimp only
    rw [before, behind, nonceRun, boxRun]
    rfl
  · rw [Text.Hex.decode?, Text.Hex.decode_ofList nonceIs]
    rfl
  · rw [Text.Hex.decode?, Text.Hex.decode_ofList boxIs]
    rfl

end StoredFormat

namespace KeyStore

open Cipher (Key Nonce)

/-- The deprecated box of the client's public key, a secret, a peer and the bytes of a token. -/
def deprecatedBox (own secret peer : Key) (token : Bytes) (password : String) (nonce : Nonce) : Bytes :=
  Cipher.SealedBox.Deprecated.close (deprecatedKey password) nonce
    (own.bytes ++ (secret.bytes ++ (peer.bytes ++ token)))

theorem deprecatedBox_ne_nil (own secret peer : Key) (token : Bytes) (password : String) (nonce : Nonce) :
    deprecatedBox own secret peer token password nonce ≠ [] :=
  Cipher.SealedBox.Deprecated.close_ne_nil _ _ _

/-- The credential of a secret, a peer and the bytes of a token, which may spell none. -/
def credentialOf (secret peer : Key) (token : Bytes) : TrustedKey :=
  ⟨secret, peer, (Text.ofUtf8? token).bind PushToken.decode?⟩

variable {keys : KeyStore} {raw password : String} {own secret peer : Key} {token : Bytes} {nonce : Nonce}

/-- A deprecated record opens under the password that it was sealed under. -/
theorem openDeprecated_deprecatedBox {nonceText boxText : String}
    (nonceIs : Text.Hex.decode? nonceText = some nonce.bytes)
    (boxIs : Text.Hex.decode? boxText = some (deprecatedBox own secret peer token password nonce)) :
    openDeprecated nonceText boxText password = .ok (credentialOf secret peer token) := by
  rw [openDeprecated, nonceIs, boxIs]
  dsimp only
  rw [deprecatedBox, Cipher.SealedBox.Deprecated.open?_close, Option.bind_some, List.drop_left' own.length_eq,
    TrustedKey.ofPlaintext?_append]
  rfl

/-- A deprecated record is told apart and opens under its password. -/
theorem exists_openDeprecated
    (spells : StoredFormat.Spells raw nonce.bytes (deprecatedBox own secret peer token password nonce)) :
    ∃ nonceText boxText, StoredFormat.classify raw = .deprecated nonceText boxText ∧
      openDeprecated nonceText boxText password = .ok (credentialOf secret peer token) := by
  have someNonce : nonce.bytes ≠ [] := List.ne_nil_of_length_pos (by rw [nonce.length_eq]; decide)
  obtain ⟨nonceText, boxText, format, nonceIs, boxIs⟩ :=
    spells.classify someNonce (deprecatedBox_ne_nil own secret peer token password nonce)
  exact ⟨nonceText, boxText, format, openDeprecated_deprecatedBox nonceIs boxIs⟩

theorem Holds.retrieveCurrent {trusted : TrustedKey} {auto : Bool} (holds : keys.Holds trusted password auto)
    (reliable : keys.storage.Reliable) : keys.retrieveCurrent password = .ok trusted := by
  obtain ⟨record, opens, held, _⟩ := holds
  rw [KeyStore.retrieveCurrent, reliable.get, held]
  exact opens

section Opened

variable {trusted : TrustedKey} {nonceText boxText : String} (stored : keys.storage.get recordKey = .ok (some raw))
  (format : StoredFormat.classify raw = .deprecated nonceText boxText)
  (opened : openDeprecated nonceText boxText password = .ok trusted)

include stored format opened

/-- Opening a deprecated record writes its credential anew and reads it again. -/
theorem retrieve_of_openDeprecated (draw : Draw) :
    keys.retrieve password draw =
      match keys.store trusted password keys.isAutoSession draw with
      | (after, .error failure) => (after, .error failure)
      | (after, .ok _) => (after, (after.retrieveCurrent password).map some) := by
  rw [retrieve, stored]
  cases result : keys.store trusted password keys.isAutoSession draw with
  | mk after outcome => cases outcome <;> simp only [format, opened, result]

/-- Without a cost nothing is written, and opening fails as picking one did. -/
theorem retrieve_of_unpicked {draw : Draw} {failure : Failure}
    (unpicked : WorkFactor.extrapolate draw.elapsed WorkFactor.benchmarkLogN keys.target = .error failure) :
    keys.retrieve password draw = (keys, .error failure) := by
  rw [retrieve_of_openDeprecated stored format opened, store, unpicked]
  rfl

/-- With a cost the credential is opened, and it is held from then on. -/
theorem retrieve_of_picked (reliable : keys.storage.Reliable) {draw : Draw} {logN : Nat}
    (picked : WorkFactor.extrapolate draw.elapsed WorkFactor.benchmarkLogN keys.target = .ok logN) :
    ∃ after, keys.retrieve password draw = (after, .ok (some trusted)) ∧
      after.Holds trusted password keys.isAutoSession ∧ after.storage.Reliable := by
  obtain ⟨least, most⟩ := WorkFactor.extrapolate_bounds picked
  have succeeds : (keys.storeAt (.ok logN) trusted password keys.isAutoSession draw).2 = .ok () :=
    storeAt_ok reliable least most draw
  have bounded : IsWithinBounds (.ok logN) := fun _ same => by cases same; exact ⟨least, most⟩
  rcases storeAt_cases reliable bounded draw with ⟨failed, _⟩ | ⟨_, holds, written⟩
  · exact absurd succeeds failed
  · refine ⟨_, ?_, holds, written⟩
    rw [retrieve_of_openDeprecated stored format opened, store, picked, ← Prod.eta (keys.storeAt _ _ _ _ _), succeeds]
    dsimp only
    rw [holds.retrieveCurrent written]
    rfl

end Opened

theorem retrieve_deprecated_of_unpicked
    (spells : StoredFormat.Spells raw nonce.bytes (deprecatedBox own secret peer token password nonce))
    (stored : keys.storage.get recordKey = .ok (some raw)) {draw : Draw} {failure : Failure}
    (unpicked : WorkFactor.extrapolate draw.elapsed WorkFactor.benchmarkLogN keys.target = .error failure) :
    keys.retrieve password draw = (keys, .error failure) := by
  obtain ⟨nonceText, boxText, format, opened⟩ := exists_openDeprecated spells
  exact retrieve_of_unpicked stored format opened unpicked

theorem retrieve_deprecated_of_picked
    (spells : StoredFormat.Spells raw nonce.bytes (deprecatedBox own secret peer token password nonce))
    (stored : keys.storage.get recordKey = .ok (some raw)) (reliable : keys.storage.Reliable) {draw : Draw} {logN : Nat}
    (picked : WorkFactor.extrapolate draw.elapsed WorkFactor.benchmarkLogN keys.target = .ok logN) :
    ∃ after, keys.retrieve password draw = (after, .ok (some (credentialOf secret peer token))) ∧
      after.Holds (credentialOf secret peer token) password keys.isAutoSession ∧ after.storage.Reliable := by
  obtain ⟨nonceText, boxText, format, opened⟩ := exists_openDeprecated spells
  exact retrieve_of_picked stored format opened reliable picked

/-- The store after the record was opened any number of times, under any passwords. -/
def retrieveAll (keys : KeyStore) (attempts : List (String × Draw)) : KeyStore :=
  attempts.foldl (fun current attempt => (current.retrieve attempt.1 attempt.2).1) keys

/-- A record in the current format is left where it is, however often it is opened. -/
theorem retrieveAll_of_current {text : String} (stored : keys.storage.get recordKey = .ok (some raw))
    (format : StoredFormat.classify raw = .current text) (attempts : List (String × Draw)) :
    keys.retrieveAll attempts = keys := by
  induction attempts with
  | nil => rfl
  | cons attempt rest ih =>
      rw [retrieveAll, List.foldl_cons, retrieve_of_current stored format]
      exact ih

theorem Holds.retrieveAll {trusted : TrustedKey} {auto : Bool} (holds : keys.Holds trusted password auto)
    (reliable : keys.storage.Reliable) (attempts : List (String × Draw)) : keys.retrieveAll attempts = keys := by
  obtain ⟨record, _, held, _⟩ := holds
  have stored : keys.storage.get recordKey = .ok (some record.render) := by rw [reliable.get, held]
  exact retrieveAll_of_current stored record.classify_render attempts

theorem exists_decode_of_openCurrent {trusted : TrustedKey} (opens : openCurrent raw password = .ok trusted) :
    ∃ record, (DecodedRecord.decode raw).1 = some record := by
  cases decoded : (DecodedRecord.decode raw).1 with
  | none =>
      rw [openCurrent, decoded] at opens
      cases opens
  | some record => exact ⟨record, rfl⟩

/-- A store holds a credential in a record of the current format, which opening it leaves as it is. -/
structure IsMigrated (keys : KeyStore) (trusted : TrustedKey) (password : String) : Prop where
  current : ∃ raw text record, keys.storage.get recordKey = .ok (some raw) ∧
    StoredFormat.classify raw = .current text ∧ (DecodedRecord.decode raw).1 = some record
  settled : ∀ attempts draw, (keys.retrieveAll attempts).retrieve password draw = (keys, .ok (some trusted))

theorem Holds.isMigrated {trusted : TrustedKey} {auto : Bool} (holds : keys.Holds trusted password auto)
    (reliable : keys.storage.Reliable) : keys.IsMigrated trusted password := by
  constructor
  · obtain ⟨record, opens, held, _⟩ := holds
    obtain ⟨decoded, read⟩ := exists_decode_of_openCurrent opens
    exact ⟨record.render, _, decoded, by rw [reliable.get, held], record.classify_render, read⟩
  · intro attempts draw
    rw [holds.retrieveAll reliable attempts]
    exact (holds.retrieve reliable password draw).2

/-- A credential is opened and written anew as soon as a cost can be picked; until then nothing changes. -/
structure Migrates (keys : KeyStore) (trusted : TrustedKey) (password : String) : Prop where
  picked : ∀ draw logN, WorkFactor.extrapolate draw.elapsed WorkFactor.benchmarkLogN keys.target = .ok logN →
    ∃ after, keys.retrieve password draw = (after, .ok (some trusted)) ∧ after.IsMigrated trusted password ∧
      after.isAutoSession = keys.isAutoSession
  unpicked : ∀ draw failure,
    WorkFactor.extrapolate draw.elapsed WorkFactor.benchmarkLogN keys.target = .error failure →
      keys.retrieve password draw = (keys, .error failure)

/-- On reliable storage a deprecated record is written anew once, and nothing of it is lost. -/
theorem migrates_of_spells (reliable : keys.storage.Reliable)
    (spells : StoredFormat.Spells raw nonce.bytes (deprecatedBox own secret peer token password nonce))
    (stored : keys.storage.get recordKey = .ok (some raw)) :
    keys.Migrates (credentialOf secret peer token) password := by
  constructor
  · intro draw logN picked
    obtain ⟨after, opened, holds, written⟩ := retrieve_deprecated_of_picked spells stored reliable picked
    exact ⟨after, opened, holds.isMigrated written, holds.isAutoSession written⟩
  · intro draw failure unpicked
    exact retrieve_deprecated_of_unpicked spells stored unpicked

/-- A deprecated record whose token looks tagged but names no system. -/
def deprecatedText : String :=
  String.ofList (Text.Hex.digits (Cipher.Sized.fit Cipher.nonceLength [5]).bytes ++ ':' ::
    Text.Hex.digits (deprecatedBox (.fit 32 [1]) (.fit 32 [2]) (.fit 32 [3]) (Text.utf8 "x:y") "p"
      (.fit Cipher.nonceLength [5])))

/-- A store over memory that holds the deprecated record, with a target time for derivations. -/
def deprecatedKeys (target : Nat) : KeyStore :=
  ⟨{ backend := .memory (Dictionary.empty.insert recordKey deprecatedText) }, target, none⟩

theorem get_deprecatedKeys (target : Nat) :
    (deprecatedKeys target).storage.get recordKey = .ok (some deprecatedText) :=
  Storage.get_memory_insert _ recordKey deprecatedText

theorem migrates_deprecatedKeys :
    (deprecatedKeys (10 ^ 9)).Migrates (credentialOf (.fit 32 [2]) (.fit 32 [3]) (Text.utf8 "x:y")) "p" ∧
    ∃ logN, WorkFactor.extrapolate (10 ^ 6) WorkFactor.benchmarkLogN (deprecatedKeys (10 ^ 9)).target = .ok logN := by
  constructor
  · exact migrates_of_spells (Storage.reliable_memory _) (StoredFormat.spells_encode _ _) (get_deprecatedKeys _)
  · unfold WorkFactor.extrapolate
    dsimp only
    rw [if_neg (by decide +kernel)]
    exact ⟨_, rfl⟩

/-- A target of no time lets no cost be picked, so that a deprecated record stays closed. -/
theorem retrieve_deprecatedKeys_zero : (deprecatedKeys 0).storage.Reliable ∧
    StoredFormat.Spells deprecatedText (Cipher.Sized.fit Cipher.nonceLength [5]).bytes
      (deprecatedBox (.fit 32 [1]) (.fit 32 [2]) (.fit 32 [3]) (Text.utf8 "x:y") "p" (.fit Cipher.nonceLength [5])) ∧
    (deprecatedKeys 0).storage.get recordKey = .ok (some deprecatedText) ∧
    (deprecatedKeys 0).retrieve "p" ⟨.fit 32 [], .fit Cipher.nonceLength [], 10 ^ 6⟩ =
      (deprecatedKeys 0, .error (.crypto "Cannot extrapolate scrypt cost (benchmark took 1ms)")) :=
  ⟨Storage.reliable_memory _, StoredFormat.spells_encode _ _, get_deprecatedKeys 0,
    retrieve_deprecated_of_unpicked (StoredFormat.spells_encode _ _) (get_deprecatedKeys 0) rfl⟩

end KeyStore

end RelayClient
