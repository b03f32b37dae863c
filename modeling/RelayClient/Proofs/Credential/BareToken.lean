import RelayClient.Proofs.Credential.Presence

/-!
# Tokens of deprecated records

A deprecated record ends in the bare text of a token of the first system. That text is read by the reader of
tagged texts, so it is told as it stands only where it does not look tagged. Where it does, the token that it
seems to spell is told, and it is that token which the record is written anew with.
-/

namespace RelayClient

theorem PushSystem.eq_tag_of_ofTag? {tag : Char} {system : PushSystem} (known : ofTag? tag = some system) :
    tag = system.tag := by
  rw [ofTag?.eq_def] at known
  split at known
  case h_1 | h_2 | h_3 =>
    cases known
    rfl
  case h_4 => cases known

namespace PushToken

variable {text : String}

/-- A text looks tagged: it is the written form of some token. -/
def IsTagged (text : String) : Prop :=
  ∃ token : PushToken, text = token.encode

/-- The written form of a token is longer than its text. -/
theorem encode_ne_text (token : PushToken) : token.encode ≠ token.text := by
  intro same
  have lengths := congrArg (fun text => text.toList.length) same
  simp only [encode, String.toList_ofList, List.length_cons] at lengths
  omega

theorem ofChars?_of_bare {chars : List Char} (someChar : chars ≠ []) (bare : ¬ IsTagged (String.ofList chars)) :
    ofChars? chars = some ⟨.gcm, String.ofList chars⟩ := by
  rw [ofChars?.eq_def]
  split
  · exact absurd rfl someChar
  · next tag rest =>
      cases known : PushSystem.ofTag? tag with
      | none => rfl
      | some system =>
          refine absurd ⟨⟨system, String.ofList rest⟩, ?_⟩ bare
          rw [encode, String.toList_ofList, PushSystem.eq_tag_of_ofTag? known, delimiter]
  · rfl

theorem decode?_of_bare (nonempty : text ≠ "") (bare : ¬ IsTagged text) : decode? text = some ⟨.gcm, text⟩ := by
  have someChar : text.toList ≠ [] := fun none => nonempty (String.toList_eq_nil_iff.mp none)
  have read := ofChars?_of_bare someChar (by rwa [String.ofList_toList])
  rwa [String.ofList_toList] at read

/-- What is told of a bare text. -/
structure Tells (text : String) (told : Option PushToken) : Prop where
  /-- The empty text is no token. -/
  none_iff : told = none ↔ text = ""
  /-- Any other is told as it stands just where it does not look tagged. -/
  bare_iff : told = some ⟨.gcm, text⟩ ↔ text ≠ "" ∧ ¬ IsTagged text
  /-- Else it is taken for the token that it looks like. -/
  tagged : ∀ token : PushToken, text = token.encode → told = some token

theorem tells_decode? (text : String) : Tells text (decode? text) := by
  constructor
  case none_iff =>
    constructor
    · intro none
      apply Classical.byContradiction
      intro nonempty
      by_cases tagged : IsTagged text
      · obtain ⟨token, rfl⟩ := tagged
        rw [decode?_encode] at none
        cases none
      · rw [decode?_of_bare nonempty tagged] at none
        cases none
    · rintro rfl
      rfl
  case bare_iff =>
    constructor
    · intro told
      constructor
      · rintro rfl
        cases told
      · rintro ⟨token, rfl⟩
        rw [decode?_encode] at told
        have same := congrArg PushToken.text (Option.some.inj told)
        exact encode_ne_text token same.symm
    · rintro ⟨nonempty, bare⟩
      exact decode?_of_bare nonempty bare
  case tagged =>
    rintro token rfl
    exact decode?_encode token

end PushToken

namespace KeyStore

open Cipher (Key Nonce)

variable {keys after : KeyStore} {raw password text : String} {own secret peer : Key} {token : Bytes} {nonce : Nonce}
  {trusted : TrustedKey} {draw : Draw}

section Spelled

variable (stored : keys.storage.get recordKey = .ok (some raw))
  (spelled : StoredBox.SpelledBy raw
    (.deprecated nonce.bytes (deprecatedBox own secret peer token password nonce)))

include stored spelled

/-- Whatever storage does, a deprecated record that is opened tells its own credential, and leaves a record of
that in its place. -/
theorem retrieve_of_spelledBy (read : keys.retrieve password draw = (after, .ok (some trusted))) :
    trusted = credentialOf secret peer token ∧ ∃ record : KeyRecord,
      after.storage.get recordKey = .ok (some record.render) ∧ openCurrent record.render password = .ok trusted := by
  cases spelled with
  | deprecated format nonceIs boxIs =>
      rw [retrieve_of_openDeprecated stored format (openDeprecated_deprecatedBox nonceIs boxIs)] at read
      cases wrote : keys.store (credentialOf secret peer token) password keys.isAutoSession draw with
      | mk reached outcome =>
          rw [wrote] at read
          cases outcome with
          | error failure => cases read
          | ok _ =>
              obtain ⟨rfl, told⟩ := Prod.mk.inj read
              obtain ⟨record, opens, held, refusals⟩ := record_of_store wrote
              have found : reached.storage.get recordKey = .ok (some record.render) := by
                rw [Storage.get_eq_ok_iff, refusals]
                exact ⟨(Storage.get_eq_ok_iff.mp stored).1, held⟩
              rw [retrieveCurrent, found] at told
              dsimp only at told
              rw [opens] at told
              cases told
              exact ⟨rfl, record, found, opens⟩

/-- So does any later opening, whatever passwords were tried before it. -/
theorem retrieve_again_of_spelledBy (read : keys.retrieve password draw = (after, .ok (some trusted)))
    (attempts : List (String × Draw)) (again : Draw) :
    (after.retrieveAll attempts).retrieve password again = (after, .ok (some (credentialOf secret peer token))) := by
  obtain ⟨rfl, record, found, opens⟩ := retrieve_of_spelledBy stored spelled read
  rw [retrieveAll_of_current found record.classify_render, retrieve_of_current found record.classify_render, opens]
  rfl

end Spelled

/-- How a store tells the bare text that its deprecated record ends in. -/
structure ReadsToken (keys : KeyStore) (password text : String) : Prop where
  /-- On the first opening, which writes the record anew. -/
  first : ∀ draw after trusted, keys.retrieve password draw = (after, .ok (some trusted)) →
    PushToken.Tells text trusted.token
  /-- And on any later one. -/
  later : ∀ draw after trusted, keys.retrieve password draw = (after, .ok (some trusted)) → ∀ attempts again,
    ∃ trusted, (after.retrieveAll attempts).retrieve password again = (after, .ok (some trusted)) ∧
      PushToken.Tells text trusted.token
  /-- Reliable storage and a cost are enough for the first. -/
  opened : keys.storage.Reliable → ∀ draw logN,
    WorkFactor.extrapolate draw.elapsed WorkFactor.benchmarkLogN keys.target = .ok logN →
      ∃ after trusted, keys.retrieve password draw = (after, .ok (some trusted))

theorem tells_credentialOf (secret peer : Key) (text : String) :
    PushToken.Tells text (credentialOf secret peer (Text.utf8 text)).token := by
  rw [credentialOf, Text.ofUtf8?_utf8]
  exact PushToken.tells_decode? text

/-- The bare text of a deprecated record is told as it stands, unless it looks tagged: then the token that it
looks like is told, before and after the record was written anew. -/
theorem readsToken_of_spelledBy (stored : keys.storage.get recordKey = .ok (some raw))
    (spelled : StoredBox.SpelledBy raw
      (.deprecated nonce.bytes (deprecatedBox own secret peer (Text.utf8 text) password nonce))) :
    keys.ReadsToken password text := by
  constructor
  case first =>
    intro draw after trusted read
    obtain ⟨rfl, -⟩ := retrieve_of_spelledBy stored spelled read
    exact tells_credentialOf secret peer text
  case later =>
    intro draw after trusted read attempts again
    exact ⟨_, retrieve_again_of_spelledBy stored spelled read attempts again, tells_credentialOf secret peer text⟩
  case opened =>
    intro reliable draw logN picked
    cases spelled with
    | deprecated format nonceIs boxIs =>
        have opens := openDeprecated_deprecatedBox nonceIs boxIs
        obtain ⟨after, read, -, -⟩ := retrieve_of_picked stored format opens reliable picked
        exact ⟨after, _, read⟩

/-- A deprecated record that ends in a bare text. -/
def bareText (text : String) : String :=
  String.ofList (Text.Hex.digits (Cipher.Sized.fit Cipher.nonceLength [5]).bytes ++ ':' ::
    Text.Hex.digits (deprecatedBox (.fit 32 [1]) (.fit 32 [2]) (.fit 32 [3]) (Text.utf8 text) "p"
      (.fit Cipher.nonceLength [5])))

/-- A store over memory that holds such a record. -/
def bareKeys (text : String) : KeyStore :=
  ⟨{ backend := .memory (Dictionary.empty.insert recordKey (bareText text)) }, 10 ^ 9, none⟩

theorem get_bareKeys (text : String) : (bareKeys text).storage.get recordKey = .ok (some (bareText text)) :=
  Storage.get_memory_insert _ recordKey (bareText text)

theorem spelledBy_bareText (text : String) : StoredBox.SpelledBy (bareText text)
    (.deprecated (Cipher.Sized.fit Cipher.nonceLength [5]).bytes
      (deprecatedBox (.fit 32 [1]) (.fit 32 [2]) (.fit 32 [3]) (Text.utf8 text) "p" (.fit Cipher.nonceLength [5]))) :=
  StoredBox.spelledBy_of_spells (StoredFormat.spells_encode _ _) (by decide) (deprecatedBox_ne_nil _ _ _ _ _ _)

/-- A text with a tag that names no system is told as it stands. -/
theorem readsToken_bareKeys : (bareKeys "x:y").storage.get recordKey = .ok (some (bareText "x:y")) ∧
    ¬ PushToken.IsTagged "x:y" ∧ (bareKeys "x:y").ReadsToken "p" "x:y" := by
  refine ⟨get_bareKeys "x:y", ?_, readsToken_of_spelledBy (get_bareKeys "x:y") (spelledBy_bareText "x:y")⟩
  exact ((PushToken.tells_decode? "x:y").bare_iff.mp rfl).2

/-- A text that looks tagged is told as a token of another system, without its first two characters. -/
theorem retrieve_bareKeys_tagged :
    (bareKeys "a:x").storage.get recordKey = .ok (some (bareText "a:x")) ∧
    StoredBox.SpelledBy (bareText "a:x") (.deprecated (Cipher.Sized.fit Cipher.nonceLength [5]).bytes
      (deprecatedBox (.fit 32 [1]) (.fit 32 [2]) (.fit 32 [3]) (Text.utf8 "a:x") "p" (.fit Cipher.nonceLength [5]))) ∧
    ∃ after trusted, (bareKeys "a:x").retrieve "p" swiftDraw = (after, .ok (some trusted)) ∧
      trusted.token = some ⟨.apns, "x"⟩ ∧ trusted.token ≠ some ⟨.gcm, "a:x"⟩ := by
  obtain ⟨logN, picked⟩ := exists_extrapolate_swiftDraw
  obtain ⟨after, read, -, -⟩ := retrieve_deprecated_of_picked (StoredFormat.spells_encode _ _) (get_bareKeys "a:x")
    (Storage.reliable_memory _) picked
  have told := (tells_credentialOf (.fit 32 [2]) (.fit 32 [3]) "a:x").tagged ⟨.apns, "x"⟩ rfl
  refine ⟨get_bareKeys "a:x", spelledBy_bareText "a:x", after, _, read, told, ?_⟩
  rw [told]
  decide

end KeyStore

end RelayClient
