import RelayClient.Proofs.Credential.FailedWrites
import RelayClient.Proofs.Credential.Reading
import RelayClient.Proofs.Json.Extents

/-!
# The check for a credential

Whether a credential is stored is told without a password, by the length of the stored text and a colon in
it. Whatever any password opens passes: its box holds two keys and a tag, each byte of it is spelled with
two digits, and both formats put a colon before them.
-/

namespace RelayClient

open Text (trimChars)

namespace KeyStore

variable {raw password nonceText boxText : String} {trusted : TrustedKey} {keys after : KeyStore} {draw : Draw}
  {auto : Bool}

theorem isPlausible_of_length (long : minRecordLength < raw.toList.length) (colon : ':' ∈ raw.toList) :
    isPlausible raw = true := by
  have bytes : minRecordLength < raw.utf8ByteSize := Nat.lt_of_lt_of_le long (Text.length_le_utf8ByteSize raw)
  rw [isPlausible, Bool.and_eq_true, decide_eq_true_eq, List.contains_iff_mem]
  exact ⟨bytes, colon⟩

/-- The ciphertext of a decoded record stands in the text as a string of digits. -/
theorem exists_encrypted_of_decode {record : DecodedRecord} (read : (DecodedRecord.decode raw).1 = some record) :
    ∃ json text, JsonValue.parse? raw = some json ∧ json.get? "encrypted" = some (.string text) ∧
      Text.Hex.decode text = .ok record.encrypted := by
  rw [DecodedRecord.decode] at read
  split at read
  · cases read
  · next json parsed =>
      obtain ⟨text, found, spells⟩ := (DecodedRecord.ofJson_eq_some_iff.mp read).encrypted
      exact ⟨json, text, parsed, found, Text.Hex.decode_eq_ok_iff_spells.mpr spells⟩

/-- The ciphertext of a record that opens has room for two keys and a tag. -/
theorem exists_decode_of_opened (opened : openCurrent raw password = .ok trusted) :
    ∃ record, (DecodedRecord.decode raw).1 = some record ∧ 80 ≤ record.encrypted.length := by
  obtain ⟨record, key, secret, peer, token, read, -, authentic, -⟩ := exists_sealedOver_of_openCurrent opened
  refine ⟨record, read, ?_⟩
  cases authentic with
  | current nonceIs boxIs =>
      rw [boxIs, Cipher.SealedBox.length_close, List.length_append, List.length_append, secret.length_eq, peer.length_eq]
      omega

theorem isPlausible_of_openCurrent (opened : openCurrent raw password = .ok trusted) : isPlausible raw = true := by
  obtain ⟨record, read, large⟩ := exists_decode_of_opened opened
  obtain ⟨json, text, parsed, found, decoded⟩ := exists_encrypted_of_decode read
  obtain ⟨fits, colon⟩ := JsonValue.length_of_get? parsed found
  have spelled := Text.Hex.length_of_decode decoded
  exact isPlausible_of_length (by rw [minRecordLength]; omega) colon

theorem trimChars_sublist (chars : List Char) : (trimChars chars).Sublist chars := by
  have front := List.dropWhile_sublist (l := chars) Text.isBlank
  have back := List.dropWhile_sublist (l := (chars.dropWhile Text.isBlank).reverse) Text.isBlank
  rw [trimChars]
  exact (List.reverse_sublist.mp (by rw [List.reverse_reverse]; exact back)).trans front

/-- The box of a deprecated record stands in the text behind a colon. -/
theorem of_classify_deprecated (format : StoredFormat.classify raw = .deprecated nonceText boxText) :
    boxText.toList.length ≤ raw.toList.length ∧ ':' ∈ raw.toList := by
  unfold StoredFormat.classify at format
  dsimp only at format
  split at format
  · next runs =>
      cases format
      have within := (List.dropWhile_sublist (l := trimChars raw.toList) (· != ':')).trans (trimChars_sublist raw.toList)
      obtain ⟨-, boxRun⟩ := Bool.and_eq_true_iff.mp runs
      rw [String.toList_ofList]
      refine ⟨((List.drop_sublist 1 _).trans within).length_le, ?_⟩
      cases behind : (trimChars raw.toList).dropWhile (· != ':') with
      | nil =>
          rw [behind] at boxRun
          cases boxRun
      | cons c rest =>
          have stopped := List.head_dropWhile_not (· != ':') (l := trimChars raw.toList)
            (by rw [behind]; exact List.cons_ne_nil _ _)
          simp only [behind, List.head_cons, bne_eq_false_iff_eq] at stopped
          rw [behind, stopped] at within
          exact within.subset (.head _)
  · cases format

theorem isPlausible_of_openDeprecated (format : StoredFormat.classify raw = .deprecated nonceText boxText)
    (opened : openDeprecated nonceText boxText password = .ok trusted) : isPlausible raw = true := by
  obtain ⟨fits, colon⟩ := of_classify_deprecated format
  obtain ⟨spelled, -, authentic⟩ := (openDeprecated_eq_ok_iff format).mp opened
  cases spelled with
  | current other =>
      rw [format] at other
      cases other
  | deprecated same nonceIs boxIs =>
      rw [format] at same
      cases same
      cases authentic
      rw [Text.Hex.decode?] at boxIs
      cases decoded : Text.Hex.decode boxText with
      | error problem => rw [decoded] at boxIs; cases boxIs
      | ok box =>
          rw [decoded] at boxIs
          cases boxIs
          have spelled := Text.Hex.length_of_decode decoded
          rw [Cipher.SealedBox.Deprecated.length_close, List.length_append, List.length_append, List.length_append] at spelled
          refine isPlausible_of_length ?_ colon
          rw [minRecordLength]
          have sizes (key : Cipher.Key) : key.bytes.length = 32 := key.length_eq
          simp only [sizes] at spelled
          omega

/-- The change of the flag leaves the record. -/
theorem on_autoWrite (map : String → Option String) (auto : Bool) : (autoWrite auto).on map recordKey = map recordKey := by
  have apart : recordKey ≠ autoKey := by decide
  cases auto <;> exact Function.update_of_ne apart _ _

/-- A write that succeeds leaves a record that its password opens. -/
theorem record_of_store (stored : keys.store trusted password auto draw = (after, .ok ())) :
    ∃ record, openCurrent (KeyRecord.render record) password = .ok trusted ∧
      after.storage.items.get? recordKey = some record.render ∧ after.storage.refusals = keys.storage.refusals := by
  rw [store, storeAt] at stored
  cases sealed : (WorkFactor.extrapolate draw.elapsed WorkFactor.benchmarkLogN keys.target).bind
      (sealRecord trusted password draw) with
  | error failure => rw [sealed] at stored; cases stored
  | ok record =>
      rw [sealed] at stored
      dsimp only at stored
      cases wrote : keys.storage.set recordKey record.render with
      | mk storage result =>
          rw [wrote] at stored
          cases result with
          | error failure => cases stored
          | ok _ =>
              dsimp only at stored
              rw [writeAuto_eq] at stored
              obtain ⟨rfl, flagged⟩ := Prod.mk.inj stored
              have written : keys.storage.write (.set recordKey record.render) = (storage, .ok ()) := wrote
              have held := Storage.get?_write_of_ok (congrArg Prod.snd written)
              have refusals := Storage.write_refusals keys.storage (.set recordKey record.render)
              rw [written] at held refusals
              refine ⟨record, openCurrent_of_sealed (isWithinBounds_extrapolate _ _ _) sealed, ?_, ?_⟩
              · rw [Storage.get?_write_of_ok flagged, on_autoWrite, held, StorageWrite.on, Function.update_self]
              · rw [Storage.write_refusals, refusals]

/-- The check sees every credential that can be read: before it is read, after it was, and after it was stored. -/
structure ShowsPresence (keys : KeyStore) : Prop where
  retrieved : ∀ {password draw after trusted}, keys.retrieve password draw = (after, .ok (some trusted)) →
    keys.hasTrustedKey = true ∧ after.hasTrustedKey = true
  /-- Only where look-ups are refused, the check cannot tell. -/
  stored : ∀ {trusted password auto draw after}, keys.store trusted password auto draw = (after, .ok ()) →
    after.hasTrustedKey = !keys.storage.refusals.get

theorem hasTrustedKey_of_get (found : keys.storage.get recordKey = .ok (some raw)) (passes : isPlausible raw = true) :
    keys.hasTrustedKey = true := by
  rw [hasTrustedKey, found]
  exact passes

theorem hasTrustedKey_of_retrieveCurrent (told : (keys.retrieveCurrent password).map some = .ok (some trusted)) :
    keys.hasTrustedKey = true := by
  have read : keys.retrieveCurrent password = .ok trusted := by
    cases found : keys.retrieveCurrent password with
    | error failure => rw [found] at told; cases told
    | ok other => rw [found] at told; cases told; rfl
  unfold retrieveCurrent at read
  split at read
  · cases read
  · cases read
  · next raw found => exact hasTrustedKey_of_get found (isPlausible_of_openCurrent read)

theorem hasTrustedKey_of_retrieve (read : keys.retrieve password draw = (after, .ok (some trusted))) :
    keys.hasTrustedKey = true ∧ after.hasTrustedKey = true := by
  unfold retrieve at read
  split at read
  · cases read
  · cases read
  next raw found =>
  split at read
  · obtain ⟨rfl, told⟩ := Prod.mk.inj read
    have present := hasTrustedKey_of_retrieveCurrent told
    exact ⟨present, present⟩
  · next format =>
      split at read
      · cases read
      next opened =>
      have before := hasTrustedKey_of_get found (isPlausible_of_openDeprecated format opened)
      split at read
      · cases read
      · obtain ⟨rfl, told⟩ := Prod.mk.inj read
        exact ⟨before, hasTrustedKey_of_retrieveCurrent told⟩

theorem hasTrustedKey_of_store (stored : keys.store trusted password auto draw = (after, .ok ())) :
    after.hasTrustedKey = !keys.storage.refusals.get := by
  obtain ⟨record, opens, held, refusals⟩ := record_of_store stored
  rw [hasTrustedKey, Storage.get, held, refusals]
  cases keys.storage.refusals.get with
  | true => rfl
  | false => exact isPlausible_of_openCurrent opens

theorem showsPresence (keys : KeyStore) : keys.ShowsPresence where
  retrieved := hasTrustedKey_of_retrieve
  stored := hasTrustedKey_of_store

/-- A deprecated record is seen before it is opened and, written anew, after that. -/
theorem showsPresence_deprecatedKeys : ∃ after trusted,
    (deprecatedKeys (10 ^ 9)).retrieve "p" swiftDraw = (after, .ok (some trusted)) ∧
    (deprecatedKeys (10 ^ 9)).hasTrustedKey = true ∧ after.hasTrustedKey = true := by
  obtain ⟨logN, picked⟩ := exists_extrapolate_swiftDraw
  obtain ⟨after, read, -, -⟩ := retrieve_deprecated_of_picked (StoredFormat.spells_encode _ _)
    (get_deprecatedKeys (10 ^ 9)) (Storage.reliable_memory _) picked
  exact ⟨after, _, read, (showsPresence _).retrieved read⟩

/-- A store over memory that refuses look-ups. -/
def unseenKeys : KeyStore :=
  ⟨{ refusals := { get := true } }, 10 ^ 9, none⟩

/-- A credential is stored, but the check cannot look it up. -/
theorem unseen_unseenKeys : ∃ after, unseenKeys.store plainKey "p" false swiftDraw = (after, .ok ()) ∧
    after.hasTrustedKey = false := by
  obtain ⟨logN, picked⟩ := exists_extrapolate_swiftDraw
  have accepts (value : String) : (unseenKeys.storage.write (.set recordKey value)).2 = .ok () := rfl
  obtain ⟨record, -, stored⟩ := exists_store_eq unseenKeys plainKey "p" false picked accepts
  exact ⟨_, stored, rfl⟩

end KeyStore

end RelayClient
