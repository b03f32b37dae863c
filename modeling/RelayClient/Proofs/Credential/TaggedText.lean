import RelayClient.Proofs.Credential.BareToken

/-!
# Tagged texts of tokens

A token is written behind the tag of its system, and is read back whatever its text is. A text that
starts with no known tag is a token of the first system as it stands, so it is written with a tag
before it, and from then on it keeps its written form. What is behind the tag may be cut off by
bytes: a tag may be of any width, and the cut still falls between two characters.
-/

namespace RelayClient

/-! ## Cuts by bytes -/

/-- The text from a byte on. There is none if that byte is inside a character or past the end. -/
def Text.fromByte? (text : String) (offset : Nat) : Option String :=
  if boundary : String.Pos.Raw.IsValid text ⟨offset⟩ then some (text.sliceFrom (text.pos ⟨offset⟩ boundary)).copy
  else none

theorem Text.fromByte?_append (before after : String) :
    fromByte? (before ++ after) before.utf8ByteSize = some after := by
  have boundary : String.Pos.Raw.IsValid (before ++ after) ⟨before.utf8ByteSize⟩ :=
    String.Pos.Raw.isValid_iff_exists_append.mpr ⟨before, after, rfl, rfl⟩
  have cut : ((before ++ after).pos ⟨before.utf8ByteSize⟩ boundary).Splits before after := ⟨rfl, rfl⟩
  rw [fromByte?, dif_pos boundary, (String.Pos.splits _).eq_right cut]

/-- A cut behind the first two characters leaves the others, however wide the two are. -/
theorem Text.fromByte?_of_cons {text : String} {first second : Char} {rest : List Char}
    (chars : text.toList = first :: second :: rest) :
    fromByte? text (first.utf8Size + second.utf8Size) = some (String.ofList rest) := by
  have whole : text = String.ofList [first, second] ++ String.ofList rest := by
    rw [← String.ofList_append, ← String.ofList_toList (s := text), chars]
    rfl
  have size : (String.ofList [first, second]).utf8ByteSize = first.utf8Size + second.utf8Size := by simp
  rw [whole, ← size]
  exact fromByte?_append _ _

/-- A cut one byte into a character of two bytes leaves nothing. -/
example : Text.fromByte? "é:x" 1 = none := by decide

namespace PushToken

/-! ## Reading by bytes -/

/-- The reading of a text that cuts it where the bytes of its tag and of the delimiter end. It fails,
with the offset, where a text has no such cut. -/
def decodeByBytes (text : String) : Except Nat (Option PushToken) :=
  match text.toList with
  | [] => .ok none
  | [_] => .ok (some ⟨.gcm, text⟩)
  | tag :: next :: _ =>
      if next = delimiter then
        let behind := tag.utf8Size + delimiter.utf8Size
        match Text.fromByte? text behind with
        | none => .error behind
        | some rest =>
            match PushSystem.ofTag? tag with
            | some system => .ok (some ⟨system, rest⟩)
            | none => .ok (some ⟨.gcm, text⟩)
      else .ok (some ⟨.gcm, text⟩)

/-- A text whose second character is not the delimiter is read as it stands. -/
theorem ofChars?_of_undelimited {chars : List Char} (someChar : chars ≠ [])
    (undelimited : ∀ tag rest, chars ≠ tag :: delimiter :: rest) :
    ofChars? chars = some ⟨.gcm, String.ofList chars⟩ := by
  rw [ofChars?.eq_def]
  split
  · exact absurd rfl someChar
  · next tag rest => exact absurd rfl (undelimited tag rest)
  · rfl

/-- The cut is never missing, and leaves what the reading by characters leaves. -/
theorem decodeByBytes_eq (text : String) : decodeByBytes text = .ok (decode? text) := by
  have whole : String.ofList text.toList = text := String.ofList_toList
  unfold decodeByBytes decode?
  split
  · next empty =>
      rw [empty]
      rfl
  · next only chars =>
      rw [chars] at whole ⊢
      rw [ofChars?_of_undelimited (List.cons_ne_nil _ _) (by simp), whole]
  · next tag next rest chars =>
      rw [chars] at whole ⊢
      split
      · next delimited =>
          subst delimited
          dsimp only
          rw [Text.fromByte?_of_cons chars, delimiter, ofChars?]
          dsimp only
          cases PushSystem.ofTag? tag with
          | some system => rfl
          | none =>
              rw [← whole]
              rfl
      · next other =>
          rw [ofChars?_of_undelimited (List.cons_ne_nil _ _) (by simp [other]), whole]

/-! ## What is written -/

/-- A text starts with a tag of some system and the delimiter. -/
def HasKnownTag (text : String) : Prop :=
  ∃ system : PushSystem, [system.tag, delimiter] <+: text.toList

theorem isTagged_iff_hasKnownTag (text : String) : IsTagged text ↔ HasKnownTag text := by
  constructor
  · rintro ⟨token, rfl⟩
    exact ⟨token.system, token.text.toList, String.toList_ofList.symm⟩
  · rintro ⟨system, rest, chars⟩
    refine ⟨⟨system, String.ofList rest⟩, ?_⟩
    rw [encode, String.toList_ofList, ← String.ofList_toList (s := text), ← chars]
    rfl

theorem encode_gcm (text : String) : encode ⟨.gcm, text⟩ = "g:" ++ text := by
  rw [← String.toList_inj, encode, String.toList_ofList, String.toList_append]
  rfl

/-- How tokens are written and read. -/
structure TagsLosslessly : Prop where
  roundTrip (token : PushToken) : decode? token.encode = some token
  /-- A text that is not empty is read as a token, without a cut inside a character. The token is written
  as the text itself where that has a known tag, and else as the text behind the tag of the first system. -/
  reads (text : String) (nonempty : text ≠ "") : ∃ token, decodeByBytes text = .ok (some token) ∧
    decode? text = some token ∧ (HasKnownTag text → token.encode = text) ∧
      (¬ HasKnownTag text → token.encode = "g:" ++ text)
  /-- What was read once is read again from what is written then. -/
  settles (text : String) : (decode? text).bind (fun token => decode? token.encode) = decode? text

/-- Tags lose nothing of a token, and nothing of a text that is read as one. -/
theorem tagsLosslessly : TagsLosslessly where
  roundTrip := decode?_encode
  reads text nonempty := by
    rw [decodeByBytes_eq, ← isTagged_iff_hasKnownTag]
    by_cases tagged : IsTagged text
    · obtain ⟨token, rfl⟩ := tagged
      have read := decode?_encode token
      exact ⟨token, by rw [read], read, fun _ => rfl, fun bare => absurd ⟨token, rfl⟩ bare⟩
    · have read := decode?_of_bare nonempty tagged
      exact ⟨_, by rw [read], read, fun known => absurd known tagged, fun _ => encode_gcm text⟩
  settles text := by
    cases decode? text with
    | none => rfl
    | some token => exact decode?_encode token

/-- A tag that names no system becomes part of the token. -/
example : (decode? "é:x").map encode = some "g:é:x" := by decide

end PushToken

end RelayClient
