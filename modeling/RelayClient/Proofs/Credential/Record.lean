import RelayClient.Credential.Record
import RelayClient.Proofs.Json.Members
import RelayClient.Proofs.Text.Hex

/-!
# Key records read back

The text of a record is a JSON object of its six fields, and is told apart from
a deprecated record by its first character.
-/

namespace RelayClient

open Json (Member)

/-- White space is cut off neither before nor behind what is solid. -/
theorem Text.trimChars_of_ends {first last : Char} (solidFirst : isBlank first = false) (solidLast : isBlank last = false)
    (between : List Char) : trimChars (first :: (between ++ [last])) = first :: (between ++ [last]) := by
  have front (rest : List Char) : (first :: rest).dropWhile isBlank = first :: rest :=
    List.dropWhile_cons_of_neg (by rw [solidFirst]; exact Bool.false_ne_true)
  have back (rest : List Char) : (last :: rest).dropWhile isBlank = last :: rest :=
    List.dropWhile_cons_of_neg (by rw [solidLast]; exact Bool.false_ne_true)
  rw [trimChars, front, ← List.cons_append, List.reverse_append, List.reverse_singleton, List.singleton_append, back,
    List.reverse_cons, List.reverse_reverse]

namespace KeyRecord

/-- The fields of a record as members of an object, in stored order. -/
def members (record : KeyRecord) : List Member :=
  [.ofText "nonce" record.nonce, .ofText "salt" record.salt, .ofNat "N" record.n.toNat, .ofNat "r" record.r.toNat,
    .ofNat "p" record.p.toNat, .ofText "encrypted" record.encrypted]

theorem toList_render (record : KeyRecord) :
    record.render.toList = '\x7b' :: (Member.writeAll record.members ++ ['\x7d']) := by
  have nonce : "\x7b\"nonce\":".toList = '\x7b' :: (Json.quote "nonce" ++ [':']) := by decide
  have salt : ",\"salt\":".toList = ',' :: (Json.quote "salt" ++ [':']) := by decide
  have n : ",\"N\":".toList = ',' :: (Json.quote "N" ++ [':']) := by decide
  have r : ",\"r\":".toList = ',' :: (Json.quote "r" ++ [':']) := by decide
  have p : ",\"p\":".toList = ',' :: (Json.quote "p" ++ [':']) := by decide
  have encrypted : ",\"encrypted\":".toList = ',' :: (Json.quote "encrypted" ++ [':']) := by decide
  have brace : "\x7d".toList = ['\x7d'] := by decide
  have digits (n : Nat) : (toString n).toList = Nat.toDigits 10 n := Nat.toList_repr
  have quoted (text : String) : (Json.quoted text).toList = Json.quote text := String.toList_ofList
  unfold render
  simp only [String.toList_append, nonce, salt, n, r, p, encrypted, brace, digits, quoted, members,
    Member.writeAll, Member.write, Member.ofText, Member.ofNat, List.append_assoc, List.cons_append, List.nil_append]

/-- The same fields as plain values. -/
def fields (record : KeyRecord) : List (String × JsonValue.Plain) :=
  [("nonce", .text record.nonce), ("salt", .text record.salt), ("N", .word record.n),
    ("r", .natural record.r.toNat (Nat.lt_trans record.r.toNat_lt (by decide))),
    ("p", .natural record.p.toNat (Nat.lt_trans record.p.toNat_lt (by decide))), ("encrypted", .text record.encrypted)]

theorem parseTree_render (record : KeyRecord) :
    Json.Tree.parse? record.render = some (.object (record.members.map Member.entry)) :=
  JsonValue.Plain.parse?_members (List.cons_ne_nil _ _ : record.fields ≠ []) record.toList_render

/-- The text of a record lists its fields in stored order. -/
theorem lists_render (record : KeyRecord) : JsonValue.Lists record.render
    [("nonce", .string record.nonce), ("salt", .string record.salt), ("N", .number (.natural record.n.toNat)),
      ("r", .number (.natural record.r.toNat)), ("p", .number (.natural record.p.toNat)),
      ("encrypted", .string record.encrypted)] :=
  JsonValue.Plain.lists_members (List.cons_ne_nil _ _ : record.fields ≠ []) record.toList_render

def json (record : KeyRecord) : JsonValue :=
  let nonce := Dictionary.place "nonce" (.string record.nonce) []
  let salt := Dictionary.place "salt" (.string record.salt) nonce
  let n := Dictionary.place "N" (.number (.natural record.n.toNat)) salt
  let r := Dictionary.place "r" (.number (.natural record.r.toNat)) n
  let p := Dictionary.place "p" (.number (.natural record.p.toNat)) r
  .object (Dictionary.place "encrypted" (.string record.encrypted) p)

theorem parseJson_render (record : KeyRecord) : JsonValue.parse? record.render = some record.json := by
  rw [JsonValue.parse?_of_lists record.lists_render, JsonValue.placeAll]
  simp only [List.foldl_cons, List.foldl_nil]
  rfl

theorem json_get? (record : KeyRecord) :
    record.json.get? "nonce" = some (.string record.nonce) ∧ record.json.get? "salt" = some (.string record.salt) ∧
      record.json.get? "N" = some (.number (.natural record.n.toNat)) ∧
      record.json.get? "r" = some (.number (.natural record.r.toNat)) ∧
      record.json.get? "p" = some (.number (.natural record.p.toNat)) ∧
      record.json.get? "encrypted" = some (.string record.encrypted) := by
  simp [json, JsonValue.get?, Dictionary.find?_place]

/-- The text of a record starts with a brace, which no deprecated record does, and ends with one. -/
theorem classify_render (record : KeyRecord) : StoredFormat.classify record.render = .current record.render := by
  have trimmed := Text.trimChars_of_ends (by decide : Text.isBlank '\x7b' = false) (by decide : Text.isBlank '\x7d' = false)
    (Member.writeAll record.members)
  rw [← record.toList_render] at trimmed
  have brace : (Text.Hex.digitValue? '\x7b').isSome = false := by decide
  have run : StoredFormat.isHexRun (record.render.toList.takeWhile (· != ':')) = false := by
    rw [record.toList_render, List.takeWhile_cons_of_pos (by decide), StoredFormat.isHexRun, List.all_cons, brace]
    rfl
  rw [StoredFormat.classify, trimmed, run, Bool.false_and, String.ofList_toList]
  rfl

end KeyRecord

namespace WorkFactor

theorem toNat_n {work : WorkFactor} (small : work.logN.toNat < 64) : work.n.toNat = 2 ^ work.logN.toNat := by
  have bound : 2 ^ work.logN.toNat < 2 ^ 64 := Nat.pow_lt_pow_right Nat.one_lt_two small
  rw [n, UInt64.toNat_shiftLeft, UInt8.toNat_toUInt64, Nat.mod_eq_of_lt small, Nat.shiftLeft_eq]
  exact (congrArg (· % 2 ^ 64) (Nat.one_mul _)).trans (Nat.mod_eq_of_lt bound)

theorem logOf?_pow {log : Nat} (positive : 1 ≤ log) : logOf? (2 ^ log) = some log := by
  have large : 2 ≤ 2 ^ log := Nat.pow_le_pow_right Nat.two_pos positive
  rw [logOf?, Nat.log2_two_pow, if_pos ⟨large, rfl⟩]

end WorkFactor

namespace DecodedRecord

theorem check_value {α : Type} (recovered : Recovered α) (fault? : α → Option RecordFault) :
    (recovered.check fault?).value = recovered.value := by
  unfold Recovered.check
  split <;> rfl

theorem word?_toNat (word : UInt32) : word? word.toNat = some word := by
  rw [word?, if_pos word.toNat_lt, UInt32.ofNat_toNat]

end DecodedRecord

end RelayClient
