import RelayClient.Proofs.Envelope.RoundTrip
import RelayClient.Proofs.Pack.Readable

/-!
# Frames are brought to one form

A frame may repeat keys, hold entries and arguments that no message has, name a
subject by its second name and write numbers and lengths wider than it must.
Whatever it holds, reading it gives a message that reads back from its own frame:
writing once leaves nothing to be changed by reading and writing again.
-/

namespace RelayClient

open Pack (Value)

namespace Dictionary

variable {α : Type}

theorem length_place_le (key : String) (value : α) (entries : List (String × α)) :
    (place key value entries).length ≤ entries.length + 1 := by
  induction entries with
  | nil => exact Nat.le_refl 1
  | cons first rest ih =>
      obtain ⟨name, current⟩ := first
      simp only [place]
      split
      · exact Nat.le_refl _
      · split
        · exact Nat.succ_le_succ ih
        · exact Nat.le_succ _

/-- Inserting entries adds none but those, and at most as many. -/
theorem insertAll_le (dictionary : Dictionary α) (entries : List (String × α)) :
    (dictionary.insertAll entries).size ≤ dictionary.size + entries.length ∧
      ∀ entry ∈ (dictionary.insertAll entries).entries, entry ∈ dictionary.entries ∨ entry ∈ entries := by
  induction entries generalizing dictionary with
  | nil => exact ⟨Nat.le_refl _, fun entry mem => .inl mem⟩
  | cons first rest ih =>
      obtain ⟨fewer, among⟩ := ih (dictionary.insert first.1 first.2)
      have placed := length_place_le first.1 first.2 dictionary.entries
      constructor
      · refine Nat.le_trans fewer ?_
        rw [List.length_cons]
        simp only [size, insert]
        omega
      · intro entry mem
        rcases among entry mem with inserted | later
        · rcases mem_place inserted with rfl | before
          · exact .inr (.head rest)
          · exact .inl before
        · exact .inr (.tail first later)

theorem size_ofList_le (entries : List (String × α)) : (ofList entries).size ≤ entries.length := by
  have fewer := (insertAll_le (empty : Dictionary α) entries).1
  exact Nat.le_trans fewer (Nat.le_of_eq (Nat.zero_add _))

theorem mem_of_mem_ofList {entries : List (String × α)} {entry : String × α}
    (mem : entry ∈ (ofList entries).entries) : entry ∈ entries := by
  rcases (insertAll_le (empty : Dictionary α) entries).2 entry mem with none | given
  · cases none
  · exact given

end Dictionary

namespace SubType

theorem isKnown_of_mem : ∀ text ∈ knownNames, (ofName text).isKnown = true := by
  decide

/-- A name that reads as a subject without a name of its own is none of the known names. -/
theorem eq_unknown_of_ofName {text other : String} (reads : ofName text = .unknown other) :
    other = text ∧ text ∉ knownNames := by
  by_cases known : text ∈ knownNames
  · have named := isKnown_of_mem text known
    rw [reads] at named
    cases named
  · rw [ofName_of_not_mem known] at reads
    cases reads
    exact ⟨rfl, known⟩

/-- What stands in a message for a subject that was read: a known name, or another text that fits. -/
structure Readable (subject : SubType) : Prop where
  free : ∀ text, subject = .unknown text → text ∉ knownNames
  fits : (Text.utf8 subject.name).length < 2 ^ 32

theorem readable_ofName {text : String} (fits : (Text.utf8 text).length < 2 ^ 32) : (ofName text).Readable := by
  constructor
  case free =>
    intro other reads
    obtain ⟨rfl, free⟩ := eq_unknown_of_ofName reads
    exact free
  case fits =>
    cases reads : ofName text with
    | unknown other =>
        obtain ⟨rfl, -⟩ := eq_unknown_of_ofName reads
        exact fits
    | _ => decide

end SubType

namespace Message

/-- The fields of a message, as far as they were read from entries within a budget. -/
structure Fields.Readable (budget : Nat) (fields : Fields) : Prop where
  subject : ∀ subject, fields.subject = some subject → subject.Readable
  args : ∀ args, fields.args = some args → (argsValue args).Readable budget
  data : ∀ data, fields.data = some data → data.Readable budget

theorem mem_of_mem_textEntries {entries : List (Value × Value)} {field : String × Value}
    (mem : field ∈ textEntries entries) : (.text field.1, field.2) ∈ entries := by
  induction entries with
  | nil => cases mem
  | cons entry rest ih =>
      unfold textEntries at mem
      split at mem
      · cases mem
      · next same =>
          cases same
          rcases List.mem_cons.mp mem with rfl | later
          · exact .head _
          · exact .tail _ (ih later)
      · next same =>
          cases same
          exact .tail _ (ih mem)

theorem length_textEntries_le (entries : List (Value × Value)) : (textEntries entries).length ≤ entries.length := by
  induction entries with
  | nil => exact Nat.le_refl 0
  | cons entry rest ih =>
      unfold textEntries
      split
      · exact Nat.zero_le _
      · next same =>
          cases same
          exact Nat.succ_le_succ ih
      · next same =>
          cases same
          exact Nat.le_succ_of_le ih

/-- The arguments of a message are among the entries they were read from, so they are as readable. -/
theorem readable_argsValue {entries : List (Value × Value)} {budget : Nat}
    (readable : (Value.map entries).Readable budget) :
    (argsValue (.ofList (textEntries entries))).Readable budget := by
  obtain ⟨lower, rfl⟩ : ∃ lower, budget = lower + 2 := by
    have levels := readable.levels
    rw [Value.levels] at levels
    exact ⟨budget - 2, by omega⟩
  obtain ⟨short, each⟩ := (Value.readable_map_iff entries lower).mp readable
  refine (Value.readable_map_iff _ lower).mpr ⟨?_, ?_⟩
  · rw [List.length_map]
    have fewer := Dictionary.size_ofList_le (textEntries entries)
    exact Nat.lt_of_le_of_lt (Nat.le_trans fewer (length_textEntries_le entries)) short
  · rintro ⟨key, value⟩ mem
    obtain ⟨field, kept, same⟩ := List.mem_map.mp mem
    cases same
    exact each _ (mem_of_mem_textEntries (Dictionary.mem_of_mem_ofList kept))

namespace Fields.Readable

variable {budget : Nat} {fields : Fields}

theorem start : ({} : Fields).Readable budget := by
  constructor <;> nofun

/-- Each entry of a message sets one field, to what was read. -/
theorem take (readable : fields.Readable budget) {entry : Value × Value} (value : entry.2.Readable budget) :
    (fields.take entry).Readable budget := by
  obtain ⟨key, content⟩ := entry
  obtain ⟨subject, args, data⟩ := readable
  unfold Fields.take
  split
  · exact ⟨subject, args, data⟩
  · refine ⟨fun found reads => ?_, args, data⟩
    obtain ⟨text, spelled, rfl⟩ := Option.map_eq_some_iff.mp reads
    cases content with
    | text name =>
        cases spelled
        exact SubType.readable_ofName value.fits
    | _ => cases spelled
  · refine ⟨subject, fun found reads => ?_, data⟩
    cases content with
    | map entries =>
        cases reads
        exact readable_argsValue value
    | _ => cases reads
  · refine ⟨subject, args, fun found reads => ?_⟩
    cases reads
    exact value
  · exact ⟨subject, args, data⟩

theorem foldl (readable : fields.Readable budget) (entries : List (Value × Value))
    (values : ∀ entry ∈ entries, entry.2.Readable budget) : (entries.foldl Fields.take fields).Readable budget := by
  induction entries generalizing fields with
  | nil => exact readable
  | cons entry rest ih =>
      obtain ⟨first, later⟩ := List.forall_mem_cons.mp values
      exact ih (readable.take first) later

end Fields.Readable

theorem readable_field {key : String} {value : Option Value} {budget : Nat}
    (name : (Value.text key).Readable budget) (content : ∀ found, value = some found → found.Readable budget) :
    ∀ entry ∈ field key value, entry.1.Readable budget ∧ entry.2.Readable budget := by
  intro entry mem
  cases value with
  | none => cases mem
  | some found =>
      cases List.mem_singleton.mp mem
      exact ⟨name, content found rfl⟩

theorem length_field_le (key : String) (value : Option Value) : (field key value).length ≤ 1 := by
  cases value with
  | none => exact Nat.zero_le 1
  | some found => exact Nat.le_refl 1

/-- The tree of a message costs two levels more than its entries. -/
theorem readable_toValue {message : Message} {budget : Nat} (enough : 3 ≤ budget)
    (subject : message.subject.Readable)
    (args : ∀ args, message.args = some args → (argsValue args).Readable budget)
    (data : ∀ data, message.data = some data → data.Readable budget) :
    message.toValue.Readable (budget + 2) := by
  have named : ∀ text ∈ ["type", "subType", "args", "data"], (Value.text text).Readable budget := by
    intro text mem
    refine ⟨?_, enough⟩
    revert text
    decide
  refine (Value.readable_map_iff _ budget).mpr ⟨?_, ?_⟩
  · have first := length_field_le "args" (message.args.map argsValue)
    have second := length_field_le "data" message.data
    simp only [List.length_cons, List.length_append]
    omega
  · simp only [List.forall_mem_cons, List.forall_mem_append]
    refine ⟨⟨named "type" (by simp), ?_⟩, ⟨named "subType" (by simp), ⟨subject.fits, enough⟩⟩, ?_, ?_⟩
    · refine ⟨?_, enough⟩
      cases message.kind <;> decide
    · refine readable_field (named "args" (by simp)) fun found same => ?_
      obtain ⟨given, held, rfl⟩ := Option.map_eq_some_iff.mp same
      exact args given held
    · exact readable_field (named "data" (by simp)) data

/-- The message of a frame that was read: its subject is named as subjects are, and its
tree is one that a frame can hold. -/
theorem readable_of_decode {frame : Bytes} {message : Message} (read : decode frame = .ok message) :
    message.subject.Readable ∧ message.toValue.Readable Value.depthLimit := by
  unfold decode at read
  split at read
  · cases read
  · next value found =>
      have readable := Pack.readable_of_decode found
      cases value with
      | map entries =>
          obtain ⟨-, each⟩ := (Value.readable_map_iff entries 1022).mp readable
          have fields := Fields.Readable.start.foldl entries fun entry mem => (each entry mem).2
          simp only [ofValue, Fields.message] at read
          split at read
          · cases read
          · cases read
          · next name subject typed about =>
              split at read
              · cases read
              · cases read
                have named := fields.subject subject about
                exact ⟨named, readable_toValue (by decide) named fields.args fields.data⟩
      | _ => cases read

/-- A message in the form in which frames are written: its own frame reads back to it,
but for text that is not UTF-8, and writing what was read back changes no byte. -/
structure IsNormal (message : Message) : Prop where
  reads : decode message.encode = .ok message.written
  rewrites : message.written.encode = message.encode
  exact_iff : message.written = message ↔ message.toValue.Whole
  /-- The frame that is written needs no more levels than a reader has. -/
  shallow : message.toValue.levels ≤ Value.depthLimit
  /-- No length in it is cut off when it is written. -/
  fits : message.toValue.Fits

/-- Whatever bytes a message was read from, it is in normal form. -/
theorem isNormal_of_decode {frame : Bytes} {message : Message} (read : decode frame = .ok message) :
    message.IsNormal := by
  obtain ⟨subject, tree⟩ := readable_of_decode read
  constructor
  case reads =>
    have back := decode_encode_eq message [] tree.fits subject.free
    rw [List.append_nil, if_pos tree.levels] at back
    exact back
  case rewrites =>
    rw [encode, ← written_toValue, Value.encode_written]
    rfl
  case exact_iff => exact written_eq_self_iff message subject.free
  case shallow => exact tree.levels
  case fits => exact tree.fits

/-- A frame with lengths and numbers wider than they must be, a repeated type, the second name
of a subject, an argument that is given twice, a key that is a number and an unknown entry. -/
def wideFrame : Bytes :=
  [0xdf, 0, 0, 0, 5] ++
    [0xda, 0, 4] ++ Text.utf8 "type" ++ [0xa6] ++ Text.utf8 "create" ++
    [0xa7] ++ Text.utf8 "subType" ++ [0xd9, 13] ++ Text.utf8 "cleanReceiver" ++
    [0xa4] ++ Text.utf8 "args" ++ [0xde, 0, 3, 0xa1, 0x61, 1, 5, 0xc0, 0xa1, 0x61, 0xcf, 0, 0, 0, 0, 0, 0, 0, 2] ++
    [7, 0xdc, 0, 1, 0xc1] ++
    [0xa4] ++ Text.utf8 "type" ++ [0xa6] ++ Text.utf8 "delete"

/-- What the frame says. -/
def plainMessage : Message :=
  ⟨.delete, .cleanReceiver, some (Dictionary.empty.insert "a" (.int (.clamp 2))), none⟩

theorem isNormal_plainMessage : decode wideFrame = .ok plainMessage ∧
    decode plainMessage.encode = .ok plainMessage ∧ plainMessage.encode.length < wideFrame.length := by
  have read : decode wideFrame = .ok plainMessage := rfl
  have normal := isNormal_of_decode read
  have whole : plainMessage.toValue.Whole := by decide
  refine ⟨read, ?_, by decide +kernel⟩
  rw [normal.reads, normal.exact_iff.mpr whole]

/-- A frame with text that is not UTF-8. -/
def brokenFrame : Bytes :=
  [0x83, 0xa4] ++ Text.utf8 "type" ++ [0xa6] ++ Text.utf8 "update" ++
    [0xa7] ++ Text.utf8 "subType" ++ [0xa5] ++ Text.utf8 "alert" ++
    [0xa4] ++ Text.utf8 "data" ++ [0xa2, 0xff, 0x80]

set_option maxRecDepth 1000 in
/-- The frame of a message with such text reads as another message. -/
theorem decode_brokenFrame : decode brokenFrame = .ok brokenMessage ∧
    decode brokenMessage.encode ≠ .ok brokenMessage := by
  have back := decode_encode_eq brokenMessage [] (by decide) nofun
  rw [List.append_nil, if_pos (by decide)] at back
  refine ⟨rfl, fun same => ?_⟩
  rw [back] at same
  cases same

end Message

end RelayClient
