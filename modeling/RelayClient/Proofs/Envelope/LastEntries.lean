import Mathlib.Data.List.Induction
import RelayClient.Envelope.Message
import RelayClient.Proofs.Dictionary
import RelayClient.Proofs.Lists

/-!
# The last entry under a key counts

A map may hold any entries in any order, may repeat a key, and may hold under a key what no
message has there. What it reads as depends on the last entry under each of four keys,
also where an earlier one would have been of use. The same goes for the arguments, each of
which is the last one under its key.
-/

namespace RelayClient

open Pack (Value)

namespace Message

/-- An entry under a text key, with no later one under it. -/
def IsLast (key : String) (value : Value) (entries : List (Value × Value)) : Prop :=
  Stands (· = (.text key, value)) (fun entry => entry.1.text? = some key) entries

/-- The value of the last entry under a text key. -/
def lastUnder? (key : String) (entries : List (Value × Value)) : Option Value :=
  Value.firstUnder? key entries.reverse

theorem text?_eq_some_iff (value : Value) (content : String) :
    value.text? = some content ↔ value = .text content := by
  cases value <;> simp [Value.text?]

section Entries

variable (key : String) (entries : List (Value × Value)) (entry : Value × Value)

theorem lastUnder?_concat : lastUnder? key (entries ++ [entry]) =
    if entry.1.text? = some key then some entry.2 else lastUnder? key entries := by
  rw [lastUnder?, List.reverse_append]
  rfl

theorem lastUnder?_eq_some_iff (value : Value) : lastUnder? key entries = some value ↔ IsLast key value entries := by
  induction entries using List.reverseRecOn with
  | nil => exact ⟨nofun, fun last => absurd last not_stands_nil⟩
  | append_singleton entries last ih =>
      obtain ⟨name, content⟩ := last
      rw [lastUnder?_concat, IsLast, stands_concat_iff, ← IsLast, ← ih]
      by_cases named : name.text? = some key
      · rw [if_pos named, (text?_eq_some_iff name key).mp named]
        simp [Value.text?]
      · have other : name ≠ .text key := fun same => named ((text?_eq_some_iff name key).mpr same)
        rw [if_neg named]
        simp [named, other]

/-- Entries under other keys may be left out. -/
theorem lastUnder?_filter {test : Value × Value → Bool}
    (keeps : ∀ entry ∈ entries, entry.1.text? = some key → test entry = true) :
    lastUnder? key (entries.filter test) = lastUnder? key entries := by
  induction entries using List.reverseRecOn with
  | nil => rfl
  | append_singleton entries last ih =>
      have former := ih fun entry mem => keeps entry (List.mem_append_left _ mem)
      rw [List.filter_append, lastUnder?_concat]
      cases kept : test last with
      | true => rw [List.filter_cons_of_pos kept, List.filter_nil, lastUnder?_concat, former]
      | false =>
          have other : ¬ last.1.text? = some key := by
            intro named
            rw [keeps last (by simp) named] at kept
            cases kept
          rw [List.filter_cons_of_neg (by simp [kept]), List.filter_nil, List.append_nil, if_neg other, former]

end Entries

/-! ## Arguments -/

theorem textEntries_append (first second : List (Value × Value)) :
    textEntries (first ++ second) = textEntries first ++ textEntries second := by
  induction first with
  | nil => rfl
  | cons entry rest ih =>
      obtain ⟨name, value⟩ := entry
      cases name with
      | text key => exact congrArg ((key, value) :: ·) ih
      | _ => exact ih

/-- A key finds its last argument. -/
theorem get?_ofList_textEntries (items : List (Value × Value)) (key : String) :
    (Dictionary.ofList (textEntries items)).get? key = lastUnder? key items := by
  induction items using List.reverseRecOn with
  | nil => rfl
  | append_singleton items last ih =>
      obtain ⟨name, value⟩ := last
      rw [textEntries_append, lastUnder?_concat, ← ih]
      cases name with
      | text content =>
          have added : Dictionary.ofList (textEntries items ++ [(content, value)]) =
              (Dictionary.ofList (textEntries items)).insert content value := List.foldl_append
          rw [textEntries, textEntries, added, Dictionary.get?_insert]
          simp [Value.text?, eq_comm]
      | _ => simp [textEntries, Value.text?]

theorem args?_eq_some_iff (value : Value) (args : Args) : args? value = some args ↔
    ∃ items, value = .map items ∧ ∀ key found, args.get? key = some found ↔ IsLast key found items := by
  constructor
  · intro read
    cases value with
    | map items =>
        cases read
        refine ⟨items, rfl, fun key found => ?_⟩
        rw [get?_ofList_textEntries, lastUnder?_eq_some_iff]
    | _ => cases read
  · rintro ⟨items, rfl, last⟩
    refine congrArg some (Dictionary.ext_get? fun key => Option.ext fun found => ?_)
    rw [get?_ofList_textEntries, lastUnder?_eq_some_iff, last]

/-! ## Entries of a message -/

/-- Each entry sets the field of its key, to nothing where its value has no use there. -/
theorem Fields.take_eq (fields : Fields) (entry : Value × Value) : fields.take entry =
    { type := if entry.1.text? = some "type" then entry.2.text? else fields.type
      subject := if entry.1.text? = some "subType" then entry.2.text?.map SubType.ofName else fields.subject
      args := if entry.1.text? = some "args" then args? entry.2 else fields.args
      data := if entry.1.text? = some "data" then some entry.2 else fields.data } := by
  unfold take
  split <;> simp_all

/-- Reading entry by entry comes to looking for the last entry under each key. -/
theorem foldl_take (entries : List (Value × Value)) : entries.foldl Fields.take {} =
    { type := (lastUnder? "type" entries).bind Value.text?
      subject := ((lastUnder? "subType" entries).bind Value.text?).map SubType.ofName
      args := (lastUnder? "args" entries).bind args?
      data := lastUnder? "data" entries } := by
  induction entries using List.reverseRecOn with
  | nil => rfl
  | append_singleton entries last ih =>
      rw [List.foldl_append, List.foldl_cons, List.foldl_nil, ih, Fields.take_eq]
      simp only [lastUnder?_concat]
      congr 1
      all_goals split <;> rfl

theorem ofValue_map (entries : List (Value × Value)) : ofValue (.map entries) =
    ({ type := (lastUnder? "type" entries).bind Value.text?
       subject := ((lastUnder? "subType" entries).bind Value.text?).map SubType.ofName
       args := (lastUnder? "args" entries).bind args?
       data := lastUnder? "data" entries } : Fields).message := by
  rw [ofValue, foldl_take]

theorem lastText_eq_some_iff (key : String) (entries : List (Value × Value)) (content : String) :
    (lastUnder? key entries).bind Value.text? = some content ↔ IsLast key (.text content) entries := by
  simp only [Option.bind_eq_some_iff, text?_eq_some_iff, exists_eq_right, lastUnder?_eq_some_iff]

theorem lastText_eq_none_iff (key : String) (entries : List (Value × Value)) :
    (lastUnder? key entries).bind Value.text? = none ↔ ∀ content, ¬ IsLast key (.text content) entries := by
  simp only [Option.eq_none_iff_forall_ne_some, ne_eq, lastText_eq_some_iff]

/-- The message that the entries of a map make up. -/
structure Yields (entries : List (Value × Value)) (message : Message) : Prop where
  kind : ∃ name, IsLast "type" (.text name) entries ∧ MessageType.ofName? name = some message.kind
  subject : ∃ name, IsLast "subType" (.text name) entries ∧ SubType.ofName name = message.subject
  /-- Only a map holds arguments, each of them under a text key of its own. -/
  args : ∀ args, message.args = some args ↔ ∃ items, IsLast "args" (.map items) entries ∧
    ∀ key value, args.get? key = some value ↔ IsLast key value items
  /-- Data may be anything, nil as well. -/
  data : ∀ value, message.data = some value ↔ IsLast "data" value entries

theorem lastArgs_eq_some_iff (entries : List (Value × Value)) (args : Args) :
    (lastUnder? "args" entries).bind args? = some args ↔ ∃ items, IsLast "args" (.map items) entries ∧
      ∀ key value, args.get? key = some value ↔ IsLast key value items := by
  simp only [Option.bind_eq_some_iff, lastUnder?_eq_some_iff, args?_eq_some_iff]
  constructor
  · rintro ⟨value, last, items, rfl, each⟩
    exact ⟨items, last, each⟩
  · rintro ⟨items, last, each⟩
    exact ⟨.map items, last, items, rfl, each⟩

/-- What a value reads as. Where more than one entry is at fault, the type comes before the subject,
and both come before a type without a meaning. -/
inductive ReadsAs : Value → Except DecodeError Message → Prop
  | notMap {value : Value} (flat : ∀ entries, value ≠ .map entries) : ReadsAs value (.error (.notMap value))
  | missingType {entries : List (Value × Value)} (untyped : ∀ name, ¬ IsLast "type" (.text name) entries) :
      ReadsAs (.map entries) (.error .missingType)
  | missingSubType {entries : List (Value × Value)} {type : String} (typed : IsLast "type" (.text type) entries)
      (untold : ∀ name, ¬ IsLast "subType" (.text name) entries) : ReadsAs (.map entries) (.error .missingSubType)
  | unknownType {entries : List (Value × Value)} {type name : String} (typed : IsLast "type" (.text type) entries)
      (told : IsLast "subType" (.text name) entries) (unknown : MessageType.ofName? type = none) :
      ReadsAs (.map entries) (.error (.unknownType type))
  | message {entries : List (Value × Value)} {message : Message} (yields : Yields entries message) :
      ReadsAs (.map entries) (.ok message)

theorem readsAs_ofValue (value : Value) : ReadsAs value (ofValue value) := by
  cases value with
  | map entries =>
      rw [ofValue_map, Fields.message]
      cases typed : (lastUnder? "type" entries).bind Value.text? with
      | none => exact .missingType ((lastText_eq_none_iff _ _).mp typed)
      | some type =>
          have hasType := (lastText_eq_some_iff _ _ _).mp typed
          cases told : (lastUnder? "subType" entries).bind Value.text? with
          | none => exact .missingSubType hasType ((lastText_eq_none_iff _ _).mp told)
          | some name =>
              have hasSubject := (lastText_eq_some_iff _ _ _).mp told
              dsimp only [Option.map]
              cases known : MessageType.ofName? type with
              | none => exact .unknownType hasType hasSubject known
              | some kind =>
                  constructor
                  constructor
                  case kind => exact ⟨type, hasType, known⟩
                  case subject => exact ⟨name, hasSubject, rfl⟩
                  case args => exact lastArgs_eq_some_iff entries
                  case data => exact lastUnder?_eq_some_iff "data" entries
  | _ => exact .notMap nofun

theorem ofValue_of_readsAs {value : Value} {result : Except DecodeError Message} (reads : ReadsAs value result) :
    ofValue value = result := by
  cases reads with
  | notMap flat =>
      cases value with
      | map entries => exact absurd rfl (flat entries)
      | _ => rfl
  | missingType untyped => rw [ofValue_map, (lastText_eq_none_iff _ _).mpr untyped, Fields.message]
  | missingSubType typed untold =>
      rw [ofValue_map, (lastText_eq_some_iff _ _ _).mpr typed, (lastText_eq_none_iff _ _).mpr untold]
      rfl
  | unknownType typed told unknown =>
      rw [ofValue_map, (lastText_eq_some_iff _ _ _).mpr typed, (lastText_eq_some_iff _ _ _).mpr told]
      simp only [Fields.message, Option.map, unknown]
  | @message entries message yields =>
      obtain ⟨⟨type, typed, known⟩, ⟨name, told, named⟩, args, data⟩ := yields
      have sameArgs : (lastUnder? "args" entries).bind args? = message.args :=
        Option.ext fun found => (lastArgs_eq_some_iff entries found).trans (args found).symm
      have sameData : lastUnder? "data" entries = message.data :=
        Option.ext fun found => (lastUnder?_eq_some_iff "data" entries found).trans (data found).symm
      rw [ofValue_map, (lastText_eq_some_iff _ _ _).mpr typed, (lastText_eq_some_iff _ _ _).mpr told, sameArgs,
        sameData]
      simp only [Fields.message, Option.map, known, named]

/-- The keys of a message. -/
def fieldNames : List String := ["type", "subType", "args", "data"]

/-- Whether an entry is under one of the keys of a message. -/
def isField (entry : Value × Value) : Bool :=
  entry.1.text?.any (· ∈ fieldNames)

theorem lastUnder?_filter_isField {key : String} (mem : key ∈ fieldNames) (entries : List (Value × Value)) :
    lastUnder? key (entries.filter isField) = lastUnder? key entries := by
  refine lastUnder?_filter key entries fun entry _ named => ?_
  simp [isField, named, mem]

/-- Entries that agree in the fields read the same. -/
theorem ofValue_congr {entries others : List (Value × Value)} (same : others.filter isField = entries.filter isField) :
    ofValue (.map others) = ofValue (.map entries) := by
  have last (key : String) (mem : key ∈ fieldNames) : lastUnder? key others = lastUnder? key entries := by
    rw [← lastUnder?_filter_isField mem others, same, lastUnder?_filter_isField mem entries]
  rw [ofValue_map, ofValue_map, last "type" (by decide), last "subType" (by decide), last "args" (by decide),
    last "data" (by decide)]

/-- How a value is read. -/
structure HeedsLast (value : Value) : Prop where
  /-- The last entry under each key decides, in every case. -/
  reads : ∀ result, ofValue value = result ↔ ReadsAs value result
  /-- Entries under other keys change nothing, wherever they stand and however many they are. -/
  spares : ∀ entries others, value = .map entries → others.filter isField = entries.filter isField →
    ofValue (.map others) = ofValue value
  /-- What is no map is malformed, and nothing else is. -/
  malformed : (∃ error, ofValue value = .error error ∧ error.kind = "Malformed") ↔ ∀ entries, value ≠ .map entries

theorem heedsLast (value : Value) : HeedsLast value where
  reads result := by
    constructor
    · rintro rfl
      exact readsAs_ofValue value
    · exact ofValue_of_readsAs
  spares entries others same := by
    rw [same]
    exact ofValue_congr
  malformed := by
    constructor
    · rintro ⟨error, refused, malformed⟩
      have reads := readsAs_ofValue value
      rw [refused] at reads
      cases reads with
      | notMap flat => exact flat
      | _ => simp [DecodeError.kind] at malformed
    · intro flat
      exact ⟨_, ofValue_of_readsAs (.notMap flat), rfl⟩

/-- A good type does not stand where one that is no text follows it. -/
example : ofValue (.map [(.text "type", .text "update"), (.text "subType", .text "ack"), (.text "type", .nil)]) =
    .error .missingType := rfl

end Message

end RelayClient
