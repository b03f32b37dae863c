import RelayClient.Proofs.Json.Extents
import RelayClient.Proofs.Json.Objects

/-!
# Members of an object

An object whose members can all be held as values lists them in the order of the text, and may list a key more than
once. As a value, a key finds its last member.
-/

namespace RelayClient

namespace JsonValue

open Json (Tree Piece text?)

/-- The key and the value of an entry. -/
def member? (levels : Nat) (entry : List Piece × Tree) : Option (String × JsonValue) :=
  (text? entry.1).bind fun key => (ofTree? levels entry.2).map fun value => (key, value)

/-- A text is an object whose members can all be held as values: these, in the order of the text. -/
def Lists (raw : String) (members : List (String × JsonValue)) : Prop :=
  ∃ entries, Tree.parse? raw = some (.object entries) ∧ entries.mapM (member? (levelLimit - 1)) = some members

/-- The value of the last member under a key. -/
def last? (key : String) (members : List (String × JsonValue)) : Option JsonValue :=
  members.reverse.lookup key

/-- Members at their places in key order, the later over the earlier of a key. -/
def placeAll (before members : List (String × JsonValue)) : List (String × JsonValue) :=
  members.foldl (fun current member => Dictionary.place member.1 member.2 current) before

section Lists

variable {raw : String} {json : JsonValue} {members : List (String × JsonValue)}

theorem find?_placeAll (key : String) (before members : List (String × JsonValue)) :
    Dictionary.find? key (placeAll before members) = (last? key members).or (Dictionary.find? key before) := by
  induction members generalizing before with
  | nil => rfl
  | cons member rest ih =>
      obtain ⟨name, value⟩ := member
      have step : placeAll before ((name, value) :: rest) = placeAll (Dictionary.place name value before) rest := rfl
      rw [step, ih, Dictionary.find?_place, last?, last?, List.reverse_cons, List.lookup_append]
      by_cases same : key = name
      · have single : List.lookup key [(name, value)] = some value := by rw [same, List.lookup_cons_self]
        rw [single, if_pos same, Option.or_assoc, Option.some_or]
      · have single : List.lookup key [(name, value)] = none := by
          rw [List.lookup_cons, beq_eq_false_iff_ne.mpr same, List.lookup_nil]
        rw [single, if_neg same, Option.or_none]

theorem ofEntries?_eq (levels : Nat) (before : List (String × JsonValue)) (entries : List (List Piece × Tree)) :
    ofEntries? levels before entries = (entries.mapM (member? levels)).map (placeAll before) := by
  induction entries generalizing before with
  | nil => rfl
  | cons entry rest ih =>
      obtain ⟨pieces, tree⟩ := entry
      rw [ofEntries?, List.mapM_cons, member?]
      cases text? pieces with
      | none => rfl
      | some key =>
          cases ofTree? levels tree with
          | none => rfl
          | some value =>
              dsimp only
              rw [ih]
              cases rest.mapM (member? levels) <;> rfl

/-- The value of a text that is an object, by its members. -/
theorem parse?_of_lists (lists : Lists raw members) : parse? raw = some (.object (placeAll [] members)) := by
  obtain ⟨entries, parsed, listed⟩ := lists
  have levels : levelLimit = (levelLimit - 1) + 1 := rfl
  rw [parse?, parsed, Option.bind_some, levels, ofTree?, ofEntries?_eq, listed]
  rfl

/-- A text whose value is an object lists members. -/
theorem exists_lists_of_parse? {values : List (String × JsonValue)} (parsed : parse? raw = some (.object values)) :
    ∃ members, Lists raw members ∧ values = placeAll [] members := by
  obtain ⟨tree, read, valued⟩ := Option.bind_eq_some_iff.mp parsed
  obtain ⟨entries, rfl, entered⟩ := exists_entries_of_ofTree? valued
  rw [ofEntries?_eq] at entered
  obtain ⟨members, listed, rfl⟩ := Option.map_eq_some_iff.mp entered
  exact ⟨members, ⟨entries, read, listed⟩, rfl⟩

theorem get?_of_lists (lists : Lists raw members) (parsed : parse? raw = some json) (key : String) :
    json.get? key = last? key members := by
  rw [parse?_of_lists lists] at parsed
  cases parsed
  exact (find?_placeAll key [] members).trans (Option.or_none)

/-- Only an object has anything under a key. -/
theorem exists_lists_of_get? (parsed : parse? raw = some json) {key : String} {value : JsonValue}
    (found : json.get? key = some value) : ∃ members, Lists raw members := by
  cases json with
  | null | bool | number | string | array => cases found
  | object values =>
      obtain ⟨members, lists, -⟩ := exists_lists_of_parse? parsed
      exact ⟨members, lists⟩

end Lists

/-- A value that is written plainly: a text, or a natural number of 64 bits. -/
inductive Plain where
  | text (content : String)
  | natural (value : Nat) (fits : value < 2 ^ 64)

namespace Plain

open Json (Member Reads)

/-- A number of 64 bits, as it is held. -/
def word (value : UInt64) : Plain :=
  .natural value.toNat value.toNat_lt

/-- The value as a member of an object. -/
def member (key : String) : Plain → Member
  | .text content => .ofText key content
  | .natural value _ => .ofNat key value

def json : Plain → JsonValue
  | .text content => .string content
  | .natural value _ => .number (.natural value)

def members (fields : List (String × Plain)) : List Member :=
  fields.map fun field => field.2.member field.1

theorem reads_member (plain : Plain) (key : String) (fuel : Nat) : Reads (Tree.read (fuel + 1)) (plain.member key) := by
  cases plain with
  | text content => exact Json.read_text fuel key content
  | natural value fits => exact Json.read_nat fuel key value

theorem member?_entry (plain : Plain) (key : String) (levels : Nat) :
    member? levels (plain.member key).entry = some (key, plain.json) := by
  cases plain with
  | text content => simp only [member?, Member.entry, member, Member.ofText, Json.text?_piecesOf, ofTree?, Option.bind_some,
      Option.map_some, json]
  | natural value fits => simp only [member?, Member.entry, member, Member.ofNat, Json.text?_piecesOf, ofTree?,
      Json.Number.ofLiteral?_toDigits fits, Option.bind_some, Option.map_some, json]

variable {raw : String} {fields : List (String × Plain)}

theorem parse?_members (some : fields ≠ [])
    (written : raw.toList = '\x7b' :: (Member.writeAll (members fields) ++ ['\x7d'])) :
    Tree.parse? raw = .some (.object ((members fields).map Member.entry)) := by
  refine Json.parse?_object (fun none => some (List.map_eq_nil_iff.mp none)) (fun fuel member mem => ?_) written
  obtain ⟨field, -, rfl⟩ := List.mem_map.mp mem
  exact field.2.reads_member field.1 fuel

theorem mapM_member? (levels : Nat) (fields : List (String × Plain)) :
    ((members fields).map Member.entry).mapM (member? levels) = some (fields.map fun field => (field.1, field.2.json)) := by
  induction fields with
  | nil => rfl
  | cons field rest ih =>
      rw [members, List.map_cons, List.map_cons, List.mapM_cons, member?_entry]
      dsimp only [Option.bind_eq_bind, Option.bind_some]
      rw [← members, ih]
      rfl

/-- A text that writes plain members lists them. -/
theorem lists_members (some : fields ≠ [])
    (written : raw.toList = '\x7b' :: (Member.writeAll (members fields) ++ ['\x7d'])) :
    Lists raw (fields.map fun field => (field.1, field.2.json)) :=
  ⟨_, parse?_members some written, mapM_member? _ fields⟩

/-- The text of an object with plain members. -/
def write (fields : List (String × Plain)) : String :=
  String.ofList ('\x7b' :: (Member.writeAll (members fields) ++ ['\x7d']))

theorem lists_write (some : fields ≠ []) : Lists (write fields) (fields.map fun field => (field.1, field.2.json)) :=
  lists_members some String.toList_ofList

end Plain

end JsonValue

end RelayClient
