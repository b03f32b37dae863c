import RelayClient.Proofs.Json.Members

/-!
# What of a text can be held

The grammar of JSON admits more than a value can hold: a surrogate that stands alone, a number beyond double width
and any depth of nesting. One such member keeps a whole object from being a value, under whatever key it stands.
-/

namespace RelayClient

namespace JsonValue

open Json (Tree Piece Number text?)

/-- A tree can be held as a value: its texts have their surrogates in pairs, its numbers are finite, and it is
nested no deeper than the levels allow. -/
inductive IsHeld : (levels : Nat) → Tree → Prop where
  | null {levels : Nat} : IsHeld levels .null
  | bool {levels : Nat} (flag : Bool) : IsHeld levels (.bool flag)
  | number {levels : Nat} {literal : List Char} {number : Number} (finite : Number.ofLiteral? literal = some number) :
      IsHeld levels (.number literal)
  | string {levels : Nat} {pieces : List Piece} {text : String} (paired : text? pieces = some text) :
      IsHeld levels (.string pieces)
  | array {levels : Nat} {items : List Tree} (held : ∀ item ∈ items, IsHeld levels item) :
      IsHeld (levels + 1) (.array items)
  | object {levels : Nat} {entries : List (List Piece × Tree)}
      (keyed : ∀ entry ∈ entries, ∃ key, text? entry.1 = some key) (held : ∀ entry ∈ entries, IsHeld levels entry.2) :
      IsHeld (levels + 1) (.object entries)

/-- The entries of an object that can be held within it: each key is a text, and so is each value held. -/
def AreHeld (entries : List (List Piece × Tree)) : Prop :=
  ∀ entry ∈ entries, (∃ key, text? entry.1 = some key) ∧ IsHeld (levelLimit - 1) entry.2

/-- The value of the last entry under a key, where it can be held. -/
def value? (key : String) (entries : List (List Piece × Tree)) : Option JsonValue :=
  (entries.reverse.find? fun entry => text? entry.1 == some key).bind fun entry => ofTree? (levelLimit - 1) entry.2

section Values

variable {levels : Nat} {tree : Tree} {trees : List Tree} {entries : List (List Piece × Tree)}

theorem exists_mapM_iff {α β : Type} {f : α → Option β} {list : List α} :
    (∃ values, list.mapM f = some values) ↔ ∀ item ∈ list, ∃ value, f item = some value := by
  induction list with
  | nil => exact ⟨fun _ => nofun, fun _ => ⟨[], rfl⟩⟩
  | cons first rest ih =>
      rw [List.forall_mem_cons, ← ih]
      constructor
      · rintro ⟨values, all⟩
        rw [List.mapM_cons] at all
        obtain ⟨value, here, all⟩ := Option.bind_eq_some_iff.mp all
        obtain ⟨others, later, -⟩ := Option.bind_eq_some_iff.mp all
        exact ⟨⟨value, here⟩, others, later⟩
      · rintro ⟨⟨value, here⟩, others, later⟩
        exact ⟨value :: others, by rw [List.mapM_cons, here, later]; rfl⟩

theorem ofTrees?_eq (levels : Nat) (trees : List Tree) : ofTrees? levels trees = trees.mapM (ofTree? levels) := by
  induction trees with
  | nil => rfl
  | cons tree rest ih =>
      rw [ofTrees?, List.mapM_cons, ih]
      cases ofTree? levels tree with
      | none => rfl
      | some value => cases rest.mapM (ofTree? levels) <;> rfl

theorem exists_ofTrees?_iff : (∃ values, ofTrees? levels trees = some values) ↔
    ∀ tree ∈ trees, ∃ value, ofTree? levels tree = some value := by
  rw [← exists_mapM_iff]
  exact exists_congr fun values => by rw [ofTrees?_eq]

theorem exists_member?_iff {entry : List Piece × Tree} : (∃ member, member? levels entry = some member) ↔
    (∃ key, text? entry.1 = some key) ∧ ∃ value, ofTree? levels entry.2 = some value := by
  constructor
  · rintro ⟨member, found⟩
    obtain ⟨key, keyed, valued⟩ := Option.bind_eq_some_iff.mp found
    obtain ⟨value, held, -⟩ := Option.map_eq_some_iff.mp valued
    exact ⟨⟨key, keyed⟩, value, held⟩
  · rintro ⟨⟨key, keyed⟩, value, held⟩
    exact ⟨(key, value), by rw [member?, keyed, Option.bind_some, held, Option.map_some]⟩

theorem exists_ofEntries?_iff {before : List (String × JsonValue)} :
    (∃ values, ofEntries? levels before entries = some values) ↔
      ∀ entry ∈ entries, (∃ key, text? entry.1 = some key) ∧ ∃ value, ofTree? levels entry.2 = some value := by
  have each : (∃ members, entries.mapM (member? levels) = some members) ↔ _ := exists_mapM_iff
  rw [ofEntries?_eq]
  refine Iff.trans ⟨?_, ?_⟩ (each.trans (forall₂_congr fun _ _ => exists_member?_iff))
  · rintro ⟨values, placed⟩
    obtain ⟨members, listed, -⟩ := Option.map_eq_some_iff.mp placed
    exact ⟨members, listed⟩
  · rintro ⟨members, listed⟩
    exact ⟨placeAll before members, by rw [listed, Option.map_some]⟩

theorem IsHeld.exists_value (held : IsHeld levels tree) : ∃ value, ofTree? levels tree = some value := by
  induction held with
  | null | bool => exact ⟨_, rfl⟩
  | number finite => exact ⟨_, by rw [ofTree?, finite, Option.map_some]⟩
  | string paired => exact ⟨_, by rw [ofTree?, paired, Option.map_some]⟩
  | array _ ih =>
      obtain ⟨values, held⟩ := exists_ofTrees?_iff.mpr ih
      exact ⟨_, by rw [ofTree?, held, Option.map_some]⟩
  | object keyed _ ih =>
      obtain ⟨values, held⟩ := exists_ofEntries?_iff.mpr fun entry mem => ⟨keyed entry mem, ih entry mem⟩
      exact ⟨_, by rw [ofTree?, held, Option.map_some]⟩

-- By recursion on the levels, which go down where the items of an array or an object are read.
theorem isHeld_of_ofTree? : (levels : Nat) → (tree : Tree) → {value : JsonValue} →
    ofTree? levels tree = some value → IsHeld levels tree
  | _, .null, _, _ => .null
  | _, .bool flag, _, _ => .bool flag
  | _, .number literal, _, valued => by
      rw [ofTree?] at valued
      obtain ⟨number, finite, -⟩ := Option.map_eq_some_iff.mp valued
      exact .number finite
  | _, .string pieces, _, valued => by
      rw [ofTree?] at valued
      obtain ⟨text, paired, -⟩ := Option.map_eq_some_iff.mp valued
      exact .string paired
  | levels + 1, .array items, _, valued => by
      rw [ofTree?] at valued
      obtain ⟨values, each, -⟩ := Option.map_eq_some_iff.mp valued
      have all := exists_ofTrees?_iff.mp ⟨values, each⟩
      exact .array fun item mem => (all item mem).elim fun _ held => isHeld_of_ofTree? levels item held
  | levels + 1, .object entries, _, valued => by
      rw [ofTree?] at valued
      obtain ⟨values, each, -⟩ := Option.map_eq_some_iff.mp valued
      have all := exists_ofEntries?_iff.mp ⟨values, each⟩
      exact .object (fun entry mem => (all entry mem).1) fun entry mem =>
        (all entry mem).2.elim fun _ held => isHeld_of_ofTree? levels entry.2 held

/-- The trees that have a value are those that can be held. -/
theorem isHeld_iff : IsHeld levels tree ↔ ∃ value, ofTree? levels tree = some value :=
  ⟨IsHeld.exists_value, fun ⟨_, valued⟩ => isHeld_of_ofTree? levels tree valued⟩

theorem areHeld_iff : AreHeld entries ↔ ∃ members, entries.mapM (member? (levelLimit - 1)) = some members := by
  rw [exists_mapM_iff]
  exact forall₂_congr fun _ _ => by rw [exists_member?_iff, isHeld_iff]

theorem last?_cons (key name : String) (value : JsonValue) (rest : List (String × JsonValue)) :
    last? key ((name, value) :: rest) = (last? key rest).or (if name = key then some value else none) := by
  rw [last?, List.reverse_cons, List.lookup_append, ← last?]
  congr 1
  by_cases same : name = key
  · rw [if_pos same, same, List.lookup_cons_self]
  · rw [if_neg same, List.lookup_cons, beq_eq_false_iff_ne.mpr (Ne.symm same), List.lookup_nil]

/-- Members that are held have their values where the text has them. -/
theorem last?_of_mapM {members : List (String × JsonValue)}
    (listed : entries.mapM (member? (levelLimit - 1)) = some members) (key : String) :
    last? key members = value? key entries := by
  induction entries generalizing members with
  | nil =>
      cases listed
      rfl
  | cons entry rest ih =>
      have all := exists_mapM_iff.mp ⟨members, listed⟩
      rw [List.mapM_cons] at listed
      obtain ⟨⟨name, value⟩, here, listed⟩ := Option.bind_eq_some_iff.mp listed
      obtain ⟨others, later, listed⟩ := Option.bind_eq_some_iff.mp listed
      cases listed
      obtain ⟨found, keyed, valued⟩ := Option.bind_eq_some_iff.mp here
      obtain ⟨held, valued, same⟩ := Option.map_eq_some_iff.mp valued
      cases same
      have single : [entry].find? (fun entry => text? entry.1 == some key) =
          if name = key then some entry else none := by
        rw [List.find?_cons, keyed]
        by_cases same : name = key
        · simp [same]
        · simp [same, beq_eq_false_iff_ne.mpr same]
      rw [last?_cons, ih later, value?, value?, List.reverse_cons, List.find?_append, single]
      cases behind : rest.reverse.find? (fun entry => text? entry.1 == some key) with
      | none =>
          rw [Option.bind_none, Option.none_or, Option.none_or]
          split
          · rw [Option.bind_some, valued]
          · rfl
      | some last =>
          have mem : last ∈ rest := List.mem_reverse.mp (List.mem_of_find?_eq_some behind)
          obtain ⟨member, found⟩ := all last (.tail _ mem)
          obtain ⟨-, value, held⟩ := exists_member?_iff.mp ⟨member, found⟩
          rw [Option.some_or, Option.bind_some, held, Option.some_or]

/-- Under other keys an entry changes nothing. -/
theorem value?_concat {key : String} {entry : List Piece × Tree} (other : text? entry.1 ≠ some key) :
    value? key (entries ++ [entry]) = value? key entries := by
  rw [value?, value?, List.reverse_append, List.reverse_singleton, List.singleton_append, List.find?_cons,
    beq_eq_false_iff_ne.mpr other]

variable {raw : String} {members : List (String × JsonValue)}

theorem Lists.exists_areHeld (lists : Lists raw members) :
    ∃ entries, Tree.parse? raw = some (.object entries) ∧ AreHeld entries ∧
      ∀ key, last? key members = value? key entries := by
  obtain ⟨entries, parsed, listed⟩ := lists
  exact ⟨entries, parsed, areHeld_iff.mpr ⟨members, listed⟩, last?_of_mapM listed⟩

theorem AreHeld.exists_lists (held : AreHeld entries) (parsed : Tree.parse? raw = some (.object entries)) :
    ∃ members, Lists raw members ∧ ∀ key, last? key members = value? key entries := by
  obtain ⟨members, listed⟩ := areHeld_iff.mp held
  exact ⟨members, ⟨entries, parsed, listed⟩, last?_of_mapM listed⟩

/-- An object with an entry that cannot be held is no value. -/
theorem parse?_of_not_areHeld (parsed : Tree.parse? raw = some (.object entries)) (unheld : ¬ AreHeld entries) :
    parse? raw = none := by
  refine Option.eq_none_iff_forall_ne_some.mpr fun json valued => unheld ?_
  rw [parse?, parsed, Option.bind_some] at valued
  cases isHeld_of_ofTree? _ _ valued with
  | object keyed held => exact fun entry mem => ⟨keyed entry mem, held entry mem⟩

end Values

end JsonValue

end RelayClient
