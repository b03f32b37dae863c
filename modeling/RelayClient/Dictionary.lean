/-!
# Dictionaries

A dictionary is a finite map from texts, kept in ascending key order with one
entry per key, so that equal maps are equal values. Each operation is described
by what it does to look-ups.
-/

namespace RelayClient

/-- Entries in ascending key order, one per key. -/
structure Dictionary (α : Type) where
  entries : List (String × α)
  ascending : entries.Pairwise fun first second => first.1 < second.1

namespace Dictionary

variable {α : Type}

/-- The value of the first entry under a key. -/
def find? (key : String) : List (String × α) → Option α
  | [] => none
  | (name, value) :: rest => if name = key then some value else find? key rest

/-- Puts an entry at its place in an ascending list, over an entry of its key. -/
def place (key : String) (value : α) : List (String × α) → List (String × α)
  | [] => [(key, value)]
  | (name, current) :: rest =>
      if key < name then (key, value) :: (name, current) :: rest
      else if name < key then (name, current) :: place key value rest
      else (key, value) :: rest

theorem mem_place {key : String} {value : α} {entries : List (String × α)} {entry : String × α}
    (h : entry ∈ place key value entries) : entry = (key, value) ∨ entry ∈ entries := by
  induction entries with
  | nil => simpa [place] using h
  | cons first rest ih =>
      obtain ⟨name, current⟩ := first
      simp only [place] at h
      split at h
      · simpa using h
      · split at h
        · rcases List.mem_cons.mp h with h | h
          · simp [h]
          · rcases ih h with h | h <;> simp [h]
        · rcases List.mem_cons.mp h with h | h <;> simp [h]

theorem ascending_place {key : String} {value : α} {entries : List (String × α)}
    (h : entries.Pairwise fun first second => first.1 < second.1) :
    (place key value entries).Pairwise fun first second => first.1 < second.1 := by
  induction entries with
  | nil => simp [place]
  | cons first rest ih =>
      obtain ⟨name, current⟩ := first
      rw [List.pairwise_cons] at h
      simp only [place]
      split
      · rename_i smaller
        refine List.pairwise_cons.mpr ⟨fun entry mem => ?_, List.pairwise_cons.mpr h⟩
        rcases List.mem_cons.mp mem with rfl | mem
        · exact smaller
        · exact String.lt_trans smaller (h.1 entry mem)
      · split
        · rename_i larger
          refine List.pairwise_cons.mpr ⟨fun entry mem => ?_, ih h.2⟩
          rcases mem_place mem with rfl | mem
          · exact larger
          · exact h.1 entry mem
        · rename_i notSmaller notLarger
          have same : key = name :=
            String.le_antisymm (String.not_lt.mp notLarger) (String.not_lt.mp notSmaller)
          exact List.pairwise_cons.mpr ⟨same ▸ h.1, h.2⟩

/-- The dictionary without entries. -/
def empty : Dictionary α := ⟨[], List.Pairwise.nil⟩

instance : Inhabited (Dictionary α) := ⟨empty⟩

def get? (dictionary : Dictionary α) (key : String) : Option α :=
  find? key dictionary.entries

def insert (dictionary : Dictionary α) (key : String) (value : α) : Dictionary α :=
  ⟨place key value dictionary.entries, ascending_place dictionary.ascending⟩

/-- Removes the entry under a key. -/
def erase (dictionary : Dictionary α) (key : String) : Dictionary α :=
  ⟨dictionary.entries.filter fun entry => entry.1 != key, dictionary.ascending.filter _⟩

def contains (dictionary : Dictionary α) (key : String) : Bool :=
  (dictionary.get? key).isSome

/-- The count of entries. -/
def size (dictionary : Dictionary α) : Nat :=
  dictionary.entries.length

def isEmpty (dictionary : Dictionary α) : Bool :=
  dictionary.entries.isEmpty

/-- Keys in ascending order. -/
def keys (dictionary : Dictionary α) : List String :=
  dictionary.entries.map (·.1)

/-- Values in ascending order of their keys. -/
def values (dictionary : Dictionary α) : List α :=
  dictionary.entries.map (·.2)

/-- Inserts entries one after the other, so that the last of a key stays. -/
def insertAll (dictionary : Dictionary α) (entries : List (String × α)) : Dictionary α :=
  entries.foldl (fun current entry => current.insert entry.1 entry.2) dictionary

/-- The dictionary of a list of entries, in which the last of a key stays. -/
def ofList (entries : List (String × α)) : Dictionary α :=
  empty.insertAll entries

theorem find?_place (key other : String) (value : α) (entries : List (String × α)) :
    find? other (place key value entries) = if other = key then some value else find? other entries := by
  induction entries with
  | nil => simp [place, find?, eq_comm]
  | cons first rest ih =>
      obtain ⟨name, current⟩ := first
      simp only [place]
      split
      · simp [find?, eq_comm]
      · split
        · rename_i larger
          have distinct : name ≠ key := fun same => String.lt_irrefl key (same ▸ larger)
          by_cases hit : name = other
          · subst hit; simp [find?, distinct]
          · simp [find?, hit, ih]
        · rename_i notSmaller notLarger
          have same : key = name :=
            String.le_antisymm (String.not_lt.mp notLarger) (String.not_lt.mp notSmaller)
          subst same
          by_cases hit : key = other
          · subst hit; simp [find?]
          · simp [find?, hit, Ne.symm hit]

@[simp] theorem get?_empty (key : String) : (empty : Dictionary α).get? key = none := rfl

theorem get?_insert (dictionary : Dictionary α) (key other : String) (value : α) :
    (dictionary.insert key value).get? other =
      if other = key then some value else dictionary.get? other :=
  find?_place key other value dictionary.entries

theorem get?_erase (dictionary : Dictionary α) (key other : String) :
    (dictionary.erase key).get? other = if other = key then none else dictionary.get? other := by
  obtain ⟨entries, ascending⟩ := dictionary
  simp only [erase, get?]
  clear ascending
  induction entries with
  | nil => simp [find?]
  | cons first rest ih =>
      obtain ⟨name, current⟩ := first
      by_cases hit : name = key
      · subst hit
        by_cases same : other = name
        · subst same; simpa using ih
        · simpa [find?, same, Ne.symm same] using ih
      · by_cases same : name = other
        · subst same; simp [hit, find?]
        · simp [hit, find?, same, ih]

/-- A look-up finds exactly the entries, as each key has at most one. -/
theorem find?_eq_some_iff {entries : List (String × α)}
    (ascending : entries.Pairwise fun first second => first.1 < second.1) (key : String) (value : α) :
    find? key entries = some value ↔ (key, value) ∈ entries := by
  induction entries with
  | nil => simp [find?]
  | cons first rest ih =>
      obtain ⟨name, current⟩ := first
      rw [List.pairwise_cons] at ascending
      by_cases hit : name = key
      · subst hit
        have absent : (name, value) ∉ rest := fun mem => String.lt_irrefl name (ascending.1 _ mem)
        simp [find?, absent, eq_comm]
      · simp [find?, hit, Ne.symm hit, ih ascending.2]

theorem get?_eq_some_iff (dictionary : Dictionary α) (key : String) (value : α) :
    dictionary.get? key = some value ↔ (key, value) ∈ dictionary.entries :=
  find?_eq_some_iff dictionary.ascending key value

theorem mem_values_iff (dictionary : Dictionary α) (value : α) :
    value ∈ dictionary.values ↔ ∃ key, dictionary.get? key = some value := by
  simp [values, get?_eq_some_iff]

theorem mem_keys_iff (dictionary : Dictionary α) (key : String) :
    key ∈ dictionary.keys ↔ ∃ value, dictionary.get? key = some value := by
  simp [keys, get?_eq_some_iff]

theorem nodup_keys (dictionary : Dictionary α) : dictionary.keys.Nodup := by
  refine List.pairwise_map.mpr (dictionary.ascending.imp fun smaller same => ?_)
  rw [same] at smaller
  exact String.lt_irrefl _ smaller

/-- Every dictionary leaves some key free. -/
theorem exists_absent (dictionary : Dictionary α) : ∃ key, dictionary.get? key = none := by
  have bounded (keys : List String) : ∃ bound, ∀ key ∈ keys, key.length < bound := by
    induction keys with
    | nil => exact ⟨0, List.forall_mem_nil _⟩
    | cons first rest ih =>
        obtain ⟨bound, below⟩ := ih
        refine ⟨max (first.length + 1) bound, List.forall_mem_cons.mpr ⟨by omega, fun key mem => ?_⟩⟩
        exact Nat.lt_of_lt_of_le (below key mem) (Nat.le_max_right _ _)
  obtain ⟨bound, below⟩ := bounded dictionary.keys
  let long := String.ofList (List.replicate bound 'a')
  have length : long.length = bound := by simp [long]
  refine ⟨long, Option.eq_none_iff_forall_ne_some.mpr fun value found => ?_⟩
  have shorter := below long ((dictionary.mem_keys_iff long).mpr ⟨value, found⟩)
  rw [length] at shorter
  exact Nat.lt_irrefl _ shorter

end Dictionary

end RelayClient
