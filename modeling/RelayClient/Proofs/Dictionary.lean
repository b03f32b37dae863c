import Mathlib.Data.List.Sort
import RelayClient.Dictionary

/-!
# Dictionaries as their entries

Entries that are in order make up a dictionary of their own, and two dictionaries
in which each key finds the same are the same.
-/

namespace RelayClient

namespace Dictionary

variable {α : Type}

theorem place_eq_append {key : String} {value : α} {entries : List (String × α)}
    (last : ∀ entry ∈ entries, entry.1 < key) : place key value entries = entries ++ [(key, value)] := by
  induction entries with
  | nil => rfl
  | cons first rest ih =>
      obtain ⟨name, current⟩ := first
      have below : name < key := last _ (.head _)
      have later := ih fun entry mem => last entry (.tail _ mem)
      rw [place, if_neg (String.lt_asymm below), if_pos below, later, List.cons_append]

theorem entries_insertAll (dictionary : Dictionary α) (entries : List (String × α))
    (ascending : (dictionary.entries ++ entries).Pairwise fun first second => first.1 < second.1) :
    (dictionary.insertAll entries).entries = dictionary.entries ++ entries := by
  induction entries generalizing dictionary with
  | nil => exact (List.append_nil _).symm
  | cons entry rest ih =>
      have last : ∀ other ∈ dictionary.entries, other.1 < entry.1 := fun other mem =>
        (List.pairwise_append.mp ascending).2.2 other mem entry (.head _)
      have grown : (dictionary.insert entry.1 entry.2).entries = dictionary.entries ++ [entry] :=
        place_eq_append last
      have step := ih (dictionary.insert entry.1 entry.2) (by rw [grown, List.append_assoc]; exact ascending)
      rw [grown, List.append_assoc] at step
      exact step

/-- Entries that are in order make up their own dictionary. -/
theorem ofList_entries (dictionary : Dictionary α) : ofList dictionary.entries = dictionary := by
  obtain ⟨entries, ascending⟩ := dictionary
  have same := entries_insertAll (empty : Dictionary α) entries ascending
  unfold ofList
  cases built : (empty : Dictionary α).insertAll entries with
  | mk found order =>
      rw [built] at same
      cases same
      rfl

/-- Where every key finds the same, the dictionaries are the same. -/
theorem ext_get? {first second : Dictionary α} (same : ∀ key, first.get? key = second.get? key) : first = second := by
  let precedes := fun before after : String × α => before.1 < after.1
  have antisymm : Std.Antisymm precedes := ⟨fun _ _ less more => absurd more (String.lt_asymm less)⟩
  have irrefl : Std.Irrefl precedes := ⟨fun entry => String.lt_irrefl entry.1⟩
  have entries : first.entries = second.entries := by
    refine List.Pairwise.eq_of_mem_iff (r := precedes) first.ascending second.ascending fun entry => ?_
    rw [← get?_eq_some_iff, ← get?_eq_some_iff, same]
  cases first
  cases second
  cases entries
  rfl

theorem length_place {key : String} {entries : List (String × α)} (free : find? key entries = none) (value : α) :
    (place key value entries).length = entries.length + 1 := by
  induction entries with
  | nil => rfl
  | cons first rest ih =>
      obtain ⟨name, current⟩ := first
      rw [find?] at free
      split at free
      · cases free
      · next other =>
          rw [place]
          split
          · rfl
          · next notSmaller =>
              split
              · rw [List.length_cons, ih free, List.length_cons]
              · next notLarger =>
                  exact absurd (String.le_antisymm (String.not_lt.mp notSmaller) (String.not_lt.mp notLarger)) other

/-- An entry under a free key makes one more. -/
theorem size_insert {dictionary : Dictionary α} {key : String} (free : dictionary.get? key = none) (value : α) :
    (dictionary.insert key value).size = dictionary.size + 1 :=
  length_place free value

end Dictionary

end RelayClient
