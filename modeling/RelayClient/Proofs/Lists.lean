/-!
# Lists that grow at the end

Tables and histories grow at their end. A place in the longer list is the new one
or one from before, and so is a split at an element. What an event of a history has
begun stands until a later event ends it, and what holds throughout a history, or somewhere
in it, holds of each event, or of one, with all that came before it.
-/

namespace RelayClient

theorem getElem?_concat {α : Type} (items : List α) (last : α) (place : Nat) :
    (items ++ [last])[place]? = if place = items.length then some last else items[place]? := by
  rcases Nat.lt_trichotomy place items.length with below | rfl | above
  · rw [if_neg (Nat.ne_of_lt below), List.getElem?_append_left below]
  · rw [if_pos rfl, List.getElem?_concat_length]
  · have outside : (items ++ [last]).length ≤ place := by
      rw [List.length_append]
      exact above
    rw [if_neg (Nat.ne_of_gt above), List.getElem?_eq_none outside, List.getElem?_eq_none (Nat.le_of_lt above)]

/-- A list that grew is split at its new element, or where it was split before. -/
theorem concat_eq_split_iff {α : Type} {history before later : List α} {last event : α} :
    history ++ [last] = before ++ event :: later ↔
      (later = [] ∧ history = before ∧ last = event) ∨
        ∃ middle, later = middle ++ [last] ∧ history = before ++ event :: middle := by
  constructor
  · intro split
    rcases List.eq_nil_or_concat later with rfl | ⟨middle, end_, rfl⟩
    · obtain ⟨same, ends⟩ := List.append_inj' split rfl
      exact .inl ⟨rfl, same, List.singleton_inj.mp ends⟩
    · rw [List.concat_eq_append, ← List.cons_append, ← List.append_assoc] at split
      obtain ⟨same, ends⟩ := List.append_inj' split rfl
      rw [List.concat_eq_append, List.singleton_inj.mp ends]
      exact .inr ⟨middle, rfl, same⟩
  · rintro (⟨rfl, rfl, rfl⟩ | ⟨middle, rfl, rfl⟩)
    · rfl
    · rw [List.append_assoc, List.cons_append]

/-- An event of a history began something, and none since has ended it. -/
def Stands {α : Type} (begins ends : α → Prop) (history : List α) : Prop :=
  ∃ before event after, history = before ++ event :: after ∧ begins event ∧ ∀ later ∈ after, ¬ ends later

/-- What stands was begun by the last event, or stood before it and was not ended by it. -/
theorem stands_concat_iff {α : Type} {begins ends : α → Prop} {history : List α} {last : α} :
    Stands begins ends (history ++ [last]) ↔ begins last ∨ Stands begins ends history ∧ ¬ ends last := by
  constructor
  · rintro ⟨before, event, after, split, begun, going⟩
    rcases concat_eq_split_iff.mp split with ⟨-, -, rfl⟩ | ⟨middle, rfl, rfl⟩
    · exact .inl begun
    · refine .inr ⟨⟨before, event, middle, rfl, begun, ?_⟩, going last (by simp)⟩
      intro later mem
      exact going later (List.mem_append_left _ mem)
  · rintro (begun | ⟨⟨before, event, after, rfl, begun, going⟩, unended⟩)
    · exact ⟨history, last, [], rfl, begun, nofun⟩
    · refine ⟨before, event, after ++ [last], by simp, begun, ?_⟩
      intro later mem
      rcases List.mem_append.mp mem with mem | mem
      · exact going later mem
      · rwa [List.mem_singleton.mp mem]

theorem Stands.imp {α : Type} {begins begins' ends ends' : α → Prop} {history : List α}
    (stands : Stands begins ends history) (begun : ∀ event, begins event → begins' event)
    (ended : ∀ event, ends' event → ends event) : Stands begins' ends' history := by
  obtain ⟨before, event, after, split, start, going⟩ := stands
  refine ⟨before, event, after, split, begun event start, ?_⟩
  intro later mem hit
  exact going later mem (ended later hit)

/-- What stands was begun by an event of the history. -/
theorem Stands.exists_mem {α : Type} {begins ends : α → Prop} {history : List α}
    (stands : Stands begins ends history) : ∃ event ∈ history, begins event := by
  obtain ⟨before, event, after, rfl, start, -⟩ := stands
  exact ⟨event, by simp, start⟩

theorem not_stands_nil {α : Type} {begins ends : α → Prop} : ¬ Stands begins ends [] := by
  rintro ⟨before, event, after, split, -, -⟩
  cases before <;> cases split

/-- Each event of a history came after what a property asks for. -/
def Throughout {α : Type} (holds : List α → α → Prop) (history : List α) : Prop :=
  ∀ before event after, history = before ++ event :: after → holds before event

theorem throughout_nil {α : Type} {holds : List α → α → Prop} : Throughout holds [] := by
  intro before event after split
  cases before <;> cases split

/-- What holds throughout a history held throughout any beginning of it. -/
theorem Throughout.of_append {α : Type} {holds : List α → α → Prop} {history later : List α}
    (all : Throughout holds (history ++ later)) : Throughout holds history := by
  rintro before event after rfl
  exact all before event (after ++ later) (by simp)

/-- What holds throughout a longer history held throughout it before, and holds of the new event. -/
theorem throughout_concat_iff {α : Type} {holds : List α → α → Prop} {history : List α} {last : α} :
    Throughout holds (history ++ [last]) ↔ Throughout holds history ∧ holds history last := by
  constructor
  · exact fun all => ⟨all.of_append, all history last [] rfl⟩
  · rintro ⟨former, newest⟩ before event after split
    rcases concat_eq_split_iff.mp split with ⟨-, rfl, rfl⟩ | ⟨middle, -, earlier⟩
    · exact newest
    · exact former before event middle earlier

theorem Throughout.concat {α : Type} {holds : List α → α → Prop} {history : List α} {last : α}
    (former : Throughout holds history) (newest : holds history last) : Throughout holds (history ++ [last]) :=
  throughout_concat_iff.mpr ⟨former, newest⟩

/-- Some event of a history came after what a property asks for. -/
def Somewhere {α : Type} (holds : List α → α → Prop) (history : List α) : Prop :=
  ∃ before event after, history = before ++ event :: after ∧ holds before event

theorem not_somewhere_nil {α : Type} {holds : List α → α → Prop} : ¬ Somewhere holds [] := by
  rintro ⟨before, event, after, split, -⟩
  cases before <;> cases split

theorem somewhere_concat_iff {α : Type} {holds : List α → α → Prop} {history : List α} {last : α} :
    Somewhere holds (history ++ [last]) ↔ Somewhere holds history ∨ holds history last := by
  constructor
  · rintro ⟨before, event, after, split, held⟩
    rcases concat_eq_split_iff.mp split with ⟨-, rfl, rfl⟩ | ⟨middle, -, earlier⟩
    · exact .inr held
    · exact .inl ⟨before, event, middle, earlier, held⟩
  · rintro (⟨before, event, after, rfl, held⟩ | held)
    · exact ⟨before, event, after ++ [last], by simp, held⟩
    · exact ⟨history, last, [], rfl, held⟩

end RelayClient
