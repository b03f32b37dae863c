import Mathlib.Algebra.GroupWithZero.Nat
import RelayClient.Proofs.Envelope.LastEntries
import RelayClient.Proofs.Replica.Threads

/-!
# Unread totals

Conversations are stored one after the other, and each unread count is cut off at the largest
total before it joins a total that is cut off there again. No count is lost on the way: what comes
out is the exact sum, cut off once, and so the order of the conversations does not matter to it.
It matters to what is stored, as each receiver keeps the last conversation that names it.
-/

namespace RelayClient.Replica.AppData

open Pack (Value)

/-! ## The exact sum -/

/-- Whether a conversation has texts for the type and the id of its receiver. -/
def isNamed (conversation : Value) : Bool :=
  match conversation.get? "type", conversation.get? "id" with
  | some (.text _), some (.text _) => true
  | _, _ => false

/-- The count that a conversation tells. What is no integer, or a negative one, counts as nothing. -/
def toldCount (conversation : Value) : Nat :=
  match conversation.get? "unreadCount" with
  | some (.int number) => number.value.toNat
  | _ => 0

/-- The sum of the counts of the conversations that name their receivers. -/
def exactTotal (list : List Value) : Nat :=
  ((list.filter isNamed).map toldCount).sum

theorem unreadCount_eq (conversation : Value) : unreadCount conversation = toldCount conversation := by
  unfold unreadCount toldCount
  cases told : conversation.get? "unreadCount" with
  | none => rfl
  | some value =>
      cases value with
      | int number =>
          by_cases natural : 0 ≤ number.value
          · simp [Value.nat?, natural]
          · simp only [Option.bind_some, Value.nat?, if_neg natural, Option.getD_none]
            omega
      | _ => rfl

theorem exactTotal_perm {list other : List Value} (same : other.Perm list) : exactTotal other = exactTotal list :=
  ((same.filter isNamed).map toldCount).sum_nat

/-! ## The receiver that a conversation names -/

/-- A conversation names the receiver of a key by a type and an id. -/
def Names (key : String) (conversation : Value) : Prop :=
  ∃ type id, conversation.get? "type" = some (.text type) ∧ conversation.get? "id" = some (.text id) ∧
    receiverKey type id = key

theorem bind_text?_eq_some_iff (found : Option Value) (content : String) :
    found.bind Value.text? = some content ↔ found = some (.text content) := by
  cases found with
  | none => exact iff_of_false nofun nofun
  | some value => exact (Message.text?_eq_some_iff value content).trans (Option.some_inj).symm

theorem conversationKey?_eq_some_iff (conversation : Value) (key : String) :
    conversationKey? conversation = some key ↔ Names key conversation := by
  unfold conversationKey? Names
  simp only [← bind_text?_eq_some_iff]
  split
  · next type id typed identified => simp [typed, identified]
  · next unnamed =>
      constructor
      · nofun
      · rintro ⟨type, id, typed, identified, -⟩
        exact absurd identified (unnamed type id typed)

theorem isNamed_eq_isSome (conversation : Value) :
    isNamed conversation = (conversationKey? conversation).isSome := by
  unfold isNamed conversationKey?
  split
  · next type id typed identified => simp [typed, identified, Value.text?]
  · next untold =>
      rw [eq_comm, Bool.eq_false_iff]
      intro named
      split at named
      · next type id typed identified =>
          exact untold type id ((bind_text?_eq_some_iff _ _).mp typed) ((bind_text?_eq_some_iff _ _).mp identified)
      · cases named

/-- A conversation of a list names a receiver, and no later one of the list does. -/
def IsLastNaming (key : String) (conversation : Value) (list : List Value) : Prop :=
  Stands (fun entry => entry = conversation ∧ Names key entry) (Names key) list

theorem lastListed_eq_some_iff (list : List Value) (key : String) (conversation : Value) :
    lastListed list key = some conversation ↔ IsLastNaming key conversation list := by
  induction list using List.reverseRecOn with
  | nil => exact iff_of_false nofun not_stands_nil
  | append_singleton list last ih =>
      rw [lastListed_append, lastListed_singleton, IsLastNaming, stands_concat_iff, ← IsLastNaming, ← ih]
      by_cases named : Names key last
      · rw [if_pos ((conversationKey?_eq_some_iff last key).mpr named)]
        simp [named]
      · rw [if_neg fun same => named ((conversationKey?_eq_some_iff last key).mp same)]
        simp [named]

theorem lastListed_eq_none_iff (list : List Value) (key : String) :
    lastListed list key = none ↔ ∀ conversation ∈ list, ¬ Names key conversation := by
  simp only [lastListed, List.getLast?_eq_none_iff, List.filter_eq_nil_iff, beq_iff_eq, conversationKey?_eq_some_iff]

/-! ## The total -/

theorem snd_storeConversation (state : Container × Nat) (conversation : Value) (small : state.2 ≤ maxUnread) :
    (storeConversation state conversation).2 = min maxUnread (state.2 + exactTotal [conversation]) := by
  unfold storeConversation exactTotal
  cases named : conversationKey? conversation with
  | none =>
      have unnamed : isNamed conversation = false := by rw [isNamed_eq_isSome, named]; rfl
      simp [unnamed, small]
  | some key =>
      have kept : isNamed conversation = true := by rw [isNamed_eq_isSome, named]; rfl
      simp only [unreadCount_eq, List.filter_cons_of_pos kept, List.filter_nil, List.map_cons, List.map_nil,
        List.sum_cons, List.sum_nil]
      omega

theorem exactTotal_cons (conversation : Value) (rest : List Value) :
    exactTotal (conversation :: rest) = exactTotal [conversation] + exactTotal rest := by
  unfold exactTotal
  rw [← List.sum_append, ← List.map_append, ← List.filter_append, List.singleton_append]

/-- Cutting off at every step is cutting off once. -/
theorem snd_foldl_storeConversation (list : List Value) (state : Container × Nat) (small : state.2 ≤ maxUnread) :
    (list.foldl storeConversation state).2 = min maxUnread (state.2 + exactTotal list) := by
  induction list generalizing state with
  | nil => exact (Nat.min_eq_right small).symm
  | cons conversation rest ih =>
      have added := snd_storeConversation state conversation small
      have fits : (storeConversation state conversation).2 ≤ maxUnread := added ▸ Nat.min_le_left _ _
      rw [List.foldl_cons, ih _ fits, added, exactTotal_cons conversation rest]
      omega

/-- What storing a list of conversations comes to. -/
structure TotalsExactly (data : AppData) (list : List Value) : Prop where
  /-- The total is the exact sum, cut off at the largest total. -/
  total : (data.storeConversations list).2 = min (2 ^ 32 - 1) (exactTotal list)
  /-- The order of the list does not matter to it. -/
  unordered : ∀ other : List Value, other.Perm list → (data.storeConversations other).2 = (data.storeConversations list).2
  /-- A key finds the last conversation that names it, or what it found before where none does. -/
  stored : ∀ key conversation, (data.storeConversations list).1.conversations.get? key = some conversation ↔
    IsLastNaming key conversation list ∨
      (∀ entry ∈ list, ¬ Names key entry) ∧ data.conversations.get? key = some conversation
  /-- Nothing else is stored. -/
  others : ∀ name, name ≠ .conversations → (data.storeConversations list).1.container name = data.container name

/-- Whatever the list holds, its counts are totalled exactly and each receiver keeps its last conversation. -/
theorem totalsExactly (data : AppData) (list : List Value) : TotalsExactly data list := by
  have totals (entries : List Value) : (data.storeConversations entries).2 = min maxUnread (exactTotal entries) := by
    have folded := snd_foldl_storeConversation entries (data.conversations, 0) (Nat.zero_le _)
    rwa [Nat.zero_add] at folded
  constructor
  case total => exact totals list
  case unordered =>
    intro other same
    rw [totals, totals, exactTotal_perm same]
  case stored =>
    intro key conversation
    have found : (data.storeConversations list).1.conversations.get? key =
        (lastListed list key).or (data.conversations.get? key) :=
      get?_storeConversations list (data.conversations, 0) key
    rw [found, Option.or_eq_some_iff, lastListed_eq_some_iff, lastListed_eq_none_iff]
  case others =>
    intro name other
    cases name with
    | conversations => exact absurd rfl other
    | _ => rfl

/-- A count that would fill the total by itself leaves no room for the next one. -/
example : (({} : AppData).storeConversations
    [.record [("type", .text "contact"), ("id", .text "a"), ("unreadCount", .int ⟨2 ^ 40, by decide, by decide⟩)],
      .record [("type", .text "contact"), ("id", .text "b"), ("unreadCount", .int ⟨-1, by decide, by decide⟩)],
      .record [("type", .text "contact"), ("id", .text "c"), ("unreadCount", .int ⟨1, by decide, by decide⟩)]]).2 =
    2 ^ 32 - 1 := rfl

end RelayClient.Replica.AppData
