import RelayClient.Exchange.PendingTable
import RelayClient.Proofs.Lists

/-!
# Views of the pending table

A pending table is seen through two views: the waiter registered under an id,
and the mailbox of a waiter. Each operation is described by what it does to
both, so that nothing else unfolds a table.
-/

namespace RelayClient

namespace PendingTable

theorem contains_eq_false_iff (table : PendingTable) (id : String) :
    table.contains id = false ↔ table.entries.get? id = none := by
  simp [contains, Dictionary.contains]

@[simp] theorem entries_change (table : PendingTable) (waiter : Nat) (how : Mailbox → Mailbox) :
    (table.change waiter how).entries = table.entries := rfl

@[simp] theorem length_change (table : PendingTable) (waiter : Nat) (how : Mailbox → Mailbox) :
    (table.change waiter how).mailboxes.length = table.mailboxes.length :=
  List.length_modify ..

theorem mailbox_change (table : PendingTable) {waiter : Nat} (how : Mailbox → Mailbox)
    (inside : waiter < table.mailboxes.length) (other : Nat) :
    (table.change waiter how).mailbox other =
      if other = waiter then how (table.mailbox other) else table.mailbox other := by
  simp only [mailbox, change, List.getD_eq_getElem?_getD]
  by_cases same : other = waiter
  · subst same
    simp [inside]
  · rw [if_neg same, List.getElem?_modify_ne _ _ (Ne.symm same)]

theorem mailbox_change_of_ne (table : PendingTable) {waiter other : Nat} (how : Mailbox → Mailbox)
    (distinct : other ≠ waiter) : (table.change waiter how).mailbox other = table.mailbox other := by
  simp only [mailbox, change, List.getD_eq_getElem?_getD]
  rw [List.getElem?_modify_ne _ _ (Ne.symm distinct)]

theorem mailbox_of_length_le {table : PendingTable} {waiter : Nat} (outside : table.mailboxes.length ≤ waiter) :
    table.mailbox waiter = .abandoned := by
  rw [mailbox, List.getD_eq_getElem?_getD, List.getElem?_eq_none outside]
  rfl

/-- A waiter that was never made has no mailbox, and an abandoned one is as good as none. -/
theorem mailbox_change_of_stays (table : PendingTable) {waiter : Nat} {how : Mailbox → Mailbox}
    (stays : table.mailbox waiter = .abandoned → how .abandoned = .abandoned) (other : Nat) :
    (table.change waiter how).mailbox other =
      if other = waiter then how (table.mailbox other) else table.mailbox other := by
  by_cases inside : waiter < table.mailboxes.length
  · exact mailbox_change table how inside other
  · split
    · next same =>
        subst same
        have outside : table.mailboxes.length ≤ other := Nat.le_of_not_lt inside
        have former : table.mailbox other = .abandoned := mailbox_of_length_le outside
        rw [former, stays former]
        exact mailbox_of_length_le (by rwa [length_change])
    · next distinct => exact mailbox_change_of_ne table how distinct

/-! ## Registering -/

theorem register_of_contains {table : PendingTable} {id : String} (taken : table.contains id = true) :
    table.register id = (table, .error (duplicate id)) := by
  simp [register, taken]

/-- A free id gets the next waiter, whose mailbox is vacant. -/
theorem register_of_free {table : PendingTable} {id : String} (free : table.contains id = false) :
    table.register id =
      (⟨table.entries.insert id table.mailboxes.length, table.mailboxes ++ [.vacant]⟩,
        .ok table.mailboxes.length) := by
  simp [register, free]

/-- A new mailbox stands behind those that were there. -/
theorem mailbox_append (entries current : Dictionary Nat) (mailboxes : List Mailbox) (added : Mailbox)
    (waiter : Nat) :
    (PendingTable.mk entries (mailboxes ++ [added])).mailbox waiter =
      if waiter = mailboxes.length then added else (PendingTable.mk current mailboxes).mailbox waiter := by
  simp only [mailbox, List.getD_eq_getElem?_getD, getElem?_concat]
  split <;> rfl

/-! ## Taking entries out -/

theorem takeOut_of_none {table : PendingTable} {id : String} (absent : table.entries.get? id = none)
    (how : Mailbox → Mailbox) : table.takeOut id how = (table, false) := by
  simp [takeOut, absent]

theorem takeOut_of_some {table : PendingTable} {id : String} {waiter : Nat}
    (entry : table.entries.get? id = some waiter) (how : Mailbox → Mailbox) :
    table.takeOut id how =
      (({ table with entries := table.entries.erase id }).change waiter how, true) := by
  simp [takeOut, entry]

theorem entries_takeOut (table : PendingTable) (id : String) (how : Mailbox → Mailbox) (other : String) :
    (table.takeOut id how).1.entries.get? other = if other = id then none else table.entries.get? other := by
  cases entry : table.entries.get? id with
  | none =>
      rw [takeOut_of_none entry]
      by_cases same : other = id
      · subst same; simp [entry]
      · simp [same]
  | some waiter =>
      rw [takeOut_of_some entry]
      exact Dictionary.get?_erase table.entries id other

theorem length_takeOut (table : PendingTable) (id : String) (how : Mailbox → Mailbox) :
    (table.takeOut id how).1.mailboxes.length = table.mailboxes.length := by
  unfold takeOut
  split
  · exact length_change ..
  · rfl

/-- Taking an entry out changes the mailbox of its waiter. -/
theorem mailbox_takeOut {table : PendingTable} {id : String} {waiter : Nat}
    (entry : table.entries.get? id = some waiter) (inside : waiter < table.mailboxes.length)
    (how : Mailbox → Mailbox) (other : Nat) :
    (table.takeOut id how).1.mailbox other =
      if other = waiter then how (table.mailbox other) else table.mailbox other := by
  rw [takeOut_of_some entry]
  exact mailbox_change { table with entries := table.entries.erase id } how inside other

/-- An entry whose waiter still takes a reply stays. -/
theorem evictAbandoned_of_open {table : PendingTable} {id : String}
    (held : ∀ waiter, table.entries.get? id = some waiter → (table.mailbox waiter).isClosed = false) :
    table.evictAbandoned id = (table, false) := by
  unfold evictAbandoned
  split
  · rename_i waiter entry
    rw [if_neg (by simp [held waiter entry])]
  · rfl

theorem evictAbandoned_of_closed {table : PendingTable} {id : String} {waiter : Nat}
    (entry : table.entries.get? id = some waiter) (gone : (table.mailbox waiter).isClosed = true) :
    table.evictAbandoned id = table.evict id := by
  simp [evictAbandoned, entry, gone]

/-! ## Clearing -/

/-- Closing the mailboxes of some waiters leaves every other mailbox, and the entries, as they were. -/
theorem foldl_close (waiters : List Nat) (table : PendingTable) :
    let closed := waiters.foldl (fun current waiter => current.change waiter Mailbox.close) table
    closed.entries = table.entries ∧ closed.mailboxes.length = table.mailboxes.length ∧
      ∀ waiter, closed.mailbox waiter =
        if waiter ∈ waiters then (table.mailbox waiter).close else table.mailbox waiter := by
  induction waiters generalizing table with
  | nil => simp
  | cons first rest ih =>
      obtain ⟨entries, length, boxes⟩ := ih (table.change first Mailbox.close)
      refine ⟨entries, length.trans (length_change ..), fun waiter => ?_⟩
      rw [List.foldl_cons, boxes waiter, mailbox_change_of_stays _ fun _ => rfl]
      by_cases same : waiter = first
      · subst same
        cases table.mailbox waiter <;> simp [Mailbox.close]
      · simp [same]

theorem entries_clear (table : PendingTable) : table.clear.1.entries = .empty :=
  (foldl_close table.entries.values { table with entries := .empty }).1

@[simp] theorem length_clear (table : PendingTable) : table.clear.1.mailboxes.length = table.mailboxes.length :=
  (foldl_close table.entries.values { table with entries := .empty }).2.1

/-- Clearing closes the mailboxes of the waiters that were in the table. -/
theorem mailbox_clear (table : PendingTable) (waiter : Nat) :
    table.clear.1.mailbox waiter =
      if waiter ∈ table.entries.values then (table.mailbox waiter).close else table.mailbox waiter :=
  (foldl_close table.entries.values { table with entries := .empty }).2.2 waiter

end PendingTable

end RelayClient
