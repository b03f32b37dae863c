import RelayClient.Envelope.Outcome
import RelayClient.Failure

/-!
# Pending requests

A request that waits for a reply is registered under its id, and its waiter has
a mailbox. An entry leaves the table once: with the reply, or without one, after
which nothing can arrive. Waiters are numbered in the order they registered.
-/

namespace RelayClient

/-- What a waiter has received so far. -/
inductive Mailbox where
  /-- Nothing came yet. -/
  | vacant
  | delivered (reply : Reply)
  /-- Nothing can come any more. -/
  | closed
  /-- The waiter is gone. -/
  | abandoned
  deriving Inhabited

namespace Mailbox

/-- Delivers a reply, which only a vacant mailbox takes. -/
def deliver (reply : Reply) : Mailbox → Mailbox
  | .vacant => .delivered reply
  | mailbox => mailbox

/-- Closes a mailbox; a reply that is in it can still be taken. -/
def close : Mailbox → Mailbox
  | .vacant => .closed
  | mailbox => mailbox

/-- Whether the waiter takes no reply any more. -/
def isClosed : Mailbox → Bool
  | .closed | .abandoned => true
  | .vacant | .delivered _ => false

end Mailbox

/-- What a waiter finds in its mailbox. -/
inductive Receipt where
  | empty
  | closed
  | abandoned
  | reply (reply : Reply)

/-- The pending requests by id, and the mailboxes of all waiters. -/
structure PendingTable where
  entries : Dictionary Nat := .empty
  mailboxes : List Mailbox := []
  deriving Inhabited

namespace PendingTable

/-- The number of pending requests. -/
def size (table : PendingTable) : Nat :=
  table.entries.size

/-- Whether a request is pending under an id. -/
def contains (table : PendingTable) (id : String) : Bool :=
  table.entries.contains id

theorem exists_free (table : PendingTable) : ∃ id, table.contains id = false := by
  obtain ⟨id, absent⟩ := table.entries.exists_absent
  exact ⟨id, by rw [contains, Dictionary.contains, absent]; rfl⟩

def mailbox (table : PendingTable) (waiter : Nat) : Mailbox :=
  table.mailboxes.getD waiter .abandoned

def change (table : PendingTable) (waiter : Nat) (how : Mailbox → Mailbox) : PendingTable :=
  { table with mailboxes := table.mailboxes.modify waiter how }

/-- The failure of a request whose id is pending already. -/
def duplicate (id : String) : Failure :=
  .protocol ("correlation id " ++ id ++ " is already pending")

/-- Registers a waiter under an id, and tells its number. -/
def register (table : PendingTable) (id : String) : PendingTable × Except Failure Nat :=
  if table.contains id then (table, .error (duplicate id))
  else
    let waiter := table.mailboxes.length
    (⟨table.entries.insert id waiter, table.mailboxes ++ [.vacant]⟩, .ok waiter)

/-- Takes the entry under an id out of the table, and changes the mailbox of its waiter. -/
def takeOut (table : PendingTable) (id : String) (how : Mailbox → Mailbox) : PendingTable × Bool :=
  match table.entries.get? id with
  | some waiter => (({ table with entries := table.entries.erase id }).change waiter how, true)
  | none => (table, false)

/-- Answers the request under an id. -/
def resolve (table : PendingTable) (id : String) (reply : Reply) : PendingTable × Bool :=
  table.takeOut id (Mailbox.deliver reply)

/-- Gives up the request under an id. -/
def evict (table : PendingTable) (id : String) : PendingTable × Bool :=
  table.takeOut id Mailbox.close

/-- Gives up the request under an id when its waiter takes no reply any more. -/
def evictAbandoned (table : PendingTable) (id : String) : PendingTable × Bool :=
  match table.entries.get? id with
  | some waiter => if (table.mailbox waiter).isClosed then table.evict id else (table, false)
  | none => (table, false)

/-- Gives up all requests, and tells how many there were. -/
def clear (table : PendingTable) : PendingTable × Nat :=
  (table.entries.values.foldl (fun current waiter => current.change waiter Mailbox.close)
    { table with entries := .empty }, table.size)

/-- The waiter takes no reply any more. -/
def close (table : PendingTable) (waiter : Nat) : PendingTable :=
  table.change waiter Mailbox.close

/-- The waiter leaves, with whatever is in its mailbox. -/
def abandon (table : PendingTable) (waiter : Nat) : PendingTable :=
  table.change waiter fun _ => .abandoned

/-- The waiter looks into its mailbox and takes the reply out. -/
def receive (table : PendingTable) (waiter : Nat) : PendingTable × Receipt :=
  match table.mailbox waiter with
  | .vacant => (table, .empty)
  | .closed => (table, .closed)
  | .abandoned => (table, .abandoned)
  | .delivered reply => (table.change waiter fun _ => .closed, .reply reply)

end PendingTable

end RelayClient
