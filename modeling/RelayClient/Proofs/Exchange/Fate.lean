import RelayClient.Exchange.Messenger
import RelayClient.Proofs.Exchange.Table

/-!
# The fate of an expected reply

An expected reply waits under its id until it is answered or given up, and is
finished once it was polled to an end or left. A messenger is sound when its
pending table holds exactly the replies that wait, each under its id. Every
operation keeps a messenger sound, and is described by what it does to fates.
-/

namespace RelayClient

/-- What has become of an expected reply. -/
inductive Fate where
  | waiting (id : String)
  | answered (reply : Reply)
  /-- It was given up, which the next poll tells. -/
  | stopped
  | finished

/-- The fate that a mailbox tells, for a reply under an id. -/
def Mailbox.fate (id : String) : Mailbox → Fate
  | .vacant => .waiting id
  | .delivered reply => .answered reply
  | .closed | .abandoned => .stopped

/-- The fate of an expected reply, read off its mailbox until it is finished. -/
def ExpectedReply.fate (expected : ExpectedReply) (table : PendingTable) : Fate :=
  if expected.finished then .finished else (table.mailbox expected.waiter).fate expected.id

theorem ExpectedReply.fate_eq_waiting_iff (expected : ExpectedReply) (table : PendingTable) (id : String) :
    expected.fate table = .waiting id ↔
      expected.finished = false ∧ table.mailbox expected.waiter = .vacant ∧ expected.id = id := by
  unfold fate
  cases expected.finished with
  | true => simp
  | false => cases table.mailbox expected.waiter <;> simp [Mailbox.fate]

theorem ExpectedReply.fate_congr (expected : ExpectedReply) {first second : PendingTable}
    (same : first.mailbox expected.waiter = second.mailbox expected.waiter) :
    expected.fate first = expected.fate second := by
  simp only [fate, same]

/-- What a handled message does to a fate: it answers what waits under its id. -/
def Fate.hear (message : Message) (outcome : Outcome) : Fate → Fate
  | .waiting id =>
      match message.replyOf outcome with
      | some reply => if message.temporaryId? = some id then .answered reply else .waiting id
      | none => .waiting id
  | fate => fate

theorem Fate.hear_eq_self {fate : Fate} {message : Message} {outcome : Outcome}
    (foreign : ∀ id, fate = .waiting id →
      message.replyOf outcome = none ∨ message.temporaryId? ≠ some id) :
    fate.hear message outcome = fate := by
  cases fate with
  | waiting id =>
      rcases foreign id rfl with silent | other
      · simp [hear, silent]
      · simp only [hear, if_neg other]
        split <;> rfl
  | answered reply => rfl
  | stopped => rfl
  | finished => rfl

/-- What is answered after a message was so before, or waited for just this message. -/
theorem Fate.eq_answered_of_hear {fate : Fate} {message : Message} {outcome : Outcome} {answer : Reply}
    (told : fate.hear message outcome = .answered answer) :
    fate = .answered answer ∨
      ∃ id, fate = .waiting id ∧ message.temporaryId? = some id ∧ message.replyOf outcome = some answer := by
  cases fate with
  | waiting id =>
      simp only [hear] at told
      split at told
      · next given found =>
          split at told
          · next carried =>
              cases told
              exact .inr ⟨id, rfl, carried, found⟩
          · cases told
      · cases told
  | answered given => exact .inl told
  | stopped => cases told
  | finished => cases told

/-- What waits after a message waited before, and the message was no answer to it. -/
theorem Fate.hear_eq_waiting_iff (fate : Fate) (message : Message) (outcome : Outcome) (id : String) :
    fate.hear message outcome = .waiting id ↔
      fate = .waiting id ∧ (message.replyOf outcome = none ∨ message.temporaryId? ≠ some id) := by
  cases fate with
  | waiting name =>
      cases answered : message.replyOf outcome with
      | none => simp [hear, answered]
      | some answer =>
          by_cases carried : message.temporaryId? = some name
          · simp only [hear, answered, carried]
            simp
          · simp only [hear, answered, if_neg carried, Fate.waiting.injEq]
            constructor
            · rintro rfl
              exact ⟨rfl, .inr carried⟩
            · rintro ⟨same, -⟩
              exact same
  | answered reply => simp [hear]
  | stopped => simp [hear]
  | finished => simp [hear]

def Fate.giveUp : Fate → Fate
  | .waiting _ => .stopped
  | fate => fate

theorem Fate.giveUp_eq_answered_iff (fate : Fate) (answer : Reply) :
    fate.giveUp = .answered answer ↔ fate = .answered answer := by
  cases fate <;> simp [giveUp]

namespace Messenger

variable {κ : Type} {messenger after : Messenger κ}

def fate (messenger : Messenger κ) (reply : Nat) : Option Fate :=
  messenger.replies[reply]?.map (·.fate messenger.table)

def waiter? (messenger : Messenger κ) (reply : Nat) : Option Nat :=
  messenger.replies[reply]?.map (·.waiter)

/-- The table holds exactly the replies that wait, and no two replies share a waiter. -/
structure Sound (messenger : Messenger κ) : Prop where
  entry_iff : ∀ id waiter, messenger.table.entries.get? id = some waiter ↔
    ∃ reply, messenger.fate reply = some (.waiting id) ∧ messenger.waiter? reply = some waiter
  waiter_lt : ∀ reply waiter, messenger.waiter? reply = some waiter →
    waiter < messenger.table.mailboxes.length
  waiter_inj : ∀ first second waiter, messenger.waiter? first = some waiter →
    messenger.waiter? second = some waiter → first = second

theorem fate_of_getElem {reply : Nat} {expected : ExpectedReply}
    (found : messenger.replies[reply]? = some expected) :
    messenger.fate reply = some (expected.fate messenger.table) := by
  simp [fate, found]

theorem waiter?_of_getElem {reply : Nat} {expected : ExpectedReply}
    (found : messenger.replies[reply]? = some expected) :
    messenger.waiter? reply = some expected.waiter := by
  simp [waiter?, found]

/-- A reply that waits is not finished, and its mailbox is vacant. -/
theorem exists_of_fate_waiting {reply : Nat} {id : String}
    (waits : messenger.fate reply = some (.waiting id)) :
    ∃ expected, messenger.replies[reply]? = some expected ∧ expected.finished = false ∧
      messenger.table.mailbox expected.waiter = .vacant ∧ expected.id = id := by
  obtain ⟨expected, found, fate⟩ := Option.map_eq_some_iff.mp waits
  exact ⟨expected, found, (expected.fate_eq_waiting_iff _ _).mp fate⟩

namespace Sound

/-- No two replies wait under one id, since its entry names one waiter. -/
theorem waiting_inj (sound : messenger.Sound) {first second : Nat} {id : String}
    (firstWaits : messenger.fate first = some (.waiting id))
    (secondWaits : messenger.fate second = some (.waiting id)) : first = second := by
  obtain ⟨expected, found, -⟩ := exists_of_fate_waiting firstWaits
  obtain ⟨other, otherFound, -⟩ := exists_of_fate_waiting secondWaits
  have entry := (sound.entry_iff id expected.waiter).mpr ⟨first, firstWaits, waiter?_of_getElem found⟩
  have otherEntry :=
    (sound.entry_iff id other.waiter).mpr ⟨second, secondWaits, waiter?_of_getElem otherFound⟩
  have same : expected.waiter = other.waiter := Option.some.inj (entry.symm.trans otherEntry)
  exact sound.waiter_inj first second _ (waiter?_of_getElem found) (same ▸ waiter?_of_getElem otherFound)

theorem get?_eq_none (sound : messenger.Sound) {id : String}
    (idle : ∀ reply, messenger.fate reply ≠ some (.waiting id)) :
    messenger.table.entries.get? id = none := by
  cases entry : messenger.table.entries.get? id with
  | none => rfl
  | some waiter =>
      obtain ⟨reply, waits, -⟩ := (sound.entry_iff id waiter).mp entry
      exact absurd waits (idle reply)

/-- An operation that takes some ids out of the table, and ends the waiting under
just those, keeps a messenger sound. -/
theorem of_removal (sound : messenger.Sound) (removed : String → Prop)
    (waiters : ∀ reply, after.waiter? reply = messenger.waiter? reply)
    (length : messenger.table.mailboxes.length ≤ after.table.mailboxes.length)
    (entries : ∀ id waiter, after.table.entries.get? id = some waiter ↔
      ¬ removed id ∧ messenger.table.entries.get? id = some waiter)
    (fates : ∀ reply id, after.fate reply = some (.waiting id) ↔
      ¬ removed id ∧ messenger.fate reply = some (.waiting id)) : after.Sound where
  entry_iff id waiter := by
    rw [entries, sound.entry_iff]
    constructor
    · rintro ⟨kept, reply, waits, held⟩
      exact ⟨reply, (fates reply id).mpr ⟨kept, waits⟩, (waiters reply).trans held⟩
    · rintro ⟨reply, waits, held⟩
      obtain ⟨kept, waited⟩ := (fates reply id).mp waits
      exact ⟨kept, reply, waited, (waiters reply).symm.trans held⟩
  waiter_lt reply waiter held :=
    Nat.lt_of_lt_of_le (sound.waiter_lt reply waiter ((waiters reply).symm.trans held)) length
  waiter_inj first second waiter held heldToo :=
    sound.waiter_inj first second waiter ((waiters first).symm.trans held)
      ((waiters second).symm.trans heldToo)

end Sound

/-- A messenger that has sent nothing is sound. -/
theorem sound_start (limit : Option Nat) (draw : Nat → String) :
    ({ limit, draw } : Messenger κ).Sound := by
  constructor <;> simp [fate, waiter?]

/-! ## Attaching, detaching and drawing -/

/-- Only the table and the replies matter for soundness. -/
theorem Sound.congr (sound : messenger.Sound) (table : after.table = messenger.table)
    (replies : after.replies = messenger.replies) : after.Sound := by
  refine sound.of_removal (fun _ => False) ?_ ?_ ?_ ?_ <;> simp [fate, waiter?, table, replies]

theorem fate_congr (table : after.table = messenger.table) (replies : after.replies = messenger.replies)
    (reply : Nat) : after.fate reply = messenger.fate reply := by
  simp [fate, table, replies]

end Messenger

end RelayClient
