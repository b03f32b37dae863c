import RelayClient.Proofs.Exchange.History

/-!
# Idle messengers

A messenger without a channel and without pending requests stays so until a channel
is attached, for whatever is sent is refused and leaves nothing pending.
-/

namespace RelayClient

namespace Messenger

variable {κ : Type}

structure IsIdle (messenger : Messenger κ) : Prop where
  detached : messenger.channel = none
  empty : ∀ id, messenger.table.entries.get? id = none

variable {now later : Nat} {messenger after : Messenger κ} {events : List ExchangeEvent}

theorem IsIdle.size_eq_zero (idle : messenger.IsIdle) : messenger.table.size = 0 := by
  unfold PendingTable.size Dictionary.size
  rw [List.length_eq_zero_iff]
  cases held : messenger.table.entries.entries with
  | nil => rfl
  | cons entry rest =>
      have found := (Dictionary.get?_eq_some_iff messenger.table.entries entry.1 entry.2).mpr (held ▸ .head _)
      rw [idle.empty] at found
      cases found

/-- Whatever was attached and pending, nothing is after a detach and a clear. -/
theorem isIdle_clear (messenger : Messenger κ) : messenger.detach.clear.1.IsIdle where
  detached := rfl
  empty id := by
    have cleared : messenger.detach.clear.1.table.entries = .empty := messenger.table.entries_clear
    rw [cleared, Dictionary.get?_empty]

theorem correlate_channel (messenger : Messenger κ) (args : Args) :
    (messenger.correlate args).1.channel = messenger.channel := by
  unfold correlate
  split <;> rfl

/-- Nothing is sent without a channel. -/
theorem send_of_detached (detached : messenger.channel = none) (refusal : Option Failure) (message : Message)
    (request : SentRequest κ) : messenger.send now refusal message ≠ (after, .ok request) := by
  have same := messenger.correlate_channel (message.args.getD .empty)
  intro sent
  unfold send at sent
  split at sent
  · cases sent
  · generalize messenger.correlate (message.args.getD .empty) = correlated at same sent
    obtain ⟨drawn, id, args⟩ := correlated
    rw [detached] at same
    dsimp only at same sent
    split at sent
    · cases sent
    · unfold post at sent
      rw [same] at sent
      cases sent

namespace IsIdle

variable (idle : messenger.IsIdle)
include idle

theorem entries_abandon (reply : Nat) (id : String) : (messenger.abandon reply).table.entries.get? id = none := by
  unfold Messenger.abandon
  split
  · exact idle.empty id
  · next expected _ =>
      split
      · exact idle.empty id
      · dsimp only
        unfold PendingTable.evictAbandoned PendingTable.abandon
        rw [PendingTable.entries_change, idle.empty]
        exact idle.empty id

theorem entries_settle (message : Message) (outcome : Outcome) (id : String) :
    (messenger.settle message outcome).table.entries.get? id = none := by
  unfold Messenger.settle
  split
  · dsimp only [PendingTable.resolve]
    rw [PendingTable.entries_takeOut, idle.empty, ite_self]
  · exact idle.empty id

theorem entries_polled {reply : Nat} {result : Option (Except Failure Pack.Value)}
    (polled : Polled messenger reply (after, result)) (id : String) : after.table.entries.get? id = none := by
  cases polled with
  | nothing => exact idle.empty id
  | answered found fate => exact idle.empty id
  | stopped fate => exact idle.empty id
  | late fate => exact idle.entries_abandon reply id

/-- As long as no channel is attached, no operation leaves a request pending. -/
theorem step (step : Step now messenger events later after) (detached : after.channel = none) : after.IsIdle := by
  refine ⟨detached, fun id => ?_⟩
  cases step with
  | attach channel => cases detached
  | detach => exact idle.empty id
  | clear => rw [Messenger.clear, PendingTable.entries_clear, Dictionary.get?_empty]
  | pass forward => exact idle.empty id
  | sent result => exact absurd result (send_of_detached idle.detached _ _ _)
  | @refused refusal message after failure result =>
      cases (result ▸ sent_send .. : Sent messenger (after, .error failure)) with
      | refused table replies => rw [table, idle.empty]
      | failed free table replies => rw [table, Sent.entries_failed free, idle.empty]
  | dispatch handle state message => exact idle.entries_settle _ _ id
  | receive handle state decoded =>
      rw [receive_of_ok messenger handle state decoded]
      exact idle.entries_settle _ _ id
  | garbage handle state unread =>
      rw [receive_of_error messenger handle state unread]
      exact idle.empty id
  | completed result => exact idle.entries_polled (result ▸ polled_poll messenger now _) id
  | pending result => exact idle.entries_polled (result ▸ polled_poll messenger now _) id
  | drop reply => exact idle.entries_abandon reply id

end IsIdle

end Messenger

end RelayClient
