import RelayClient.Proofs.Dictionary
import RelayClient.Proofs.Exchange.Requests

/-!
# Requests are sent whole or not at all

A request that is sent is one frame, one entry of the table and one reply that
waits, all under one id. A request that is not sent leaves the table as it was,
and a request without an id of its own is not kept back by those that wait.
-/

namespace RelayClient

open Pack (Value)

/-- A message as it is sent under an id. -/
structure Message.Carries (sent message : Message) (id : String) : Prop where
  kind : sent.kind = message.kind
  subject : sent.subject = message.subject
  data : sent.data = message.data
  named : sent.temporaryId? = some id
  args : ∃ args, sent.args = some args ∧
    ∀ key, key ≠ temporaryIdKey → args.get? key = (message.args.getD .empty).get? key
  /-- An id that was given is the one it is sent under, and the message stays as it was. -/
  given : ∀ own, message.temporaryId? = some own → id = own ∧ sent = message

namespace Messenger

variable {κ : Type} {messenger after : Messenger κ} {now : Nat} {refusal : Option Failure} {message : Message}

/-- What a request that was sent has changed. -/
structure SentWhole (messenger after : Messenger κ) (message : Message) (request : SentRequest κ) : Prop where
  channel : messenger.channel = some request.channel
  carries : request.message.Carries message request.id
  free : messenger.table.entries.get? request.id = none
  /-- An id that was not given is the first free one that comes up. -/
  drawn : message.temporaryId? = none → ∀ number, messenger.IsFirstFree number → request.id = messenger.draw number
  entry : after.table.entries = messenger.table.entries.insert request.id messenger.table.mailboxes.length
  size : after.table.size = messenger.table.size + 1
  /-- The one new reply is the one that the request names, and it waits under its id. -/
  reply : ∃ expected, after.replies = messenger.replies ++ [expected] ∧
    request.reply = messenger.replies.length ∧ expected.id = request.id
  waits : after.fate request.reply = some (.waiting request.id)
  others : messenger.Sound → ∀ reply, reply ≠ request.reply → after.fate reply = messenger.fate reply

/-- Why a request is not sent. -/
inductive Obstacle (messenger : Messenger κ) (refusal : Option Failure) (message : Message) : Failure → Prop where
  | response (answers : message.kind = .response) :
      Obstacle messenger refusal message (.protocol "responses cannot wait for a reply")
  | pending {id : String} (given : message.temporaryId? = some id) (taken : messenger.table.contains id = true) :
      Obstacle messenger refusal message (PendingTable.duplicate id)
  | detached (closed : messenger.channel = none) :
      Obstacle messenger refusal message (.transport "secure channel not open")
  | refused {failure : Failure} (told : refusal = some failure) : Obstacle messenger refusal message failure

/-- A request that is not sent leaves what is pending as it was. -/
structure LeavesPending (messenger after : Messenger κ) : Prop where
  channel : after.channel = messenger.channel
  entries : after.table.entries = messenger.table.entries
  replies : after.replies = messenger.replies
  fates : messenger.Sound → ∀ reply, after.fate reply = messenger.fate reply

theorem correlate_given {own : String} (given : message.temporaryId? = some own) :
    messenger.correlate (message.args.getD .empty) = (messenger, own, message.args.getD .empty) := by
  rw [Message.temporaryId?_eq] at given
  rw [correlate, given]

theorem correlate_unnamed (unnamed : message.temporaryId? = none) :
    messenger.correlate (message.args.getD .empty) =
      ({ messenger with drawn := (messenger.freshId messenger.drawn).drawn }, (messenger.freshId messenger.drawn).id,
        (message.args.getD .empty).insert temporaryIdKey (.text (messenger.freshId messenger.drawn).id)) := by
  rw [Message.temporaryId?_eq] at unnamed
  rw [correlate, unnamed]

/-- The message of a request is the given one with the id in its place. -/
theorem carries_correlate (messenger : Messenger κ) (message : Message) :
    ({ message with args := some (messenger.correlate (message.args.getD .empty)).2.2 } : Message).Carries message
      (messenger.correlate (message.args.getD .empty)).2.1 := by
  cases named : message.temporaryId? with
  | some own =>
      have found := named
      rw [Message.temporaryId?_eq] at found
      rw [correlate_given named]
      have same : some (message.args.getD .empty) = message.args := by
        cases args : message.args with
        | none => rw [args] at found; cases found
        | some args => rfl
      refine ⟨rfl, rfl, rfl, ?_, ⟨_, rfl, fun _ _ => rfl⟩, fun other given => ?_⟩
      · rw [Message.temporaryId?_eq]
        exact found
      · rw [named] at given
        cases given
        dsimp only
        rw [same]
        exact ⟨rfl, rfl⟩
  | none =>
      rw [correlate_unnamed named]
      refine ⟨rfl, rfl, rfl, ?_, ⟨_, rfl, fun key other => ?_⟩, fun own given => ?_⟩
      · rw [Message.temporaryId?_eq, Option.getD_some, Dictionary.get?_insert, if_pos rfl]
        rfl
      · rw [Dictionary.get?_insert, if_neg other]
      · rw [named] at given
        cases given

/-- Correlating draws ids, and changes nothing else. -/
theorem correlate_messenger (messenger : Messenger κ) (args : Args) :
    (messenger.correlate args).1 = { messenger with drawn := (messenger.correlate args).1.drawn } := by
  unfold correlate
  split <;> rfl

/-- Whether a drawn id is given up or used, it is not one that is pending. -/
theorem free_of_unnamed (unnamed : message.temporaryId? = none) :
    messenger.table.contains (messenger.correlate (message.args.getD .empty)).2.1 = false := by
  rw [correlate_unnamed unnamed]
  exact (messenger.freshId messenger.drawn).free

theorem id_of_isFirstFree (unnamed : message.temporaryId? = none) {number : Nat}
    (first : messenger.IsFirstFree number) :
    (messenger.correlate (message.args.getD .empty)).2.1 = messenger.draw number := by
  rw [correlate_unnamed unnamed, freshId_of_first first.later first.taken first.free]

/-- An id that is registered and evicted at once leaves the entries as they were. -/
theorem entries_evict {table : PendingTable} {id : String} (free : table.entries.get? id = none) :
    (((PendingTable.mk (table.entries.insert id table.mailboxes.length)
      (table.mailboxes ++ [.vacant])).evict id).1.abandon table.mailboxes.length).entries = table.entries :=
  Dictionary.ext_get? fun other => Sent.entries_failed free other

/-- Registering under a free id, and sending over an open channel that accepts, is all that a request does. -/
theorem send_cases (messenger : Messenger κ) (now : Nat) (refusal : Option Failure) (message : Message) :
    (∃ after failure, messenger.send now refusal message = (after, .error failure) ∧
      messenger.Obstacle refusal message failure ∧ messenger.LeavesPending after) ∨
    ∃ after request, messenger.send now refusal message = (after, .ok request) ∧
      message.kind ≠ .response ∧ refusal = none ∧ messenger.SentWhole after message request := by
  have outcome := messenger.sent_send now refusal message
  have carries := messenger.carries_correlate message
  have unnamedFree := @free_of_unnamed κ messenger message
  have firstFree := @id_of_isFirstFree κ messenger message
  have drew := messenger.correlate_messenger (message.args.getD .empty)
  unfold send at outcome ⊢
  by_cases answers : message.kind = .response
  · rw [if_pos answers] at outcome ⊢
    exact .inl ⟨_, _, rfl, .response answers, rfl, rfl, rfl, fun _ _ => rfl⟩
  · rw [if_neg answers] at outcome ⊢
    generalize messenger.correlate (message.args.getD .empty) = correlated at *
    obtain ⟨drawn, id, args⟩ := correlated
    dsimp only at outcome drew carries unnamedFree firstFree ⊢
    generalize drawn.drawn = count at drew
    subst drew
    dsimp only at outcome ⊢
    cases free : messenger.table.contains id with
    | true =>
        have given : message.temporaryId? = some id := by
          cases named : message.temporaryId? with
          | none => rw [unnamedFree named] at free; cases free
          | some own => rw [(carries.given own named).1]
        rw [PendingTable.register_of_contains free]
        exact .inl ⟨_, _, rfl, .pending given free, rfl, rfl, rfl, fun _ _ => rfl⟩
    | false =>
        have absent := (PendingTable.contains_eq_false_iff _ _).mp free
        rw [PendingTable.register_of_free free] at outcome ⊢
        obtain ⟨limit, draw, start, channel, table, replies⟩ := messenger
        dsimp only [post] at outcome ⊢
        cases channel with
        | none => exact .inl ⟨_, _, rfl, .detached rfl, rfl, entries_evict absent, rfl, outcome.fate_error⟩
        | some channel =>
            cases refusal with
            | some failure =>
                exact .inl ⟨_, _, rfl, .refused rfl, rfl, entries_evict absent, rfl, outcome.fate_error⟩
            | none =>
                refine .inr ⟨_, _, rfl, answers, rfl, rfl, carries, absent,
                  fun unnamed number first => firstFree unnamed first, rfl, Dictionary.size_insert absent _,
                  ⟨_, rfl, rfl, rfl⟩, ?_, fun sound reply other => (outcome.fate_ok sound reply).trans (if_neg other)⟩
                rw [fate, getElem?_concat, if_pos rfl]
                simp [ExpectedReply.fate, PendingTable.mailbox_append _ table.entries, Mailbox.fate]

/-- A request is sent whole, or not at all and for a reason. -/
structure IsAllOrNothing (messenger : Messenger κ) (now : Nat) (refusal : Option Failure) (message : Message) :
    Prop where
  whole : ∀ after request, messenger.send now refusal message = (after, .ok request) →
    messenger.SentWhole after message request
  nothing : ∀ after failure, messenger.send now refusal message = (after, .error failure) →
    messenger.Obstacle refusal message failure ∧ messenger.LeavesPending after
  /-- Once a draw comes up that is not pending, only its kind and the channel can keep a request back that has no id
  of its own, however many draws were pending before. -/
  unnamed : message.temporaryId? = none → ∀ number, messenger.IsFirstFree number → message.kind ≠ .response →
    messenger.channel.isSome → refusal = none →
    ∃ after request, messenger.send now refusal message = (after, .ok request)

theorem isAllOrNothing (messenger : Messenger κ) (now : Nat) (refusal : Option Failure) (message : Message) :
    messenger.IsAllOrNothing now refusal message := by
  rcases messenger.send_cases now refusal message with
    ⟨after, failure, sent, obstacle, leaves⟩ | ⟨after, request, sent, asking, accepted, whole⟩
  · refine ⟨fun _ _ told => ?_, fun _ _ told => ?_, fun unnamed _ _ asking attached accepted => ?_⟩
    · rw [sent] at told
      cases told
    · rw [sent] at told
      cases told
      exact ⟨obstacle, leaves⟩
    · cases obstacle with
      | response answers => exact absurd answers asking
      | pending given taken => rw [unnamed] at given; cases given
      | detached closed => rw [closed] at attached; cases attached
      | refused told => rw [accepted] at told; cases told
  · refine ⟨fun _ _ told => ?_, fun _ _ told => ?_, fun _ _ _ _ _ _ => ⟨after, request, sent⟩⟩
    · rw [sent] at told
      cases told
      exact whole
    · rw [sent] at told
      cases told

end Messenger

end RelayClient
