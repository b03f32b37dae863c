import RelayClient.Proofs.Exchange.Requests

/-!
# Histories of a messenger

A run of a messenger is any sequence of its operations, by any callers and at
any times; its history is what the run has shown, oldest first. Waiting and being
answered are defined on histories alone, and a run keeps fates in step with them.
-/

namespace RelayClient

open Pack (Value)

/-- What an operation of a messenger shows. -/
inductive ExchangeEvent where
  /-- A request was sent under an id, and its reply is expected. -/
  | sent (reply : Nat) (id : String)
  | handled (message : Message) (outcome : Outcome)
  /-- Polling a reply told what it came to. -/
  | completed (reply : Nat) (result : Except Failure Value)
  | dropped (reply : Nat)
  /-- All requests were given up. -/
  | cleared

namespace ExchangeEvent

/-- Whether an event ends the waiting of a reply under an id: a message that the
handler took and that carries the id does, and so does finishing, dropping or clearing. -/
def Ends (reply : Nat) (id : String) : ExchangeEvent → Prop
  | .sent _ _ => False
  | .handled message outcome => outcome ≠ .unhandled ∧ message.temporaryId? = some id
  | .completed other _ | .dropped other => other = reply
  | .cleared => True

def affect (reply : Nat) (fate : Option Fate) : ExchangeEvent → Option Fate
  | .sent other id => if reply = other then some (.waiting id) else fate
  | .handled message outcome => fate.map (Fate.hear message outcome)
  | .completed other _ | .dropped other => if reply = other then fate.map fun _ => .finished else fate
  | .cleared => fate.map Fate.giveUp

end ExchangeEvent

/-- A reply waits under an id: it was sent under it, and nothing has ended that since. -/
def Waits (history : List ExchangeEvent) (reply : Nat) (id : String) : Prop :=
  ∃ before after, history = before ++ .sent reply id :: after ∧ ∀ event ∈ after, ¬ event.Ends reply id

/-- A reply was answered: the first message after its request that the handler took
and that carries its id came while the reply was waiting. -/
def Answered (history : List ExchangeEvent) (reply : Nat) (answer : Reply) : Prop :=
  ∃ id before message outcome after, history = before ++ .handled message outcome :: after ∧
    Waits before reply id ∧ message.temporaryId? = some id ∧ message.replyOf outcome = some answer

theorem Message.replyOf_eq_none_iff (message : Message) (outcome : Outcome) :
    message.replyOf outcome = none ↔ outcome = .unhandled := by
  cases outcome with
  | handled =>
      simp only [replyOf]
      split <;> simp
  | unhandled => simp [replyOf]
  | reply reply => simp [replyOf]

theorem waits_iff_stands (history : List ExchangeEvent) (reply : Nat) (id : String) :
    Waits history reply id ↔ Stands (· = .sent reply id) (ExchangeEvent.Ends reply id) history := by
  constructor
  · rintro ⟨before, after, split, quiet⟩
    exact ⟨before, .sent reply id, after, split, rfl, quiet⟩
  · rintro ⟨before, _, after, split, rfl, quiet⟩
    exact ⟨before, after, split, quiet⟩

/-- A reply waits after an event if it was sent by it, or waited before and the event does not end that. -/
theorem waits_concat (history : List ExchangeEvent) (event : ExchangeEvent) (reply : Nat) (id : String) :
    Waits (history ++ [event]) reply id ↔
      event = .sent reply id ∨ Waits history reply id ∧ ¬ event.Ends reply id := by
  rw [waits_iff_stands, waits_iff_stands, stands_concat_iff]

theorem Answered.append {history : List ExchangeEvent} {reply : Nat} {answer : Reply}
    (answered : Answered history reply answer) (events : List ExchangeEvent) :
    Answered (history ++ events) reply answer := by
  obtain ⟨id, before, message, outcome, after, rfl, waits, carried, told⟩ := answered
  exact ⟨id, before, message, outcome, after ++ events, by simp, waits, carried, told⟩

namespace ExchangeEvent

/-- A fate waits after an event as a history does. A number is sent only once. -/
theorem affect_eq_waiting_iff {event : ExchangeEvent} {reply : Nat} {fate : Option Fate}
    (fresh : ∀ id, event = .sent reply id → fate = none) (id : String) :
    event.affect reply fate = some (.waiting id) ↔
      event = .sent reply id ∨ fate = some (.waiting id) ∧ ¬ event.Ends reply id := by
  cases event with
  | sent other name =>
      by_cases same : reply = other
      · subst same
        simp [affect, Ends, fresh name rfl, eq_comm]
      · simp [affect, Ends, same, Ne.symm same]
  | handled message outcome =>
      cases fate with
      | none => simp [affect]
      | some fate =>
          simp only [affect, Ends, Option.map_some, Option.some.injEq, fate.hear_eq_waiting_iff,
            message.replyOf_eq_none_iff, reduceCtorEq, false_or, Classical.not_and_iff_not_or_not,
            Classical.not_not, ne_eq]
  | completed other result =>
      by_cases same : reply = other
      · simp [affect, Ends, same]
      · simp [affect, Ends, same, Ne.symm same]
  | dropped other =>
      by_cases same : reply = other
      · simp [affect, Ends, same]
      · simp [affect, Ends, same, Ne.symm same]
  | cleared =>
      cases fate with
      | none => simp [affect, Ends]
      | some fate => cases fate <;> simp [affect, Ends, Fate.giveUp]

/-- A fate is answered after an event if it was before, or if the event is an answer to what waited. -/
theorem affect_eq_answered {event : ExchangeEvent} {reply : Nat} {fate : Option Fate} {answer : Reply}
    (answered : event.affect reply fate = some (.answered answer)) :
    fate = some (.answered answer) ∨ ∃ id message outcome, event = .handled message outcome ∧
      fate = some (.waiting id) ∧ message.temporaryId? = some id ∧ message.replyOf outcome = some answer := by
  cases event with
  | sent other name =>
      simp only [affect] at answered
      split at answered
      · cases answered
      · exact .inl answered
  | handled message outcome =>
      obtain ⟨former, rfl, told⟩ := Option.map_eq_some_iff.mp answered
      rcases Fate.eq_answered_of_hear told with before | ⟨id, waits, carried, found⟩
      · exact .inl (congrArg some before)
      · exact .inr ⟨id, message, outcome, rfl, congrArg some waits, carried, found⟩
  | completed other result | dropped other =>
      simp only [affect] at answered
      split at answered
      · obtain ⟨former, -, told⟩ := Option.map_eq_some_iff.mp answered
        cases told
      · exact .inl answered
  | cleared =>
      obtain ⟨former, rfl, told⟩ := Option.map_eq_some_iff.mp answered
      exact .inl (congrArg some ((former.giveUp_eq_answered_iff answer).mp told))

/-- What is finished stays finished, unless its number is sent anew. -/
theorem affect_finished {event : ExchangeEvent} {reply : Nat} (old : ∀ id, event ≠ .sent reply id) :
    event.affect reply (some .finished) = some .finished := by
  cases event with
  | sent other name =>
      refine if_neg fun same => old name ?_
      rw [same]
  | handled message outcome => rfl
  | completed other result => simp [affect]
  | dropped other => simp [affect]
  | cleared => rfl

end ExchangeEvent

/-! ## Runs -/

namespace Messenger

variable {κ : Type}

/-- One operation of a messenger at some time: what it shows, and the time and
the messenger after it. A handler may use the messenger itself; what it does
there are steps before the message counts as handled. -/
inductive Step (now : Nat) (messenger : Messenger κ) : List ExchangeEvent → Nat → Messenger κ → Prop where
  | attach (channel : κ) : Step now messenger [] now (messenger.attach channel)
  | detach : Step now messenger [] now messenger.detach
  | clear : Step now messenger [.cleared] now messenger.clear.1
  | pass {later : Nat} (forward : now ≤ later) : Step now messenger [] later messenger
  | sent {refusal : Option Failure} {message : Message} {after : Messenger κ} {request : SentRequest κ}
      (result : messenger.send now refusal message = (after, .ok request)) :
      Step now messenger [.sent request.reply request.id] now after
  | refused {refusal : Option Failure} {message : Message} {after : Messenger κ} {failure : Failure}
      (result : messenger.send now refusal message = (after, .error failure)) :
      Step now messenger [] now after
  | dispatch {σ : Type} (handle : σ → Message → σ × Outcome) (state : σ) (message : Message) :
      Step now messenger [.handled message (handle state message).2] now
        (messenger.dispatch handle state message).1
  | receive {σ : Type} (handle : σ → Message → σ × Outcome) (state : σ) {frame : Bytes} {message : Message}
      (decoded : Message.decode frame = .ok message) :
      Step now messenger [.handled message (handle state message).2] now
        (messenger.receive handle state frame).1
  | garbage {σ : Type} (handle : σ → Message → σ × Outcome) (state : σ) {frame : Bytes} {cause : DecodeError}
      (unread : Message.decode frame = .error cause) :
      Step now messenger [] now (messenger.receive handle state frame).1
  | completed {reply : Nat} {after : Messenger κ} {outcome : Except Failure Value}
      (result : messenger.poll now reply = (after, some outcome)) :
      Step now messenger [.completed reply outcome] now after
  | pending {reply : Nat} {after : Messenger κ} (result : messenger.poll now reply = (after, none)) :
      Step now messenger [] now after
  | drop (reply : Nat) : Step now messenger [.dropped reply] now (messenger.abandon reply)

/-- The histories of a messenger, which starts with nothing sent. -/
inductive Run (limit : Option Nat) (draw : Nat → String) :
    List ExchangeEvent → Nat → Messenger κ → Prop where
  | start (now : Nat) : Run limit draw [] now { limit, draw }
  | step {history events : List ExchangeEvent} {now later : Nat} {messenger after : Messenger κ}
      (run : Run limit draw history now messenger) (step : Step now messenger events later after) :
      Run limit draw (history ++ events) later after

/-- A frame that is a message settles it as its handler says. -/
theorem receive_of_ok (messenger : Messenger κ) {σ : Type} (handle : σ → Message → σ × Outcome) (state : σ)
    {frame : Bytes} {message : Message} (decoded : Message.decode frame = .ok message) :
    (messenger.receive handle state frame).1 = messenger.settle message (handle state message).2 := by
  simp only [receive, decoded]
  rfl

theorem receive_of_error (messenger : Messenger κ) {σ : Type} (handle : σ → Message → σ × Outcome)
    (state : σ) {frame : Bytes} {cause : DecodeError} (unread : Message.decode frame = .error cause) :
    (messenger.receive handle state frame).1 = messenger := by
  simp only [receive, unread]

namespace Step

variable {now later reply : Nat} {id : String} {messenger after : Messenger κ}
  {events : List ExchangeEvent} {result : Except Failure Value}

theorem sound (step : Step now messenger events later after) (sound : messenger.Sound) : after.Sound := by
  cases step with
  | attach channel => exact sound.congr rfl rfl
  | detach => exact sound.congr rfl rfl
  | clear => exact sound.clear
  | pass forward => exact sound
  | sent result => exact Sent.sound_ok (result ▸ sent_send ..) sound
  | refused result => exact Sent.sound_error (result ▸ sent_send ..) sound
  | dispatch handle state message => exact sound.settle ..
  | receive handle state decoded =>
      rw [receive_of_ok messenger handle state decoded]
      exact sound.settle ..
  | garbage handle state unread => rwa [receive_of_error messenger handle state unread]
  | completed result => exact Polled.sound (result ▸ polled_poll messenger now _) sound
  | pending result => exact Polled.sound (result ▸ polled_poll messenger now _) sound
  | drop reply => exact sound.abandon reply

/-- An operation affects fates by what it shows, and by nothing else. -/
theorem fate (step : Step now messenger events later after) (sound : messenger.Sound) (reply : Nat) :
    after.fate reply = events.foldl (fun fate event => event.affect reply fate) (messenger.fate reply) := by
  cases step with
  | attach channel => exact fate_congr rfl rfl reply
  | detach => exact fate_congr rfl rfl reply
  | clear => exact fate_clear sound reply
  | pass forward => rfl
  | sent result => exact Sent.fate_ok (result ▸ sent_send ..) sound reply
  | refused result => exact Sent.fate_error (result ▸ sent_send ..) sound reply
  | dispatch handle state message => exact fate_settle sound ..
  | receive handle state decoded =>
      rw [receive_of_ok messenger handle state decoded]
      exact fate_settle sound ..
  | garbage handle state unread =>
      rw [receive_of_error messenger handle state unread]
      rfl
  | @completed number after outcome result =>
      have polled : Polled messenger number (after, some outcome) := result ▸ polled_poll ..
      simpa [ExchangeEvent.affect] using polled.fate sound reply
  | @pending number after result =>
      have polled : Polled messenger number (after, none) := result ▸ polled_poll ..
      simpa using polled.fate sound reply
  | drop other => exact fate_abandon sound other reply

/-- A number that is sent was not given out before. -/
theorem fresh (step : Step now messenger [.sent reply id] later after) : messenger.fate reply = none := by
  cases step with
  | sent result =>
      cases (result ▸ sent_send .. : Sent messenger (after, .ok _)) with
      | sent free table number replies => simp [Messenger.fate, number]

theorem running (step : Step now messenger [.completed reply result] later after) :
    ∃ fate, messenger.fate reply = some fate ∧ fate ≠ .finished := by
  cases step with
  | completed polled => exact Polled.running (polled ▸ polled_poll messenger now reply) rfl

/-- A reply that completes with data or a refusal had been answered so. -/
theorem answered {answer : Reply} (step : Step now messenger [.completed reply answer.result] later after) :
    messenger.fate reply = some (.answered answer) := by
  cases step with
  | completed polled => exact Polled.answer (polled ▸ polled_poll messenger now reply) rfl

end Step

end Messenger

end RelayClient
