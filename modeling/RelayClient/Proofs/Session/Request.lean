import RelayClient.Proofs.Exchange.Sending
import RelayClient.Session.DeviceCall

/-!
# Requests of a session

A request of a session hands one frame to the channel and is noted once, or is
refused and hands over nothing.
-/

namespace RelayClient

namespace Session

variable {session : Session}

/-- A request without an id is sent as one that was given the first free id drawn. -/
theorem requestReply_of_first {number : Nat} (first : session.messenger.IsFirstFree number) (message : Message)
    (asking : message.kind ≠ .response) (unnamed : message.temporaryId? = none) :
    session.requestReply message =
      ({ session with messenger := { session.messenger with drawn := number + 1 } } : Session).requestReply
        (message.under (session.messenger.draw number)) := by
  unfold requestReply
  dsimp only
  rw [Messenger.send_of_first first _ _ _ asking unnamed]

/-- The frames handed to channels so far. -/
def frames (session : Session) : List (Channel × Bytes) :=
  session.effects.filterMap fun effect =>
    match effect with
    | .send channel message => some (channel, message.encode)
    | _ => none

/-- Sending is noted with a frontend and without one. -/
theorem note_send (session : Session) (channel : Channel) (message : Message) :
    session.note (.send channel message) =
      { session with effects := session.effects ++ [.send channel message] } := by
  have shown : (session.headless && (Effect.send channel message).isShown) = false := Bool.and_false _
  rw [note, shown, if_neg Bool.false_ne_true]

/-- What becomes of a request is what becomes of it at the messenger, and one frame if it is sent. -/
theorem requestReply_cases (session : Session) (message : Message) :
    (∃ messenger failure,
      session.messenger.send session.now (session.surroundings.failure? .send) message = (messenger, .error failure) ∧
      session.requestReply message = ({ session with messenger }, .error failure)) ∨
    ∃ messenger request,
      session.messenger.send session.now (session.surroundings.failure? .send) message = (messenger, .ok request) ∧
      session.requestReply message = ({ session with
        messenger
        effects := session.effects ++ [.send request.channel request.message] }, .ok request) := by
  rw [requestReply]
  cases sent : session.messenger.send session.now (session.surroundings.failure? .send) message with
  | mk messenger result =>
      cases result with
      | error failure => exact .inl ⟨messenger, failure, rfl, rfl⟩
      | ok request => exact .inr ⟨messenger, request, rfl, congrArg (·, _) (note_send _ _ _)⟩

/-- What a request of a session comes to, whatever its messenger holds and its channel does. -/
structure AsksAllOrNothing (session : Session) (message : Message) : Prop where
  /-- However the channel answers, the request is pending or it is not. -/
  exchange : ∀ refusal, session.messenger.IsAllOrNothing session.now refusal message
  /-- A request that is pending went out as one frame. -/
  whole : ∀ after request, session.requestReply message = (after, .ok request) →
    after.frames = session.frames ++ [(request.channel, request.message.encode)] ∧
      session.messenger.SentWhole after.messenger message request
  /-- A request that failed is not pending, and no frame went out. -/
  nothing : ∀ after failure, session.requestReply message = (after, .error failure) →
    after.frames = session.frames ∧
      session.messenger.Obstacle (session.surroundings.failure? .send) message failure ∧
      session.messenger.LeavesPending after.messenger

/-- A request that expects a reply is all or nothing, for every session and message. -/
theorem asksAllOrNothing (session : Session) (message : Message) : session.AsksAllOrNothing message := by
  have exchange := fun refusal => session.messenger.isAllOrNothing session.now refusal message
  obtain ⟨whole, nothing, -⟩ := exchange (session.surroundings.failure? .send)
  rcases session.requestReply_cases message with
    ⟨messenger, failure, sent, asks⟩ | ⟨messenger, request, sent, asks⟩
  · refine ⟨exchange, fun _ _ asked => ?_, fun _ _ asked => ?_⟩
    · rw [asks] at asked
      cases asked
    · rw [asks] at asked
      cases asked
      exact ⟨rfl, nothing _ _ sent⟩
  · refine ⟨exchange, fun _ _ asked => ?_, fun _ _ asked => ?_⟩
    · rw [asks] at asked
      cases asked
      exact ⟨List.filterMap_append, whole _ _ sent⟩
    · rw [asks] at asked
      cases asked

end Session

end RelayClient
