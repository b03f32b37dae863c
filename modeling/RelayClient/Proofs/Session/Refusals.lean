import RelayClient.Proofs.Exchange.Correlation
import RelayClient.Proofs.Replica.Receivers

/-!
# Requests that the device refuses

The device refuses a request by a message that carries the id of the request and a
success flag that is off. The request ends with what the handlers make of that
message: a refusal with its reason, whatever the message is about, except that an
answer with an avatar counts as a success.
-/

namespace RelayClient

open Pack (Value)

/-! ## What an answered reply ends with -/

/-- Whether an event ends a reply: it completed, or was dropped. -/
def ExchangeEvent.finishes (reply : Nat) : ExchangeEvent → Bool
  | .completed other _ | .dropped other => other == reply
  | _ => false

namespace Messenger

variable {κ : Type} {limit : Option Nat} {draw : Nat → String} {now : Nat} {messenger after : Messenger κ}
  {before later events : List ExchangeEvent} {reply : Nat} {id : String} {answer : Reply}

/-- Polling a reply that was answered tells the answer, however late it is. -/
theorem poll_of_answered (answered : messenger.fate reply = some (.answered answer)) (now : Nat) :
    (messenger.poll now reply).2 = some answer.result := by
  obtain ⟨expected, found, told⟩ := Option.map_eq_some_iff.mp answered
  have running : expected.finished = false := by
    cases finished : expected.finished with
    | false => rfl
    | true => simp [ExpectedReply.fate, finished] at told
  cases box : messenger.table.mailbox expected.waiter with
  | delivered given =>
      have same : given = answer := by
        simpa [ExpectedReply.fate, running, box, Mailbox.fate] using told
      subst same
      cases given <;> simp [poll, found, running, PendingTable.receive, box, Reply.result]
  | vacant | closed | abandoned => simp [ExpectedReply.fate, running, box, Mailbox.fate] at told

/-- What is left of a reply once it was answered: it keeps its answer until it ends,
and completes with nothing else. -/
structure Keeps (messenger : Messenger κ) (later : List ExchangeEvent) (reply : Nat) (answer : Reply) : Prop where
  fate : messenger.fate reply = some (if later.any (·.finishes reply) then .finished else .answered answer)
  completed : ∀ result, .completed reply result ∈ later → result = answer.result

/-- The number of a reply that was sent is not given out again. -/
theorem Keeps.not_sent {event : ExchangeEvent} {after : Messenger κ} {later : Nat} {told : List ExchangeEvent}
    (keeps : messenger.Keeps told reply answer) (step : Step now messenger [event] later after) (name : String) :
    event ≠ .sent reply name := by
  rintro rfl
  have fresh := step.fresh
  rw [keeps.fate] at fresh
  cases fresh

/-- What ends a reply finishes it. Nothing else changes a reply that was answered. -/
theorem affect_answered {event : ExchangeEvent} (old : ∀ name, event ≠ .sent reply name) :
    event.affect reply (some (.answered answer)) =
      some (if event.finishes reply then .finished else .answered answer) := by
  cases event with
  | sent other name =>
      refine if_neg fun same => old name ?_
      rw [same]
  | handled message outcome => rfl
  | completed other result | dropped other =>
      by_cases same : other = reply
      · subst same
        simp [ExchangeEvent.affect, ExchangeEvent.finishes]
      · have distinct : reply ≠ other := Ne.symm same
        simp [ExchangeEvent.affect, ExchangeEvent.finishes, same, distinct]
  | cleared => rfl

/-- No operation takes the answer away, and polling tells no other. -/
theorem Keeps.step {later : Nat} {told : List ExchangeEvent} (keeps : messenger.Keeps told reply answer)
    (sound : messenger.Sound) (step : Step now messenger events later after) :
    after.Keeps (told ++ events) reply answer := by
  have fates := step.fate sound reply
  rcases step.events_cases with rfl | ⟨event, rfl⟩
  · rw [List.append_nil]
    exact ⟨fates.trans keeps.fate, keeps.completed⟩
  · have old := keeps.not_sent step
    have changes : after.fate reply = event.affect reply (messenger.fate reply) := fates
    rw [keeps.fate] at changes
    constructor
    · rw [changes, List.any_append, List.any_cons, List.any_nil, Bool.or_false]
      cases told.any (·.finishes reply) with
      | true => exact event.affect_finished old
      | false => exact affect_answered old
    · intro result mem
      rcases List.mem_append.mp mem with former | last
      · exact keeps.completed result former
      · cases List.mem_singleton.mp last
        obtain ⟨held, running, going⟩ := step.running
        rw [keeps.fate] at running
        cases ended : told.any (·.finishes reply) with
        | true =>
            rw [ended] at running
            exact absurd (Option.some.inj running).symm going
        | false =>
            have answered : messenger.fate reply = some (.answered answer) := by
              rw [keeps.fate, ended]
              rfl
            cases step with
            | completed polled =>
                have shown := poll_of_answered answered now
                rw [polled] at shown
                exact Option.some.inj shown

/-- A message that answers a waiting reply is what that reply keeps. -/
theorem Run.keeps {history : List ExchangeEvent} {message : Message} {outcome : Outcome}
    (run : Run limit draw history now messenger) (split : history = before ++ .handled message outcome :: later)
    (waits : Waits before reply id) (carried : message.temporaryId? = some id)
    (told : message.replyOf outcome = some answer) : messenger.Keeps later reply answer := by
  induction run generalizing later with
  | start now => cases before <;> cases split
  | @step history events now _ messenger after run step ih =>
      rcases step.events_cases with rfl | ⟨event, rfl⟩
      · rw [List.append_nil] at split
        have keeps := (ih split).step run.tracks.sound step
        rwa [List.append_nil] at keeps
      · rcases concat_eq_split_iff.mp split with ⟨rfl, rfl, rfl⟩ | ⟨middle, rfl, former⟩
        · have held := (run.tracks.waiting_iff reply id).mpr waits
          refine ⟨?_, nofun⟩
          have hears : after.fate reply = (messenger.fate reply).map (Fate.hear message outcome) :=
            step.fate run.tracks.sound reply
          rw [hears, held]
          simp [Fate.hear, told, carried]
        · exact (ih former).step run.tracks.sound step

/-- All that a reply shows after some point of a history is one result: it completes with
nothing else, and polling it tells that result as long as it has not ended. -/
structure EndsWith (messenger : Messenger κ) (later : List ExchangeEvent) (reply : Nat)
    (result : Except Failure Value) : Prop where
  completed : ∀ other, .completed reply other ∈ later → other = result
  polled : later.any (·.finishes reply) = false → ∀ now, (messenger.poll now reply).2 = some result

theorem Keeps.endsWith (keeps : messenger.Keeps later reply answer) :
    messenger.EndsWith later reply answer.result where
  completed := keeps.completed
  polled unended now := by
    refine poll_of_answered ?_ now
    rw [keeps.fate, unended]
    rfl

end Messenger

/-! ## What a refusal is taken for -/

/-- Whether a message answers a request for an avatar. -/
def Message.IsAvatar (message : Message) : Prop :=
  message.kind = .response ∧ message.subject = .avatar

/-- Why a request was refused. A page of messages has to name its receiver before it is looked at. -/
def Message.refusalReason (message : Message) : String :=
  if message.kind = .response ∧ message.subject = .messages ∧ Replica.receiverKey? message = none then
    "invalidReceiver"
  else (message.argText? "error").getD "unknown error"

namespace Replica

variable {message : Message}

/-- A refused message that is taken as such rejects, with the error it gives. -/
theorem replyOf_handled_of_refused (refused : message.argBool? "success" = some false) :
    message.replyOf .handled = some (.rejected ((message.argText? "error").getD "unknown error")) := by
  rw [Message.replyOf, refused]
  rfl

/-- Only responses answer in a way of their own. Everything else is taken as it is, or not at all. -/
theorem outcome_handle_of_ne_response (replica : Replica) (other : message.kind ≠ .response) :
    (replica.handle message).outcome = .handled ∨ (replica.handle message).outcome = .unhandled := by
  unfold handle
  cases kind : message.kind with
  | response => exact absurd kind other
  | update =>
      dsimp only
      unfold onUpdate
      repeat' split
      all_goals first | exact .inl rfl | exact .inr rfl
  | create =>
      dsimp only
      unfold onCreate
      repeat' split
      all_goals first | exact .inl rfl | exact .inr rfl
  | delete =>
      dsimp only
      unfold onDelete
      repeat' split
      all_goals first | exact .inl rfl | exact .inr rfl
  | request => exact .inr rfl

/-- A refused response is taken as it is, or not at all, unless it is about an avatar or about
messages of no receiver. -/
theorem outcome_onResponse_of_refused (replica : Replica) (refused : message.argBool? "success" = some false)
    (picture : message.subject ≠ .avatar) (named : message.subject = .messages → receiverKey? message ≠ none) :
    (replica.onResponse message).outcome = .handled ∨ (replica.onResponse message).outcome = .unhandled := by
  unfold onResponse
  cases subject : message.subject with
  | avatar => exact absurd subject picture
  | messages =>
      dsimp only
      split
      · next nameless => exact absurd nameless (named subject)
      · split
        · exact .inl rfl
        · exact .inl rfl
  | thumbnail | blob | contactDetail =>
      dsimp only
      rw [if_pos refused]
      exact .inl rfl
  | batteryStatus =>
      dsimp only
      split
      · exact .inl rfl
      · exact .inl rfl
  | clientInfo | profile | receivers | conversations | read | keyPersisted | ack | groupSync => exact .inl rfl
  | _ => exact .inr rfl

/-- What a refused message answers its request with: a refusal, unless it is about an avatar. -/
theorem replyOf_handle_of_refused (replica : Replica) (refused : message.argBool? "success" = some false)
    (taken : (replica.handle message).outcome ≠ .unhandled) (other : ¬ message.IsAvatar) :
    message.replyOf (replica.handle message).outcome = some (.rejected message.refusalReason) := by
  by_cases nameless : message.kind = .response ∧ message.subject = .messages ∧ receiverKey? message = none
  · obtain ⟨kind, subject, unnamed⟩ := nameless
    have outcome : (replica.handle message).outcome = .reply (.rejected "invalidReceiver") := by
      simp only [handle, kind, onResponse, subject, unnamed]
    rw [outcome, Message.refusalReason, if_pos ⟨kind, subject, unnamed⟩]
    rfl
  · have outcome : (replica.handle message).outcome = .handled := by
      refine Or.resolve_right ?_ taken
      by_cases kind : message.kind = .response
      · have routed : replica.handle message = replica.onResponse message := by
          rw [handle, kind]
        rw [routed]
        refine outcome_onResponse_of_refused replica refused (fun same => other ⟨kind, same⟩) ?_
        intro same unnamed
        exact nameless ⟨kind, same, unnamed⟩
      · exact outcome_handle_of_ne_response replica kind
    rw [outcome, replyOf_handled_of_refused refused, Message.refusalReason, if_neg nameless]

/-- An answer about an avatar counts as a success, whatever its flag says. -/
theorem replyOf_handle_of_isAvatar (replica : Replica) (picture : message.IsAvatar) :
    message.replyOf (replica.handle message).outcome = some (.ok (dataOrNil message)) := by
  obtain ⟨kind, subject⟩ := picture
  have outcome : (replica.handle message).outcome = .reply (.ok (dataOrNil message)) := by
    simp only [handle, kind, onResponse, subject]
  rw [outcome]
  rfl

end Replica

namespace Messenger

variable {κ : Type} {limit : Option Nat} {draw : Nat → String} {now : Nat} {messenger : Messenger κ}
  {before later : List ExchangeEvent} {reply : Nat} {id : String}

/-- What a request ends with that the device refused by a message. -/
structure HearsRefusal (messenger : Messenger κ) (message : Message) (later : List ExchangeEvent)
    (reply : Nat) : Prop where
  /-- It ends with the refusal and its reason, and so never with data. -/
  rejected : ¬ message.IsAvatar → messenger.EndsWith later reply (.error (.rejected message.refusalReason))
  /-- A request for an avatar ends with the data of the message, as if it had succeeded. -/
  overheard : message.IsAvatar → messenger.EndsWith later reply (.ok (Replica.dataOrNil message))

/-- A request that waits ends with the refusal of the first message under its id that is taken,
in every run of a messenger, if that message refuses and is about no avatar. -/
theorem hearsRefusal_of_run (replica : Replica) {message : Message}
    (run : Run limit draw (before ++ .handled message (replica.handle message).outcome :: later) now messenger)
    (pending : Waits before reply id) (carried : message.temporaryId? = some id)
    (refused : message.argBool? "success" = some false)
    (taken : (replica.handle message).outcome ≠ .unhandled) : messenger.HearsRefusal message later reply where
  rejected other :=
    (run.keeps rfl pending carried (replica.replyOf_handle_of_refused refused taken other)).endsWith
  overheard picture := (run.keeps rfl pending carried (replica.replyOf_handle_of_isAvatar picture)).endsWith

/-- A message that refuses what was asked about a subject under an id, and says why. -/
def refusing (subject : SubType) (id : String) : Message :=
  ⟨.response, subject, some (.ofList [("error", .text "blocked"), ("success", .bool false), (temporaryIdKey, .text id)]),
    none⟩

/-- A replica takes a message and tells what it came to. -/
def takeMessage (replica : Replica) (message : Message) : Replica × Outcome :=
  ((replica.handle message).replica, (replica.handle message).outcome)

theorem waits_sent (reply : Nat) (id : String) : Waits [.sent reply id] reply id :=
  ⟨[], [], rfl, List.forall_mem_nil _⟩

/-- What a new replica makes of a refusal. -/
def refused (subject : SubType) : ExchangeEvent :=
  .handled (refusing subject "a") (takeMessage {} (refusing subject "a")).2

/-- A request for a thumbnail that was refused ends with the refusal, though all requests were given up since. -/
theorem hearsRefusal_thumbnail : ∃ messenger : Messenger Unit,
    Run none (fun _ => "") [.sent 0 "a", refused .thumbnail, .cleared] 0 messenger ∧
      messenger.HearsRefusal (refusing .thumbnail "a") [.cleared] 0 ∧ ¬ (refusing .thumbnail "a").IsAvatar := by
  have start : Run none (fun _ => "") [] 0 ({ draw := fun _ => "" } : Messenger Unit) := .start 0
  have attached := start.step (.attach ())
  have sent := attached.step
    (.sent (rfl : send _ 0 none ⟨.request, .thumbnail, some (carrying "a"), none⟩ = (_, .ok _)))
  have refused := sent.step (.dispatch takeMessage {} (refusing .thumbnail "a"))
  have run := refused.step .clear
  have taken : (({} : Replica).handle (refusing .thumbnail "a")).outcome ≠ .unhandled := by
    intro untaken
    cases untaken
  refine ⟨_, run, hearsRefusal_of_run {} run (waits_sent 0 "a") (by decide +kernel) (by decide +kernel) taken, ?_⟩
  rintro ⟨-, other⟩
  cases other

/-- A request for an avatar that was refused ends with data. -/
theorem not_rejected_avatar : ∃ messenger : Messenger Unit,
    Run none (fun _ => "") [.sent 0 "a", refused .avatar, .completed 0 (.ok .nil)] 0 messenger ∧
      Waits [.sent 0 "a"] 0 "a" ∧ (refusing .avatar "a").temporaryId? = some "a" ∧
      (refusing .avatar "a").argBool? "success" = some false ∧
      (takeMessage {} (refusing .avatar "a")).2 ≠ .unhandled ∧
      ¬ ∃ reason, messenger.EndsWith [.completed 0 (.ok .nil)] 0 (.error (.rejected reason)) := by
  have start : Run none (fun _ => "") [] 0 ({ draw := fun _ => "" } : Messenger Unit) := .start 0
  have attached := start.step (.attach ())
  have sent := attached.step
    (.sent (rfl : send _ 0 none ⟨.request, .avatar, some (carrying "a"), none⟩ = (_, .ok _)))
  have refused := sent.step (.dispatch takeMessage {} (refusing .avatar "a"))
  have run := refused.step (.completed (rfl : poll _ 0 0 = (_, some _)))
  have taken : (({} : Replica).handle (refusing .avatar "a")).outcome ≠ .unhandled := by
    intro untaken
    cases untaken
  refine ⟨_, run, waits_sent 0 "a", by decide +kernel, by decide +kernel, taken, ?_⟩
  rintro ⟨reason, ends⟩
  cases ends.completed (.ok .nil) (.head [])

end Messenger

end RelayClient
