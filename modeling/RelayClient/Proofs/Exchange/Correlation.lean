import RelayClient.Proofs.Exchange.History

/-!
# Correlation of requests and replies

In every run of a messenger, requests that wait have different ids, each reply
completes at most once and only with the answer of its own message, a message
answers at most one reply, and one that nothing waits for has no effect.
-/

namespace RelayClient

open Pack (Value)

def ExchangeEvent.completes (reply : Nat) : ExchangeEvent → Bool
  | .completed other _ => other == reply
  | _ => false

namespace Messenger

variable {κ : Type} {limit : Option Nat} {draw : Nat → String} {now later : Nat}
  {messenger after : Messenger κ} {history events : List ExchangeEvent}

structure Tracks (messenger : Messenger κ) (history : List ExchangeEvent) : Prop where
  sound : messenger.Sound
  waiting_iff : ∀ reply id, messenger.fate reply = some (.waiting id) ↔ Waits history reply id
  answered : ∀ reply answer, messenger.fate reply = some (.answered answer) →
    Answered history reply answer
  running : ∀ reply, messenger.fate reply ≠ some .finished → history.countP (·.completes reply) = 0
  once : ∀ reply, history.countP (·.completes reply) ≤ 1
  told : ∀ before rest reply answer, history = before ++ .completed reply answer.result :: rest →
    Answered before reply answer

theorem tracks_start (limit : Option Nat) (draw : Nat → String) :
    ({ limit, draw } : Messenger κ).Tracks [] where
  sound := sound_start limit draw
  waiting_iff reply id := by simp [fate, Waits]
  answered reply answer held := by simp [fate] at held
  running reply _ := rfl
  once reply := Nat.zero_le 1
  told before rest reply answer split := by simp at split

/-- An operation shows nothing or one event. -/
theorem Step.events_cases (step : Step now messenger events later after) :
    events = [] ∨ ∃ event, events = [event] := by
  cases step <;> first | exact .inl rfl | exact .inr ⟨_, rfl⟩

namespace Tracks

/-- An operation that shows nothing changes no fate, so the history stays as it was. -/
theorem step_silent (tracks : messenger.Tracks history) (step : Step now messenger [] later after) :
    after.Tracks history := by
  have fates : ∀ reply, after.fate reply = messenger.fate reply := step.fate tracks.sound
  refine ⟨step.sound tracks.sound, fun reply id => ?_, fun reply answer held => ?_, fun reply going => ?_,
    tracks.once, tracks.told⟩
  · rw [fates, tracks.waiting_iff]
  · exact tracks.answered reply answer (fates reply ▸ held)
  · exact tracks.running reply (fates reply ▸ going)

/-- The only event that completes a reply is its completion, of which there was none before. -/
theorem countP_completes (tracks : messenger.Tracks history) {event : ExchangeEvent}
    (step : Step now messenger [event] later after) (reply : Nat) :
    (history ++ [event]).countP (·.completes reply) ≤ 1 ∧
      (after.fate reply ≠ some .finished → (history ++ [event]).countP (·.completes reply) = 0) := by
  have fates : after.fate reply = event.affect reply (messenger.fate reply) := step.fate tracks.sound reply
  rw [List.countP_append, List.countP_singleton]
  by_cases completion : event.completes reply = true
  · rw [if_pos completion]
    cases event with
    | completed other result =>
        cases beq_iff_eq.mp completion
        obtain ⟨fate, held, going⟩ := step.running
        have none := tracks.running reply (by rw [held]; exact fun same => going (Option.some.inj same))
        refine ⟨Nat.le_of_eq (by rw [none]), fun goesOn => absurd ?_ goesOn⟩
        rw [fates, held]
        simp [ExchangeEvent.affect]
    | sent other id => cases completion
    | handled message outcome => cases completion
    | dropped other => cases completion
    | cleared => cases completion
  · rw [if_neg completion]
    refine ⟨tracks.once reply, fun goesOn => tracks.running reply fun finished => goesOn ?_⟩
    rw [fates, finished]
    refine ExchangeEvent.affect_finished fun id same => ?_
    subst same
    rw [step.fresh] at finished
    cases finished

theorem step_event (tracks : messenger.Tracks history) {event : ExchangeEvent}
    (step : Step now messenger [event] later after) : after.Tracks (history ++ [event]) := by
  have fates : ∀ reply, after.fate reply = event.affect reply (messenger.fate reply) :=
    step.fate tracks.sound
  refine ⟨step.sound tracks.sound, fun reply id => ?_, fun reply answer held => ?_,
    fun reply => (tracks.countP_completes step reply).2, fun reply => (tracks.countP_completes step reply).1,
    fun before rest reply answer split => ?_⟩
  · rw [fates, waits_concat, ← tracks.waiting_iff]
    refine ExchangeEvent.affect_eq_waiting_iff (fun name same => ?_) id
    subst same
    exact step.fresh
  · rw [fates] at held
    rcases ExchangeEvent.affect_eq_answered held with former | ⟨id, message, outcome, rfl, waits, carried, told⟩
    · exact (tracks.answered reply answer former).append [event]
    · exact ⟨id, history, message, outcome, [], rfl, (tracks.waiting_iff reply id).mp waits, carried, told⟩
  · rcases concat_eq_split_iff.mp split with ⟨-, rfl, rfl⟩ | ⟨middle, rfl, rfl⟩
    · exact tracks.answered reply answer step.answered
    · exact tracks.told before middle reply answer rfl

theorem step (tracks : messenger.Tracks history) (step : Step now messenger events later after) :
    after.Tracks (history ++ events) := by
  rcases step.events_cases with rfl | ⟨event, rfl⟩
  · rw [List.append_nil]
    exact tracks.step_silent step
  · exact tracks.step_event step

end Tracks

theorem Run.tracks (run : Run limit draw history now messenger) : messenger.Tracks history := by
  induction run with
  | start now => exact tracks_start limit draw
  | step run step ih => exact ih.step step

/-- Handling a message settles it, whichever way it came in. -/
theorem Step.eq_settle {message : Message} {outcome : Outcome}
    (step : Step now messenger [.handled message outcome] later after) :
    after = messenger.settle message outcome := by
  cases step with
  | dispatch handle state message => rfl
  | receive handle state decoded => exact receive_of_ok messenger handle state decoded

/-- A fate that a message changes waited under the id of the message. -/
theorem Sound.waiting_of_settle_ne (sound : messenger.Sound) {message : Message} {outcome : Outcome}
    {reply : Nat} (changes : (messenger.settle message outcome).fate reply ≠ messenger.fate reply) :
    ∃ id, message.temporaryId? = some id ∧ messenger.fate reply = some (.waiting id) := by
  rw [fate_settle sound] at changes
  cases held : messenger.fate reply with
  | none => simp [held] at changes
  | some fate =>
      by_cases foreign : ∀ id, fate = .waiting id →
          message.replyOf outcome = none ∨ message.temporaryId? ≠ some id
      · rw [held, Option.map_some, Fate.hear_eq_self foreign] at changes
        exact absurd rfl changes
      · obtain ⟨id, rest⟩ := Classical.not_forall.mp foreign
        obtain ⟨waits, rest⟩ := Classical.not_imp.mp rest
        exact ⟨id, Classical.not_not.mp fun other => rest (.inr other), congrArg some waits⟩

/-- What a messenger keeps to, after any history. -/
structure Correlated (messenger : Messenger κ) (history : List ExchangeEvent) : Prop where
  /-- No two requests wait under one id. -/
  id_unique : ∀ first second id, Waits history first id → Waits history second id → first = second
  /-- A reply completes at most once. -/
  completes_once : ∀ reply, history.countP (·.completes reply) ≤ 1
  /-- Data or a refusal come only from the first message that was taken and carries
  the id of the request, while the request was waiting. -/
  completes_answered : ∀ before rest reply answer,
    history = before ++ .completed reply answer.result :: rest → Answered before reply answer
  /-- One message changes the fate of at most one reply. -/
  answers_one : ∀ message outcome now later after,
    Step now messenger [.handled message outcome] later after → ∀ first second,
      after.fate first ≠ messenger.fate first → after.fate second ≠ messenger.fate second → first = second
  /-- A message under whose id nothing waits leaves the messenger as it was. -/
  late_ignored : ∀ message outcome now later after,
    Step now messenger [.handled message outcome] later after → ∀ id, message.temporaryId? = some id →
      (∀ reply, ¬ Waits history reply id) → after = messenger

/-- Requests and replies are correlated in every run of a messenger. -/
theorem correlated_of_run (run : Run limit draw history now messenger) : messenger.Correlated history := by
  have tracks := run.tracks
  refine ⟨fun first second id waits waitsToo => ?_, tracks.once, tracks.told,
    fun message outcome now later after step first second changes changesToo => ?_,
    fun message outcome now later after step id carried idle => ?_⟩
  · exact tracks.sound.waiting_inj ((tracks.waiting_iff first id).mpr waits)
      ((tracks.waiting_iff second id).mpr waitsToo)
  · rw [step.eq_settle] at changes changesToo
    obtain ⟨id, carried, waits⟩ := tracks.sound.waiting_of_settle_ne changes
    obtain ⟨other, carriedToo, waitsToo⟩ := tracks.sound.waiting_of_settle_ne changesToo
    rw [carried] at carriedToo
    cases carriedToo
    exact tracks.sound.waiting_inj waits waitsToo
  · rw [step.eq_settle]
    refine settle_eq_self tracks.sound fun other carriedToo reply waits => ?_
    rw [carried] at carriedToo
    cases carriedToo
    exact idle reply ((tracks.waiting_iff reply id).mp waits)

def carrying (id : String) : Args :=
  Dictionary.empty.insert temporaryIdKey (.text id)

/-- A history in which an id is used again once it was answered. -/
def reusingHistory : List ExchangeEvent :=
  let answer : Message := ⟨.response, .avatar, some (carrying "a"), none⟩
  [.sent 0 "a", .handled answer .handled, .sent 1 "a", .dropped 0, .handled answer .handled,
    .completed 1 (.ok .nil)]

/-- Dropping the first reply, answered but not looked at, spares the request that used its id again. -/
theorem correlated_reusing : ∃ messenger : Messenger Unit,
    Run none (fun _ => "") reusingHistory 0 messenger ∧ messenger.Correlated reusingHistory := by
  have start : Run none (fun _ => "") [] 0 ({ draw := fun _ => "" } : Messenger Unit) := .start 0
  have attached := start.step (.attach ())
  have first := attached.step
    (.sent (rfl : send _ 0 none ⟨.request, .avatar, some (carrying "a"), none⟩ = (_, .ok _)))
  have answered := first.step
    (.dispatch (fun (_ : Unit) _ => ((), .handled)) () ⟨.response, .avatar, some (carrying "a"), none⟩)
  have second := answered.step
    (.sent (rfl : send _ 0 none ⟨.request, .avatar, some (carrying "a"), none⟩ = (_, .ok _)))
  have dropped := second.step (.drop 0)
  have answeredAgain := dropped.step
    (.dispatch (fun (_ : Unit) _ => ((), .handled)) () ⟨.response, .avatar, some (carrying "a"), none⟩)
  have run := answeredAgain.step (.completed (rfl : poll _ 0 1 = (_, some _)))
  exact ⟨_, run, correlated_of_run run⟩

end Messenger

end RelayClient
