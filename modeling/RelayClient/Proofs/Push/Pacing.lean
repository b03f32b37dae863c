import RelayClient.Proofs.Lists
import RelayClient.Push

/-!
# The pace of pushes

A call of `send` decides at once whether it asks the notifier. If it does, it waits for
the answer, and other calls are made meanwhile. Whatever they are and whenever the
notifier answers, it is asked only while a token is held and for the token held last, and
no sooner than an interval after it was asked before, unless the service was reset in
between. A call that does not ask is over at once and makes no later call wait.
-/

namespace RelayClient

open Cipher (Key)

/-- What happens around a push service, in any order. -/
inductive PushEvent where
  | elapse (duration : Nat)
  | hold (token : PushToken)
  | reset
  | send (publicKey : Key)
  /-- The notifier is done with a call of `send`, which is given by its number. -/
  | answer (call : Nat) (answer : PushAnswer)

/-- What is noted of a push service. -/
inductive PushNote where
  | held (token : PushToken)
  | reset
  /-- A call asked the notifier, at this time. -/
  | asked (call time : Nat) (request : PushRequest)
  | returned (call : Nat) (result : Except Failure Bool)

namespace PushService

variable {service : PushService} {token : PushToken} {now : Nat}

theorem send_of_token (held : service.token = some token) (rested : service.isTooSoon now = false) (publicKey : Key) :
    service.send publicKey now =
      ({ service with lastSent := some now }, some (.ofKey publicKey token service.version)) := by
  rw [send, held]
  dsimp only
  rw [rested]
  rfl

theorem send_of_blocked (blocked : ∀ token, service.token = some token → service.isTooSoon now = true)
    (publicKey : Key) : service.send publicKey now = (service, none) := by
  unfold send
  split
  · rfl
  · next token held =>
      rw [if_pos (blocked token held)]

/-- After a push the next one is due when the interval is over. -/
theorem isTooSoon_eq_false_iff {last : Nat} :
    isTooSoon { service with lastSent := some last } now = false ↔ last + minInterval ≤ now := by
  rw [isTooSoon, decide_eq_false_iff_not, minInterval]
  omega

end PushService

namespace PushNote

/-- A token was set, and neither replaced nor forgotten since. -/
def IsHeld (history : List PushNote) (token : PushToken) : Prop :=
  Stands (· = .held token) (fun note => note = .reset ∨ ∃ other, note = .held other) history

/-- Whenever the notifier was asked since the last reset, that was an interval ago or longer. -/
def IsRested (history : List PushNote) (now : Nat) : Prop :=
  ∀ call time request, Stands (· = .asked call time request) (· = .reset) history →
    time + PushService.minInterval ≤ now

/-- A call asked the notifier. -/
def Asks (history : List PushNote) (call : Nat) : Prop :=
  ∃ time request, .asked call time request ∈ history

variable {history : List PushNote} {note : PushNote} {token : PushToken} {call now later : Nat}

theorem not_isHeld_nil : ¬ IsHeld [] token := not_stands_nil

theorem isRested_nil : IsRested [] now := fun _ _ _ asked => absurd asked not_stands_nil

theorem IsRested.mono (rested : IsRested history now) (passes : now ≤ later) : IsRested history later :=
  fun call time request asked => Nat.le_trans (rested call time request asked) passes

theorem isHeld_concat_held {other : PushToken} : IsHeld (history ++ [.held other]) token ↔ other = token := by
  rw [IsHeld, stands_concat_iff]
  constructor
  · rintro (same | ⟨-, ended⟩)
    · exact PushNote.held.inj same
    · exact absurd (.inr ⟨other, rfl⟩) ended
  · exact fun same => .inl (congrArg PushNote.held same)

theorem not_isHeld_concat_reset : ¬ IsHeld (history ++ [.reset]) token := by
  rw [IsHeld, stands_concat_iff]
  rintro (same | ⟨-, ended⟩)
  · cases same
  · exact ended (.inl rfl)

/-- Other notes leave the token that is held. -/
theorem isHeld_concat_other (reset : note ≠ .reset) (held : ∀ other, note ≠ .held other) :
    IsHeld (history ++ [note]) token ↔ IsHeld history token := by
  rw [IsHeld, stands_concat_iff]
  constructor
  · rintro (same | ⟨stood, -⟩)
    · exact absurd same (held token)
    · exact stood
  · intro stood
    refine .inr ⟨stood, ?_⟩
    rintro (same | ⟨other, same⟩)
    · exact reset same
    · exact held other same

theorem isRested_concat_asked {time : Nat} {request : PushRequest} :
    IsRested (history ++ [.asked call time request]) now ↔
      time + PushService.minInterval ≤ now ∧ IsRested history now := by
  constructor
  · intro rested
    refine ⟨rested call time request (stands_concat_iff.mpr (.inl rfl)), fun other before former stood => ?_⟩
    exact rested other before former (stands_concat_iff.mpr (.inr ⟨stood, nofun⟩))
  · rintro ⟨recent, rested⟩ other before former asked
    rcases stands_concat_iff.mp asked with same | ⟨stood, -⟩
    · cases same
      exact recent
    · exact rested other before former stood

theorem isRested_concat_reset : IsRested (history ++ [.reset]) now := by
  intro call time request asked
  rcases stands_concat_iff.mp asked with same | ⟨-, ended⟩
  · cases same
  · exact absurd rfl ended

/-- What neither asks nor resets changes nothing about when the notifier was asked. -/
theorem isRested_concat_other (reset : note ≠ .reset) (asked : ∀ call time request, note ≠ .asked call time request) :
    IsRested (history ++ [note]) now ↔ IsRested history now := by
  constructor
  · intro rested call time request stood
    exact rested call time request (stands_concat_iff.mpr (.inr ⟨stood, reset⟩))
  · intro rested call time request stands
    rcases stands_concat_iff.mp stands with same | ⟨stood, -⟩
    · exact absurd same (asked call time request)
    · exact rested call time request stood

theorem Asks.concat (asks : Asks history call) (note : PushNote) : Asks (history ++ [note]) call := by
  obtain ⟨time, request, mem⟩ := asks
  exact ⟨time, request, List.mem_append_left _ mem⟩

end PushNote

/-- A push service with its clock, the calls of `send` so far, and what was noted. -/
structure PushDesk where
  service : PushService
  now : Nat := 0
  /-- How many calls of `send` were made. The next one has this number. -/
  calls : Nat := 0
  /-- The calls that wait for the notifier. -/
  waiting : List Nat := []
  history : List PushNote := []

namespace PushDesk

open PushNote

/-- The state after one more event. An answer to a call that does not wait is none. -/
def step (desk : PushDesk) : PushEvent → PushDesk
  | .elapse duration => { desk with now := desk.now + duration }
  | .hold token => { desk with service := desk.service.hold token, history := desk.history ++ [.held token] }
  | .reset => { desk with service := desk.service.reset, history := desk.history ++ [.reset] }
  | .send publicKey =>
      let sent := desk.service.send publicKey desk.now
      let begun := { desk with service := sent.1, calls := desk.calls + 1 }
      match sent.2 with
      | none => { begun with history := desk.history ++ [.returned desk.calls (.ok false)] }
      | some request =>
          { begun with
            waiting := desk.waiting ++ [desk.calls]
            history := desk.history ++ [.asked desk.calls desk.now request] }
  | .answer call answer =>
      if call ∈ desk.waiting then
        { desk with
          waiting := desk.waiting.erase call
          history := desk.history ++ [.returned call answer.result] }
      else desk

/-- A new service, which uses a version of the protocol, after these events. -/
def course (version : Nat) (events : List PushEvent) : PushDesk :=
  events.foldl step { service := { version } }

/-- A note that the notifier was asked comes when it has rested, for the token that is held. -/
def Fits (version : Nat) (before : List PushNote) : PushNote → Prop
  | .asked _ time request =>
      IsRested before time ∧ ∃ token publicKey, IsHeld before token ∧ request = .ofKey publicKey token version
  | _ => True

/-- The service is in step with what was noted. -/
structure IsAccurate (version : Nat) (desk : PushDesk) : Prop where
  version_eq : desk.service.version = version
  token_iff : ∀ token, desk.service.token = some token ↔ IsHeld desk.history token
  pace_iff : ∀ time, desk.service.isTooSoon time = false ↔ IsRested desk.history time
  fits : Throughout (Fits version) desk.history

/-- Every call of `send` asked the notifier or is over, and it is over without success if it did not ask. -/
structure IsSettled (desk : PushDesk) : Prop where
  waiting : ∀ call ∈ desk.waiting, Asks desk.history call
  begun : ∀ call < desk.calls, Asks desk.history call ∨ .returned call (.ok false) ∈ desk.history
  returned : ∀ call result, .returned call result ∈ desk.history → Asks desk.history call ∨ result = .ok false

variable {desk : PushDesk} {version : Nat}

namespace IsAccurate

/-- With a token, and once the interval is over, a call asks the notifier. -/
theorem step_send_of_isRested (accurate : desk.IsAccurate version) {token : PushToken}
    (held : IsHeld desk.history token) (rested : IsRested desk.history desk.now) (publicKey : Key) :
    desk.step (.send publicKey) =
      { desk with
        service := { desk.service with lastSent := some desk.now }
        calls := desk.calls + 1
        waiting := desk.waiting ++ [desk.calls]
        history := desk.history ++ [.asked desk.calls desk.now (.ofKey publicKey token version)] } := by
  rw [step, PushService.send_of_token ((accurate.token_iff token).mpr held) ((accurate.pace_iff desk.now).mpr rested),
    ← accurate.version_eq]

/-- Otherwise the call is over at once, and the service stays as it was. -/
theorem step_send_of_not (accurate : desk.IsAccurate version)
    (idle : ¬ ((∃ token, IsHeld desk.history token) ∧ IsRested desk.history desk.now)) (publicKey : Key) :
    desk.step (.send publicKey) =
      { desk with calls := desk.calls + 1, history := desk.history ++ [.returned desk.calls (.ok false)] } := by
  have blocked : ∀ token, desk.service.token = some token → desk.service.isTooSoon desk.now = true := by
    intro token held
    rw [← Bool.not_eq_false]
    intro rested
    exact idle ⟨⟨token, (accurate.token_iff token).mp held⟩, (accurate.pace_iff desk.now).mp rested⟩
  rw [step, PushService.send_of_blocked blocked]

/-- Notes of calls that are over do not concern the service. -/
theorem returned (accurate : desk.IsAccurate version) (calls : Nat) (waiting : List Nat) (call : Nat)
    (result : Except Failure Bool) :
    IsAccurate version { desk with calls, waiting, history := desk.history ++ [.returned call result] } where
  version_eq := accurate.version_eq
  token_iff token := (accurate.token_iff token).trans (isHeld_concat_other (by nofun) (by nofun)).symm
  pace_iff time := (accurate.pace_iff time).trans (isRested_concat_other (by nofun) (by nofun)).symm
  fits := accurate.fits.concat trivial

theorem asked (accurate : desk.IsAccurate version) {token : PushToken} (held : IsHeld desk.history token)
    (rested : IsRested desk.history desk.now) (calls : Nat) (waiting : List Nat) (call : Nat) (publicKey : Key) :
    IsAccurate version
      { desk with
        service := { desk.service with lastSent := some desk.now }
        calls, waiting
        history := desk.history ++ [.asked call desk.now (.ofKey publicKey token version)] } where
  version_eq := accurate.version_eq
  token_iff other := (accurate.token_iff other).trans (isHeld_concat_other (by nofun) (by nofun)).symm
  pace_iff time := by
    rw [isRested_concat_asked, PushService.isTooSoon_eq_false_iff]
    -- the time of this call is later than those of all before, so it alone decides
    exact ⟨fun passed => ⟨passed, rested.mono (by omega)⟩, fun both => both.1⟩
  fits := accurate.fits.concat ⟨rested, token, publicKey, held, rfl⟩

theorem step (accurate : desk.IsAccurate version) (event : PushEvent) : (desk.step event).IsAccurate version := by
  cases event with
  | elapse duration => exact ⟨accurate.version_eq, accurate.token_iff, accurate.pace_iff, accurate.fits⟩
  | hold token =>
      constructor
      case version_eq => exact accurate.version_eq
      case token_iff => exact fun other => Option.some_inj.trans isHeld_concat_held.symm
      case pace_iff => exact fun time => (accurate.pace_iff time).trans (isRested_concat_other (by nofun) (by nofun)).symm
      case fits => exact accurate.fits.concat trivial
  | reset =>
      constructor
      case version_eq => exact accurate.version_eq
      case token_iff => exact fun other => iff_of_false nofun not_isHeld_concat_reset
      case pace_iff => exact fun time => iff_of_true rfl isRested_concat_reset
      case fits => exact accurate.fits.concat trivial
  | send publicKey =>
      by_cases asks : (∃ token, IsHeld desk.history token) ∧ IsRested desk.history desk.now
      · obtain ⟨⟨token, held⟩, rested⟩ := asks
        rw [accurate.step_send_of_isRested held rested]
        exact accurate.asked held rested _ _ _ publicKey
      · rw [accurate.step_send_of_not asks]
        exact accurate.returned _ _ _ _
  | answer call answer =>
      rw [PushDesk.step]
      split
      · exact accurate.returned _ _ _ _
      · exact accurate

end IsAccurate

namespace IsSettled

/-- A note that is no return leaves all calls as they are. -/
theorem noted (settled : desk.IsSettled) (service : PushService) {note : PushNote}
    (other : ∀ call result, note ≠ .returned call result) :
    IsSettled { desk with service, history := desk.history ++ [note] } where
  waiting call mem := (settled.waiting call mem).concat note
  begun call before := (settled.begun call before).imp (·.concat note) (List.mem_append_left _)
  returned call result mem := by
    rcases List.mem_append.mp mem with former | added
    · exact (settled.returned call result former).imp_left (·.concat note)
    · exact absurd (List.mem_singleton.mp added).symm (other call result)

theorem step_send (settled : desk.IsSettled) (publicKey : Key) : (desk.step (.send publicKey)).IsSettled := by
  rw [step]
  dsimp only
  split
  · constructor
    case waiting => exact fun call mem => (settled.waiting call mem).concat _
    case begun =>
      intro call before
      rcases Nat.lt_succ_iff_lt_or_eq.mp before with former | rfl
      · exact (settled.begun call former).imp (·.concat _) (List.mem_append_left _)
      · exact .inr (by simp)
    case returned =>
      intro call result mem
      rcases List.mem_append.mp mem with former | added
      · exact (settled.returned call result former).imp_left (·.concat _)
      · cases List.mem_singleton.mp added
        exact .inr rfl
  · next request asks =>
      have now : Asks (desk.history ++ [.asked desk.calls desk.now request]) desk.calls :=
        ⟨desk.now, request, by simp⟩
      constructor
      case waiting =>
        intro call mem
        rcases List.mem_append.mp mem with former | added
        · exact (settled.waiting call former).concat _
        · rw [List.mem_singleton.mp added]
          exact now
      case begun =>
        intro call before
        rcases Nat.lt_succ_iff_lt_or_eq.mp before with former | rfl
        · exact (settled.begun call former).imp (·.concat _) (List.mem_append_left _)
        · exact .inl now
      case returned =>
        intro call result mem
        rcases List.mem_append.mp mem with former | added
        · exact (settled.returned call result former).imp_left (·.concat _)
        · cases List.mem_singleton.mp added

theorem step_answer (settled : desk.IsSettled) (call : Nat) (answer : PushAnswer) :
    (desk.step (.answer call answer)).IsSettled := by
  rw [step]
  split
  · next waits =>
      constructor
      case waiting => exact fun other mem => (settled.waiting other (List.mem_of_mem_erase mem)).concat _
      case begun => exact fun other before => (settled.begun other before).imp (·.concat _) (List.mem_append_left _)
      case returned =>
        intro other result mem
        rcases List.mem_append.mp mem with former | added
        · exact (settled.returned other result former).imp_left (·.concat _)
        · cases List.mem_singleton.mp added
          exact .inl ((settled.waiting call waits).concat _)
  · exact settled

theorem step (settled : desk.IsSettled) (event : PushEvent) : (desk.step event).IsSettled := by
  cases event with
  | elapse duration => exact ⟨settled.waiting, settled.begun, settled.returned⟩
  | hold token => exact settled.noted _ (by nofun)
  | reset => exact settled.noted _ (by nofun)
  | send publicKey => exact settled.step_send publicKey
  | answer call answer => exact settled.step_answer call answer

end IsSettled

/-- Whatever happens around a new service, it is in step with what is noted. -/
theorem isAccurate_course (version : Nat) (events : List PushEvent) : (course version events).IsAccurate version := by
  have fresh : IsAccurate version { service := { version } } := by
    constructor
    case version_eq => rfl
    case token_iff => exact fun token => iff_of_false nofun not_isHeld_nil
    case pace_iff => exact fun time => iff_of_true rfl isRested_nil
    case fits => exact throughout_nil
  exact List.foldlRecOn events PushDesk.step fresh fun _ accurate event _ => accurate.step event

theorem isSettled_course (version : Nat) (events : List PushEvent) : (course version events).IsSettled := by
  have fresh : IsSettled { service := { version } } := ⟨nofun, nofun, nofun⟩
  exact List.foldlRecOn events PushDesk.step fresh fun _ settled event _ => settled.step event

/-- How often the notifier is asked, and for which token. -/
structure IsPaced (version : Nat) (desk : PushDesk) : Prop where
  /-- Each call comes an interval after the one before it, or later, unless the service was reset in between. -/
  spaced : ∀ before between after call time request later laterTime laterRequest,
    desk.history = before ++ .asked call time request :: between ++ .asked later laterTime laterRequest :: after →
    .reset ∉ between → time + PushService.minInterval ≤ laterTime
  /-- It is made while a token is held, and carries the one that was set last. -/
  carried : ∀ before after call time request, desk.history = before ++ .asked call time request :: after →
    ∃ token publicKey, IsHeld before token ∧ request = .ofKey publicKey token version
  /-- A call of `send` that did not ask the notifier has come back without success, and with nothing else. -/
  skipped : ∀ call < desk.calls, ¬ Asks desk.history call →
    .returned call (.ok false) ∈ desk.history ∧ ∀ result, .returned call result ∈ desk.history → result = .ok false
  /-- The next call of `send` asks once a token is held and the last call of the notifier is long enough ago. -/
  passes : ∀ publicKey token, IsHeld desk.history token → IsRested desk.history desk.now →
    (desk.step (.send publicKey)).history =
      desk.history ++ [.asked desk.calls desk.now (.ofKey publicKey token version)]
  /-- Otherwise it is skipped. This changes neither the service nor when the notifier may be asked again. -/
  skips : ∀ publicKey, ¬ ((∃ token, IsHeld desk.history token) ∧ IsRested desk.history desk.now) →
    (desk.step (.send publicKey)).history = desk.history ++ [.returned desk.calls (.ok false)] ∧
      (desk.step (.send publicKey)).service = desk.service ∧
      ∀ later, IsRested (desk.step (.send publicKey)).history later ↔ IsRested desk.history later

/-- However calls are interleaved, and whatever the notifier answers and when, pushes keep their pace. -/
theorem isPaced_course (version : Nat) (events : List PushEvent) : IsPaced version (course version events) := by
  have accurate := isAccurate_course version events
  have settled := isSettled_course version events
  generalize course version events = desk at accurate settled
  constructor
  case spaced =>
    intro before between after call time request later laterTime laterRequest split undisturbed
    have fits := accurate.fits _ _ _ split
    refine fits.1 call time request ⟨before, _, between, rfl, rfl, ?_⟩
    rintro note mem rfl
    exact undisturbed mem
  case carried => exact fun before after call time request split => (accurate.fits _ _ _ split).2
  case skipped =>
    intro call before silent
    exact ⟨(settled.begun call before).resolve_left silent,
      fun result mem => (settled.returned call result mem).resolve_left silent⟩
  case passes =>
    intro publicKey token held rested
    rw [accurate.step_send_of_isRested held rested]
  case skips =>
    intro publicKey idle
    rw [accurate.step_send_of_not idle]
    exact ⟨rfl, rfl, fun later => isRested_concat_other (by nofun) (by nofun)⟩

end PushDesk

end RelayClient
