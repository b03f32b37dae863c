import RelayClient.Proofs.Recovery.Frame

/-!
# Moves of recovery

Recovery meets reports of the status, timers that are due and starts that failed.
What it does about each depends only on itself. A timer is armed exactly while a
restart is under way, and always that of the current attempt.
-/

namespace RelayClient

inductive RecoveryInput where
  | status (event : StatusEvent)
  /-- The timer of an attempt is due, be it the current attempt or an older one. -/
  | expiry (attempt : Nat)
  | startFailure (attempt : Nat)

namespace RecoveryInput

def isGood : RecoveryInput → Bool
  | .status (.global change) => change.current = .ok
  | _ => false

/-- Whether an input reports that the buildup has got somewhere. -/
def isProgress : RecoveryInput → Bool
  | .status (.buildup state) => state.isProgress
  | _ => false

/-- Whether an input reports that a connection that was up is lost. -/
def isLoss : RecoveryInput → Bool
  | .status (.global change) => change.current ≠ .ok ∧ change.wasConnected
  | _ => false

end RecoveryInput

inductive RecoveryMove where
  | stay
  /-- The connection is good again. -/
  | settle
  /-- The timer is called off. -/
  | relax
  | restart (phase : RecoveryPhase) (delay : Nat)
  /-- The session is stopped and the frontend returns to the pairing screen. -/
  | giveUp
  deriving DecidableEq

namespace RecoveryMove

def isRestart : RecoveryMove → Bool
  | .restart _ _ => true
  | _ => false

def isGiveUp : RecoveryMove → Bool
  | .giveUp => true
  | _ => false

end RecoveryMove

namespace Recovery

/-- What recovery does about the loss of a connection that was up. -/
def lossMove (recovery : Recovery) (state : GlobalState) : RecoveryMove :=
  match recovery.phase, recovery.carrier, state with
  | .idle, some .relayed, _ => .restart .phaseOne recovery.times.restartDelay
  | .idle, some .direct, .error => .restart .phaseOne 0
  | _, _, _ => .stay

/-- What recovery does about the timer of the current attempt. -/
def expiryMove (recovery : Recovery) : RecoveryMove :=
  match recovery.phase, recovery.carrier with
  | .phaseOne, some .direct => .restart .phaseTwo 0
  | .phaseOne, _ | .phaseTwo, _ => .giveUp
  | .idle, _ | .failed, _ => .stay

def move (recovery : Recovery) : RecoveryInput → RecoveryMove
  | .status (.global change) =>
      if change.current = .ok then .settle
      else if change.wasConnected then recovery.lossMove change.current
      else .stay
  | .status (.buildup state) =>
      if state.isProgress ∧ (recovery.phase = .phaseOne ∨ recovery.phase = .phaseTwo) then .relax else .stay
  | .status .reset => .stay
  | .expiry attempt => if attempt = recovery.attempts then recovery.expiryMove else .stay
  | .startFailure attempt =>
      if attempt = recovery.attempts ∧ recovery.phase ≠ .failed then .giveUp else .stay

def next (recovery : Recovery) (session : Session) : RecoveryMove → Recovery
  | .stay => recovery
  | .settle => recovery.recovered session.link.task session.resumeKeys
  | .relax => { recovery with timer := none, phase := .idle }
  | .restart phase delay => recovery.begin phase delay session.now
  | .giveUp => { recovery with timer := none, restart := none, phase := .failed }

inductive Choice (recovery : Recovery) (input : RecoveryInput) : RecoveryMove → Prop
  | stay : Choice recovery input .stay
  | settle (good : input.isGood = true) : Choice recovery input .settle
  | relax (progress : input.isProgress = true) (waits : recovery.phase = .phaseOne ∨ recovery.phase = .phaseTwo) :
      Choice recovery input .relax
  | first (delay : Nat) (carrier : CarrierTask) (carried : recovery.carrier = some carrier)
      (idle : recovery.phase = .idle) : Choice recovery input (.restart .phaseOne delay)
  | second (carried : recovery.carrier = some .direct) (waits : recovery.phase = .phaseOne) :
      Choice recovery input (.restart .phaseTwo 0)
  | giveUp (going : recovery.phase ≠ .failed) : Choice recovery input .giveUp

theorem choice_lossMove (recovery : Recovery) (input : RecoveryInput) (state : GlobalState) :
    recovery.Choice input (recovery.lossMove state) := by
  unfold lossMove
  split
  · next idle carried => exact .first _ _ carried idle
  · next idle carried => exact .first _ _ carried idle
  · exact .stay

theorem choice_expiryMove (recovery : Recovery) (input : RecoveryInput) :
    recovery.Choice input recovery.expiryMove := by
  unfold expiryMove
  split
  · next waits carried => exact .second carried waits
  · next waits _ => exact .giveUp fun failed => by simp [failed] at waits
  · next waits => exact .giveUp fun failed => by simp [failed] at waits
  · exact .stay
  · exact .stay

theorem choice_move (recovery : Recovery) (input : RecoveryInput) :
    recovery.Choice input (recovery.move input) := by
  cases input with
  | status event =>
      cases event with
      | global change =>
          simp only [move]
          split
          · next good => exact .settle (decide_eq_true good)
          · split
            · exact recovery.choice_lossMove _ _
            · exact .stay
      | buildup state =>
          simp only [move]
          split
          · next progress => exact .relax progress.1 progress.2
          · exact .stay
      | reset => exact .stay
  | expiry attempt =>
      simp only [move]
      split
      · exact recovery.choice_expiryMove _
      · exact .stay
  | startFailure attempt =>
      simp only [move]
      split
      · next going => exact .giveUp going.2
      · exact .stay

/-- How the timer of recovery goes with its phase. -/
structure Sound (recovery : Recovery) : Prop where
  armed_iff : recovery.timer.isSome = true ↔ recovery.phase = .phaseOne ∨ recovery.phase = .phaseTwo
  current : ∀ timer, recovery.timer = some timer → timer.attempt = recovery.attempts

namespace Sound

variable {recovery : Recovery}

theorem timer_ne (sound : recovery.Sound) {attempt : Nat} (stale : attempt ≠ recovery.attempts) :
    recovery.timer.map (·.attempt) ≠ some attempt := by
  intro same
  obtain ⟨timer, armed, rfl⟩ := Option.map_eq_some_iff.mp same
  exact stale (sound.current timer armed)

/-- The timer is that of the current attempt exactly while a restart is under way. -/
theorem timer_eq_iff (sound : recovery.Sound) :
    recovery.timer.map (·.attempt) = some recovery.attempts ↔
      recovery.phase = .phaseOne ∨ recovery.phase = .phaseTwo := by
  rw [← sound.armed_iff]
  constructor
  · intro same
    obtain ⟨timer, armed, _⟩ := Option.map_eq_some_iff.mp same
    rw [armed]
    rfl
  · intro armed
    obtain ⟨timer, held⟩ := Option.isSome_iff_exists.mp armed
    rw [held, Option.map_some, sound.current timer held]

theorem of_timer_none (off : recovery.timer = none)
    (rests : recovery.phase ≠ .phaseOne ∧ recovery.phase ≠ .phaseTwo) : recovery.Sound where
  armed_iff := by simp [off, rests]
  current timer armed := by rw [off] at armed; cases armed

theorem begin (recovery : Recovery) {phase : RecoveryPhase} (waits : phase = .phaseOne ∨ phase = .phaseTwo)
    (delay now : Nat) : (recovery.begin phase delay now).Sound where
  armed_iff := by simpa [Recovery.begin] using waits
  current timer armed := by
    cases armed
    rfl

/-- Every move keeps the timer in step with the phase. -/
theorem next (sound : recovery.Sound) {input : RecoveryInput} {move : RecoveryMove}
    (choice : recovery.Choice input move) (session : Session) : (recovery.next session move).Sound := by
  cases choice with
  | stay => exact sound
  | settle good => exact of_timer_none rfl (by simp [Recovery.next, recovered])
  | relax progress waits => exact of_timer_none rfl (by simp [Recovery.next])
  | first delay carrier carried idle => exact begin recovery (.inl rfl) delay session.now
  | second carried waits => exact begin recovery (.inr rfl) 0 session.now
  | giveUp going => exact of_timer_none rfl (by simp [Recovery.next])

end Sound

end Recovery

namespace Session

def meet (session : Session) : RecoveryInput → Session
  | .status event => session.reactTo event
  | .expiry attempt => session.runExpire attempt
  | .startFailure attempt => session.failAttempt attempt

/-- A session in which nobody is typing any more. -/
def quieten (session : Session) : Session :=
  { session with replica := { session.replica with data := session.replica.data.clearTyping } }

/-- A session that forgets who is typing once a connection is lost. -/
def heed (session : Session) (input : RecoveryInput) : Session :=
  if input.isLoss then session.quieten else session

def perform (session : Session) (recovery : Recovery) (move : RecoveryMove) : Session :=
  match move with
  | .restart phase delay => session.beginRecovery recovery phase delay
  | .giveUp => { session with recovery := some (recovery.next session move) }.giveUp recovery.keys
  | .stay | .settle | .relax => { session with recovery := some (recovery.next session move) }

theorem perform_recovery (session : Session) (recovery : Recovery) (move : RecoveryMove) :
    (session.perform recovery move).recovery = some (recovery.next session move) := by
  cases move with
  | restart phase delay =>
      simp only [perform, beginRecovery, spawn_recovery]
      split <;> rfl
  | giveUp => exact giveUp_recovery _ _
  | stay => rfl
  | settle => rfl
  | relax => rfl

variable {session : Session} {recovery : Recovery}

theorem perform_stay (watched : session.recovery = some recovery) : session.perform recovery .stay = session := by
  cases session
  cases watched
  rfl

theorem loseConnection_eq_perform (watched : session.recovery = some recovery) (state : GlobalState) :
    session.loseConnection recovery state = session.quieten.perform recovery (recovery.lossMove state) := by
  have same : session.quieten.perform recovery .stay = session.quieten := perform_stay watched
  unfold loseConnection Recovery.lossMove
  cases recovery.phase with
  | idle =>
      cases recovery.carrier with
      | none => exact same.symm
      | some carrier =>
          cases carrier with
          | relayed => rfl
          | direct =>
              cases state with
              | error => rfl
              | ok => exact same.symm
              | warning => exact same.symm
  | phaseOne => exact same.symm
  | phaseTwo => exact same.symm
  | failed => exact same.symm

theorem reactTo_eq_perform (watched : session.recovery = some recovery) (event : StatusEvent) :
    session.reactTo event = (session.heed (.status event)).perform recovery (recovery.move (.status event)) := by
  cases event with
  | global change =>
      simp only [reactTo, watched, Recovery.move]
      by_cases good : change.current = .ok
      · simp [good, heed, RecoveryInput.isLoss, perform, Recovery.next]
      · by_cases lost : change.wasConnected = true
        · rw [if_neg good, if_pos lost, if_neg good, if_pos lost, loseConnection_eq_perform watched]
          simp [heed, RecoveryInput.isLoss, good, lost]
        · rw [if_neg good, if_neg lost, if_neg good, if_neg lost]
          simp [heed, RecoveryInput.isLoss, lost, perform_stay watched]
  | buildup state =>
      have heeds : session.heed (.status (.buildup state)) = session := rfl
      have same : session.perform recovery .stay = session := perform_stay watched
      have tells : (state = .peerHandshake ∨ state = .loading ∨ state = .done) ↔ state.isProgress = true := by
        simp [Buildup.isProgress]
      simp only [reactTo, watched, Recovery.move, heeds, tells]
      by_cases progress : state.isProgress = true
      · cases waits : recovery.phase with
        | idle =>
            simp only [progress, Recovery.progressed, waits]
            rfl
        | failed =>
            simp only [progress, Recovery.progressed, waits]
            rfl
        | phaseOne => simp [progress, Recovery.progressed, waits, perform, Recovery.next, Recovery.clearTimer]
        | phaseTwo => simp [progress, Recovery.progressed, waits, perform, Recovery.next, Recovery.clearTimer]
      · simpa [progress] using same.symm
  | reset =>
      have same : session.reactTo .reset = session := reactTo_of_isQuiet session rfl
      exact same.trans (perform_stay watched).symm

theorem runExpire_eq_perform (watched : session.recovery = some recovery) (sound : recovery.Sound) (attempt : Nat) :
    session.runExpire attempt = session.perform recovery (recovery.move (.expiry attempt)) := by
  have same : session.perform recovery .stay = session := perform_stay watched
  simp only [runExpire, watched, Recovery.move]
  by_cases current : attempt = recovery.attempts
  · subst current
    rw [if_pos rfl]
    by_cases waits : recovery.phase = .phaseOne ∨ recovery.phase = .phaseTwo
    · rw [if_pos (sound.timer_eq_iff.mpr waits), Recovery.expiryMove]
      rcases waits with waits | waits <;> cases carried : recovery.carrier with
      | none => simp [Recovery.clearTimer, waits, carried, perform, Recovery.next]
      | some carrier =>
          cases carrier <;>
            simp [Recovery.clearTimer, waits, carried, perform, Recovery.next, beginRecovery, Recovery.begin,
              Recovery.timeout, Recovery.params]
    · rw [if_neg fun armed => waits (sound.timer_eq_iff.mp armed), Recovery.expiryMove]
      cases rests : recovery.phase with
      | idle => exact same.symm
      | failed => exact same.symm
      | phaseOne => exact absurd (.inl rests) waits
      | phaseTwo => exact absurd (.inr rests) waits
  · rw [if_neg (sound.timer_ne current), if_neg current]
    exact same.symm

theorem failAttempt_eq_perform (watched : session.recovery = some recovery) (attempt : Nat) :
    session.failAttempt attempt = session.perform recovery (recovery.move (.startFailure attempt)) := by
  simp only [failAttempt, watched, Recovery.move, eq_comm (a := attempt)]
  split
  · rfl
  · exact (perform_stay watched).symm

/-- What a session does with an input is the move of its recovery, and nothing else. -/
theorem meet_eq_perform (watched : session.recovery = some recovery) (sound : recovery.Sound)
    (input : RecoveryInput) :
    session.meet input = (session.heed input).perform recovery (recovery.move input) := by
  cases input with
  | status event => exact reactTo_eq_perform watched event
  | expiry attempt => exact runExpire_eq_perform watched sound attempt
  | startFailure attempt => exact failAttempt_eq_perform watched attempt

/-- Timers and starts of attempts that were superseded change nothing. -/
theorem meet_superseded (watched : session.recovery = some recovery) (sound : recovery.Sound) {attempt : Nat}
    (stale : attempt ≠ recovery.attempts) :
    session.meet (.expiry attempt) = session ∧ session.meet (.startFailure attempt) = session := by
  constructor
  · rw [meet_eq_perform watched sound, Recovery.move, if_neg stale]
    exact perform_stay watched
  · rw [meet_eq_perform watched sound, Recovery.move, if_neg fun going => stale going.1]
    exact perform_stay watched

theorem meet_recovery (watched : session.recovery = some recovery) (sound : recovery.Sound)
    (input : RecoveryInput) :
    (session.meet input).recovery = some (recovery.next (session.heed input) (recovery.move input)) := by
  rw [meet_eq_perform watched sound, perform_recovery]

end Session

end RelayClient
