import RelayClient.Proofs.Recovery.Moves

/-!
# Bounds of recovery

A course is any sequence of inputs to recovery, in any order, while the session
around it does anything else. Restarts between two good connections are bounded by
an allowance that every restart uses up, and giving up is final until the
connection is good again.
-/

namespace RelayClient

/-- What recovery met and what it did, oldest first. -/
abbrev RecoveryLog := List (RecoveryInput × RecoveryMove)

namespace RecoveryLog

/-- How many restarts were begun. -/
def restarts (log : RecoveryLog) : Nat :=
  log.countP (·.2.isRestart)

/-- How many times recovery gave up. -/
def giveUps (log : RecoveryLog) : Nat :=
  log.countP (·.2.isGiveUp)

/-- No good connection is reported. -/
def IsBad (log : RecoveryLog) : Prop :=
  ∀ entry ∈ log, entry.1.isGood = false

/-- No progress of the buildup is reported. -/
def IsStuck (log : RecoveryLog) : Prop :=
  ∀ entry ∈ log, entry.1.isProgress = false

variable (log : RecoveryLog) (input : RecoveryInput) (move : RecoveryMove)

theorem restarts_concat :
    restarts (log ++ [(input, move)]) = restarts log + if move.isRestart then 1 else 0 := by
  rw [restarts, List.countP_append, List.countP_singleton]
  rfl

theorem giveUps_concat :
    giveUps (log ++ [(input, move)]) = giveUps log + if move.isGiveUp then 1 else 0 := by
  rw [giveUps, List.countP_append, List.countP_singleton]
  rfl

theorem isBad_concat_iff : IsBad (log ++ [(input, move)]) ↔ IsBad log ∧ input.isGood = false := by
  simp [IsBad, or_imp, forall_and]

theorem isStuck_concat_iff : IsStuck (log ++ [(input, move)]) ↔ IsStuck log ∧ input.isProgress = false := by
  simp [IsStuck, or_imp, forall_and]

end RecoveryLog

namespace Recovery

/-- How many restarts recovery still allows before a good connection or progress. -/
def allowance (recovery : Recovery) : Nat :=
  match recovery.phase, recovery.carrier with
  | .idle, some .direct => 2
  | .idle, some .relayed => 1
  | .phaseOne, some .direct => 1
  | _, _ => 0

/-- How many restarts one loss allows over a carrier. -/
def limit : Option CarrierTask → Nat
  | some .direct => 2
  | some .relayed => 1
  | none => 0

theorem allowance_le_limit (recovery : Recovery) : recovery.allowance ≤ limit recovery.carrier := by
  unfold allowance limit
  cases recovery.phase <;> cases recovery.carrier with
  | none => exact Nat.le_refl 0
  | some carrier => cases carrier <;> decide

/-- One once recovery has failed. -/
def defeats (recovery : Recovery) : Nat :=
  if recovery.phase = .failed then 1 else 0

theorem defeats_le_one (recovery : Recovery) : recovery.defeats ≤ 1 := by
  unfold defeats
  split <;> decide

/-- Recovery after the moves of a log. Its restart may have gone on, or ended, in between. -/
inductive Path (first : Recovery) : RecoveryLog → Recovery → Prop
  | start : Path first [] first
  | move {log : RecoveryLog} {recovery : Recovery} {input : RecoveryInput} {move : RecoveryMove}
      (path : Path first log recovery) (choice : recovery.Choice input move) (session : Session) :
      Path first (log ++ [(input, move)]) (recovery.next session move)
  | goOn {log : RecoveryLog} {recovery : Recovery} (path : Path first log recovery) (restart : Option Restart) :
      Path first log { recovery with restart }

section Moves

variable {recovery : Recovery} {input : RecoveryInput} {move : RecoveryMove} (session : Session)

/-- Attempts count the restarts. -/
theorem attempts_next (recovery : Recovery) (move : RecoveryMove) :
    (recovery.next session move).attempts = recovery.attempts + if move.isRestart then 1 else 0 := by
  cases move <;> rfl

/-- Recovery fails when it gives up, and only then; what failed stays so. -/
theorem defeats_next (choice : recovery.Choice input move) (bad : input.isGood = false) :
    (recovery.next session move).defeats = recovery.defeats + if move.isGiveUp then 1 else 0 := by
  cases choice with
  | stay => rfl
  | settle good => exact absurd good (by simp [bad])
  | relax progress waits => rcases waits with waits | waits <;> simp [defeats, next, RecoveryMove.isGiveUp, waits]
  | first delay carrier carried idle => simp [defeats, next, begin, RecoveryMove.isGiveUp, idle]
  | second carried waits => simp [defeats, next, begin, RecoveryMove.isGiveUp, waits]
  | giveUp going => simp [defeats, next, RecoveryMove.isGiveUp, going]

/-- A restart takes one from what is allowed, and nothing but a good connection or progress adds to it. -/
theorem allowance_next (choice : recovery.Choice input move) (bad : input.isGood = false)
    (stuck : input.isProgress = false) :
    (recovery.next session move).allowance + (if move.isRestart then 1 else 0) ≤ recovery.allowance := by
  cases choice with
  | stay => exact Nat.le_refl _
  | settle good => exact absurd good (by simp [bad])
  | relax progress waits => exact absurd progress (by simp [stuck])
  | first delay carrier carried idle =>
      cases carrier <;> simp [allowance, next, begin, RecoveryMove.isRestart, idle, carried]
  | second carried waits => simp [allowance, next, begin, RecoveryMove.isRestart, waits, carried]
  | giveUp going => simp [allowance, next, RecoveryMove.isRestart]

/-- Recovery that has failed waits for a good connection. -/
theorem Choice.eq_stay (choice : recovery.Choice input move) (failed : recovery.phase = .failed)
    (bad : input.isGood = false) : move = .stay := by
  cases choice with
  | stay => rfl
  | settle good => exact absurd good (by simp [bad])
  | relax progress waits => simp [failed] at waits
  | first delay carrier carried idle => simp [failed] at idle
  | second carried waits => simp [failed] at waits
  | giveUp going => exact absurd failed going

end Moves

namespace Path

variable {first last : Recovery} {log : RecoveryLog}

theorem sound (path : Path first log last) (start : first.Sound) : last.Sound := by
  induction path with
  | start => exact start
  | move path choice session ih => exact ih.next choice session
  | goOn path restart ih => exact ⟨ih.armed_iff, ih.current⟩

theorem attempts (path : Path first log last) : last.attempts = first.attempts + log.restarts := by
  induction path with
  | start => rfl
  | move path choice session ih => rw [attempts_next, ih, RecoveryLog.restarts_concat, Nat.add_assoc]
  | goOn path restart ih => exact ih

/-- Each time recovery gives up it fails, which it can do only once. -/
theorem defeats (path : Path first log last) (bad : log.IsBad) : last.defeats = first.defeats + log.giveUps := by
  induction path with
  | start => rfl
  | move path choice session ih =>
      obtain ⟨before, now⟩ := (RecoveryLog.isBad_concat_iff _ _ _).mp bad
      rw [defeats_next session choice now, ih before, RecoveryLog.giveUps_concat, Nat.add_assoc]
  | goOn path restart ih => exact ih bad

theorem failed (path : Path first log last) (bad : log.IsBad) (failed : first.phase = .failed) :
    last.phase = .failed ∧ log.restarts = 0 := by
  induction path with
  | start => exact ⟨failed, rfl⟩
  | move path choice session ih =>
      obtain ⟨before, now⟩ := (RecoveryLog.isBad_concat_iff _ _ _).mp bad
      obtain ⟨stays, none⟩ := ih before
      cases choice.eq_stay stays now
      rw [RecoveryLog.restarts_concat, none]
      exact ⟨stays, rfl⟩
  | goOn path restart ih => exact ih bad

/-- Restarts use up what was allowed before them. -/
theorem restarts_le (path : Path first log last) (bad : log.IsBad) (stuck : log.IsStuck) :
    last.allowance + log.restarts ≤ first.allowance := by
  induction path with
  | start => exact Nat.le_refl _
  | @move log recovery input move path choice session ih =>
      obtain ⟨badBefore, bad⟩ := (RecoveryLog.isBad_concat_iff _ _ _).mp bad
      obtain ⟨stuckBefore, stuck⟩ := (RecoveryLog.isStuck_concat_iff _ _ _).mp stuck
      have used := allowance_next session choice bad stuck
      have usedBefore := ih badBefore stuckBefore
      rw [RecoveryLog.restarts_concat]
      omega
  | goOn path restart ih => exact ih bad stuck

end Path

end Recovery

namespace Session

/-- Sessions that a session can become while recovery meets inputs, with what it did
about each. In between the session may do whatever leaves all but the restart of
recovery as it is. -/
inductive Course (start : Session) : RecoveryLog → Session → Prop
  | start : Course start [] start
  | meet {log : RecoveryLog} {session : Session} {recovery : Recovery} (course : Course start log session)
      (watched : session.recovery = some recovery) (input : RecoveryInput) :
      Course start (log ++ [(input, recovery.move input)]) (session.meet input)
  | goOn {log : RecoveryLog} {session other : Session} {recovery : Recovery} {restart : Option Restart}
      (course : Course start log session) (watched : session.recovery = some recovery)
      (kept : other.recovery = some { recovery with restart }) : Course start log other

theorem Course.path {start last : Session} {log : RecoveryLog} {first : Recovery} (course : Course start log last)
    (watched : start.recovery = some first) (sound : first.Sound) :
    ∃ recovery, last.recovery = some recovery ∧ first.Path log recovery := by
  induction course with
  | start => exact ⟨first, watched, .start⟩
  | @meet log session recovery course held input ih =>
      obtain ⟨_, same, path⟩ := ih
      cases held.symm.trans same
      exact ⟨_, meet_recovery held (path.sound sound) input, path.move (recovery.choice_move input) _⟩
  | @goOn log session other recovery restart course held kept ih =>
      obtain ⟨_, same, path⟩ := ih
      cases held.symm.trans same
      exact ⟨_, kept, path.goOn restart⟩

/-- What recovery keeps to, wherever a course has led its session. -/
structure KeepsLadder (session : Session) (recovery : Recovery) : Prop where
  /-- A timer is armed exactly while a restart is under way. -/
  armed_iff : recovery.timer.isSome = true ↔ recovery.phase = .phaseOne ∨ recovery.phase = .phaseTwo
  /-- The timer is that of the current attempt. -/
  current : ∀ timer, recovery.timer = some timer → timer.attempt = recovery.attempts
  /-- Timers and starts of superseded attempts change nothing. -/
  superseded : ∀ attempt, attempt ≠ recovery.attempts →
    session.meet (.expiry attempt) = session ∧ session.meet (.startFailure attempt) = session
  /-- An input makes the session do the move of its recovery, and nothing else. -/
  moves : ∀ input, session.meet input = (session.heed input).perform recovery (recovery.move input)
  /-- A failed recovery begins no restart, and does not give up again, before a good connection. -/
  failed : ∀ log last, Course session log last → log.IsBad → recovery.phase = .failed →
    log.restarts = 0 ∧ log.giveUps = 0 ∧ ∃ later, last.recovery = some later ∧ later.phase = .failed
  /-- Between two good connections recovery gives up at most once. -/
  givesUp_le : ∀ log last, Course session log last → log.IsBad → log.giveUps ≤ 1
  /-- Without progress a loss leads to two restarts over a direct connection, and to one over the relay. -/
  restarts_le : ∀ log last, Course session log last → log.IsBad → log.IsStuck →
    log.restarts ≤ Recovery.limit recovery.carrier
  /-- The attempts count the restarts. -/
  attempts : ∀ log last, Course session log last →
    ∃ later, last.recovery = some later ∧ later.attempts = recovery.attempts + log.restarts

theorem keepsLadder_of_sound {session : Session} {recovery : Recovery} (watched : session.recovery = some recovery)
    (sound : recovery.Sound) : session.KeepsLadder recovery where
  armed_iff := sound.armed_iff
  current := sound.current
  superseded attempt stale := meet_superseded watched sound stale
  moves input := meet_eq_perform watched sound input
  failed log last course bad failed := by
    obtain ⟨later, held, path⟩ := course.path watched sound
    obtain ⟨stays, none⟩ := path.failed bad failed
    have defeats := path.defeats bad
    rw [Recovery.defeats, Recovery.defeats, if_pos stays, if_pos failed] at defeats
    exact ⟨none, by omega, later, held, stays⟩
  givesUp_le log last course bad := by
    obtain ⟨later, _, path⟩ := course.path watched sound
    have defeats := path.defeats bad
    have once := later.defeats_le_one
    omega
  restarts_le log last course bad stuck := by
    obtain ⟨later, _, path⟩ := course.path watched sound
    have used := path.restarts_le bad stuck
    have allowed := recovery.allowance_le_limit
    omega
  attempts log last course := by
    obtain ⟨later, held, path⟩ := course.path watched sound
    exact ⟨later, held, path.attempts⟩

/-- Recovery keeps its ladder in every course of a session that it was attached to. -/
theorem ladder_of_course {session last : Session} {times : RecoveryTimes} {log : RecoveryLog}
    (course : Course (session.attachRecovery times) log last) :
    ∃ recovery, last.recovery = some recovery ∧ last.KeepsLadder recovery := by
  have fresh : ({ times } : Recovery).Sound := .of_timer_none rfl (by simp)
  obtain ⟨recovery, watched, path⟩ := course.path rfl fresh
  exact ⟨recovery, watched, keepsLadder_of_sound watched (path.sound fresh)⟩

def directSession : Session where
  chance := ⟨fun _ => default, fun _ => default⟩
  messenger := { draw := fun _ => "" }
  keys := ⟨{}, 0, none⟩
  push := { version := 0 }
  link := { task := some .direct }

/-- A connection is lost and neither restart helps; an old timer and an old start come late. -/
def exhaustedLog : RecoveryLog :=
  [(.status (.global ⟨.warning, .ok, true⟩), .settle),
    (.status (.global ⟨.ok, .error, true⟩), .restart .phaseOne 0),
    (.expiry 0, .stay),
    (.expiry 1, .restart .phaseTwo 0),
    (.startFailure 1, .stay),
    (.expiry 2, .giveUp),
    (.startFailure 2, .stay)]

/-- The late start of the last attempt no longer counts once recovery gave up. -/
theorem ladder_of_exhausted : ∃ last recovery, Course (directSession.attachRecovery {}) exhaustedLog last ∧
    exhaustedLog.restarts = 2 ∧ exhaustedLog.giveUps = 1 ∧
    last.recovery = some recovery ∧ last.KeepsLadder recovery := by
  have attached : Course (directSession.attachRecovery {}) [] (directSession.attachRecovery {}) := .start
  have settled := attached.meet rfl (.status (.global ⟨.warning, .ok, true⟩))
  have lost := settled.meet rfl (.status (.global ⟨.ok, .error, true⟩))
  have early := lost.meet rfl (.expiry 0)
  have escalated := early.meet rfl (.expiry 1)
  have superseded := escalated.meet rfl (.startFailure 1)
  have fresh : ({} : Recovery).Sound := .of_timer_none rfl (by simp)
  obtain ⟨recovery, held, path⟩ := superseded.path rfl fresh
  cases held
  have gaveUp := superseded.meet rfl (.expiry 2)
  have course : Course (directSession.attachRecovery {}) exhaustedLog _ :=
    gaveUp.meet (meet_recovery rfl (path.sound fresh) (.expiry 2)) (.startFailure 2)
  obtain ⟨recovery, watched, keeps⟩ := ladder_of_course course
  exact ⟨_, recovery, course, rfl, rfl, watched, keeps⟩

end Session

end RelayClient
