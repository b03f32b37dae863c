import RelayClient.Proofs.Recovery.Rest
import RelayClient.Proofs.Session.Sequel

/-!
# Recovery stands down

Once the connection is good again, the timer of recovery is off, and it stays off
until another loss is reported. A restart that has yet to set the session up is not
called off by a good connection: recovery stands down only where none is waiting to.
-/

namespace RelayClient

/-- A task that is connected again makes the summary good, which is posted. -/
theorem Status.reportTask_connected {status : Status} (broken : status.global ≠ .ok) :
    (status.reportTask .connected).2 = [.global ⟨status.global, .ok, true⟩] := by
  unfold reportTask
  dsimp only [TaskState.summary?]
  unfold setGlobal
  rw [if_neg broken, beq_self_eq_true, Bool.or_true]

namespace Session

variable {session ok later : Session}

theorem reactTo_recovery_of_good (session : Session) {change : GlobalChange} (good : change.current = .ok) :
    (session.reactTo (.global change)).recovery =
      session.recovery.map fun recovery => recovery.recovered session.link.task session.resumeKeys := by
  unfold reactTo
  cases watched : session.recovery with
  | none => exact watched
  | some recovery =>
      dsimp only
      rw [if_pos good]
      rfl

/-- A good connection calls the timer off. -/
theorem isUnarmed_reportTask (broken : session.status.global ≠ .ok) : (session.reportTask .connected).IsUnarmed := by
  intro recovery watched
  unfold reportTask applyStatus at watched
  rw [Status.reportTask_connected broken, postStatus, List.foldl_cons, List.foldl_nil,
      reactTo_recovery_of_good _ rfl] at watched
  obtain ⟨former, -, rfl⟩ := Option.map_eq_some_iff.mp watched
  rfl

/-- The start of a restart has failed, and not because the session was stopped. -/
def LearnsFailure (session : Session) (attempt : Nat) : Prop :=
  ∃ restart startup failure, session.recovery.bind (·.restart) = some restart ∧ restart.attempt = attempt ∧
    restart.stage = .starting startup ∧ session.startups[startup]? = some (some (.error failure)) ∧ failure ≠ .stopped

/-- A restart that has started the session only learns what its start came to. -/
theorem IsCalm.runRestart_cases (calm : session.IsCalm) (attempt : Nat) :
    session.runRestart attempt = session ∨ session.runRestart attempt = session.setStage attempt .ended ∨
      session.LearnsFailure attempt := by
  unfold runRestart
  split
  · next restart found =>
      have settled := calm.isOutstanding_eq_false found
      split
      · next same =>
          unfold stepRestart
          cases stage : restart.stage with
          | starting startup =>
              dsimp only
              split
              · next result known =>
                  unfold finishRestart
                  split
                  · exact .inr (.inl (by rw [same]))
                  · exact .inr (.inl (by rw [same]))
                  · next failure unstopped =>
                      refine .inr (.inr ⟨restart, startup, failure, found, same, stage, known, ?_⟩)
                      rintro rfl
                      exact unstopped rfl
              · exact .inl rfl
          | ended => exact .inl rfl
          | paused due => exact .inl rfl
          | spawned => rw [stage] at settled; cases settled
          | resuming => rw [stage] at settled; cases settled
      · exact .inl rfl
  · exact .inl rfl

/-- What recovery does to a session after a connection was good, as long as no loss is reported. -/
structure StandsDown (ok later : Session) : Prop where
  /-- Whatever tasks are ready, they may run next, and time may pass. -/
  goesOn : Sequel ok later.runReady ∧ ∀ duration, Sequel ok (later.pass duration)
  /-- No timer does anything. -/
  expiries : ∀ attempt, later.runTask (.expire attempt) = later
  /-- Unless one was about to, no restart stops the session or sets it up, as long as its own start does not fail. -/
  restarts : ok.IsCalm → ∀ attempt, later.runTask (.restart attempt) = later ∨
    later.runTask (.restart attempt) = later.setStage attempt .ended ∨ later.LearnsFailure attempt
  waits : ok.IsCalm → later.wake = later

theorem standsDown_of_sequel (broken : session.status.global ≠ .ok)
    (sequel : Sequel (session.reportTask .connected) later)
    (kept : later.losses = (session.reportTask .connected).losses) :
    StandsDown (session.reportTask .connected) later := by
  have off := isUnarmed_reportTask broken
  have unarmed := sequel.rests.unarmed kept off
  constructor
  case goesOn => exact ⟨sequel.runTasks _, fun duration => sequel.passSteps _ _⟩
  case expiries => exact fun attempt => runExpire_of_isUnarmed unarmed attempt
  case restarts => exact fun calm attempt => (sequel.rests.calm kept off calm).runRestart_cases attempt
  case waits => exact fun calm => wake_of_rests unarmed (sequel.rests.calm kept off calm)

/-- The first restart over a direct connection has connected, as far as the task goes. -/
def resumedSession : Session :=
  (lostSession .direct).handleEvent (.taskReady .direct)

theorem isCalm_resumedSession : (resumedSession.reportTask .connected).IsCalm := by
  have waits : ((resumedSession.reportTask .connected).recovery.map fun recovery =>
      (recovery.timer.isNone, recovery.restart.map (·.stage))) = some (true, some (.starting 1)) := by decide +kernel
  intro recovery watched pending
  rw [watched, Option.map_some, Option.some_inj, Prod.mk.injEq, Option.isNone_iff_eq_none] at waits
  rcases pending with ⟨restart, held, outstanding⟩ | ⟨armed, -⟩
  · rw [held, Option.map_some, Option.some_inj] at waits
    rw [waits.2] at outstanding
    cases outstanding
  · rw [waits.1] at armed
    cases armed

/-- The restart has set the session up already, so nothing is left of recovery. -/
theorem standsDown_resumedSession :
    resumedSession.status.global ≠ .ok ∧ (resumedSession.reportTask .connected).IsCalm ∧
      StandsDown (resumedSession.reportTask .connected) ((resumedSession.reportTask .connected).pass 60000) := by
  have broken : resumedSession.status.global ≠ .ok := by decide +kernel
  refine ⟨broken, isCalm_resumedSession, standsDown_of_sequel broken (Sequel.refl.passSteps _ _) ?_⟩
  decide +kernel

/-- The connection is lost over a direct connection, and recovery has yet to restart the session. -/
def interruptedSession : Session :=
  (connectedSession .direct).handleEvent (.taskState .disconnected)

/-- A restart that waits to run when the connection is good again sets the session up all the same. -/
theorem launches_interruptedSession :
    interruptedSession.status.global ≠ .ok ∧
      (interruptedSession.reportTask .connected).status.global = .ok ∧
      (interruptedSession.reportTask .connected).runReady.losses = (interruptedSession.reportTask .connected).losses ∧
      (interruptedSession.reportTask .connected).launches.length = 2 ∧
      (interruptedSession.reportTask .connected).runReady.launches.length = 4 ∧
      (interruptedSession.reportTask .connected).runReady.status.global = .error := by
  decide +kernel

end Session

end RelayClient
