import RelayClient.Proofs.Session.Attempts

/-!
# When a session is ready

Every task that may run, every report and all time that passes continue a run of
a session, so what holds of its runs holds of any schedule. A start succeeds only
on the strength of the attempt that was set up last; it is settled once, and as
stopped when another start or a stop comes before that.
-/

namespace RelayClient

open Milestone (AllowsStart)

namespace Session

/-- A run leads from a session to another one. -/
def LeadsTo (first session : Session) : Prop :=
  ∃ history, Run first history session

namespace LeadsTo

variable {first session after : Session} {history marks : List Milestone}

theorem refl (session : Session) : LeadsTo session session :=
  ⟨[], .refl⟩

theorem step (former : LeadsTo first session) (step : Step session marks after) : LeadsTo first after := by
  obtain ⟨further, run⟩ := former
  exact ⟨further ++ marks, run.step step⟩

theorem init (former : LeadsTo first session) (params : InitParams) : LeadsTo first (session.init params).1 := by
  cases result : session.init params with
  | mk after outcome =>
      cases outcome with
      | ok _ => exact former.step (.init session params result)
      | error _ => exact former.step (.initFailed session params result)

theorem other (former : LeadsTo first session) (same : after.core = session.core) :
    LeadsTo first after :=
  former.step (.other same)

theorem stop (former : LeadsTo first session) (options : StopOptions) :
    LeadsTo first (session.stop options) := by
  have down := former.step (.takeDown session options)
  unfold Session.stop
  dsimp only
  split
  · exact down.other (core_note _ rfl)
  · exact down

theorem runStopForPeer (former : LeadsTo first session) (reason : DisconnectReason) (tell : Bool) :
    LeadsTo first (session.runStopForPeer reason tell) := by
  unfold Session.runStopForPeer
  dsimp only
  split
  · exact (former.stop _).other (core_note _ rfl)
  · exact former.stop _

/-- Recovery gives up, whatever becomes of it. -/
theorem giveUp (former : LeadsTo first session) (recovery : Option Recovery) (keys : Option ResumeKeys) :
    LeadsTo first ({ session with recovery }.giveUp keys) := by
  have failed : LeadsTo first { session with recovery } := former.other rfl
  exact (failed.stop _).other (core_note _ rfl)

theorem failAttempt (former : LeadsTo first session) (attempt : Nat) :
    LeadsTo first (session.failAttempt attempt) := by
  unfold Session.failAttempt
  split
  · split
    · exact former.giveUp _ _
    · exact former
  · exact former

theorem runExpire (former : LeadsTo first session) (attempt : Nat) :
    LeadsTo first (session.runExpire attempt) := by
  unfold Session.runExpire
  split
  · exact former
  · split
    · dsimp only
      split
      · exact former.other (core_beginRecovery _ _ _ _)
      · exact former.giveUp _ _
      · exact former.giveUp _ _
      · exact former.other rfl
      · exact former.other rfl
    · exact former

theorem finishRestart (former : LeadsTo first session) (attempt : Nat) (result : Except Failure Unit) :
    LeadsTo first (session.finishRestart attempt result) := by
  have ended : LeadsTo first (session.setStage attempt .ended) := former.other rfl
  unfold Session.finishRestart
  split
  · exact ended
  · exact ended
  · exact ended.failAttempt _

/-- A restart sets the session up and starts it as the application does. -/
theorem resumeRestart (former : LeadsTo first session) (restart : Restart) :
    LeadsTo first (session.resumeRestart restart) := by
  have prepared := former.init restart.params
  unfold Session.resumeRestart
  generalize session.init restart.params = result at prepared
  obtain ⟨setUp, outcome⟩ := result
  cases outcome with
  | error failure =>
      have ended : LeadsTo first (setUp.setStage restart.attempt .ended) := prepared.other rfl
      exact ended.failAttempt _
  | ok _ =>
      have started := prepared.step (.start setUp)
      dsimp only
      split
      · exact started.finishRestart _ _
      · exact started.other rfl

theorem runRestart (former : LeadsTo first session) (attempt : Nat) :
    LeadsTo first (session.runRestart attempt) := by
  unfold Session.runRestart
  split
  · next restart _ =>
      split
      · unfold Session.stepRestart
        cases restart.stage with
        | spawned =>
            dsimp only
            split
            · exact (former.stop _).resumeRestart _
            · exact (former.stop _).other rfl
        | paused due => exact former
        | resuming => exact former.resumeRestart _
        | starting startup =>
            dsimp only
            split
            · exact former.finishRestart _ _
            · exact former
        | ended => exact former
      · exact former
  · exact former

theorem report (former : LeadsTo first session) (transport : Nat) (events : List TransportEvent) :
    LeadsTo first (session.report transport events).1 := by
  unfold Session.report
  split
  · next pump runs =>
      split
      · next same =>
          rw [← same]
          exact (former.step (.queue session runs _)).other rfl
      · exact former
  · exact former

/-- Events that are handled one after another go on with a run, for the pump keeps running. -/
theorem events (former : LeadsTo first session) (tracks : first.core.Tracks history) {pump : Pump}
    (runs : session.link.pump = some pump) (events : List TransportEvent) :
    LeadsTo first (events.foldl handleEvent session) := by
  induction events generalizing session with
  | nil => exact former
  | cons event rest ih =>
      obtain ⟨further, run⟩ := former
      have current := (run.tracks_append tracks).1
      obtain ⟨since, _, sound⟩ := current.attempt pump.transport (current.pump pump runs)
      have stillRuns : (session.handleEvent event).link.pump = some pump := (moves_event sound event).pump.trans runs
      exact ih (step ⟨further, run⟩ (.event session runs event)) stillRuns

theorem runPump (former : LeadsTo first session) (tracks : first.core.Tracks history) (transport : Nat) :
    LeadsTo first (session.runPump transport) := by
  unfold Session.runPump
  split
  · next pump runs =>
      split
      · next same =>
          rw [← same]
          exact (former.step (.queue session runs [])).events tracks rfl _
      · exact former
  · exact former

/-- Any task goes on with a run. -/
theorem runTask (former : LeadsTo first session) (tracks : first.core.Tracks history) (task : Task) :
    LeadsTo first (session.runTask task) := by
  cases task with
  | pump transport => exact former.runPump tracks transport
  | push publicKey => exact former.other (core_runPush _ _)
  | stopForPeer reason tell => exact former.runStopForPeer reason tell
  | expire attempt => exact former.runExpire attempt
  | restart attempt => exact former.runRestart attempt

theorem runTasks (former : LeadsTo first session) (tracks : first.core.Tracks history) (count : Nat) :
    LeadsTo first (session.runTasks count) :=
  runTasks_induction (fun _ _ former => former.other rfl) (fun _ task former => former.runTask tracks task) former count

theorem passSteps (former : LeadsTo first session) (tracks : first.core.Tracks history) (limit stops : Nat) :
    LeadsTo first (session.passSteps limit stops) :=
  passSteps_induction (fun _ _ former => former.other rfl) (fun current former => former.other current.core_wake)
    (fun _ former => former.runTasks tracks _) former limit stops

end LeadsTo

/-- What can be said of the starts of a session with a history. -/
structure IsTimely (history : List Milestone) (session : Session) : Prop where
  /-- Whatever is asked of the session, any task, any report and any time are a run of it. -/
  goesOn : (∀ params, LeadsTo session (session.init params).1) ∧ LeadsTo session session.start.1 ∧
    (∀ options, LeadsTo session (session.stop options)) ∧ (∀ task, LeadsTo session (session.runTask task)) ∧
    (∀ transport events, LeadsTo session (session.report transport events).1) ∧
    LeadsTo session session.runReady ∧ ∀ duration, LeadsTo session (session.pass duration)
  /-- A start that succeeds does so on the strength of the attempt that was set up last. -/
  ready : ∀ marks after (startup : Nat), Step session marks after →
    session.startups[startup]? ≠ some (some (.ok ())) → after.startups[startup]? = some (some (.ok ())) →
      AllowsStart (history ++ marks)
  /-- A start that succeeds in a run did so when the history so far allowed it. -/
  earned : ∀ further later (startup : Nat), Run session further later →
    session.startups[startup]? ≠ some (some (.ok ())) → later.startups[startup]? = some (some (.ok ())) →
      ∃ marks, marks <+: further ∧ AllowsStart (history ++ marks)
  /-- What a start came to is final. -/
  once : ∀ further later (startup : Nat) result, Run session further later →
    session.startups[startup]? = some (some result) → later.startups[startup]? = some (some result)
  replaced : ∀ startup : Nat, session.startups[startup]? = some none →
    session.start.1.startups[startup]? = some (some (.error .stopped))
  ended : ∀ options (startup : Nat), session.startups[startup]? = some none →
    (session.takeDown options).startups[startup]? = some (some (.error .stopped)) ∧
      (session.stop options).startups[startup]? = some (some (.error .stopped))

variable {first session : Session} {history : List Milestone}

theorem Run.earned (tracks : session.core.Tracks history) {further : List Milestone} {later : Session}
    (run : Run session further later) {startup : Nat} (before : session.startups[startup]? ≠ some (some (.ok ())))
    (ready : later.startups[startup]? = some (some (.ok ()))) :
    ∃ marks, marks <+: further ∧ AllowsStart (history ++ marks) := by
  induction run with
  | refl => exact absurd ready before
  | step run step ih =>
      obtain ⟨_, proceeds⟩ := step.tracks (run.tracks_append tracks).1
      rcases proceeds.ready startup ready with former | allows
      · obtain ⟨marks, within, allows⟩ := ih former
        exact ⟨marks, within.trans (List.prefix_append _ _), allows⟩
      · rw [List.append_assoc] at allows
        exact ⟨_, List.prefix_rfl, allows⟩

theorem isTimely_of_run (fresh : first.IsFresh) (run : Run first history session) : IsTimely history session := by
  have tracks := run.tracks fresh
  have here := LeadsTo.refl session
  constructor
  case goesOn =>
    refine ⟨fun params => here.init params, here.step (.start session), fun options => here.stop options,
      fun task => here.runTask tracks task, fun transport events => here.report transport events,
      here.runTasks tracks _, fun duration => here.passSteps tracks _ _⟩
  case ready =>
    intro marks after startup step before ready
    obtain ⟨_, proceeds⟩ := step.tracks tracks
    exact (proceeds.ready startup ready).resolve_left before
  case earned =>
    intro further later startup run before ready
    exact run.earned tracks before ready
  case once =>
    intro further later startup result further settled
    exact (further.tracks_append tracks).2 startup result settled
  case replaced =>
    intro startup waiting
    have starts : SessionCore.Proceeds False (session.core.settle (.error .stopped)) session.start.1.core :=
      (proceeds_start tracks.waits).1
    exact stopped_of_proceeds tracks.waits starts waiting
  case ended =>
    intro options startup waiting
    have stops : SessionCore.Proceeds False (session.core.settle (.error .stopped)) (session.takeDown options).core :=
      session.proceeds_takeDown options
    have stopped := stopped_of_proceeds tracks.waits stops waiting
    have same := (session.core_stop options).trans (session.core_takeDown options).symm
    have startups : (session.stop options).startups = (session.takeDown options).startups :=
      congrArg SessionCore.startups same
    rw [startups]
    exact ⟨stopped, stopped⟩

/-- A session that was neither set up nor started, with one key pair to set up. -/
def freshSession : Session where
  chance := ⟨fun _ => default, fun _ => default⟩
  messenger := { draw := fun _ => "" }
  keys := ⟨{}, 0, none⟩
  push := { version := 0 }
  status := { clocked := false }

def answer (subject : SubType) : TransportEvent :=
  .channelFrame (Message.plain .response subject).encode

def startedSession : Session :=
  (freshSession.init { pair := some ⟨default, default⟩ }).1.start.1

/-- A started session whose receivers are still to come. -/
def unansweredSession : Session :=
  [.taskReady .relayed, answer .clientInfo, answer .conversations].foldl handleEvent startedSession

theorem isFresh_freshSession : freshSession.IsFresh :=
  ⟨rfl, rfl⟩

theorem pump_unansweredSession : unansweredSession.link.pump.map (·.transport) = some 0 := by
  decide +kernel

theorem leadsTo_startedSession : LeadsTo freshSession startedSession :=
  ((LeadsTo.refl freshSession).init { pair := some ⟨default, default⟩ }).step (.start _)

theorem leadsTo_unansweredSession : LeadsTo freshSession unansweredSession := by
  have runs : startedSession.link.pump = some ⟨0, []⟩ := rfl
  exact leadsTo_startedSession.events isFresh_freshSession.tracks runs _

/-- The last answer makes the session ready, and so the history allows it. -/
theorem isTimely_unansweredSession : ∃ history, Run freshSession history unansweredSession ∧
    IsTimely history unansweredSession ∧
    unansweredSession.startups[0]? = some none ∧
    (unansweredSession.handleEvent (answer .receivers)).startups[0]? = some (some (.ok ())) ∧
    AllowsStart (history ++ unansweredSession.milestones 0 (answer .receivers)) := by
  obtain ⟨history, run⟩ := leadsTo_unansweredSession
  obtain ⟨pump, runs, linked⟩ := Option.map_eq_some_iff.mp pump_unansweredSession
  have waits : unansweredSession.startups[0]? = some none := by
    have known : unansweredSession.startups[0]?.map (·.map Except.isOk) = some none := by
      decide +kernel
    obtain ⟨result, held, waiting⟩ := Option.map_eq_some_iff.mp known
    rw [held, Option.map_eq_none_iff.mp waiting]
  have ready : (unansweredSession.handleEvent (answer .receivers)).startups[0]? = some (some (.ok ())) := by
    have known : (unansweredSession.handleEvent (answer .receivers)).startups[0]?.map (·.map Except.isOk) =
        some (some true) := by
      decide +kernel
    obtain ⟨_, held, settled⟩ := Option.map_eq_some_iff.mp known
    obtain ⟨result, rfl, succeeded⟩ := Option.map_eq_some_iff.mp settled
    cases result with
    | ok _ => exact held
    | error _ => cases succeeded
  have timely := isTimely_of_run isFresh_freshSession run
  have allows := timely.ready _ _ 0 (.event unansweredSession runs (answer .receivers)) (by rw [waits]; nofun) ready
  rw [linked] at allows
  exact ⟨history, run, timely, waits, ready, allows⟩

end Session

end RelayClient
