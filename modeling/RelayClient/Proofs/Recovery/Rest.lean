import RelayClient.Proofs.Recovery.Ending
import RelayClient.Proofs.Session.Readiness

/-!
# Rest after the end of a session

The application ends a session by a stop. A disconnect of the device makes such a
stop ready, and other tasks may run before it does. Either way nothing sets out to
connect from then on, where recovery was not about to set the session up; a stop
does not call recovery off.
-/

namespace RelayClient

/-- Whether a message tells that the device ends the session. -/
def Message.asksToEnd (message : Message) : Bool :=
  message.kind == .update && message.subject == .connectionDisconnect && (Replica.disconnectReason? message).isSome

/-- Whether an event tells that the device ends the session, over the channel or outside of it. -/
def TransportEvent.asksToEnd : TransportEvent → Bool
  | .channelFrame frame =>
      match Message.decode frame with
      | .ok message => message.asksToEnd
      | .error _ => false
  | .application message => (message.get? "type").bind Pack.Value.text? == some "disconnect"
  | _ => false

/-- A message that ends the session is told on, whatever the replica holds. -/
theorem Replica.notices_of_asksToEnd (replica : Replica) {message : Message} (asks : message.asksToEnd = true) :
    ∃ reason, (replica.handle message).notices = [.disconnected reason] := by
  unfold Message.asksToEnd at asks
  rw [Bool.and_eq_true, Bool.and_eq_true, beq_iff_eq, beq_iff_eq, Option.isSome_iff_exists] at asks
  obtain ⟨⟨update, subject⟩, reason, found⟩ := asks
  refine ⟨reason, ?_⟩
  unfold handle onUpdate
  rw [update, subject]
  dsimp only
  rw [found]
  rfl

namespace Session

variable {session : Session}

theorem ready_handleMessage (session : Session) {message : Message} (asks : message.asksToEnd = true) :
    ∃ reason, (session.handleMessage message).1.ready = session.ready ++ [.stopForPeer reason true] := by
  obtain ⟨reason, notices⟩ := session.replica.notices_of_asksToEnd asks
  refine ⟨reason, ?_⟩
  unfold handleMessage
  dsimp only
  rw [notices]
  rfl

/-- A disconnect that was handled leaves a stop to run. -/
theorem ready_of_asksToEnd (session : Session) {event : TransportEvent} (asks : event.asksToEnd = true) :
    ∃ reason tell, (session.handleEvent event).ready = session.ready ++ [.stopForPeer reason tell] := by
  cases event with
  | channelFrame frame =>
      dsimp only [TransportEvent.asksToEnd] at asks
      split at asks
      · next message decoded =>
          obtain ⟨reason, ready⟩ := session.ready_handleMessage asks
          refine ⟨reason, true, ?_⟩
          unfold handleEvent receiveFrame Messenger.receive
          dsimp only
          rw [decoded]
          exact ready
      · cases asks
  | application message =>
      have disconnects : (message.get? "type").bind Pack.Value.text? = some "disconnect" := eq_of_beq asks
      unfold handleEvent takeApplication
      dsimp only
      rw [if_pos disconnects]
      exact ⟨_, _, rfl⟩
  | _ => cases asks

variable {history : List Milestone}

theorem launches_stop (session : Session) (options : StopOptions) : (session.stop options).launches = session.launches :=
  congrArg SessionCore.launches (session.core_stop options)

theorem launches_note_of_quiet (session : Session) {effect : Effect} (quiet : effect.isLaunch = false) :
    (session.note effect).launches = session.launches :=
  congrArg SessionCore.launches (session.core_note quiet)

theorem launches_giveUp (session : Session) (keys : Option ResumeKeys) : (session.giveUp keys).launches = session.launches :=
  (launches_note_of_quiet _ rfl).trans (session.launches_stop _)

theorem launches_runStopForPeer (session : Session) (reason : DisconnectReason) (tell : Bool) :
    (session.runStopForPeer reason tell).launches = session.launches := by
  unfold runStopForPeer
  dsimp only
  split
  · rw [launches_note_of_quiet _ rfl, launches_stop]
  · exact session.launches_stop _

theorem launches_failAttempt (session : Session) (attempt : Nat) :
    (session.failAttempt attempt).launches = session.launches := by
  unfold failAttempt
  split
  · split
    · exact launches_giveUp _ _
    · rfl
  · rfl

/-- A timer that is due leads to a restart or to giving up, but sets out for nothing by itself. -/
theorem launches_runExpire (session : Session) (attempt : Nat) :
    (session.runExpire attempt).launches = session.launches := by
  unfold runExpire
  split
  · rfl
  · split
    · dsimp only
      split
      · exact congrArg SessionCore.launches (core_beginRecovery _ _ _ _)
      · exact launches_giveUp _ _
      · exact launches_giveUp _ _
      · rfl
      · rfl
    · rfl

theorem launches_finishRestart (session : Session) (attempt : Nat) (result : Except Failure Unit) :
    (session.finishRestart attempt result).launches = session.launches := by
  unfold finishRestart
  split
  · rfl
  · rfl
  · exact launches_failAttempt _ _

/-- A restart sets out to connect only where it has yet to set the session up. -/
theorem IsCalm.launches_runRestart (calm : session.IsCalm) (attempt : Nat) :
    (session.runRestart attempt).launches = session.launches := by
  unfold runRestart
  split
  · next restart found =>
      have settled := calm.isOutstanding_eq_false found
      split
      · unfold stepRestart
        cases stage : restart.stage with
        | starting startup =>
            dsimp only
            split
            · exact launches_finishRestart _ _ _
            · rfl
        | ended => rfl
        | paused due => rfl
        | spawned => rw [stage] at settled; cases settled
        | resuming => rw [stage] at settled; cases settled
      · rfl
  · rfl

theorem launches_event (tracks : session.core.Tracks history) {pump : Pump} (runs : session.link.pump = some pump)
    (event : TransportEvent) :
    (session.handleEvent event).launches = session.launches ∧ (session.handleEvent event).link.pump = some pump := by
  obtain ⟨since, _, sound⟩ := tracks.attempt pump.transport (tracks.pump pump runs)
  have moves := moves_event sound event
  exact ⟨moves.launches, moves.pump.trans runs⟩

theorem launches_events (tracks : session.core.Tracks history) {pump : Pump} (runs : session.link.pump = some pump)
    (events : List TransportEvent) : (events.foldl handleEvent session).launches = session.launches := by
  induction events generalizing session history with
  | nil => rfl
  | cons event rest ih =>
      obtain ⟨first, stillRuns⟩ := launches_event tracks runs event
      exact (ih (tracks_event tracks runs event).1 stillRuns).trans first

theorem launches_runPump (tracks : session.core.Tracks history) (transport : Nat) :
    (session.runPump transport).launches = session.launches := by
  unfold runPump
  split
  · next pump runs =>
      split
      · next same =>
          rw [← same]
          exact launches_events ((Step.queue session runs []).tracks tracks).1 rfl _
      · rfl
  · rfl

/-- Where recovery is calm, no task sets out to connect. -/
theorem IsCalm.launches_runTask (calm : session.IsCalm) (tracks : session.core.Tracks history) (task : Task) :
    (session.runTask task).launches = session.launches := by
  cases task with
  | pump transport => exact launches_runPump tracks transport
  | push publicKey => exact congrArg SessionCore.launches (session.core_runPush publicKey)
  | stopForPeer reason tell => exact session.launches_runStopForPeer reason tell
  | expire attempt => exact session.launches_runExpire attempt
  | restart attempt => exact calm.launches_runRestart attempt

/-- What can become of a session that runs while a stop of it waits: its transport
goes on to report, and tasks run, but none that sets it up again. -/
inductive Awaits (session : Session) : Session → Prop
  | refl : Awaits session session
  | event {waiting : Session} (former : Awaits session waiting) {pump : Pump} (runs : waiting.link.pump = some pump)
      (event : TransportEvent) : Awaits session (waiting.handleEvent event)
  | report {waiting : Session} (former : Awaits session waiting) (transport : Nat) (events : List TransportEvent) :
      Awaits session (waiting.report transport events).1
  | task {waiting : Session} (former : Awaits session waiting) (calm : waiting.IsCalm) (task : Task) :
      Awaits session (waiting.runTask task)
  /-- Whatever else leaves the core alone, as the timers do. -/
  | other {waiting after : Session} (former : Awaits session waiting) (same : after.core = waiting.core) :
      Awaits session after

theorem Awaits.leadsTo {waiting : Session} (awaits : session.Awaits waiting) (tracks : session.core.Tracks history) :
    LeadsTo session waiting := by
  induction awaits with
  | refl => exact .refl _
  | event former runs event ih => exact ih.step (.event _ runs event)
  | report former transport events ih => exact ih.report transport events
  | task former calm task ih => exact ih.runTask tracks task
  | other former same ih => exact ih.other same

theorem launches_report (session : Session) (transport : Nat) (events : List TransportEvent) :
    (session.report transport events).1.launches = session.launches := by
  unfold report
  split
  · split <;> rfl
  · rfl

theorem Awaits.launches {waiting : Session} (awaits : session.Awaits waiting) (tracks : session.core.Tracks history) :
    waiting.launches = session.launches := by
  induction awaits with
  | refl => rfl
  | event former runs event ih =>
      obtain ⟨_, run⟩ := former.leadsTo tracks
      exact (launches_event (run.tracks_append tracks).1 runs event).1.trans ih
  | report former transport events ih => exact (launches_report _ _ _).trans ih
  | task former calm task ih =>
      obtain ⟨_, run⟩ := former.leadsTo tracks
      exact (calm.launches_runTask (run.tracks_append tracks).1 task).trans ih
  | other former same ih => exact (congrArg SessionCore.launches same).trans ih

/-- The application or the device ends a session while recovery is not about to set it up. -/
inductive Ends (session : Session) : Session → Prop
  | stop (calm : session.IsCalm) (options : StopOptions) : Ends session (session.stop options)
  | takeDown (calm : session.IsCalm) (options : StopOptions) : Ends session (session.takeDown options)
  /-- A disconnect of the device is handled, and later the stop runs that it asks for. -/
  | device {pump : Pump} (runs : session.link.pump = some pump) {event : TransportEvent}
      (asks : event.asksToEnd = true) {waiting : Session} (awaits : (session.handleEvent event).Awaits waiting)
      (calm : waiting.IsCalm) (reason : DisconnectReason) (tell : Bool) :
      Ends session (waiting.runTask (.stopForPeer reason tell))

/-- Nothing has set out to connect since a session, and the one it became stays ended. -/
theorem Ends.staysEnded {ended : Session} (ends : session.Ends ended) (tracks : session.core.Tracks history) :
    session.StaysEnded ended := by
  cases ends with
  | stop calm options => exact calm.stop options
  | takeDown calm options => exact calm.takeDown options
  | device runs asks awaits calm reason tell =>
      have waited := awaits.launches (tracks_event tracks runs _).1
      have stays := calm.runStopForPeer reason tell
      refine ⟨stays.ended, stays.launches.trans (waited.trans ?_)⟩
      exact (launches_event tracks runs _).1

/-- Nothing sets out to connect once a session has ended that recovery was not about to set up. -/
structure RestsAfter (session ended last : Session) : Prop where
  launches : last.launches = session.launches
  /-- Whatever tasks are ready, they may run next, and time may pass. -/
  runs : Afterwards ended last.runReady
  passes : ∀ duration, Afterwards ended (last.pass duration)
  /-- A disconnect of the device leaves a stop to run, and until it does nothing sets out to connect. -/
  awaits : ∀ (pump : Pump) event, session.link.pump = some pump → event.asksToEnd = true →
    (∃ reason tell, (session.handleEvent event).ready = session.ready ++ [.stopForPeer reason tell]) ∧
      ∀ waiting, (session.handleEvent event).Awaits waiting → waiting.launches = session.launches

theorem restsAfter_of_run {first ended last : Session} (fresh : first.IsFresh) (run : Run first history session)
    (ends : session.Ends ended) (later : Afterwards ended last) : session.RestsAfter ended last := by
  have tracks := run.tracks fresh
  constructor
  case launches =>
    have former := ends.staysEnded tracks
    exact (former.trans (later.staysEnded former.ended)).launches
  case runs => exact later.runTasks _
  case passes => exact fun _ => later.passSteps _ _
  case awaits =>
    intro pump event runs asks
    refine ⟨session.ready_of_asksToEnd asks, fun waiting awaits => ?_⟩
    exact (awaits.launches (tracks_event tracks runs event).1).trans (launches_event tracks runs event).1

/-- A session whose task is connected over some carrier, with recovery that watches over it. -/
def connectedSession (task : CarrierTask) : Session :=
  [.taskReady task, .taskState .connected].foldl handleEvent (startedSession.attachRecovery {})

/-- The device ended the session, and the stop it asks for has yet to run. -/
def dismissedSession : Session :=
  (connectedSession .direct).handleEvent (.application (.record [("type", .text "disconnect")]))

/-- The connection is lost, and recovery restarts as far as it can without waiting. -/
def lostSession (task : CarrierTask) : Session :=
  ((connectedSession task).report 0 [.taskState .disconnected]).1.runReady

/-- The first restart over a direct connection did not help, and the second one waits. -/
def escalatedSession : Session :=
  (lostSession .direct).pass 20000

theorem isCalm_escalatedSession : escalatedSession.IsCalm := by
  have waits : (escalatedSession.recovery.map fun recovery => (recovery.phase, recovery.restart.map (·.stage))) =
      some (.phaseTwo, some (.starting 2)) := by decide +kernel
  intro recovery watched pending
  rw [watched, Option.map_some, Option.some_inj, Prod.mk.injEq] at waits
  rcases pending with ⟨restart, held, outstanding⟩ | ⟨_, first, _⟩
  · rw [held, Option.map_some, Option.some_inj] at waits
    rw [waits.2] at outstanding
    cases outstanding
  · rw [waits.1] at first
    cases first

theorem isCalm_dismissedSession : dismissedSession.IsCalm := by
  have idle : (dismissedSession.recovery.map fun recovery => (recovery.timer.isNone, recovery.restart.isNone)) =
      some (true, true) := by decide +kernel
  intro recovery watched
  rw [watched, Option.map_some, Option.some_inj, Prod.mk.injEq, Option.isNone_iff_eq_none,
    Option.isNone_iff_eq_none] at idle
  exact Recovery.not_isPending_of_none idle.1 idle.2

theorem leadsTo_connectedSession (task : CarrierTask) : LeadsTo freshSession (connectedSession task) := by
  have watched : LeadsTo freshSession (startedSession.attachRecovery {}) := leadsTo_startedSession.other rfl
  have runs : (startedSession.attachRecovery {}).link.pump = some ⟨0, []⟩ := rfl
  exact watched.events isFresh_freshSession.tracks runs _

theorem pump_connectedSession : (connectedSession .direct).link.pump.map (·.transport) = some 0 := by
  decide +kernel

theorem leadsTo_escalatedSession : LeadsTo freshSession escalatedSession := by
  have tracks := isFresh_freshSession.tracks
  have reported := (leadsTo_connectedSession .direct).report 0 [.taskState .disconnected]
  have lost : LeadsTo freshSession (lostSession .direct) := reported.runTasks tracks _
  exact lost.passSteps tracks _ _

/-- A stop that comes during the second restart ends recovery, as does one of the device while connected. -/
theorem restsAfter_escalatedSession :
    escalatedSession.RestsAfter (escalatedSession.stop {}) ((escalatedSession.stop {}).pass 60000) ∧
      ((escalatedSession.stop {}).pass 60000).recovery.map (·.phase) = some .failed ∧
      (connectedSession .direct).RestsAfter (dismissedSession.runTask (.stopForPeer .sessionStopped false))
        (dismissedSession.runTask (.stopForPeer .sessionStopped false)) := by
  refine ⟨?_, ?_, ?_⟩
  · obtain ⟨_, run⟩ := leadsTo_escalatedSession
    exact restsAfter_of_run isFresh_freshSession run (.stop isCalm_escalatedSession {}) (Afterwards.refl.passSteps _ _)
  · decide +kernel
  · obtain ⟨_, run⟩ := leadsTo_connectedSession .direct
    obtain ⟨pump, runs, _⟩ := Option.map_eq_some_iff.mp pump_connectedSession
    exact restsAfter_of_run isFresh_freshSession run
      (.device runs (by decide +kernel) .refl isCalm_dismissedSession .sessionStopped false) .refl

/-- A stop that comes during a first restart does not: its timer, or the end of its pause, sets the session up again. -/
theorem launches_lostSession :
    ((lostSession .direct).stop {}).launches.length = 4 ∧
      (((lostSession .direct).stop {}).runReady.pass 60000).launches.length = 6 ∧
    ((lostSession .relayed).stop {}).launches.length = 2 ∧
      (((lostSession .relayed).stop {}).runReady.pass 60000).launches.length = 4 := by
  decide +kernel

end Session

end RelayClient
