import RelayClient.Proofs.Recovery.Frame
import RelayClient.Proofs.Session.Core

/-!
# The end of a session

A session that was stopped sets out for nothing until it is set up again, whatever
tasks still run and whatever time passes. This holds where recovery is calm: no
restart has yet to set the session up, and no timer leads to another restart.
-/

namespace RelayClient

/-- Whether a restart has yet to set the session up. -/
def RestartStage.isOutstanding : RestartStage → Bool
  | .spawned | .paused _ | .resuming => true
  | .starting _ | .ended => false

namespace Recovery

/-- Recovery is about to set the session up: a restart has not come to it yet, or
the timer of a first restart over a direct connection leads to a second one. -/
def IsPending (recovery : Recovery) : Prop :=
  (∃ restart, recovery.restart = some restart ∧ restart.stage.isOutstanding = true) ∨
    (recovery.timer.isSome = true ∧ recovery.phase = .phaseOne ∧ recovery.carrier = some .direct)

variable {recovery : Recovery}

theorem not_isPending_of_none (off : recovery.timer = none) (unbegun : recovery.restart = none) :
    ¬ recovery.IsPending := by
  rintro (⟨restart, found, _⟩ | ⟨armed, _⟩)
  · rw [unbegun] at found
    cases found
  · rw [off] at armed
    cases armed

theorem not_isPending_clearTimer (calm : ¬ recovery.IsPending) : ¬ recovery.clearTimer.IsPending := by
  rintro (outstanding | ⟨armed, _⟩)
  · exact calm (.inl outstanding)
  · cases armed

end Recovery

namespace Session

/-- Recovery, if there is any, is not about to set the session up. -/
def IsCalm (session : Session) : Prop :=
  ∀ recovery, session.recovery = some recovery → ¬ recovery.IsPending

/-- A session without a transport, which nothing is about to set up. -/
structure IsEnded (session : Session) : Prop where
  transport : session.link.transport = none
  pump : session.link.pump = none
  calm : session.IsCalm

/-- A session that ended and has set out for nothing since. -/
structure StaysEnded (before after : Session) : Prop where
  ended : after.IsEnded
  launches : after.launches = before.launches

theorem setBuildup_recovery (session : Session) {state : Buildup} (quiet : state.isProgress = false) :
    (session.setBuildup state).recovery = session.recovery := by
  refine postStatus_recovery _ fun event posted => ?_
  rw [Status.eq_of_mem_setBuildup posted, StatusEvent.isQuiet, quiet]
  rfl

/-- A push that is sent is no progress to recovery. -/
theorem runPush_recovery (session : Session) (publicKey : Cipher.Key) :
    (session.runPush publicKey).recovery = session.recovery := by
  obtain ⟨push, sent, sends, shown⟩ := session.runPush_cases publicKey
  have same : sent.recovery = session.recovery := by
    rcases sends with rfl | ⟨request, rfl⟩
    · rfl
    · exact note_recovery _ _
  rcases shown with done | done
  · rw [done, same]
  · rw [done, setBuildup_recovery _ rfl, same]

variable {session : Session}

/-- A restart that is there in spite of calm has set the session up already. -/
theorem IsCalm.isOutstanding_eq_false (calm : session.IsCalm) {restart : Restart}
    (found : session.recovery.bind (·.restart) = some restart) : restart.stage.isOutstanding = false := by
  obtain ⟨recovery, watched, held⟩ := Option.bind_eq_some_iff.mp found
  rw [← Bool.not_eq_true]
  exact fun outstanding => calm recovery watched (.inl ⟨restart, held, outstanding⟩)

/-- Taking a session down ends it, unless recovery is about to set it up. -/
theorem IsCalm.takeDown (calm : session.IsCalm) (options : StopOptions) :
    session.StaysEnded (session.takeDown options) := by
  have core := session.core_takeDown options
  have link : (session.takeDown options).link = session.link.takenDown := congrArg SessionCore.link core
  refine ⟨⟨?_, ?_, ?_⟩, congrArg SessionCore.launches core⟩
  · rw [link]
    rfl
  · rw [link]
    rfl
  · intro recovery watched
    rw [takeDown_recovery] at watched
    exact calm recovery watched

theorem IsCalm.note (calm : session.IsCalm) (effect : Effect) : (session.note effect).IsCalm := by
  intro recovery watched
  rw [note_recovery] at watched
  exact calm recovery watched

theorem IsCalm.of_recovery {recovery : Recovery} (calm : ¬ recovery.IsPending) :
    { session with recovery := some recovery }.IsCalm := by
  rintro _ ⟨⟩
  exact calm

theorem StaysEnded.note {before : Session} (stays : before.StaysEnded session) {effect : Effect}
    (quiet : effect.isLaunch = false) : before.StaysEnded (session.note effect) := by
  have core := session.core_note quiet
  have link : (session.note effect).link = session.link := congrArg SessionCore.link core
  refine ⟨⟨?_, ?_, stays.ended.calm.note effect⟩, (congrArg SessionCore.launches core).trans stays.launches⟩
  · rw [link]
    exact stays.ended.transport
  · rw [link]
    exact stays.ended.pump

theorem IsCalm.stop (calm : session.IsCalm) (options : StopOptions) : session.StaysEnded (session.stop options) := by
  unfold Session.stop
  dsimp only
  split
  · exact (calm.takeDown options).note rfl
  · exact calm.takeDown options

/-- A stop that the device asked for is a stop. -/
theorem IsCalm.runStopForPeer (calm : session.IsCalm) (reason : DisconnectReason) (tell : Bool) :
    session.StaysEnded (session.runStopForPeer reason tell) := by
  unfold Session.runStopForPeer
  dsimp only
  split
  · exact (calm.stop _).note rfl
  · exact calm.stop _

/-- What changes neither the link nor recovery, and sets out for nothing, leaves a session ended. -/
theorem IsEnded.unchanged (ended : session.IsEnded) {after : Session} (link : after.link = session.link)
    (recovery : after.recovery = session.recovery) (launches : after.launches = session.launches) :
    session.StaysEnded after := by
  refine ⟨⟨?_, ?_, ?_⟩, launches⟩
  · rw [link]
    exact ended.transport
  · rw [link]
    exact ended.pump
  · intro _ watched
    rw [recovery] at watched
    exact ended.calm _ watched

theorem StaysEnded.trans {first second third : Session} (former : first.StaysEnded second)
    (latter : second.StaysEnded third) : first.StaysEnded third :=
  ⟨latter.ended, latter.launches.trans former.launches⟩

theorem IsCalm.giveUp (calm : session.IsCalm) (keys : Option ResumeKeys) : session.StaysEnded (session.giveUp keys) :=
  (calm.stop .givingUp).note rfl

/-- Recovery that gives up ends the session, and does not set it up again. -/
theorem staysEnded_giveUp (session : Session) {recovery : Recovery} (off : recovery.timer = none)
    (unbegun : recovery.restart = none) (keys : Option ResumeKeys) :
    session.StaysEnded ({ session with recovery := some recovery }.giveUp keys) := by
  have calm : { session with recovery := some recovery }.IsCalm :=
    .of_recovery (Recovery.not_isPending_of_none off unbegun)
  have stays := calm.giveUp keys
  exact ⟨stays.ended, stays.launches⟩

theorem IsCalm.setStage_ended (calm : session.IsCalm) (attempt : Nat) : (session.setStage attempt .ended).IsCalm := by
  intro recovery watched pending
  obtain ⟨former, held, rfl⟩ := Option.map_eq_some_iff.mp watched
  refine calm former held ?_
  rcases pending with ⟨restart, found, outstanding⟩ | armed
  · obtain ⟨begun, same, rfl⟩ := Option.map_eq_some_iff.mp found
    split at outstanding
    · cases outstanding
    · exact .inl ⟨begun, same, outstanding⟩
  · exact .inr armed

namespace IsEnded

theorem refl (ended : session.IsEnded) : session.StaysEnded session :=
  ⟨ended, rfl⟩

theorem runPump (ended : session.IsEnded) (transport : Nat) : session.StaysEnded (session.runPump transport) := by
  unfold Session.runPump
  rw [ended.pump]
  exact ended.refl

theorem runPush (ended : session.IsEnded) (publicKey : Cipher.Key) :
    session.StaysEnded (session.runPush publicKey) := by
  have core := session.core_runPush publicKey
  exact ended.unchanged (congrArg SessionCore.link core) (session.runPush_recovery publicKey)
    (congrArg SessionCore.launches core)

/-- A timer that is due may only lead to giving up. -/
theorem runExpire (ended : session.IsEnded) (attempt : Nat) : session.StaysEnded (session.runExpire attempt) := by
  unfold Session.runExpire
  cases watched : session.recovery with
  | none => exact ended.refl
  | some recovery =>
      have calm := ended.calm recovery watched
      dsimp only
      split
      · next due =>
          split
          · next first direct =>
              obtain ⟨timer, armed, _⟩ := Option.map_eq_some_iff.mp due
              exact absurd (.inr ⟨by rw [armed]; rfl, first, direct⟩) calm
          · exact session.staysEnded_giveUp rfl rfl _
          · exact session.staysEnded_giveUp rfl rfl _
          · exact ⟨⟨ended.transport, ended.pump, .of_recovery (Recovery.not_isPending_clearTimer calm)⟩, rfl⟩
          · exact ⟨⟨ended.transport, ended.pump, .of_recovery (Recovery.not_isPending_clearTimer calm)⟩, rfl⟩
      · exact ended.refl

theorem failAttempt (ended : session.IsEnded) (attempt : Nat) : session.StaysEnded (session.failAttempt attempt) := by
  unfold Session.failAttempt
  cases session.recovery with
  | none => exact ended.refl
  | some recovery =>
      dsimp only
      split
      · exact session.staysEnded_giveUp rfl rfl _
      · exact ended.refl

theorem setStage_ended (ended : session.IsEnded) (attempt : Nat) :
    session.StaysEnded (session.setStage attempt .ended) :=
  ⟨⟨ended.transport, ended.pump, ended.calm.setStage_ended attempt⟩, rfl⟩

theorem finishRestart (ended : session.IsEnded) (attempt : Nat) (result : Except Failure Unit) :
    session.StaysEnded (session.finishRestart attempt result) := by
  have stays := ended.setStage_ended attempt
  unfold Session.finishRestart
  split
  · exact stays
  · exact stays
  · exact stays.trans (stays.ended.failAttempt attempt)

/-- A restart that already started the session may only learn what its start came to. -/
theorem runRestart (ended : session.IsEnded) (attempt : Nat) : session.StaysEnded (session.runRestart attempt) := by
  unfold Session.runRestart
  split
  · next restart found =>
      have settled := ended.calm.isOutstanding_eq_false found
      split
      · unfold Session.stepRestart
        cases stage : restart.stage with
        | spawned => rw [stage] at settled; cases settled
        | paused due => exact ended.refl
        | resuming => rw [stage] at settled; cases settled
        | starting startup =>
            dsimp only
            split
            · exact ended.finishRestart _ _
            · exact ended.refl
        | ended => exact ended.refl
      · exact ended.refl
  · exact ended.refl

theorem runTask (ended : session.IsEnded) (task : Task) : session.StaysEnded (session.runTask task) := by
  cases task with
  | pump transport => exact ended.runPump transport
  | push publicKey => exact ended.runPush publicKey
  | stopForPeer reason tell => exact ended.calm.runStopForPeer reason tell
  | expire attempt => exact ended.runExpire attempt
  | restart attempt => exact ended.runRestart attempt

/-- The only timer that can be due is that of an attempt, for no restart pauses. -/
theorem wake (ended : session.IsEnded) : session.StaysEnded session.wake := by
  have expiries : ∀ timed ∈ session.wakeTimes, ∃ attempt, timed.2 = .expire attempt := by
    unfold wakeTimes
    cases watched : session.recovery with
    | none => exact nofun
    | some recovery =>
        intro timed mem
        rcases List.mem_append.mp mem with mem | mem
        · obtain ⟨timer, _, rfl⟩ := List.mem_map.mp mem
          exact ⟨timer.attempt, rfl⟩
        · split at mem
          · next held => exact absurd (.inl ⟨_, held, rfl⟩) (ended.calm recovery watched)
          · cases mem
  apply wake_induction ended.refl
  intro current timed mem stays
  obtain ⟨attempt, same⟩ := expiries timed mem
  rw [same]
  exact stays.trans (stays.ended.unchanged rfl rfl rfl)

theorem report (ended : session.IsEnded) (transport : Nat) (events : List TransportEvent) :
    session.StaysEnded (session.report transport events).1 := by
  unfold Session.report
  rw [ended.pump]
  exact ended.refl

theorem settleStartup (ended : session.IsEnded) (startup : Nat) (result : Except Failure Unit) :
    session.StaysEnded (session.settleStartup startup result) := by
  have core := session.core_settleStartup startup result
  exact ended.unchanged (congrArg SessionCore.link core) (session.settleStartup_recovery startup result)
    (congrArg SessionCore.launches core)

/-- Without a transport there is nothing to start. -/
theorem start (ended : session.IsEnded) : session.StaysEnded session.start.1 := by
  have entered : session.StaysEnded session.enterStartup.1 := by
    have bare : session.StaysEnded { session with
        startups := session.startups ++ [none]
        link := { session.link with startup := some session.startups.length, startupDone := false } } :=
      ⟨⟨ended.transport, ended.pump, ended.calm⟩, rfl⟩
    unfold enterStartup
    cases session.link.startup with
    | none => exact bare
    | some former => exact bare.trans (bare.ended.settleStartup _ _)
  unfold Session.start
  generalize session.enterStartup = result at entered
  obtain ⟨opened, startup⟩ := result
  dsimp only
  rw [entered.ended.transport]
  dsimp only
  unfold refuseStartup
  have refused : session.StaysEnded { opened with link := { opened.link with startup := none } } :=
    ⟨⟨entered.ended.transport, entered.ended.pump, entered.ended.calm⟩, entered.launches⟩
  exact refused.trans (refused.ended.settleStartup _ _)

end IsEnded

/-- What can become of a session that ended, as long as the application does not set
it up again: tasks run in any order, time passes, transports report, and the
application does whatever else leaves the link and recovery alone. -/
inductive Afterwards (ended : Session) : Session → Prop
  | refl : Afterwards ended ended
  | task {session : Session} (later : Afterwards ended session) (task : Task) : Afterwards ended (session.runTask task)
  | wake {session : Session} (later : Afterwards ended session) : Afterwards ended session.wake
  | report {session : Session} (later : Afterwards ended session) (transport : Nat) (events : List TransportEvent) :
      Afterwards ended (session.report transport events).1
  | start {session : Session} (later : Afterwards ended session) : Afterwards ended session.start.1
  | stop {session : Session} (later : Afterwards ended session) (options : StopOptions) :
      Afterwards ended (session.stop options)
  | attach {session : Session} (later : Afterwards ended session) (times : RecoveryTimes) :
      Afterwards ended (session.attachRecovery times)
  | detach {session : Session} (later : Afterwards ended session) : Afterwards ended session.detachRecovery
  | other {session other : Session} (later : Afterwards ended session) (link : other.link = session.link)
      (recovery : other.recovery = session.recovery) (launches : other.launches = session.launches) :
      Afterwards ended other

namespace Afterwards

variable {ended last : Session}

theorem staysEnded (later : Afterwards ended last) (sound : ended.IsEnded) : ended.StaysEnded last := by
  induction later with
  | refl => exact sound.refl
  | task later task ih => exact ih.trans (ih.ended.runTask task)
  | wake later ih => exact ih.trans ih.ended.wake
  | report later transport events ih => exact ih.trans (ih.ended.report transport events)
  | start later ih => exact ih.trans ih.ended.start
  | stop later options ih => exact ih.trans (ih.ended.calm.stop options)
  | attach later times ih =>
      exact ⟨⟨ih.ended.transport, ih.ended.pump, .of_recovery (Recovery.not_isPending_of_none rfl rfl)⟩, ih.launches⟩
  | detach later ih => exact ⟨⟨ih.ended.transport, ih.ended.pump, fun _ watched => nomatch watched⟩, ih.launches⟩
  | other later link recovery launches ih => exact ih.trans (ih.ended.unchanged link recovery launches)

/-- Running the ready tasks is one of the things that can become of a session. -/
theorem runTasks (later : Afterwards ended last) (count : Nat) : Afterwards ended (last.runTasks count) :=
  runTasks_induction (fun _ _ later => later.other rfl rfl rfl) (fun _ task later => later.task task) later count

theorem passSteps (later : Afterwards ended last) (limit stops : Nat) :
    Afterwards ended (last.passSteps limit stops) :=
  passSteps_induction (fun _ _ later => later.other rfl rfl rfl) (fun _ later => later.wake)
    (fun _ later => later.runTasks _) later limit stops

end Afterwards

end Session

end RelayClient
