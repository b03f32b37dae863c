import RelayClient.Proofs.Exchange.Idle
import RelayClient.Proofs.Recovery.Rest
import RelayClient.Proofs.Session.Sequel
import RelayClient.Proofs.Session.TakeDown
import RelayClient.Proofs.Status.Derived

/-!
# Stopped sessions

After a stop the summary is bad, no channel is attached and no request is pending,
whatever tasks of earlier attempts still run. The buildup is new as well, as long as
the push of an earlier start does not go out late: such a push shows on a session
that was stopped.
-/

namespace RelayClient

namespace Session

theorem messenger_note (session : Session) (effect : Effect) : (session.note effect).messenger = session.messenger := by
  unfold note
  split <;> rfl

theorem messenger_reactTo (session : Session) (event : StatusEvent) :
    (session.reactTo event).messenger = session.messenger := by
  obtain ⟨data, next, ready, same⟩ := session.reactTo_frame event
  rw [same]

theorem messenger_postStatus (session : Session) (events : List StatusEvent) :
    (session.postStatus events).messenger = session.messenger := by
  unfold postStatus
  induction events generalizing session with
  | nil => rfl
  | cons event rest ih => rw [List.foldl_cons, ih, messenger_reactTo, messenger_note]

theorem status_postStatus (session : Session) (events : List StatusEvent) :
    (session.postStatus events).status = session.status := by
  unfold postStatus
  induction events generalizing session with
  | nil => rfl
  | cons event rest ih =>
      rw [List.foldl_cons, ih, (watch_reactTo _ event).1]
      unfold note
      split <;> rfl

theorem status_applyStatus (session : Session) (update : Status × List StatusEvent) :
    (session.applyStatus update).status = update.1 :=
  status_postStatus _ _

/-- Nothing of an attempt is left. -/
structure IsDown (session : Session) : Prop where
  global : session.status.global = .error
  idle : session.messenger.IsIdle
  pump : session.link.pump = none

/-- Nothing of an attempt is left, and nothing shows of another one. -/
structure IsBlank (session : Session) : Prop extends IsDown session where
  buildup : session.status.buildup = .new

variable {session before middle after : Session}

theorem status_takeDown (session : Session) (options : StopOptions) :
    ∃ former now, (session.takeDown options).status = (Status.reset former true now).1 := by
  obtain ⟨ready, down⟩ := session.takeDown_frame options
  exact ⟨session.status, session.now, by rw [down]⟩

theorem messenger_takeDown (session : Session) (options : StopOptions) :
    (session.takeDown options).messenger.IsIdle := by
  obtain ⟨ready, down⟩ := session.takeDown_frame options
  rw [down]
  exact Messenger.isIdle_clear _

theorem isBlank_takeDown (session : Session) (options : StopOptions) : (session.takeDown options).IsBlank := by
  obtain ⟨former, now, reset⟩ := session.status_takeDown options
  have link : (session.takeDown options).link = session.link.takenDown :=
    congrArg SessionCore.link (session.core_takeDown options)
  refine ⟨⟨?_, session.messenger_takeDown options, ?_⟩, ?_⟩
  · rw [reset, Status.reset_global]
  · rw [link]
    rfl
  · rw [reset, Status.reset_buildup]

/-- What shows of a session stays as it is. -/
structure Keeps (before after : Session) : Prop where
  status : after.status = before.status
  messenger : after.messenger = before.messenger
  pump : after.link.pump = before.link.pump

theorem Keeps.refl (session : Session) : Keeps session session :=
  ⟨rfl, rfl, rfl⟩

theorem keeps_note (session : Session) {effect : Effect} (silent : effect.isLoss = false)
    (quiet : effect.isLaunch = false) : Keeps session (session.note effect) where
  status := congrArg Watch.status (session.watch_note silent)
  messenger := session.messenger_note effect
  pump := congrArg (fun core : SessionCore => core.link.pump) (session.core_note quiet)

theorem Keeps.isDown (keeps : Keeps before after) (down : before.IsDown) : after.IsDown := by
  refine ⟨?_, ?_, ?_⟩
  · rw [keeps.status]
    exact down.global
  · rw [keeps.messenger]
    exact down.idle
  · rw [keeps.pump]
    exact down.pump

theorem Keeps.isBlank (keeps : Keeps before after) (blank : before.IsBlank) : after.IsBlank := by
  refine ⟨keeps.isDown blank.toIsDown, ?_⟩
  rw [keeps.status]
  exact blank.buildup

theorem isBlank_stop (session : Session) (options : StopOptions) : (session.stop options).IsBlank := by
  have down := session.isBlank_takeDown options
  unfold stop
  dsimp only
  split
  · exact (keeps_note _ rfl rfl).isBlank down
  · exact down

theorem isBlank_giveUp (session : Session) (keys : Option ResumeKeys) : (session.giveUp keys).IsBlank :=
  (keeps_note _ rfl rfl).isBlank (session.isBlank_stop _)

/-- What shows of a session stays as it is, or the session is stopped once more. -/
def Settles (before after : Session) : Prop :=
  Keeps before after ∨ after.IsBlank

theorem Settles.isDown (settles : Settles before after) (down : before.IsDown) : after.IsDown := by
  rcases settles with keeps | blank
  · exact keeps.isDown down
  · exact blank.toIsDown

theorem Settles.isBlank (settles : Settles before after) (blank : before.IsBlank) : after.IsBlank := by
  rcases settles with keeps | blank
  · exact keeps.isBlank blank
  · exact blank

theorem settles_runStopForPeer (session : Session) (reason : DisconnectReason) (tell : Bool) :
    Settles session (session.runStopForPeer reason tell) := by
  have stopped := session.isBlank_stop (.fromPeer reason)
  unfold runStopForPeer
  dsimp only
  split
  · exact .inr ((keeps_note _ rfl rfl).isBlank stopped)
  · exact .inr stopped

theorem keeps_beginRecovery (session : Session) (recovery : Recovery) (phase : RecoveryPhase) (delay : Nat) :
    Keeps session (session.beginRecovery recovery phase delay) := by
  obtain ⟨next, ready, same⟩ := session.beginRecovery_frame recovery phase delay
  rw [same]
  exact ⟨rfl, rfl, rfl⟩

theorem settles_runExpire (session : Session) (attempt : Nat) : Settles session (session.runExpire attempt) := by
  unfold runExpire
  split
  · exact .inl (.refl session)
  · split
    · dsimp only
      split
      · exact .inl (session.keeps_beginRecovery _ _ _)
      · exact .inr (isBlank_giveUp _ _)
      · exact .inr (isBlank_giveUp _ _)
      · exact .inl ⟨rfl, rfl, rfl⟩
      · exact .inl ⟨rfl, rfl, rfl⟩
    · exact .inl (.refl session)

theorem settles_finishRestart (session : Session) (attempt : Nat) (result : Except Failure Unit) :
    Settles session (session.finishRestart attempt result) := by
  have ended : Keeps session (session.setStage attempt .ended) := ⟨rfl, rfl, rfl⟩
  unfold finishRestart
  split
  · exact .inl ended
  · exact .inl ended
  · unfold failAttempt
    split
    · split
      · exact .inr (isBlank_giveUp _ _)
      · exact .inl ended
    · exact .inl ended

/-- Whether a task sets the session up: a restart that is not held up does. -/
def setsUp (session : Session) : Task → Bool
  | .restart attempt =>
      match session.recovery.bind (·.restart) with
      | some restart =>
          restart.attempt = attempt ∧
            (restart.stage = .resuming ∨ restart.stage = .spawned ∧ session.holdUp? restart = none)
      | none => false
  | _ => false

theorem settles_runRestart {attempt : Nat} (unset : session.setsUp (.restart attempt) = false) :
    Settles session (session.runRestart attempt) := by
  unfold setsUp at unset
  unfold runRestart
  split
  · next restart found =>
      rw [found] at unset
      dsimp only at unset
      split
      · next same =>
          rw [decide_eq_false_iff_not] at unset
          unfold stepRestart
          cases stage : restart.stage with
          | spawned =>
              dsimp only
              split
              · next immediate => exact absurd ⟨same, .inr ⟨stage, immediate⟩⟩ unset
              · have paused (stopped : Session) (due : Nat) :
                    Keeps stopped (stopped.setStage restart.attempt (.paused due)) :=
                  ⟨rfl, rfl, rfl⟩
                exact .inr ((paused _ _).isBlank (session.isBlank_stop .soft))
          | resuming => exact absurd ⟨same, .inl stage⟩ unset
          | paused due => exact .inl (.refl session)
          | ended => exact .inl (.refl session)
          | starting startup =>
              dsimp only
              split
              · exact session.settles_finishRestart _ _
              · exact .inl (.refl session)
      · exact .inl (.refl session)
  · exact .inl (.refl session)

/-- Without a pump no event is handled, and no event is taken. -/
theorem runPump_of_isDown (down : session.IsDown) (transport : Nat) : session.runPump transport = session := by
  unfold runPump
  rw [down.pump]

theorem report_of_isDown (down : session.IsDown) (transport : Nat) (events : List TransportEvent) :
    session.report transport events = (session, 0) := by
  unfold report
  rw [down.pump]

/-- A push that goes out late may show, and changes nothing else. -/
theorem isDown_runPush (down : session.IsDown) (publicKey : Cipher.Key) : (session.runPush publicKey).IsDown := by
  obtain ⟨push, sent, sends, shown⟩ := session.runPush_cases publicKey
  have keeps : Keeps session sent := by
    rcases sends with rfl | ⟨request, rfl⟩
    · exact ⟨rfl, rfl, rfl⟩
    · exact ⟨(keeps_note _ rfl rfl).status, (keeps_note _ rfl rfl).messenger, (keeps_note _ rfl rfl).pump⟩
  rcases shown with done | done
  · rw [done]
    exact keeps.isDown down
  · rw [done]
    have sentDown := keeps.isDown down
    have pump : (sent.setBuildup .push).link.pump = sent.link.pump :=
      congrArg (fun core : SessionCore => core.link.pump) (sent.core_setBuildup .push)
    refine ⟨?_, ?_, ?_⟩
    · rw [setBuildup, status_applyStatus, Status.setBuildup_global]
      exact sentDown.global
    · rw [setBuildup, applyStatus, messenger_postStatus]
      exact sentDown.idle
    · rw [pump]
      exact sentDown.pump

theorem settles_runTask (down : session.IsDown) {task : Task} (unset : session.setsUp task = false)
    (silent : ∀ key, task ≠ .push key) : Settles session (session.runTask task) := by
  cases task with
  | pump transport => exact .inl (by rw [runTask, runPump_of_isDown down]; exact .refl session)
  | push publicKey => exact absurd rfl (silent publicKey)
  | stopForPeer reason tell => exact session.settles_runStopForPeer reason tell
  | expire attempt => exact session.settles_runExpire attempt
  | restart attempt => exact settles_runRestart unset

theorem isDown_runTask (down : session.IsDown) {task : Task} (unset : session.setsUp task = false) :
    (session.runTask task).IsDown := by
  cases task with
  | push publicKey => exact isDown_runPush down publicKey
  | _ => exact (settles_runTask down unset fun _ => nofun).isDown down

/-- What can become of a stopped session until it is set up or started again. Listed are
the tasks that have run since. -/
inductive Idles (stopped : Session) : List Task → Session → Prop
  | refl : Idles stopped [] stopped
  | task {ran : List Task} {session : Session} (former : Idles stopped ran session) (task : Task)
      (unset : session.setsUp task = false) : Idles stopped (ran ++ [task]) (session.runTask task)
  | moveTo {ran : List Task} {session : Session} (former : Idles stopped ran session) (time : Nat) :
      Idles stopped ran (session.moveTo time)
  | report {ran : List Task} {session : Session} (former : Idles stopped ran session) (transport : Nat)
      (events : List TransportEvent) : Idles stopped ran (session.report transport events).1
  | stop {ran : List Task} {session : Session} (former : Idles stopped ran session) (options : StopOptions) :
      Idles stopped ran (session.stop options)
  /-- The application sends, polls or leaves requests. -/
  | exchange {ran : List Task} {session : Session} (former : Idles stopped ran session) {events : List ExchangeEvent}
      {later : Nat} {messenger : Messenger Channel}
      (step : Messenger.Step session.now session.messenger events later messenger)
      (detached : messenger.channel = none) : Idles stopped ran { session with messenger }
  /-- Whatever else is done leaves what shows as it is, and does not make a pump run. -/
  | other {ran : List Task} {session other : Session} (former : Idles stopped ran session)
      (keeps : Keeps session other) : Idles stopped ran other

namespace Idles

variable {stopped later : Session} {ran : List Task}

theorem isDown (idles : Idles stopped ran later) (down : stopped.IsDown) : later.IsDown := by
  induction idles with
  | refl => exact down
  | task former task unset ih => exact isDown_runTask ih unset
  | moveTo former time ih =>
      refine ⟨?_, ih.idle, ih.pump⟩
      rw [Session.moveTo, Status.passTo_global]
      exact ih.global
  | report former transport events ih =>
      rw [report_of_isDown ih]
      exact ih
  | stop former options ih => exact (isBlank_stop _ options).toIsDown
  | exchange former step detached ih => exact ⟨ih.global, ih.idle.step step detached, ih.pump⟩
  | other former keeps ih => exact keeps.isDown ih

/-- Only a push that goes out late shows on a stopped session. -/
theorem isBlank (idles : Idles stopped ran later) (blank : stopped.IsBlank) (silent : ∀ key, Task.push key ∉ ran) :
    later.IsBlank := by
  induction idles with
  | refl => exact blank
  | @task ran session former task unset ih =>
      have formerSilent : ∀ key, Task.push key ∉ ran := fun key mem => silent key (List.mem_append_left _ mem)
      have current := ih formerSilent
      apply (settles_runTask current.toIsDown unset ?_).isBlank current
      rintro key rfl
      exact silent key (List.mem_append_right _ (List.mem_singleton_self _))
  | moveTo former time ih =>
      have current := ih silent
      refine ⟨(former.moveTo time).isDown blank.toIsDown, ?_⟩
      rw [Session.moveTo, Status.passTo_buildup]
      exact current.buildup
  | report former transport events ih =>
      rw [report_of_isDown (ih silent).toIsDown]
      exact ih silent
  | stop former options ih => exact isBlank_stop _ options
  | exchange former step detached ih =>
      exact ⟨(former.exchange step detached).isDown blank.toIsDown, (ih silent).buildup⟩
  | other former keeps ih => exact keeps.isBlank (ih silent)

theorem tidy (idles : Idles stopped ran later) (tidy : stopped.status.IsTidy) : later.status.IsTidy := by
  induction idles with
  | refl => exact tidy
  | task former task unset ih => exact (rests_runTask _ task).tidy ih
  | moveTo former time ih => exact ih.passTo time
  | report former transport events ih => exact (rests_report _ transport events).tidy ih
  | stop former options ih => exact (rests_stop _ options).tidy ih
  | exchange former step detached ih => exact ih
  | other former keeps ih =>
      rw [keeps.status]
      exact ih

end Idles

theorem IsCalm.setsUp_eq_false (calm : session.IsCalm) (task : Task) : session.setsUp task = false := by
  cases task with
  | restart attempt =>
      unfold setsUp
      dsimp only
      split
      · next restart found =>
          have settled := calm.isOutstanding_eq_false found
          rw [decide_eq_false_iff_not]
          rintro ⟨-, stage | ⟨stage, -⟩⟩
          · rw [stage] at settled
            cases settled
          · rw [stage] at settled
            cases settled
      · rfl
  | _ => rfl

theorem keeps_wake (session : Session) : Keeps session session.wake := by
  apply wake_induction (.refl session)
  intro current timed _ keeps
  dsimp only [endPause]
  split <;> exact ⟨keeps.status, keeps.messenger, keeps.pump⟩

/-- A session that idles and has ended: whatever tasks are ready may run. -/
def IdlesOn (stopped : Session) (ran : List Task) (later : Session) : Prop :=
  later.IsEnded ∧ ∃ more, Idles stopped (ran ++ more) later

namespace IdlesOn

variable {stopped later : Session} {ran : List Task}

theorem runTask (idles : IdlesOn stopped ran later) (task : Task) : IdlesOn stopped ran (later.runTask task) := by
  obtain ⟨ended, more, idles⟩ := idles
  have further := idles.task task (ended.calm.setsUp_eq_false task)
  rw [List.append_assoc] at further
  exact ⟨(ended.runTask task).ended, more ++ [task], further⟩

theorem runReady (idles : IdlesOn stopped ran later) : IdlesOn stopped ran later.runReady := by
  refine runTasks_induction ?_ (fun _ task idles => idles.runTask task) idles _
  rintro current ready ⟨ended, more, idles⟩
  exact ⟨⟨ended.transport, ended.pump, ended.calm⟩, more, idles.other ⟨rfl, rfl, rfl⟩⟩

theorem moveTo (idles : IdlesOn stopped ran later) (time : Nat) : IdlesOn stopped ran (later.moveTo time) := by
  obtain ⟨ended, more, idles⟩ := idles
  exact ⟨⟨ended.transport, ended.pump, ended.calm⟩, more, idles.moveTo time⟩

theorem wake (idles : IdlesOn stopped ran later) : IdlesOn stopped ran later.wake := by
  obtain ⟨ended, more, idles⟩ := idles
  exact ⟨ended.wake.ended, more, idles.other (keeps_wake later)⟩

theorem pass (idles : IdlesOn stopped ran later) (duration : Nat) : IdlesOn stopped ran (later.pass duration) :=
  passSteps_induction (fun _ time idles => idles.moveTo time) (fun _ idles => idles.wake)
    (fun _ idles => idles.runReady) idles _ _

end IdlesOn

/-- What a stopped session shows, with these tasks run since. -/
structure StaysStopped (stopped : Session) (ran : List Task) (later : Session) : Prop where
  global : later.status.global = .error
  detached : later.messenger.isAttached = false
  pending : later.messenger.table.size = 0
  /-- The buildup shows nothing, as long as no push of an earlier start went out. -/
  buildup : (∀ key, Task.push key ∉ ran) →
    later.status.buildup = .new ∧ later.status.progress = 0 ∧ later.status.slow = false
  /-- Where recovery is not about to set the session up, whatever tasks are ready may run, and time may pass. -/
  goesOn : later.IsEnded → (∃ more, Idles stopped (ran ++ more) later.runReady) ∧
    ∀ duration, ∃ more, Idles stopped (ran ++ more) (later.pass duration)

theorem staysStopped_of_sequel {first later : Session} {options : StopOptions} {ran : List Task}
    (tidy : first.status.IsTidy) (sequel : Sequel first session) (idles : Idles (session.stop options) ran later) :
    StaysStopped (session.stop options) ran later := by
  have stopped := session.isBlank_stop options
  have down := idles.isDown stopped.toIsDown
  constructor
  case global => exact down.global
  case detached =>
    rw [Messenger.isAttached, down.idle.detached]
    rfl
  case pending => exact down.idle.size_eq_zero
  case buildup =>
    intro silent
    have new := (idles.isBlank stopped silent).buildup
    have tidyNow := idles.tidy ((rests_stop _ options).tidy (sequel.rests.tidy tidy))
    exact ⟨new, tidyNow new⟩
  case goesOn =>
    intro ended
    have idlesOn : IdlesOn (session.stop options) ran later := ⟨ended, [], by rwa [List.append_nil]⟩
    exact ⟨idlesOn.runReady.2, fun duration => (idlesOn.pass duration).2⟩

/-- The device reports on, and time passes, after a session was stopped that was connected. -/
theorem staysStopped_connectedSession :
    freshSession.status.IsTidy ∧ Sequel freshSession (connectedSession .direct) ∧
      StaysStopped ((connectedSession .direct).stop {}) [.pump 0]
        ((((connectedSession .direct).stop {}).report 0 [.channelOpen]).1.runTask (.pump 0) |>.moveTo 60000) := by
  have tidy : freshSession.status.IsTidy := fun _ => ⟨rfl, rfl⟩
  have sequel : Sequel freshSession (connectedSession .direct) :=
    ((((Sequel.refl.init _).start).attach {}).event (.taskReady .direct)).event (.taskState .connected)
  exact ⟨tidy, sequel, staysStopped_of_sequel tidy sequel
      (((Idles.refl.report 0 [.channelOpen]).task (.pump 0) rfl).moveTo 60000)⟩

/-- A start has just asked for a push. -/
def wakingSession : Session :=
  ({ freshSession with push := { version := 0, token := some ⟨.gcm, ""⟩ } }.init
      { pair := some ⟨default, default⟩ }).1.start.1

/-- The push of a start goes out after the session was stopped, and shows. -/
theorem buildup_wakingSession :
    (wakingSession.stop {}).status.buildup = .new ∧ (wakingSession.stop {}).runReady.status.buildup = .push ∧
      (wakingSession.stop {}).runReady.launches.length = (wakingSession.stop {}).launches.length := by
  decide +kernel

end Session

end RelayClient
