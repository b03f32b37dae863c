import RelayClient.Proofs.Recovery.Ending
import RelayClient.Proofs.Session.Watch

/-!
# What follows in a session

A sequel is whatever the application, the transport, the timers and the ready tasks
make of a session, in any order. A buildup that is new shows no progress in any of
them, and what recovery has called off stays off until a connection that was up is
reported lost.
-/

namespace RelayClient

namespace Status

/-- A buildup that is new shows no progress. -/
def IsTidy (status : Status) : Prop :=
  status.buildup = .new → status.progress = 0 ∧ status.slow = false

variable {status : Status}

theorem IsTidy.of_eq {after : Status} (tidy : status.IsTidy) (buildup : after.buildup = status.buildup)
    (progress : after.progress = status.progress) (slow : after.slow = status.slow) : after.IsTidy := by
  unfold IsTidy
  rwa [buildup, progress, slow]

theorem IsTidy.setGlobal (tidy : status.IsTidy) (state : GlobalState) : (status.setGlobal state).1.IsTidy := by
  unfold Status.setGlobal
  split
  · exact tidy
  · exact tidy.of_eq rfl rfl rfl

theorem IsTidy.setBuildup (tidy : status.IsTidy) (state : Buildup) (now : Nat) :
    (status.setBuildup state now).1.IsTidy := by
  unfold Status.setBuildup
  split
  · exact tidy
  · rintro rfl
    exact ⟨rfl, rfl⟩

theorem IsTidy.reportSignaling (tidy : status.IsTidy) (state : SignalingState) :
    (status.reportSignaling state).1.IsTidy := by
  unfold Status.reportSignaling
  split
  · apply IsTidy.setGlobal
    exact tidy.of_eq rfl rfl rfl
  · exact tidy

theorem IsTidy.reportTask (tidy : status.IsTidy) (state : TaskState) : (status.reportTask state).1.IsTidy := by
  unfold Status.reportTask
  split
  · apply IsTidy.setGlobal
    exact tidy.of_eq rfl rfl rfl
  · exact tidy

theorem IsTidy.reset (tidy : status.IsTidy) (forgetUnread : Bool) (now : Nat) :
    (status.reset forgetUnread now).1.IsTidy := by
  apply IsTidy.setGlobal
  apply IsTidy.setBuildup
  exact tidy.of_eq rfl rfl rfl

/-- Time moves only a buildup on that is not new. -/
theorem IsTidy.passTo (tidy : status.IsTidy) (now : Nat) : (status.passTo now).IsTidy := by
  unfold Status.passTo
  split
  · next found =>
      intro new
      dsimp only at new
      rw [new] at found
      cases found
  · exact tidy

end Status

namespace Session

/-- No timer of recovery is armed. -/
def IsUnarmed (session : Session) : Prop :=
  ∀ recovery, session.recovery = some recovery → recovery.timer = none

/-- What holds of any operation, even while recovery restarts the session. -/
structure Sustains (before after : Session) : Prop where
  losses : before.losses ≤ after.losses
  tidy : before.status.IsTidy → after.status.IsTidy
  unarmed : after.losses = before.losses → before.IsUnarmed → after.IsUnarmed

/-- Where recovery rests, it does so after the operation, unless a loss is reported. -/
structure Rests (before after : Session) : Prop extends Sustains before after where
  calm : after.losses = before.losses → before.IsUnarmed → before.IsCalm → after.IsCalm

variable {first before after session : Session}

theorem Sustains.trans (former : Sustains first before) (latter : Sustains before after) : Sustains first after where
  losses := Nat.le_trans former.losses latter.losses
  tidy tidy := latter.tidy (former.tidy tidy)
  unarmed same unarmed := by
    have := former.losses
    have := latter.losses
    exact latter.unarmed (by omega) (former.unarmed (by omega) unarmed)

theorem Rests.trans (former : Rests first before) (latter : Rests before after) : Rests first after where
  toSustains := former.toSustains.trans latter.toSustains
  calm same unarmed calm := by
    have := former.losses
    have := latter.losses
    have middle : before.losses = first.losses := by omega
    exact latter.calm (by omega) (former.unarmed middle unarmed) (former.calm middle unarmed calm)

theorem Rests.of_watch (same : after.watch = before.watch) : Rests before after := by
  have status : after.status = before.status := congrArg Watch.status same
  have recovery : after.recovery = before.recovery := congrArg Watch.recovery same
  have losses : after.losses = before.losses := congrArg Watch.losses same
  refine ⟨⟨Nat.le_of_eq losses.symm, ?_, ?_⟩, ?_⟩
  · rw [status]
    exact id
  · intro _ unarmed
    unfold IsUnarmed
    rwa [recovery]
  · intro _ _ calm
    unfold IsCalm
    rwa [recovery]

theorem Rests.refl (session : Session) : Rests session session :=
  .of_watch rfl

/-- Where a timer is armed, nothing is claimed about it. -/
theorem Rests.of_armed (losses : before.losses ≤ after.losses) (tidy : before.status.IsTidy → after.status.IsTidy)
    (armed : ¬ before.IsUnarmed) : Rests before after where
  losses := losses
  tidy := tidy
  unarmed _ unarmed := absurd unarmed armed
  calm _ unarmed := absurd unarmed armed

/-- Recovery changes, but arms no timer and begins no restart. -/
theorem Rests.of_recovery {recovery next : Recovery} (watched : session.recovery = some recovery)
    (timer : recovery.timer = none → next.timer = none)
    (restart : ∀ restart, next.restart = some restart → restart.stage.isOutstanding = true →
        recovery.restart = some restart) :
    Rests session { session with recovery := some next } := by
  have unarmed : session.IsUnarmed → next.timer = none := fun unarmed => timer (unarmed recovery watched)
  refine ⟨⟨Nat.le_refl _, id, ?_⟩, ?_⟩
  · rintro _ off _ ⟨⟩
    exact unarmed off
  · rintro _ off calm _ ⟨⟩ (⟨restart', held, outstanding⟩ | ⟨armed, -⟩)
    · exact calm recovery watched (.inl ⟨restart', restart restart' held outstanding, outstanding⟩)
    · rw [unarmed off] at armed
      cases armed

/-- An event that is no loss calls the timer off, or leaves it. -/
theorem rests_reactTo (session : Session) {event : StatusEvent} (kept : (RecoveryInput.status event).isLoss = false) :
    Rests session (session.reactTo event) := by
  cases watched : session.recovery with
  | none =>
      have same : session.reactTo event = session := by
        unfold reactTo
        rw [watched]
      rw [same]
      exact .refl session
  | some recovery =>
      have stays : Rests session (session.perform recovery .stay) := by
        rw [perform_stay watched]
        exact .refl session
      rw [reactTo_eq_perform watched, heed, kept, if_neg Bool.false_ne_true]
      cases event with
      | global change =>
          simp only [RecoveryInput.isLoss, Bool.decide_and, Bool.and_eq_false_iff, decide_eq_false_iff_not] at kept
          unfold Recovery.move
          dsimp only
          by_cases good : change.current = .ok
          · rw [if_pos good]
            exact .of_recovery watched (fun _ => rfl) fun _ held _ => held
          · rw [if_neg good, if_neg (kept.resolve_left (not_not_intro good))]
            exact stays
      | buildup state =>
          unfold Recovery.move
          dsimp only
          split
          · exact .of_recovery watched (fun _ => rfl) fun _ held _ => held
          · exact stays
      | reset => exact stays

/-- Observers hear of an event, and then recovery does. -/
theorem rests_post (session : Session) (event : StatusEvent) :
    Rests session ((session.note (.status event)).reactTo event) := by
  cases loss : (RecoveryInput.status event).isLoss with
  | false =>
      have quiet : (Effect.status event).isLoss = false := loss
      exact (Rests.of_watch (session.watch_note quiet)).trans (rests_reactTo _ loss)
  | true =>
      obtain ⟨status, losses⟩ := (session.note (.status event)).watch_reactTo event
      have noted : (session.note (.status event)).status = session.status := by
        unfold note
        split <;> rfl
      have reported : (Effect.status event).isLoss = true := loss
      rw [losses_note, reported, if_pos rfl] at losses
      refine ⟨⟨by omega, ?_, fun same => absurd same (by omega)⟩, fun same => absurd same (by omega)⟩
      rw [status, noted]
      exact id

theorem rests_postStatus (session : Session) (events : List StatusEvent) :
    Rests session (session.postStatus events) := by
  unfold postStatus
  induction events generalizing session with
  | nil => exact .refl session
  | cons event rest ih => exact (session.rests_post event).trans (ih _)

theorem rests_applyStatus (session : Session) (update : Status × List StatusEvent)
    (tidy : session.status.IsTidy → update.1.IsTidy) : Rests session (session.applyStatus update) := by
  have updated : Rests session { session with status := update.1 } :=
    ⟨⟨Nat.le_refl _, tidy, fun _ unarmed => unarmed⟩, fun _ _ calm => calm⟩
  exact updated.trans (rests_postStatus _ _)

theorem rests_setBuildup (session : Session) (state : Buildup) : Rests session (session.setBuildup state) :=
  session.rests_applyStatus _ fun tidy => tidy.setBuildup state session.now

theorem rests_reportSignaling (session : Session) (state : SignalingState) :
    Rests session (session.reportSignaling state) :=
  session.rests_applyStatus _ fun tidy => tidy.reportSignaling state

theorem rests_reportTask (session : Session) (state : TaskState) : Rests session (session.reportTask state) :=
  session.rests_applyStatus _ fun tidy => tidy.reportTask state

theorem rests_resetStatus (session : Session) (forgetUnread : Bool) :
    Rests session (session.resetStatus forgetUnread) :=
  session.rests_applyStatus _ fun tidy => tidy.reset forgetUnread session.now

theorem rests_init (session : Session) (params : InitParams) : Rests session (session.init params).1 := by
  have reset := session.rests_resetStatus false
  have paired := (session.resetStatus false).watch_pairFor params
  unfold init
  generalize (session.resetStatus false).pairFor params = result at paired
  obtain ⟨prepared, pair⟩ := result
  have ready := reset.trans (.of_watch paired)
  dsimp only
  split
  · next same => exact ready.trans (.of_watch (watch_asked same rfl))
  · next asked _ same =>
      have created : Rests session asked := ready.trans (.of_watch (watch_asked same rfl))
      exact created.trans (.of_watch rfl)

theorem rests_start (session : Session) : Rests session session.start.1 := by
  have entered : Rests session session.enterStartup.1 := .of_watch session.watch_enterStartup
  have connects (transport : Nat) : Rests session (session.enterStartup.1.note (.connect transport)) :=
    entered.trans (.of_watch (watch_note _ rfl))
  have starts := session.startsAs_start
  generalize session.start.1 = after at starts ⊢
  cases starts with
  | unlinked => exact entered.trans (.of_watch (watch_refuseStartup _ _ _))
  | refused transport => exact (connects transport).trans (.of_watch (watch_refuseStartup _ _ _))
  | pushing transport => exact (connects transport).trans (.of_watch rfl)
  | byHand transport => exact (connects transport).trans (rests_setBuildup _ _)
  | waiting transport => exact connects transport

theorem rests_takeDown (session : Session) (options : StopOptions) : Rests session (session.takeDown options) := by
  have told (closed : Session) (tells : Bool) (same : closed.watch = session.watch) :
      Rests session (if tells then closed.tellPeer options session.link.transport else closed) := by
    cases tells with
    | true => exact .of_watch ((watch_tellPeer _ _ _).trans same)
    | false => exact .of_watch same
  unfold takeDown
  refine Rests.trans ?_ (.of_watch (watch_closeLink _ _))
  dsimp only
  refine Rests.trans ?_ (.of_watch (watch_messenger _ _))
  cases session.link.startup with
  | none =>
      refine Rests.trans (Rests.trans ?_ (rests_resetStatus _ true)) (.of_watch (watch_forget _ options))
      exact told _ _ rfl
  | some startup =>
      refine Rests.trans ?_ (.of_watch (watch_settleStartup _ startup _))
      refine Rests.trans (Rests.trans ?_ (rests_resetStatus _ true)) (.of_watch (watch_forget _ options))
      exact told _ _ rfl

theorem rests_stop (session : Session) (options : StopOptions) : Rests session (session.stop options) := by
  have down := session.rests_takeDown options
  unfold stop
  dsimp only
  split
  · exact down.trans (.of_watch (watch_note _ rfl))
  · exact down

theorem rests_becomeReady (session : Session) : Rests session session.becomeReady := by
  have done := session.rests_setBuildup .done
  unfold becomeReady
  dsimp only
  split
  · exact done.trans (.of_watch (watch_settleStartup _ _ _))
  · exact done.trans (.of_watch rfl)

theorem rests_takeNotice (session : Session) (notice : Notice) : Rests session (session.takeNotice notice) := by
  cases notice with
  | unread count =>
      exact ⟨⟨Nat.le_refl _, fun tidy => tidy.of_eq rfl rfl rfl, fun _ unarmed => unarmed⟩, fun _ _ calm => calm⟩
  | disconnected reason => exact .of_watch rfl
  | startFinished number => exact session.rests_becomeReady

theorem rests_takeNotices (session : Session) (notices : List Notice) :
    Rests session (notices.foldl takeNotice session) := by
  induction notices generalizing session with
  | nil => exact .refl session
  | cons notice rest ih => exact (session.rests_takeNotice notice).trans (ih _)

theorem rests_receiveFrame (session : Session) (frame : Bytes) : Rests session (session.receiveFrame frame) := by
  unfold receiveFrame Messenger.receive
  cases Message.decode frame with
  | error cause => exact .refl session
  | ok message =>
      have replaced : Rests session { session with replica := (session.replica.handle message).replica } :=
        .of_watch rfl
      exact (replaced.trans (rests_takeNotices _ _)).trans (.of_watch (watch_messenger _ _))

/-- Once the channel is open, a session waits for the initial steps, which may be complete. -/
theorem rests_awaitSteps (session : Session) (number : Nat) :
    Rests session ((session.replica.runAfter InitStep.all (.finishStart number)).2.foldl takeNotice
      { session with replica := (session.replica.runAfter InitStep.all (.finishStart number)).1 }) := by
  have replaced : Rests session { session with replica :=
      (session.replica.runAfter InitStep.all (.finishStart number)).1 } :=
    .of_watch rfl
  exact replaced.trans (rests_takeNotices _ _)

theorem rests_openChannel (session : Session) : Rests session session.openChannel := by
  unfold openChannel
  split
  · exact .refl session
  · have loads (attached : Session) (same : attached.watch = session.watch) (number : Nat) :
        Rests session ((((attached.setBuildup .loading).replica.runAfter InitStep.all
            (.finishStart number)).2.foldl takeNotice
          { attached.setBuildup .loading with
            replica := ((attached.setBuildup .loading).replica.runAfter InitStep.all (.finishStart number)).1 })) :=
      ((Rests.of_watch same).trans (attached.rests_setBuildup .loading)).trans (rests_awaitSteps _ number)
    dsimp only
    refine Rests.trans ?_ (.of_watch (watch_postAll _ _))
    refine loads _ ?_ _
    rfl

theorem rests_takeOver (session : Session) : Rests session session.takeOver := by
  have asked := (watch_askChannel (session.note .initNotifications)).trans (session.watch_note rfl)
  unfold takeOver
  dsimp only
  split
  · next same =>
      rw [same] at asked
      exact .of_watch asked
  · next same =>
      rw [same] at asked
      exact .of_watch ((watch_failStartup _ _).trans asked)
  · next after channel same =>
      rw [same] at asked
      have attached : Rests session { after with link := { after.link with channel := some channel } } :=
        .of_watch asked
      split
      · exact (attached.trans (rests_reportTask _ _)).trans (rests_openChannel _)
      · exact attached

theorem rests_chooseTask (session : Session) (task : CarrierTask) : Rests session (session.chooseTask task) := by
  have chosen : Rests session { session with link := { session.link with task := some task } } := .of_watch rfl
  unfold chooseTask
  dsimp only
  split
  · exact chosen
  · next transport _ =>
      have made := watch_connectDirectly { session with link := { session.link with task := some .direct } } transport
      split
      · next same =>
          rw [same] at made
          exact .of_watch ((watch_failStartup _ _).trans made)
      · next same =>
          rw [same] at made
          exact .of_watch made
  · exact chosen.trans (rests_takeOver _)

theorem rests_followSignaling (session : Session) (state : SignalingState) :
    Rests session (session.followSignaling state) := by
  unfold followSignaling
  split
  · exact session.rests_setBuildup _
  · exact session.rests_setBuildup _
  · exact session.rests_setBuildup _
  · exact session.rests_setBuildup _
  · exact session.rests_setBuildup _
  · split
    · exact session.rests_setBuildup _
    · exact .refl session
  · split
    · exact (session.rests_setBuildup _).trans (.of_watch (watch_failStartup _ _))
    · exact .refl session
  · exact .refl session

theorem rests_takeSignaling (session : Session) (state : SignalingState) :
    Rests session (session.takeSignaling state) := by
  unfold takeSignaling
  split
  · exact session.rests_reportSignaling state
  · exact (session.rests_followSignaling state).trans (rests_reportSignaling _ state)

theorem rests_handleEvent (session : Session) (event : TransportEvent) : Rests session (session.handleEvent event) := by
  unfold handleEvent
  split
  · split
    · exact .refl session
    · exact session.rests_setBuildup _
  · exact session.rests_takeSignaling _
  · exact session.rests_chooseTask _
  · split
    · exact session.rests_takeOver
    · exact .refl session
  · exact session.rests_reportTask _
  · split
    · exact session.rests_reportTask _
    · exact .refl session
  · unfold takeApplication
    split <;> exact .of_watch rfl
  · exact .of_watch (session.watch_failStartup _)
  · split
    · exact session.rests_reportTask _
    · exact .refl session
  · exact session.rests_openChannel
  · exact session.rests_receiveFrame _
  · exact .refl session
  · exact .refl session

theorem rests_handleBatch (session : Session) (events : List TransportEvent) :
    Rests session (session.handleBatch events) := by
  unfold handleBatch
  generalize events.filter _ ++ events.filter _ = ordered
  induction ordered generalizing session with
  | nil => exact .refl session
  | cons event rest ih => exact (session.rests_handleEvent event).trans (ih _)

theorem rests_report (session : Session) (transport : Nat) (events : List TransportEvent) :
    Rests session (session.report transport events).1 := by
  unfold report
  split
  · split <;> exact .of_watch rfl
  · exact .refl session

theorem rests_runPump (session : Session) (transport : Nat) : Rests session (session.runPump transport) := by
  unfold runPump
  split
  · next pump _ =>
      split
      · have taken : Rests session { session with link := { session.link with pump := some ⟨transport, []⟩ } } :=
          .of_watch rfl
        exact taken.trans (rests_handleBatch _ _)
      · exact .refl session
  · exact .refl session

theorem rests_runPush (session : Session) (publicKey : Cipher.Key) : Rests session (session.runPush publicKey) := by
  obtain ⟨push, sent, sends, shown⟩ := session.runPush_cases publicKey
  have same : sent.watch = session.watch := by
    rcases sends with rfl | ⟨request, rfl⟩
    · rfl
    · exact watch_note _ rfl
  rcases shown with done | done
  · rw [done]
    exact .of_watch same
  · rw [done]
    exact (Rests.of_watch same).trans (sent.rests_setBuildup .push)

theorem rests_runStopForPeer (session : Session) (reason : DisconnectReason) (tell : Bool) :
    Rests session (session.runStopForPeer reason tell) := by
  have stopped := session.rests_stop (.fromPeer reason)
  unfold runStopForPeer
  dsimp only
  split
  · exact stopped.trans (.of_watch (watch_note _ rfl))
  · exact stopped

theorem rests_giveUp (session : Session) (keys : Option ResumeKeys) : Rests session (session.giveUp keys) :=
  (session.rests_stop .givingUp).trans (.of_watch (watch_note _ rfl))

theorem rests_failAttempt (session : Session) (attempt : Nat) : Rests session (session.failAttempt attempt) := by
  unfold failAttempt
  split
  · next recovery watched =>
      split
      · have failed : Rests session
            { session with recovery := some { recovery with timer := none, restart := none, phase := .failed } } :=
          .of_recovery watched (fun _ => rfl) nofun
        exact failed.trans (rests_giveUp _ _)
      · exact .refl session
  · exact .refl session

/-- Without a timer there is none that could be due. -/
theorem runExpire_of_isUnarmed (unarmed : session.IsUnarmed) (attempt : Nat) : session.runExpire attempt = session := by
  unfold runExpire
  split
  · rfl
  · next recovery watched =>
      rw [unarmed recovery watched]
      exact if_neg nofun

theorem rests_runExpire (session : Session) (attempt : Nat) : Rests session (session.runExpire attempt) := by
  by_cases unarmed : session.IsUnarmed
  · rw [runExpire_of_isUnarmed unarmed]
    exact .refl session
  · have failed (recovery : Option Recovery) (keys : Option ResumeKeys) :
        Rests session ({ session with recovery }.giveUp keys) := by
      have gaveUp := rests_giveUp { session with recovery } keys
      exact .of_armed gaveUp.losses gaveUp.tidy unarmed
    unfold runExpire
    split
    · exact .refl session
    · next recovery _ =>
        split
        · dsimp only
          split
          · obtain ⟨status, losses⟩ := session.watch_beginRecovery recovery.clearTimer .phaseTwo 0
            refine .of_armed (Nat.le_of_eq losses.symm) ?_ unarmed
            rw [status]
            exact id
          · exact failed _ _
          · exact failed _ _
          · exact .of_armed (Nat.le_refl _) id unarmed
          · exact .of_armed (Nat.le_refl _) id unarmed
        · exact .refl session

theorem sustains_setStage (session : Session) (attempt : Nat) (stage : RestartStage) :
    Sustains session (session.setStage attempt stage) := by
  refine ⟨Nat.le_refl _, id, fun _ unarmed recovery watched => ?_⟩
  obtain ⟨former, held, rfl⟩ := Option.map_eq_some_iff.mp watched
  exact unarmed former held

/-- A restart that has set the session up, or has ended, is not about to set it up. -/
theorem rests_setStage (session : Session) (attempt : Nat) {stage : RestartStage}
    (settled : stage.isOutstanding = false) : Rests session (session.setStage attempt stage) := by
  refine ⟨session.sustains_setStage attempt stage, fun _ unarmed calm recovery watched pending => ?_⟩
  have sustains := (session.sustains_setStage attempt stage).unarmed rfl unarmed recovery watched
  obtain ⟨former, held, rfl⟩ := Option.map_eq_some_iff.mp watched
  rcases pending with ⟨restart, found, outstanding⟩ | ⟨armed, -⟩
  · obtain ⟨begun, old, rfl⟩ := Option.map_eq_some_iff.mp found
    split at outstanding
    · rw [settled] at outstanding
      cases outstanding
    · exact calm former held (.inl ⟨begun, old, outstanding⟩)
  · rw [sustains] at armed
    cases armed

theorem rests_finishRestart (session : Session) (attempt : Nat) (result : Except Failure Unit) :
    Rests session (session.finishRestart attempt result) := by
  have ended : Rests session (session.setStage attempt .ended) := session.rests_setStage attempt rfl
  unfold finishRestart
  split
  · exact ended
  · exact ended
  · exact ended.trans (rests_failAttempt _ attempt)

theorem rests_resumeRestart (session : Session) (restart : Restart) :
    Rests session (session.resumeRestart restart) := by
  have prepared := session.rests_init restart.params
  unfold resumeRestart
  generalize session.init restart.params = result at prepared
  obtain ⟨setUp, outcome⟩ := result
  cases outcome with
  | error failure => exact (prepared.trans (rests_setStage _ _ rfl)).trans (rests_failAttempt _ _)
  | ok _ =>
      have started := prepared.trans setUp.rests_start
      dsimp only
      split
      · exact started.trans (rests_finishRestart _ _ _)
      · exact started.trans (rests_setStage _ _ rfl)

/-- A restart goes on. Where it pauses, it was about to set the session up before. -/
theorem rests_runRestart (session : Session) (attempt : Nat) : Rests session (session.runRestart attempt) := by
  unfold runRestart
  split
  · next restart found =>
      split
      · unfold stepRestart
        cases stage : restart.stage with
        | spawned =>
            have stopped := session.rests_stop .soft
            dsimp only
            split
            · exact stopped.trans (rests_resumeRestart _ _)
            · refine ⟨stopped.toSustains.trans (sustains_setStage _ _ _), fun _ _ calm => ?_⟩
              have settled := calm.isOutstanding_eq_false found
              rw [stage] at settled
              cases settled
        | paused due => exact .refl session
        | resuming => exact session.rests_resumeRestart restart
        | starting startup =>
            dsimp only
            split
            · exact session.rests_finishRestart _ _
            · exact .refl session
        | ended => exact .refl session
      · exact .refl session
  · exact .refl session

theorem rests_runTask (session : Session) (task : Task) : Rests session (session.runTask task) := by
  cases task with
  | pump transport => exact session.rests_runPump transport
  | push publicKey => exact session.rests_runPush publicKey
  | stopForPeer reason tell => exact session.rests_runStopForPeer reason tell
  | expire attempt => exact session.rests_runExpire attempt
  | restart attempt => exact session.rests_runRestart attempt

/-- Where recovery rests, it waits for no time. -/
theorem wake_of_rests (unarmed : session.IsUnarmed) (calm : session.IsCalm) : session.wake = session := by
  have none : session.wakeTimes = [] := by
    unfold wakeTimes
    split
    · rfl
    · next recovery watched =>
        rw [unarmed recovery watched]
        split
        · next held => exact absurd (.inl ⟨_, held, rfl⟩) (calm recovery watched)
        · rfl
  unfold wake
  rw [none]
  rfl

theorem rests_wake (session : Session) : Rests session session.wake := by
  have sustains : Sustains session session.wake := by
    apply wake_induction (Rests.refl session).toSustains
    intro current timed _ sustains
    apply sustains.trans
    dsimp only [endPause]
    split
    · exact (sustains_setStage _ _ _).trans (Rests.of_watch (watch_spawn _ _)).toSustains
    · exact (Rests.of_watch (watch_spawn _ _)).toSustains
  refine ⟨sustains, fun _ unarmed calm => ?_⟩
  rw [wake_of_rests unarmed calm]
  exact calm

theorem rests_moveTo (session : Session) (time : Nat) : Rests session (session.moveTo time) :=
  ⟨⟨Nat.le_refl _, fun tidy => tidy.passTo time, fun _ unarmed => unarmed⟩, fun _ _ calm => calm⟩

/-- Another recovery begins with nothing to do, and without one nothing is to be done. -/
theorem rests_recovery (session : Session) {recovery : Option Recovery} (ready : List Task)
    (off : ∀ watch, recovery = some watch → watch.timer = none ∧ watch.restart = none) :
    Rests session { session with recovery, ready } := by
  refine ⟨⟨Nat.le_refl _, id, fun _ _ watch watched => (off watch watched).1⟩, fun _ _ _ watch watched => ?_⟩
  exact Recovery.not_isPending_of_none (off watch watched).1 (off watch watched).2

theorem rests_attachRecovery (session : Session) (times : RecoveryTimes) :
    Rests session (session.attachRecovery times) := by
  refine session.rests_recovery session.ready ?_
  rintro _ ⟨⟩
  exact ⟨rfl, rfl⟩

theorem rests_detachRecovery (session : Session) : Rests session session.detachRecovery :=
  session.rests_recovery _ fun _ absent => nomatch absent

/-- What can follow on a session, in any order. -/
inductive Sequel (first : Session) : Session → Prop
  | refl : Sequel first first
  | init {session : Session} (former : Sequel first session) (params : InitParams) :
      Sequel first (session.init params).1
  | start {session : Session} (former : Sequel first session) : Sequel first session.start.1
  | stop {session : Session} (former : Sequel first session) (options : StopOptions) :
      Sequel first (session.stop options)
  | event {session : Session} (former : Sequel first session) (event : TransportEvent) :
      Sequel first (session.handleEvent event)
  | report {session : Session} (former : Sequel first session) (transport : Nat) (events : List TransportEvent) :
      Sequel first (session.report transport events).1
  | task {session : Session} (former : Sequel first session) (task : Task) : Sequel first (session.runTask task)
  | wake {session : Session} (former : Sequel first session) : Sequel first session.wake
  | moveTo {session : Session} (former : Sequel first session) (time : Nat) : Sequel first (session.moveTo time)
  | attach {session : Session} (former : Sequel first session) (times : RecoveryTimes) :
      Sequel first (session.attachRecovery times)
  | detach {session : Session} (former : Sequel first session) : Sequel first session.detachRecovery
  /-- Whatever else the application does leaves the status and recovery alone, and reports no loss. -/
  | other {session after : Session} (former : Sequel first session) (same : after.watch = session.watch) :
      Sequel first after

namespace Sequel

variable {last : Session}

theorem rests (sequel : Sequel first last) : Rests first last := by
  induction sequel with
  | refl => exact .refl first
  | init former params ih => exact ih.trans (rests_init _ params)
  | start former ih => exact ih.trans (rests_start _)
  | stop former options ih => exact ih.trans (rests_stop _ options)
  | event former event ih => exact ih.trans (rests_handleEvent _ event)
  | report former transport events ih => exact ih.trans (rests_report _ transport events)
  | task former task ih => exact ih.trans (rests_runTask _ task)
  | wake former ih => exact ih.trans (rests_wake _)
  | moveTo former time ih => exact ih.trans (rests_moveTo _ time)
  | attach former times ih => exact ih.trans (rests_attachRecovery _ times)
  | detach former ih => exact ih.trans (rests_detachRecovery _)
  | other former same ih => exact ih.trans (.of_watch same)

/-- Running the ready tasks is one of the things that can follow. -/
theorem runTasks (sequel : Sequel first last) (count : Nat) : Sequel first (last.runTasks count) :=
  runTasks_induction (fun _ _ sequel => sequel.other rfl) (fun _ task sequel => sequel.task task) sequel count

theorem passSteps (sequel : Sequel first last) (limit stops : Nat) : Sequel first (last.passSteps limit stops) :=
  passSteps_induction (fun _ time sequel => sequel.moveTo time) (fun _ sequel => sequel.wake)
    (fun _ sequel => sequel.runTasks _) sequel limit stops

end Sequel

end Session

end RelayClient
