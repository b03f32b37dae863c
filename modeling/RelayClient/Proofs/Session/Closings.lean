import RelayClient.Proofs.Exchange.Operations
import RelayClient.Proofs.Session.Core
import RelayClient.Proofs.Status.Pace

/-!
# What is closed for good

A stop tells the device, and closes the channel, the signaling and the direct
connection of an attempt. Whatever else a session does closes none of them, keeps its
messenger sound, and leaves a new buildup as it began.
-/

namespace RelayClient

/-- What comes to an end with an attempt. -/
inductive LinkPart where
  /-- The device, which is told outside the channel. -/
  | device
  | channel
  | signaling
  | peer
  deriving DecidableEq

/-- The end of a part of the attempt over a transport. -/
structure Closing where
  part : LinkPart
  transport : Nat
  deriving DecidableEq

def Effect.closing? : Effect → Option Closing
  | .application transport _ => some ⟨.device, transport⟩
  | .closeChannel channel => some ⟨.channel, channel.transport⟩
  | .disconnect transport => some ⟨.signaling, transport⟩
  | .closePeer transport => some ⟨.peer, transport⟩
  | _ => none

/-- A new buildup does not move on. -/
theorem Pace.entering_new (clocked : Bool) (now : Nat) : entering .new clocked now = ⟨0, false, none⟩ := by
  cases clocked <;> rfl

namespace Status

/-- A new buildup is as it began. -/
def IsStill (status : Status) : Prop :=
  status.buildup = .new → status.pace = ⟨0, false, none⟩

theorem IsStill.respond {status : Status} (still : status.IsStill) (call : StatusCall) :
    (status.respond call).1.IsStill := by
  have stays {after : Status} (buildup : after.buildup = status.buildup) (pace : after.pace = status.pace) :
      after.IsStill := by
    unfold IsStill
    rwa [buildup, pace]
  cases call with
  | signaling state => exact stays (reportSignaling_buildup status state) (pace_reportSignaling status state)
  | task state => exact stays (reportTask_buildup status state) (pace_reportTask status state)
  | buildup state now =>
      intro new
      dsimp only [Status.respond] at new ⊢
      rw [setBuildup_buildup] at new
      rw [new, pace_setBuildup, Pace.entering_new]
      split
      · next same => exact still same
      · rfl
  | reset forgetUnread now =>
      intro new
      dsimp only [Status.respond]
      rw [pace_reset, Pace.entering_new]
      split
      · next same => exact still same
      · rfl
  | unread count => exact still
  | pass now =>
      intro new
      dsimp only [Status.respond] at new ⊢
      rw [passTo_buildup] at new
      have idle := still new
      rw [passTo_of_idle status (congrArg Pace.nextTick idle)]
      exact idle

end Status

namespace Session

/-- All that was closed so far, oldest first. -/
def closings (session : Session) : List Closing :=
  session.effects.filterMap Effect.closing?

/-- Nothing is closed on the way, and what is sound before is so after. -/
structure Upholds (before after : Session) : Prop where
  closings : after.closings = before.closings
  sound : before.messenger.Sound → after.messenger.Sound
  still : before.status.IsStill → after.status.IsStill

variable {first before after session : Session}

theorem Upholds.refl (session : Session) : Upholds session session :=
  ⟨rfl, id, id⟩

theorem Upholds.trans (former : Upholds first before) (latter : Upholds before after) : Upholds first after where
  closings := latter.closings.trans former.closings
  sound sound := latter.sound (former.sound sound)
  still still := latter.still (former.still still)

theorem closings_note (session : Session) (effect : Effect) :
    (session.note effect).closings = session.closings ++ effect.closing?.toList := by
  unfold note
  split
  · next hidden =>
      -- What concerns the frontend closes nothing.
      have silent : effect.closing? = none := by
        cases effect <;> first | rfl | simp [Effect.isShown] at hidden
      rw [silent, Option.toList_none, List.append_nil]
  · unfold closings
    rw [List.filterMap_append]
    cases closes : effect.closing? <;> simp [closes]

section Frame

variable (session : Session)

theorem upholds_note {effect : Effect} (closes : effect.closing? = none) :
    Upholds session (session.note effect) := by
  refine ⟨?_, ?_, ?_⟩
  · rw [closings_note, closes, Option.toList_none, List.append_nil]
  · unfold note
    split <;> exact id
  · unfold note
    split <;> exact id

theorem upholds_settleStartup (startup : Nat) (result : Except Failure Unit) :
    Upholds session (session.settleStartup startup result) := by
  obtain ⟨ready, same⟩ := session.settleStartup_frame startup result
  rw [same]
  exact ⟨rfl, id, id⟩

theorem upholds_failStartup (failure : Failure) : Upholds session (session.failStartup failure) := by
  have freed : Upholds session { session with link := { session.link with startup := none } } := ⟨rfl, id, id⟩
  unfold failStartup
  split
  · exact freed.trans (upholds_settleStartup _ _ _)
  · exact .refl session

theorem upholds_beginRecovery (recovery : Recovery) (phase : RecoveryPhase) (delay : Nat) :
    Upholds session (session.beginRecovery recovery phase delay) := by
  obtain ⟨next, ready, same⟩ := session.beginRecovery_frame recovery phase delay
  rw [same]
  exact ⟨rfl, id, id⟩

theorem upholds_reactTo (event : StatusEvent) : Upholds session (session.reactTo event) := by
  obtain ⟨data, next, ready, same⟩ := session.reactTo_frame event
  rw [same]
  exact ⟨rfl, id, id⟩

theorem upholds_postStatus (events : List StatusEvent) : Upholds session (session.postStatus events) := by
  unfold postStatus
  induction events generalizing session with
  | nil => exact .refl session
  | cons event rest ih => exact ((session.upholds_note rfl).trans (upholds_reactTo _ event)).trans (ih _)

/-- Any call on the status. -/
theorem upholds_respond (call : StatusCall) : Upholds session (session.applyStatus (session.status.respond call)) := by
  have updated : Upholds session { session with status := (session.status.respond call).1 } :=
    ⟨rfl, id, fun still => still.respond call⟩
  exact updated.trans (upholds_postStatus _ _)

theorem upholds_setBuildup (state : Buildup) : Upholds session (session.setBuildup state) :=
  session.upholds_respond (.buildup state session.now)

theorem upholds_reportSignaling (state : SignalingState) : Upholds session (session.reportSignaling state) :=
  session.upholds_respond (.signaling state)

theorem upholds_reportTask (state : TaskState) : Upholds session (session.reportTask state) :=
  session.upholds_respond (.task state)

theorem upholds_resetStatus (forgetUnread : Bool) : Upholds session (session.resetStatus forgetUnread) :=
  session.upholds_respond (.reset forgetUnread session.now)

theorem upholds_moveTo (time : Nat) : Upholds session (session.moveTo time) :=
  ⟨rfl, id, fun still => still.respond (.pass time)⟩

theorem upholds_pairFor (params : InitParams) : Upholds session (session.pairFor params).1 := by
  unfold pairFor
  split <;> exact ⟨rfl, id, id⟩

theorem upholds_asked {call : OutsideCall} {effect : Effect} {result : Except Failure Unit}
    (same : session.ask call effect = (after, result)) (closes : effect.closing? = none) : Upholds session after := by
  cases same
  exact session.upholds_note closes

theorem upholds_init (params : InitParams) : Upholds session (session.init params).1 := by
  have paired := (session.upholds_resetStatus false).trans ((session.resetStatus false).upholds_pairFor params)
  unfold init
  generalize (session.resetStatus false).pairFor params = result at paired
  obtain ⟨prepared, pair⟩ := result
  dsimp only
  split
  · next same => exact paired.trans (upholds_asked _ same rfl)
  · next asked _ same =>
      have created : Upholds session asked := paired.trans (upholds_asked _ same rfl)
      exact created.trans ⟨rfl, id, id⟩

theorem upholds_enterStartup : Upholds session session.enterStartup.1 := by
  have entered : Upholds session { session with
      startups := session.startups ++ [none]
      link := { session.link with startup := some session.startups.length, startupDone := false } } :=
    ⟨rfl, id, id⟩
  unfold enterStartup
  dsimp only
  split
  · exact entered.trans (upholds_settleStartup _ _ _)
  · exact entered

theorem upholds_refuseStartup (startup : Nat) (failure : Failure) :
    Upholds session (session.refuseStartup startup failure) := by
  have freed : Upholds session { session with link := { session.link with startup := none } } := ⟨rfl, id, id⟩
  exact freed.trans (upholds_settleStartup _ startup (.error failure))

theorem upholds_start : Upholds session session.start.1 := by
  have entered := session.upholds_enterStartup
  have connects (transport : Nat) : Upholds session (session.enterStartup.1.note (.connect transport)) :=
    entered.trans (upholds_note _ rfl)
  have starts := session.startsAs_start
  generalize session.start.1 = after at starts ⊢
  cases starts with
  | unlinked => exact entered.trans (upholds_refuseStartup _ _ _)
  | refused transport => exact (connects transport).trans (upholds_refuseStartup _ _ _)
  | pushing transport => exact (connects transport).trans ⟨rfl, id, id⟩
  | byHand transport => exact (connects transport).trans (upholds_setBuildup _ _)
  | waiting transport => exact connects transport

theorem upholds_postMessage (message : Message) : Upholds session (session.postMessage message).1 := by
  unfold postMessage
  split
  · exact session.upholds_note rfl
  · exact .refl session

theorem upholds_postAll (messages : List Message) : Upholds session (session.postAll messages) := by
  unfold postAll
  induction messages generalizing session with
  | nil => exact .refl session
  | cons message rest ih => exact (session.upholds_postMessage message).trans (ih _)

theorem upholds_becomeReady : Upholds session session.becomeReady := by
  have done := session.upholds_setBuildup .done
  have counted : Upholds session { session.setBuildup .done with
      link := { (session.setBuildup .done).link with startup := none, startupDone := true } } :=
    done.trans ⟨rfl, id, id⟩
  unfold becomeReady
  dsimp only
  split
  · exact counted.trans (upholds_settleStartup _ _ _)
  · exact counted

theorem upholds_takeNotices (notices : List Notice) : Upholds session (notices.foldl takeNotice session) := by
  induction notices generalizing session with
  | nil => exact .refl session
  | cons notice rest ih =>
      refine Upholds.trans ?_ (ih _)
      cases notice with
      | unread count => exact ⟨rfl, id, fun still => still.respond (.unread count)⟩
      | disconnected reason => exact ⟨rfl, id, id⟩
      | startFinished number => exact session.upholds_becomeReady

/-- A message answers the request it belongs to, and the messenger stays sound. -/
theorem upholds_receiveFrame (frame : Bytes) : Upholds session (session.receiveFrame frame) := by
  unfold receiveFrame Messenger.receive
  cases Message.decode frame with
  | error cause => exact .refl session
  | ok message =>
      have replaced : Upholds session { session with replica := (session.replica.handle message).replica } :=
        ⟨rfl, id, id⟩
      have handled := replaced.trans (upholds_takeNotices _ (session.replica.handle message).notices)
      exact ⟨handled.closings, fun sound => sound.settle message _, handled.still⟩

theorem upholds_openChannel : Upholds session session.openChannel := by
  unfold openChannel
  split
  · exact .refl session
  · have loads (attached : Session) (upholds : Upholds session attached) (number : Nat) :
        Upholds session (((attached.setBuildup .loading).replica.runAfter InitStep.all
            (.finishStart number)).2.foldl takeNotice
          { attached.setBuildup .loading with
            replica := ((attached.setBuildup .loading).replica.runAfter InitStep.all (.finishStart number)).1 }) := by
      have loading := upholds.trans (attached.upholds_setBuildup .loading)
      have awaiting : Upholds session { attached.setBuildup .loading with
          replica := ((attached.setBuildup .loading).replica.runAfter InitStep.all (.finishStart number)).1 } :=
        loading.trans ⟨rfl, id, id⟩
      exact awaiting.trans (upholds_takeNotices _ _)
    dsimp only
    refine Upholds.trans ?_ (upholds_postAll _ _)
    refine loads _ ?_ _
    exact ⟨rfl, fun sound => sound.congr rfl rfl, id⟩

theorem upholds_askChannel : Upholds session session.askChannel.1 := by
  unfold askChannel
  split
  · exact session.upholds_note rfl
  · exact session.upholds_note rfl
  · exact .refl session

theorem upholds_connectDirectly (transport : Nat) : Upholds session (session.connectDirectly transport).1 := by
  let made := session.note (.createPeer transport)
  have created : Upholds session made := session.upholds_note rfl
  rcases session.connectDirectly_cases transport with same | same
  · rw [same]
    exact created
  · have connected : Upholds session { made with link := { made.link with peer := some transport } } :=
      created.trans ⟨rfl, id, id⟩
    rw [same]
    exact connected.trans (upholds_note _ rfl)

theorem upholds_takeOver : Upholds session session.takeOver := by
  have asked := (session.upholds_note (rfl : Effect.initNotifications.closing? = none)).trans (upholds_askChannel _)
  unfold takeOver
  dsimp only
  split
  · next same =>
      rw [same] at asked
      exact asked
  · next same =>
      rw [same] at asked
      exact asked.trans (upholds_failStartup _ _)
  · next granted channel same =>
      rw [same] at asked
      have attached : Upholds session { granted with link := { granted.link with channel := some channel } } :=
        asked.trans ⟨rfl, id, id⟩
      split
      · exact (attached.trans (upholds_reportTask _ _)).trans (upholds_openChannel _)
      · exact attached

theorem upholds_chooseTask (task : CarrierTask) : Upholds session (session.chooseTask task) := by
  have chosen : Upholds session { session with link := { session.link with task := some task } } := ⟨rfl, id, id⟩
  unfold chooseTask
  dsimp only
  split
  · exact chosen
  · next transport _ =>
      have made := upholds_connectDirectly { session with link := { session.link with task := some .direct } } transport
      split
      · next same =>
          rw [same] at made
          exact (chosen.trans made).trans (upholds_failStartup _ _)
      · next same =>
          rw [same] at made
          exact chosen.trans made
  · exact chosen.trans (upholds_takeOver _)

theorem upholds_followSignaling (state : SignalingState) : Upholds session (session.followSignaling state) := by
  unfold followSignaling
  split
  · exact session.upholds_setBuildup _
  · exact session.upholds_setBuildup _
  · exact session.upholds_setBuildup _
  · exact session.upholds_setBuildup _
  · exact session.upholds_setBuildup _
  · split
    · exact session.upholds_setBuildup _
    · exact .refl session
  · split
    · exact (session.upholds_setBuildup _).trans (upholds_failStartup _ _)
    · exact .refl session
  · exact .refl session

theorem upholds_takeSignaling (state : SignalingState) : Upholds session (session.takeSignaling state) := by
  unfold takeSignaling
  split
  · exact session.upholds_reportSignaling state
  · exact (session.upholds_followSignaling state).trans (upholds_reportSignaling _ state)

/-- Nothing that a transport reports closes anything by itself. -/
theorem upholds_handleEvent (event : TransportEvent) : Upholds session (session.handleEvent event) := by
  unfold handleEvent
  split
  · split
    · exact .refl session
    · exact session.upholds_setBuildup _
  · exact session.upholds_takeSignaling _
  · exact session.upholds_chooseTask _
  · split
    · exact session.upholds_takeOver
    · exact .refl session
  · exact session.upholds_reportTask _
  · split
    · exact session.upholds_reportTask _
    · exact .refl session
  · unfold takeApplication
    split <;> exact ⟨rfl, id, id⟩
  · exact session.upholds_failStartup _
  · split
    · exact session.upholds_reportTask _
    · exact .refl session
  · exact session.upholds_openChannel
  · exact session.upholds_receiveFrame _
  · exact .refl session
  · exact .refl session

theorem upholds_runPush (publicKey : Cipher.Key) : Upholds session (session.runPush publicKey) := by
  obtain ⟨push, sent, sends, shown⟩ := session.runPush_cases publicKey
  have held : Upholds session { session with push } := ⟨rfl, id, id⟩
  have goes : Upholds session sent := by
    rcases sends with rfl | ⟨request, rfl⟩
    · exact held
    · exact held.trans (upholds_note _ rfl)
  rcases shown with done | done
  · rw [done]
    exact goes
  · rw [done]
    exact goes.trans (sent.upholds_setBuildup .push)

theorem upholds_wake : Upholds session session.wake := by
  apply wake_induction (.refl session)
  intro current timed _ upholds
  unfold endPause
  split <;> exact upholds.trans ⟨rfl, id, id⟩

end Frame

end Session

end RelayClient
