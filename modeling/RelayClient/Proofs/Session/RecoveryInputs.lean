import RelayClient.Proofs.Session.Stopped

/-!
# What recovery goes by

Whether and with what recovery restarts a session depends on the keys of the link, on
the summary of the status, and on recovery itself: on its bearings. An event of a transport moves them by
one report of a state at most. Apart from it recovery learns of nothing but progress.
-/

namespace RelayClient

/-- What of a session recovery goes by. -/
structure Bearings where
  pair : Option KeyPair
  keys : Option ResumeKeys
  resetFields : Bool
  global : GlobalState
  /-- The task was connected at some time since the last reset. -/
  wasConnected : Bool
  recovery : Option Recovery

theorem Recovery.progressed_progressed (recovery : Recovery) : recovery.progressed.progressed = recovery.progressed := by
  unfold Recovery.progressed
  cases phase : recovery.phase <;> simp [phase]

namespace Session

def bearings (session : Session) : Bearings :=
  ⟨session.link.pair, session.resumeKeys, session.link.resetFields, session.status.global,
    session.status.wasConnected, session.recovery⟩

variable {first before after session : Session}

section Bearings

variable (session : Session)

theorem bearings_note (effect : Effect) : (session.note effect).bearings = session.bearings := by
  unfold note
  split <;> rfl

theorem bearings_settleStartup (startup : Nat) (result : Except Failure Unit) :
    (session.settleStartup startup result).bearings = session.bearings := by
  obtain ⟨ready, same⟩ := session.settleStartup_frame startup result
  rw [same]
  rfl

theorem bearings_failStartup (failure : Failure) : (session.failStartup failure).bearings = session.bearings := by
  unfold failStartup
  split
  · exact bearings_settleStartup _ _ _
  · rfl

theorem bearings_postMessage (message : Message) : (session.postMessage message).1.bearings = session.bearings := by
  unfold postMessage
  split
  · exact bearings_note _ _
  · rfl

theorem bearings_postAll (messages : List Message) : (session.postAll messages).bearings = session.bearings := by
  unfold postAll
  induction messages generalizing session with
  | nil => rfl
  | cons message rest ih => rw [List.foldl_cons, ih, bearings_postMessage]

theorem bearings_ask (call : OutsideCall) (effect : Effect) :
    (session.ask call effect).1.bearings = session.bearings :=
  session.bearings_note effect

theorem bearings_askChannel : session.askChannel.1.bearings = session.bearings := by
  unfold askChannel
  split
  · exact bearings_ask _ .openChannel _
  · exact bearings_ask _ .relayedChannel _
  · rfl

theorem bearings_connectDirectly (transport : Nat) :
    (session.connectDirectly transport).1.bearings = session.bearings := by
  rcases session.connectDirectly_cases transport with same | same
  · rw [same, bearings_note]
  · rw [same, bearings_note]
    exact session.bearings_note _

theorem bearings_takeApplication (message : Pack.Value) : (session.takeApplication message).bearings = session.bearings := by
  unfold takeApplication
  split <;> rfl

/-- Recovery that learns of an event changes no bearings but itself. -/
theorem bearings_reactTo (event : StatusEvent) :
    (session.reactTo event).bearings = { session.bearings with recovery := (session.reactTo event).recovery } := by
  obtain ⟨data, next, ready, same⟩ := session.reactTo_frame event
  rw [same]
  rfl

theorem bearings_postStatus (events : List StatusEvent) :
    (session.postStatus events).bearings =
      { session.bearings with recovery := (session.postStatus events).recovery } := by
  unfold postStatus
  induction events generalizing session with
  | nil => rfl
  | cons event rest ih => rw [List.foldl_cons, ih, bearings_reactTo, bearings_note]

/-- An update of the status gives the summary, and the rest is up to recovery. -/
theorem bearings_applyStatus (update : Status × List StatusEvent) :
    (session.applyStatus update).bearings =
      { session.bearings with
        global := update.1.global
        wasConnected := update.1.wasConnected
        recovery := (session.applyStatus update).recovery } := by
  unfold applyStatus
  rw [bearings_postStatus]
  rfl

end Bearings

/-- The bearings stay, except that recovery may learn of progress. -/
structure Drifts (before after : Session) : Prop where
  bearings : after.bearings = { before.bearings with recovery := after.recovery }
  recovery : after.recovery = before.recovery ∨ after.recovery = before.recovery.map Recovery.progressed

theorem Drifts.of_bearings (same : after.bearings = before.bearings) : Drifts before after := by
  have recovery : after.recovery = before.recovery := congrArg Bearings.recovery same
  refine ⟨?_, .inl recovery⟩
  rw [recovery, same]
  rfl

theorem Drifts.refl (session : Session) : Drifts session session :=
  .of_bearings rfl

theorem Drifts.trans (former : Drifts first before) (latter : Drifts before after) : Drifts first after := by
  constructor
  · rw [latter.bearings, former.bearings]
  · rcases latter.recovery with same | further
    · rw [same]
      exact former.recovery
    · right
      rcases former.recovery with kept | relaxed
      · rw [further, kept]
      · rw [further, relaxed, Option.map_map]
        exact congrArg (fun relax => first.recovery.map relax) (funext Recovery.progressed_progressed)

theorem reactTo_buildup_recovery (session : Session) (state : Buildup) :
    (session.reactTo (.buildup state)).recovery = session.recovery ∨
      (session.reactTo (.buildup state)).recovery = session.recovery.map Recovery.progressed := by
  unfold reactTo
  cases watched : session.recovery with
  | none => exact .inl watched
  | some recovery =>
      dsimp only
      split
      · exact .inr rfl
      · exact .inl watched

theorem drifts_setBuildup (session : Session) (state : Buildup) : Drifts session (session.setBuildup state) := by
  have tracks := session.status.tracks_setBuildup state session.now
  simp only [Status.tracks, Prod.mk.injEq] at tracks
  constructor
  · unfold setBuildup
    rw [bearings_applyStatus, tracks.2.2.1, tracks.2.2.2]
    rfl
  · have told := reactTo_buildup_recovery
      (note { session with status := (session.status.setBuildup state session.now).1 } (.status (.buildup state))) state
    rw [note_recovery] at told
    unfold setBuildup applyStatus
    unfold Status.setBuildup at told ⊢
    split
    · exact .inl rfl
    · next enters =>
        rw [if_neg enters] at told
        exact told

theorem drifts_becomeReady (session : Session) : Drifts session session.becomeReady := by
  have done := session.drifts_setBuildup .done
  unfold becomeReady
  dsimp only
  split
  · exact done.trans (.of_bearings (bearings_settleStartup _ _ _))
  · exact done.trans (.of_bearings rfl)

theorem drifts_takeNotice (session : Session) (notice : Notice) : Drifts session (session.takeNotice notice) := by
  cases notice with
  | unread count => exact .of_bearings rfl
  | disconnected reason => exact .of_bearings rfl
  | startFinished number => exact session.drifts_becomeReady

theorem drifts_takeNotices (session : Session) (notices : List Notice) :
    Drifts session (notices.foldl takeNotice session) := by
  induction notices generalizing session with
  | nil => exact .refl session
  | cons notice rest ih => exact (session.drifts_takeNotice notice).trans (ih _)

theorem drifts_receiveFrame (session : Session) (frame : Bytes) : Drifts session (session.receiveFrame frame) := by
  unfold receiveFrame Messenger.receive
  cases Message.decode frame with
  | error cause => exact .refl session
  | ok message =>
      have replaced : Drifts session { session with replica := (session.replica.handle message).replica } :=
        .of_bearings rfl
      exact (replaced.trans (drifts_takeNotices _ _)).trans (.of_bearings rfl)

theorem drifts_openChannel (session : Session) : Drifts session session.openChannel := by
  unfold openChannel
  split
  · exact .refl session
  · have loads (attached : Session) (same : attached.bearings = session.bearings) (replica : Replica)
        (notices : List Notice) :
        Drifts session (notices.foldl takeNotice { attached.setBuildup .loading with replica }) := by
      have replaced : Drifts session { attached.setBuildup .loading with replica } :=
        ((Drifts.of_bearings same).trans (attached.drifts_setBuildup .loading)).trans (.of_bearings rfl)
      exact replaced.trans (drifts_takeNotices _ _)
    dsimp only
    refine Drifts.trans ?_ (.of_bearings (bearings_postAll _ _))
    refine loads _ ?_ _ _
    rfl

theorem drifts_followSignaling (session : Session) (state : SignalingState) :
    Drifts session (session.followSignaling state) := by
  unfold followSignaling
  split
  · exact session.drifts_setBuildup _
  · exact session.drifts_setBuildup _
  · exact session.drifts_setBuildup _
  · exact session.drifts_setBuildup _
  · exact session.drifts_setBuildup _
  · split
    · exact session.drifts_setBuildup _
    · exact .refl session
  · split
    · exact (session.drifts_setBuildup _).trans (.of_bearings (bearings_failStartup _ _))
    · exact .refl session
  · exact .refl session

/-- A state of the signaling or of the task is reported. -/
inductive Reports (session : Session) : Session → Prop
  | signaling (state : SignalingState) : Reports session (session.reportSignaling state)
  | task (state : TaskState) : Reports session (session.reportTask state)

/-- At most one state is reported on the way from one session to another. -/
inductive Sails (before : Session) : Session → Prop
  | drifts {after : Session} (drift : Drifts before after) : Sails before after
  | reports {early late after : Session} (former : Drifts before early) (report : Reports early late)
      (latter : Drifts late after) : Sails before after

theorem Sails.refl (session : Session) : Sails session session :=
  .drifts (.refl session)

theorem Reports.sails (report : Reports before after) : Sails before after :=
  .reports (.refl before) report (.refl after)

/-- A drift before a voyage adds no report. -/
theorem Sails.after_drift (former : Drifts first before) (latter : Sails before after) : Sails first after := by
  cases latter with
  | drifts drift => exact .drifts (former.trans drift)
  | reports early report late => exact .reports (former.trans early) report late

theorem sails_takeOver (session : Session) : Sails session session.takeOver := by
  have asked := (bearings_askChannel (session.note .initNotifications)).trans (session.bearings_note _)
  unfold takeOver
  dsimp only
  split
  · next same =>
      rw [same] at asked
      exact .drifts (.of_bearings asked)
  · next same =>
      rw [same] at asked
      exact .drifts (.of_bearings ((bearings_failStartup _ _).trans asked))
  · next attached channel same =>
      rw [same] at asked
      have carried : Drifts session { attached with link := { attached.link with channel := some channel } } :=
        .of_bearings asked
      split
      · exact .reports carried (.task .connected) (drifts_openChannel _)
      · exact .drifts carried

theorem sails_chooseTask (session : Session) (task : CarrierTask) : Sails session (session.chooseTask task) := by
  have chosen : Drifts session { session with link := { session.link with task := some task } } := .of_bearings rfl
  unfold chooseTask
  dsimp only
  split
  · exact .drifts chosen
  · next transport _ =>
      have made := bearings_connectDirectly { session with link := { session.link with task := some .direct } } transport
      split
      · next same =>
          rw [same] at made
          exact .drifts (.of_bearings ((bearings_failStartup _ _).trans made))
      · next same =>
          rw [same] at made
          exact .drifts (.of_bearings made)
  · exact (sails_takeOver _).after_drift chosen

theorem sails_takeSignaling (session : Session) (state : SignalingState) :
    Sails session (session.takeSignaling state) := by
  unfold takeSignaling
  split
  · exact (Reports.signaling state).sails
  · exact .reports (session.drifts_followSignaling state) (.signaling state) (.refl _)

/-- Whatever a transport tells, at most one state is reported. -/
theorem sails_handleEvent (session : Session) (event : TransportEvent) : Sails session (session.handleEvent event) := by
  unfold handleEvent
  split
  · split
    · exact .refl session
    · exact .drifts (session.drifts_setBuildup _)
  · exact session.sails_takeSignaling _
  · exact session.sails_chooseTask _
  · split
    · exact session.sails_takeOver
    · exact .refl session
  · exact (Reports.task _).sails
  · split
    · exact (Reports.task _).sails
    · exact .refl session
  · exact .drifts (.of_bearings (session.bearings_takeApplication _))
  · exact .drifts (.of_bearings (session.bearings_failStartup _))
  · split
    · exact (Reports.task _).sails
    · exact .refl session
  · exact .drifts session.drifts_openChannel
  · exact .drifts (session.drifts_receiveFrame _)
  · exact .refl session
  · exact .refl session

end Session

end RelayClient
