import RelayClient.Proofs.Replica.Completion
import RelayClient.Proofs.Session.Core

/-!
# Moves of one attempt

What a transport reports moves the core of a session by a few kinds of moves. The
link fills up with what belongs to the attempt, the start that waits fails, or it
succeeds, which takes an open channel and all initial steps.
-/

namespace RelayClient

namespace SessionCore

/-- The start that waits is settled, if there is one. -/
def settle (core : SessionCore) (result : Except Failure Unit) : SessionCore :=
  { core with
    link := { core.link with startup := none }
    startups := Session.settled core.startups core.link.startup result }

theorem settle_of_waiting {core : SessionCore} {startup : Nat} (waiting : core.link.startup = some startup)
    (result : Except Failure Unit) :
    core.settle result = { core with
      link := { core.link with startup := none }
      startups := core.startups.set startup (some result) } := by
  unfold settle
  rw [waiting]
  rfl

/-- The start that waits succeeds, and from then on the session counts as started. -/
def finish (core : SessionCore) : SessionCore :=
  { core.settle (.ok ()) with link := { core.link with startup := none, startupDone := true } }

/-- The link knows which start waits. -/
def Waits (core : SessionCore) : Prop :=
  ∀ startup : Nat, core.startups[startup]? = some none ↔ core.link.startup = some startup

/-- Starts that are settled stay as they are, and one succeeds only where it may. -/
structure Proceeds (mayReady : Prop) (before after : SessionCore) : Prop where
  waits : before.Waits → after.Waits
  kept : ∀ (startup : Nat) (result : Except Failure Unit), before.startups[startup]? = some (some result) →
    before.Waits → after.startups[startup]? = some (some result)
  ready : ∀ startup : Nat, after.startups[startup]? = some (some (.ok ())) →
    before.startups[startup]? = some (some (.ok ())) ∨ mayReady

variable {mayReady : Prop} {first before after : SessionCore}

theorem Proceeds.refl (core : SessionCore) : Proceeds mayReady core core :=
  ⟨id, fun _ _ settled _ => settled, fun _ ok => .inl ok⟩

theorem Proceeds.trans (former : Proceeds mayReady first before) (latter : Proceeds mayReady before after) :
    Proceeds mayReady first after where
  waits waits := latter.waits (former.waits waits)
  kept startup result settled waits := latter.kept startup result (former.kept startup result settled waits)
    (former.waits waits)
  ready startup ok := by
    rcases latter.ready startup ok with earlier | may
    · exact former.ready startup earlier
    · exact .inr may

theorem Proceeds.mono {other : Prop} (proceeds : Proceeds mayReady before after) (may : mayReady → other) :
    Proceeds other before after :=
  ⟨proceeds.waits, proceeds.kept, fun startup ok => (proceeds.ready startup ok).imp_right may⟩

/-- What changes neither the starts nor which of them waits is no progress. -/
theorem Proceeds.of_eq (startups : after.startups = before.startups)
    (startup : after.link.startup = before.link.startup) : Proceeds mayReady before after where
  waits waits other := by
    rw [startups, startup]
    exact waits other
  kept other result settled _ := by rwa [startups]
  ready other ok := by
    rw [startups] at ok
    exact .inl ok

theorem proceeds_settle (core : SessionCore) {result : Except Failure Unit} (may : result = .ok () → mayReady) :
    Proceeds mayReady core (core.settle result) := by
  unfold settle
  cases waiting : core.link.startup with
  | none => exact .of_eq rfl waiting.symm
  | some startup =>
      constructor
      · intro waits other
        have held := waits other
        rw [waiting] at held
        dsimp only [Session.settled]
        rw [List.getElem?_set]
        split
        · next same => split <;> simp
        · next differs => simp [held, differs]
      · intro other settled known waits
        have held := (waits startup).mpr waiting
        dsimp only [Session.settled]
        rw [List.getElem?_set]
        split
        · next same =>
            rw [← same, held] at known
            cases known
        · exact known
      · intro other ok
        dsimp only [Session.settled] at ok
        rw [List.getElem?_set] at ok
        split at ok
        · split at ok
          · exact .inr (may (Option.some_inj.mp (Option.some_inj.mp ok)))
          · cases ok
        · exact .inl ok

theorem proceeds_stop (core : SessionCore) : Proceeds mayReady core (core.settle (.error .stopped)) :=
  core.proceeds_settle nofun

theorem proceeds_finish (core : SessionCore) (may : mayReady) : Proceeds mayReady core core.finish :=
  (core.proceeds_settle fun _ => may).trans (.of_eq rfl rfl)

section Attempt

variable (transport : Nat) (answered : InitStep → Prop) (opened : Prop)

/-- What of a core belongs to the attempt over a transport, and what its gate goes by. -/
structure IsSound (core : SessionCore) : Prop where
  linked : core.link.transport = some transport
  channel : ∀ channel, core.link.channel = some channel → channel.transport = transport
  peer : ∀ peer, core.link.peer = some peer → peer = transport
  gate : core.gate.IsBacked answered opened

/-- What can happen to a core in the attempt over a transport. -/
inductive Move : SessionCore → SessionCore → Prop
  | task (core : SessionCore) (task : Option CarrierTask) :
      Move core { core with link := { core.link with task } }
  | peer (core : SessionCore) : Move core { core with link := { core.link with peer := some transport } }
  | channel (core : SessionCore) (carrier : CarrierTask) :
      Move core { core with link := { core.link with channel := some ⟨transport, carrier⟩ } }
  | gate (core : SessionCore) {gate : StepGate Continuation} (backed : gate.IsBacked answered opened) :
      Move core { core with gate }
  | fail (core : SessionCore) (failure : Failure) : Move core (core.settle (.error failure))
  | finish (core : SessionCore) (opens : opened) (complete : ∀ step, answered step) : Move core core.finish

/-- Any number of moves. -/
inductive Moves : SessionCore → SessionCore → Prop
  | refl (core : SessionCore) : Moves core core
  | step {first core next : SessionCore} (moves : Moves first core) (move : Move transport answered opened core next) :
      Moves first next

end Attempt

variable {transport : Nat} {answered : InitStep → Prop} {opened : Prop}

theorem Move.isSound (move : Move transport answered opened before after)
    (sound : before.IsSound transport answered opened) : after.IsSound transport answered opened := by
  cases move with
  | task task => exact ⟨sound.linked, sound.channel, sound.peer, sound.gate⟩
  | peer => exact ⟨sound.linked, sound.channel, fun peer same => (Option.some_inj.mp same).symm, sound.gate⟩
  | channel carrier =>
      exact ⟨sound.linked, fun channel same => by rw [← Option.some_inj.mp same], sound.peer, sound.gate⟩
  | gate backed => exact ⟨sound.linked, sound.channel, sound.peer, backed⟩
  | fail failure => exact ⟨sound.linked, sound.channel, sound.peer, sound.gate⟩
  | finish opens complete => exact ⟨sound.linked, sound.channel, sound.peer, sound.gate⟩

theorem Move.proceeds (move : Move transport answered opened before after) :
    Proceeds (opened ∧ ∀ step, answered step) before after := by
  cases move with
  | fail failure => exact before.proceeds_settle nofun
  | finish opens complete => exact before.proceeds_finish ⟨opens, complete⟩
  | _ => exact .of_eq rfl rfl

/-- No move touches the events that wait. -/
theorem Move.pump (move : Move transport answered opened before after) : after.link.pump = before.link.pump := by
  cases move <;> rfl

theorem Move.launches (move : Move transport answered opened before after) : after.launches = before.launches := by
  cases move <;> rfl

namespace Moves

theorem one (move : Move transport answered opened before after) : Moves transport answered opened before after :=
  (Moves.refl before).step move

theorem trans (former : Moves transport answered opened first before)
    (latter : Moves transport answered opened before after) : Moves transport answered opened first after := by
  induction latter with
  | refl => exact former
  | step _ move ih => exact ih.step move

theorem of_eq (same : after = before) : Moves transport answered opened before after := by
  rw [same]
  exact .refl before

theorem isSound (moves : Moves transport answered opened before after)
    (sound : before.IsSound transport answered opened) : after.IsSound transport answered opened := by
  induction moves with
  | refl => exact sound
  | step _ move ih => exact move.isSound ih

theorem proceeds (moves : Moves transport answered opened before after) :
    Proceeds (opened ∧ ∀ step, answered step) before after := by
  induction moves with
  | refl => exact .refl _
  | step _ move ih => exact ih.trans move.proceeds

theorem pump (moves : Moves transport answered opened before after) : after.link.pump = before.link.pump := by
  induction moves with
  | refl => rfl
  | step _ move ih => rw [move.pump, ih]

theorem launches (moves : Moves transport answered opened before after) : after.launches = before.launches := by
  induction moves with
  | refl => rfl
  | step _ move ih => rw [move.launches, ih]

end Moves

end SessionCore

/-- The initial step that an event answers the request for. -/
def TransportEvent.answers? : TransportEvent → Option InitStep
  | .channelFrame frame =>
      match Message.decode frame with
      | .ok message => message.answers?
      | .error _ => none
  | _ => none

namespace Session

open SessionCore (Moves)

variable {transport : Nat} {answered : InitStep → Prop} {opened : Prop} {session : Session}

/-- A session that becomes ready finishes the start that waits, if one does. -/
theorem core_becomeReady (session : Session) : session.becomeReady.core = session.core.finish := by
  have done := session.core_setBuildup .done
  unfold becomeReady
  dsimp only
  cases waiting : (session.setBuildup .done).link.startup with
  | none =>
      rw [← done, SessionCore.finish, SessionCore.settle]
      dsimp only [core]
      rw [waiting]
      rfl
  | some startup =>
      dsimp only
      rw [core_settleStartup, ← done, SessionCore.finish, SessionCore.settle_of_waiting waiting]
      rfl

theorem core_failStartup (session : Session) (failure : Failure) :
    (session.failStartup failure).core = session.core.settle (.error failure) ∨
      session.failStartup failure = session := by
  unfold failStartup
  split
  · next startup _ waiting =>
      rw [core_settleStartup, SessionCore.settle_of_waiting waiting]
      exact .inl rfl
  · exact .inr rfl

theorem moves_failStartup (session : Session) (failure : Failure) :
    Moves transport answered opened session.core (session.failStartup failure).core := by
  rcases session.core_failStartup failure with settles | same
  · rw [settles]
    exact .one (.fail _ failure)
  · rw [same]
    exact .refl _

theorem moves_takeNotice (session : Session) {notice : Notice}
    (due : ∀ number, notice = .startFinished number → opened ∧ ∀ step, answered step) :
    Moves transport answered opened session.core (session.takeNotice notice).core := by
  cases notice with
  | unread count => exact .refl _
  | disconnected reason => exact .refl _
  | startFinished number =>
      obtain ⟨opens, complete⟩ := due number rfl
      exact .one (by rw [takeNotice, core_becomeReady]; exact .finish _ opens complete)

theorem moves_takeNotices (session : Session) (notices : List Notice)
    (due : ∀ number, .startFinished number ∈ notices → opened ∧ ∀ step, answered step) :
    Moves transport answered opened session.core (notices.foldl takeNotice session).core := by
  induction notices generalizing session with
  | nil => exact .refl _
  | cons notice rest ih =>
      have first : Moves transport answered opened session.core (session.takeNotice notice).core :=
        session.moves_takeNotice fun number same => due number (same ▸ .head _)
      exact first.trans (ih _ fun number mem => due number (.tail _ mem))

/-- What a handling leaves behind moves the core by the gate and the notices. -/
theorem moves_handling (session : Session) {handling : Replica.Handling} (backed : handling.IsBacked answered opened) :
    Moves transport answered opened session.core
      (handling.notices.foldl takeNotice { session with replica := handling.replica }).core := by
  have gate : Moves transport answered opened session.core { session with replica := handling.replica }.core :=
    .one (.gate _ backed.gate)
  exact gate.trans (moves_takeNotices _ _ backed.due)

theorem moves_receiveFrame (sound : session.core.IsSound transport answered opened) {frame : Bytes}
    (answers : ∀ message step, Message.decode frame = .ok message → message.answers? = some step → answered step) :
    Moves transport answered opened session.core (session.receiveFrame frame).core := by
  unfold receiveFrame Messenger.receive
  cases decoded : Message.decode frame with
  | error problem => exact .refl _
  | ok message =>
      have backed : (session.replica.handle message).IsBacked answered opened :=
        Replica.handle_isBacked sound.gate fun step => answers message step decoded
      exact session.moves_handling backed

/-- Once the channel is open, a session waits for the initial steps. -/
theorem moves_awaitSteps (sound : session.core.IsSound transport answered opened) (isOpen : opened) (number : Nat) :
    Moves transport answered opened session.core
      ((session.replica.runAfter InitStep.all (.finishStart number)).2.foldl takeNotice
        { session with replica := (session.replica.runAfter InitStep.all (.finishStart number)).1 }).core := by
  have fresh : Waiting.IsBacked answered opened ⟨InitStep.all, .finishStart number⟩ := ⟨rfl, isOpen⟩
  exact session.moves_handling (Replica.runAfter_isBacked sound.gate fresh)

theorem moves_openChannel (sound : session.core.IsSound transport answered opened)
    (opens : session.link.channel.isSome = true → opened) :
    Moves transport answered opened session.core session.openChannel.core := by
  unfold openChannel
  split
  · exact .refl _
  · next channel attached =>
      have isOpen : opened := opens (by rw [attached]; rfl)
      have same (loading : Session) (same : loading.core = session.core) (number : Nat) :
          Moves transport answered opened session.core
            ((loading.replica.runAfter InitStep.all (.finishStart number)).2.foldl takeNotice
              { loading with replica := (loading.replica.runAfter InitStep.all (.finishStart number)).1 }).core := by
        rw [← same] at sound ⊢
        exact moves_awaitSteps sound isOpen number
      dsimp only
      rw [core_postAll]
      refine same _ ?_ _
      rw [core_setBuildup]
      unfold core
      cases session.link.resetFields <;> rfl

theorem core_ask (session : Session) (call : OutsideCall) {effect : Effect} (quiet : effect.isLaunch = false) :
    (session.ask call effect).1.core = session.core :=
  core_note session quiet

theorem note_surroundings (session : Session) (effect : Effect) :
    (session.note effect).surroundings = session.surroundings := by
  unfold note
  split <;> rfl

theorem core_askChannel (session : Session) : session.askChannel.1.core = session.core := by
  unfold askChannel
  split
  · exact core_ask session .openChannel rfl
  · exact core_ask session .relayedChannel rfl
  · rfl

/-- A channel that is asked for belongs to the transport of the attempt; over the relay it is not refused. -/
theorem askChannel_ok (sound : session.core.IsSound transport answered opened) {channel : Channel}
    (granted : session.askChannel.2 = some (.ok channel)) :
    ∃ carrier, channel = ⟨transport, carrier⟩ ∧
      (session.link.task = some .relayed → session.surroundings.failure? .relayedChannel = none) := by
  unfold askChannel at granted
  split at granted
  · next peer direct connected =>
      rw [Option.some_inj] at granted
      unfold ask at granted
      dsimp only at granted
      split at granted
      · cases granted
      · cases granted
        rw [sound.peer peer connected, direct]
        exact ⟨.direct, rfl, nofun⟩
  · next own linked =>
      rw [Option.some_inj] at granted
      unfold ask at granted
      dsimp only at granted
      split at granted
      · cases granted
      · next accepted =>
          cases granted
          cases linked.symm.trans sound.linked
          exact ⟨.relayed, rfl, fun _ => accepted⟩
  · cases granted

theorem moves_takeOver (sound : session.core.IsSound transport answered opened)
    (opens : session.link.task = some .relayed → session.surroundings.failure? .relayedChannel = none → opened) :
    Moves transport answered opened session.core session.takeOver.core := by
  have noted : (session.note .initNotifications).core = session.core := core_note _ rfl
  have task : (session.note .initNotifications).link.task = session.link.task :=
    congrArg (fun core : SessionCore => core.link.task) noted
  have surroundings := session.note_surroundings .initNotifications
  rw [← noted] at sound ⊢
  rw [← task, ← surroundings] at opens
  unfold takeOver
  dsimp only
  rw [← task]
  generalize session.note .initNotifications = session at *
  have asked := session.core_askChannel
  split
  · next after same =>
      rw [same] at asked
      exact .of_eq asked
  · next after failure same =>
      rw [same] at asked
      rw [← asked]
      exact moves_failStartup _ _
  · next after channel same =>
      rw [same] at asked
      obtain ⟨carrier, rfl, accepted⟩ := askChannel_ok sound (congrArg Prod.snd same)
      have attached : Moves transport answered opened session.core
          { after with link := { after.link with channel := some ⟨transport, carrier⟩ } }.core := by
        rw [← asked]
        exact .one (.channel after.core carrier)
      split
      · next relayed =>
          have same := core_reportTask
            { after with link := { after.link with channel := some ⟨transport, carrier⟩ } } .connected
          have further := attached.isSound sound
          rw [← same] at attached further
          exact attached.trans (moves_openChannel further fun _ => opens relayed (accepted relayed))
      · exact attached

/-- A direct connection is made, or the start that waits fails. -/
theorem moves_connectDirectly (session : Session) :
    Moves transport answered opened session.core
      (match session.connectDirectly transport with
        | (after, .error failure) => after.failStartup failure
        | (after, .ok _) => after).core := by
  have created := core_ask session .createPeer (rfl : (Effect.createPeer transport).isLaunch = false)
  unfold connectDirectly
  cases made : session.ask .createPeer (.createPeer transport) with
  | mk after result =>
      rw [made] at created
      cases result with
      | error failure =>
          dsimp only
          rw [← created]
          exact moves_failStartup _ _
      | ok _ =>
          have moved := core_ask { after with link := { after.link with peer := some transport } } .handover
            (rfl : (Effect.handover transport).isLaunch = false)
          have connected : Moves transport answered opened session.core
              { after with link := { after.link with peer := some transport } }.core := by
            rw [← created]
            exact .one (.peer after.core)
          rw [← moved] at connected
          dsimp only
          split
          · next same =>
              rw [same] at connected
              exact connected.trans (moves_failStartup _ _)
          · next same =>
              rw [same] at connected
              exact connected

/-- Whether an event opens the channel of a transport; a relayed channel is open at once. -/
def opensChannel (session : Session) (transport : Nat) : TransportEvent → Bool
  | .channelOpen => session.link.channel.any (·.transport == transport)
  | .taskReady .relayed => (session.surroundings.failure? .relayedChannel).isNone
  | _ => false

theorem moves_chooseTask (sound : session.core.IsSound transport answered opened) (task : CarrierTask)
    (opens : session.opensChannel transport (.taskReady task) = true → opened) :
    Moves transport answered opened session.core (session.chooseTask task).core := by
  have chosen : Moves transport answered opened session.core
      { session with link := { session.link with task := some task } }.core := .one (.task session.core (some task))
  unfold chooseTask
  dsimp only
  split
  · exact chosen
  · next own linked =>
      cases linked.symm.trans sound.linked
      exact chosen.trans (moves_connectDirectly _)
  · refine chosen.trans (moves_takeOver (chosen.isSound sound) fun _ accepted => opens ?_)
    rw [opensChannel, accepted]
    rfl

theorem moves_followSignaling (session : Session) (state : SignalingState) :
    Moves transport answered opened session.core (session.followSignaling state).core := by
  have built (state : Buildup) : Moves transport answered opened session.core (session.setBuildup state).core :=
    .of_eq (core_setBuildup _ _)
  unfold followSignaling
  split
  · exact built _
  · exact built _
  · exact built _
  · exact built _
  · exact built _
  · split
    · exact built _
    · exact .refl _
  · split
    · exact (built _).trans (moves_failStartup _ _)
    · exact .refl _
  · exact .refl _

theorem moves_takeSignaling (session : Session) (state : SignalingState) :
    Moves transport answered opened session.core (session.takeSignaling state).core := by
  unfold takeSignaling
  rw [core_reportSignaling]
  split
  · exact .refl _
  · exact moves_followSignaling _ _

/-- Whatever a transport reports moves the core, once what it answers and opens is counted. -/
theorem moves_handleEvent (sound : session.core.IsSound transport answered opened) (event : TransportEvent)
    (answers : ∀ step, event.answers? = some step → answered step)
    (opens : session.opensChannel transport event = true → opened) :
    Moves transport answered opened session.core (session.handleEvent event).core := by
  cases event with
  | newResponder =>
      unfold handleEvent
      dsimp only
      split
      · exact .refl _
      · exact .of_eq (core_setBuildup _ _)
  | signaling state => exact session.moves_takeSignaling state
  | taskReady task => exact moves_chooseTask sound task opens
  | handover =>
      unfold handleEvent
      dsimp only
      split
      · next direct =>
          refine moves_takeOver sound fun relayed => ?_
          rw [direct] at relayed
          cases relayed
      · exact .refl _
  | taskState state => exact .of_eq (core_reportTask _ _)
  | peerDisconnected =>
      unfold handleEvent
      dsimp only
      split
      · exact .of_eq (core_reportTask _ _)
      · exact .refl _
  | application message =>
      unfold handleEvent takeApplication
      dsimp only
      split <;> exact .refl _
  | connectionError reason => exact session.moves_failStartup _
  | connectionClosed code =>
      unfold handleEvent
      dsimp only
      split
      · exact .of_eq (core_reportTask _ _)
      · exact .refl _
  | channelOpen =>
      refine moves_openChannel sound fun attached => opens ?_
      obtain ⟨channel, held⟩ := Option.isSome_iff_exists.mp attached
      rw [opensChannel, held, Option.any_some, sound.channel channel held, beq_self_eq_true]
  | channelFrame frame =>
      refine moves_receiveFrame sound fun message step decoded found => answers step ?_
      rw [TransportEvent.answers?, decoded]
      exact found
  | channelError reason => exact .refl _
  | channelClosed => exact .refl _

end Session

end RelayClient
