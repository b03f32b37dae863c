import RelayClient.Proofs.Recovery.Watched
import RelayClient.Proofs.Status.Pace

/-!
# States of the buildup that are announced

A session announces each state of the buildup that it enters. Which state that may
be depends on its footing: the task that was chosen, the channel, the steps that are
still awaited, and whether events of a transport are handled at all. Most of what a
session does leaves the footing alone.
-/

namespace RelayClient

/-- The state of the buildup that an effect announces. -/
def Effect.buildup? : Effect → Option Buildup
  | .status event => event.buildup?
  | _ => none

/-- The state of the buildup, and those announced so far. -/
structure Display where
  buildup : Buildup
  announced : List Buildup

def Display.announce (display : Display) (states : List Buildup) : Display :=
  { display with announced := display.announced ++ states }

/-- Enters a state, which is announced unless it is the current one. -/
def Display.enter (display : Display) (state : Buildup) : Display :=
  if display.buildup = state then display else ⟨state, display.announced ++ [state]⟩

/-- Enters states one after another. -/
def Display.visit (display : Display) (states : List Buildup) : Display :=
  states.foldl enter display

/-- What the buildup of a session rests on, and what is shown of it. -/
structure Footing where
  task : Option CarrierTask
  channel : Option Channel
  /-- Events of a transport are handled. -/
  pumps : Bool
  gate : StepGate Continuation
  display : Display

namespace Footing

def announce (footing : Footing) (states : List Buildup) : Footing :=
  { footing with display := footing.display.announce states }

def enter (footing : Footing) (state : Buildup) : Footing :=
  { footing with display := footing.display.enter state }

def visit (footing : Footing) (states : List Buildup) : Footing :=
  { footing with display := footing.display.visit states }

/-- The buildup has come to the channel only with a task, and the routine that makes a
session ready waits only where there is one. -/
structure IsRooted (footing : Footing) : Prop where
  channel : footing.channel.isSome = true → footing.task.isSome = true
  buildup : footing.display.buildup = .loading ∨ footing.display.buildup = .done → footing.task.isSome = true
  gate : footing.pumps = true → footing.gate.IsBacked (fun _ => True) (footing.task.isSome = true)

end Footing

namespace Session

def display (session : Session) : Display :=
  ⟨session.status.buildup, session.effects.filterMap Effect.buildup?⟩

def footing (session : Session) : Footing :=
  ⟨session.link.task, session.link.channel, session.link.pump.isSome, session.replica.gate, session.display⟩

section Frame

variable (session : Session)

theorem footing_note (effect : Effect) :
    (session.note effect).footing = session.footing.announce effect.buildup?.toList := by
  unfold note
  split
  · next hidden =>
      -- What concerns the frontend announces no state.
      have silent : effect.buildup? = none := by
        cases effect <;> first | rfl | simp [Effect.isShown] at hidden
      rw [silent, Footing.announce, Option.toList_none, Display.announce, List.append_nil]
  · have announced : (session.effects ++ [effect]).filterMap Effect.buildup? =
        session.effects.filterMap Effect.buildup? ++ effect.buildup?.toList := by
      rw [List.filterMap_append]
      cases announces : effect.buildup? <;> simp [announces]
    unfold footing display
    rw [announced]
    rfl

theorem footing_note_of_silent {effect : Effect} (silent : effect.buildup? = none) :
    (session.note effect).footing = session.footing := by
  rw [footing_note, silent, Footing.announce, Option.toList_none, Display.announce, List.append_nil]

theorem footing_reactTo (event : StatusEvent) : (session.reactTo event).footing = session.footing := by
  obtain ⟨data, next, ready, same⟩ := session.reactTo_frame event
  rw [same]
  rfl

/-- Events of the status are announced one after another. -/
theorem footing_postStatus (events : List StatusEvent) :
    (session.postStatus events).footing = session.footing.announce (events.filterMap StatusEvent.buildup?) := by
  unfold postStatus
  induction events generalizing session with
  | nil =>
      rw [Footing.announce, Display.announce, List.filterMap_nil, List.append_nil]
      rfl
  | cons event rest ih =>
      have listed : (event :: rest).filterMap StatusEvent.buildup? =
          event.buildup?.toList ++ rest.filterMap StatusEvent.buildup? := by
        cases announces : event.buildup? <;> simp [announces]
      rw [List.foldl_cons, ih, footing_reactTo, footing_note, listed]
      simp only [Footing.announce, Display.announce, Effect.buildup?, List.append_assoc]

theorem footing_applyStatus (update : Status × List StatusEvent) :
    (session.applyStatus update).footing =
      { session.footing with
        display := ⟨update.1.buildup, session.display.announced ++ update.2.filterMap StatusEvent.buildup?⟩ } :=
  footing_postStatus { session with status := update.1 } update.2

/-- An update that leaves the buildup and announces nothing of it leaves the footing. -/
theorem footing_applyStatus_of_same {update : Status × List StatusEvent}
    (same : update.1.buildup = session.status.buildup) (silent : update.2.filterMap StatusEvent.buildup? = []) :
    (session.applyStatus update).footing = session.footing := by
  rw [footing_applyStatus, same, silent, List.append_nil]
  rfl

theorem footing_setBuildup (state : Buildup) : (session.setBuildup state).footing = session.footing.enter state := by
  unfold setBuildup
  rw [footing_applyStatus, Status.setBuildup_buildup, Status.setBuildup_snd, Footing.enter, Display.enter]
  have here : session.footing.display.buildup = session.status.buildup := rfl
  rw [here]
  split
  · next same =>
      rw [List.filterMap_nil, List.append_nil, ← same]
      rfl
  · rfl

theorem footing_reportSignaling (state : SignalingState) :
    (session.reportSignaling state).footing = session.footing := by
  refine footing_applyStatus_of_same session (Status.reportSignaling_buildup _ state) ?_
  rw [Status.reportSignaling_news, Status.news_global (Status.reportSignaling_buildup _ state).symm]
  split <;> rfl

theorem footing_reportTask (state : TaskState) : (session.reportTask state).footing = session.footing := by
  refine footing_applyStatus_of_same session (Status.reportTask_buildup _ state) ?_
  rw [Status.reportTask_news, Status.news_global (Status.reportTask_buildup _ state).symm]
  split <;> rfl

theorem footing_settleStartup (startup : Nat) (result : Except Failure Unit) :
    (session.settleStartup startup result).footing = session.footing := by
  obtain ⟨ready, same⟩ := session.settleStartup_frame startup result
  rw [same]
  rfl

theorem footing_failStartup (failure : Failure) : (session.failStartup failure).footing = session.footing := by
  unfold failStartup
  split
  · exact footing_settleStartup _ _ _
  · rfl

theorem footing_postMessage (message : Message) : (session.postMessage message).1.footing = session.footing := by
  unfold postMessage
  split
  · exact footing_note_of_silent session rfl
  · rfl

theorem footing_postAll (messages : List Message) : (session.postAll messages).footing = session.footing := by
  unfold postAll
  induction messages generalizing session with
  | nil => rfl
  | cons message rest ih => rw [List.foldl_cons, ih, footing_postMessage]

theorem footing_ask (call : OutsideCall) {effect : Effect} (silent : effect.buildup? = none) :
    (session.ask call effect).1.footing = session.footing :=
  footing_note_of_silent session silent

theorem footing_askChannel : session.askChannel.1.footing = session.footing := by
  unfold askChannel
  split
  · exact footing_ask session .openChannel rfl
  · exact footing_ask session .relayedChannel rfl
  · rfl

theorem footing_connectDirectly (transport : Nat) :
    (session.connectDirectly transport).1.footing = session.footing := by
  rcases session.connectDirectly_cases transport with same | same
  · rw [same, footing_note_of_silent _ rfl]
  · rw [same, footing_note_of_silent _ rfl]
    exact session.footing_note_of_silent rfl

theorem footing_takeApplication (message : Pack.Value) :
    (session.takeApplication message).footing = session.footing := by
  unfold takeApplication
  split <;> rfl

theorem footing_becomeReady : session.becomeReady.footing = session.footing.enter .done := by
  have done := session.footing_setBuildup .done
  unfold becomeReady
  dsimp only
  split
  · rw [footing_settleStartup, ← done]
    rfl
  · exact done

/-- Notices make a session ready as often as they tell of the end of a start. -/
theorem footing_takeNotices (notices : List Notice) : ∃ count,
    (notices.foldl takeNotice session).footing = session.footing.visit (List.replicate count .done) ∧
      (0 < count → ∃ number, .startFinished number ∈ notices) := by
  induction notices generalizing session with
  | nil => exact ⟨0, rfl, nofun⟩
  | cons notice rest ih =>
      obtain ⟨count, visits, finished⟩ := ih (session.takeNotice notice)
      rw [List.foldl_cons, visits]
      have later (positive : 0 < count) : ∃ number, .startFinished number ∈ notice :: rest := by
        obtain ⟨number, mem⟩ := finished positive
        exact ⟨number, .tail _ mem⟩
      cases notice with
      | unread number => exact ⟨count, rfl, later⟩
      | disconnected reason => exact ⟨count, rfl, later⟩
      | startFinished number =>
          rw [takeNotice, footing_becomeReady]
          exact ⟨count + 1, rfl, fun _ => ⟨number, .head _⟩⟩

theorem footing_followSignaling (state : SignalingState) :
    ∃ asked, (session.followSignaling state).footing = session.footing.visit asked ∧
      (asked = [] ∨ asked = [.connecting] ∧ session.status.buildup = .new ∨
        asked = [.waiting] ∧ (session.status.buildup = .new ∨ session.status.buildup = .connecting) ∨
        asked = [.closed] ∧ session.link.task = none) := by
  have enters (state : Buildup) : (session.setBuildup state).footing = session.footing.visit [state] :=
    session.footing_setBuildup state
  unfold followSignaling
  split
  · next new => exact ⟨[.connecting], enters _, .inr (.inl ⟨rfl, new⟩)⟩
  · next new => exact ⟨[.connecting], enters _, .inr (.inl ⟨rfl, new⟩)⟩
  · next new => exact ⟨[.connecting], enters _, .inr (.inl ⟨rfl, new⟩)⟩
  · next new => exact ⟨[.waiting], enters _, .inr (.inr (.inl ⟨rfl, .inl new⟩))⟩
  · next connecting => exact ⟨[.waiting], enters _, .inr (.inr (.inl ⟨rfl, .inr connecting⟩))⟩
  · split
    · next absent => exact ⟨[.closed], enters _, .inr (.inr (.inr ⟨rfl, Option.isNone_iff_eq_none.mp absent⟩))⟩
    · exact ⟨[], rfl, .inl rfl⟩
  · split
    · next absent =>
        refine ⟨[.closed], ?_, .inr (.inr (.inr ⟨rfl, Option.isNone_iff_eq_none.mp absent⟩))⟩
        rw [footing_failStartup, enters]
    · exact ⟨[], rfl, .inl rfl⟩
  · exact ⟨[], rfl, .inl rfl⟩

end Frame

end Session

end RelayClient
