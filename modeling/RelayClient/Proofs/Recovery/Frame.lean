import RelayClient.Session.Schedule

/-!
# What leaves recovery alone

A stop closes and forgets much of a session and returns to the initial status.
None of it moves recovery, not even the events of that status: the connection
counts as lost only where it was up since the last reset.
-/

namespace RelayClient

/-- Whether a state of the buildup calls the timer of recovery off. -/
def Buildup.isProgress (state : Buildup) : Bool :=
  state = .peerHandshake ∨ state = .loading ∨ state = .done

/-- Whether recovery has no part in an event. -/
def StatusEvent.isQuiet : StatusEvent → Bool
  | .global change => change.current ≠ .ok ∧ ¬ change.wasConnected
  | .buildup state => !state.isProgress
  | .reset => true

namespace Status

variable {event : StatusEvent}

theorem eq_of_mem_setGlobal {status : Status} {state : GlobalState} (posted : event ∈ (status.setGlobal state).2) :
    event = .global ⟨status.global, state, status.wasConnected⟩ := by
  unfold setGlobal at posted
  split at posted
  · cases posted
  · exact List.mem_singleton.mp posted

theorem eq_of_mem_setBuildup {status : Status} {state : Buildup} {now : Nat}
    (posted : event ∈ (status.setBuildup state now).2) : event = .buildup state := by
  unfold setBuildup at posted
  split at posted
  · cases posted
  · exact List.mem_singleton.mp posted

theorem setBuildup_wasConnected (status : Status) (state : Buildup) (now : Nat) :
    (status.setBuildup state now).1.wasConnected = status.wasConnected := by
  unfold setBuildup
  split <;> rfl

/-- A reset forgets that the task was connected before it posts anything. -/
theorem isQuiet_of_mem_reset {status : Status} {forgetUnread : Bool} {now : Nat}
    (posted : event ∈ (status.reset forgetUnread now).2) : event.isQuiet = true := by
  simp only [reset, List.append_assoc, List.mem_append, List.mem_singleton] at posted
  rcases posted with posted | posted | rfl
  · cases eq_of_mem_setGlobal posted
    simp [StatusEvent.isQuiet, setBuildup_wasConnected]
  · cases eq_of_mem_setBuildup posted
    rfl
  · rfl

end Status

namespace Session

@[simp] theorem note_recovery (session : Session) (effect : Effect) :
    (session.note effect).recovery = session.recovery := by
  unfold note
  split <;> rfl

@[simp] theorem spawn_recovery (session : Session) (task : Task) :
    (session.spawn task).recovery = session.recovery := rfl

@[simp] theorem settleStartup_recovery (session : Session) (startup : Nat) (result : Except Failure Unit) :
    (session.settleStartup startup result).recovery = session.recovery := by
  simp only [settleStartup]
  split
  · split <;> rfl
  · rfl

@[simp] theorem postMessage_recovery (session : Session) (message : Message) :
    (session.postMessage message).1.recovery = session.recovery := by
  unfold postMessage
  split
  · exact note_recovery _ _
  · rfl

@[simp] theorem tellPeer_recovery (session : Session) (options : StopOptions) (transport : Option Nat) :
    (session.tellPeer options transport).recovery = session.recovery := by
  unfold tellPeer
  cases transport with
  | none => exact postMessage_recovery _ _
  | some transport => exact (note_recovery _ _).trans (postMessage_recovery _ _)

@[simp] theorem noteFor_recovery {α : Type} (session : Session) (effect : α → Effect) (thing : Option α) :
    (session.noteFor effect thing).recovery = session.recovery := by
  cases thing with
  | none => rfl
  | some thing => exact note_recovery _ _

@[simp] theorem closeLink_recovery (session : Session) (link : Link) :
    (session.closeLink link).recovery = session.recovery := by
  simp [closeLink]

theorem reactTo_of_isQuiet (session : Session) {event : StatusEvent} (quiet : event.isQuiet = true) :
    session.reactTo event = session := by
  unfold reactTo
  cases session.recovery with
  | none => rfl
  | some recovery =>
      cases event with
      | global change =>
          simp only [StatusEvent.isQuiet, Bool.decide_and, Bool.and_eq_true, decide_eq_true_eq] at quiet
          simp [quiet.1, quiet.2]
      | buildup state =>
          simp only [StatusEvent.isQuiet, Buildup.isProgress, Bool.not_eq_true', decide_eq_false_iff_not] at quiet
          simp [quiet]
      | reset => rfl

theorem postStatus_recovery (session : Session) {events : List StatusEvent}
    (quiet : ∀ event ∈ events, event.isQuiet = true) : (session.postStatus events).recovery = session.recovery := by
  induction events generalizing session with
  | nil => rfl
  | cons event rest ih =>
      have restQuiet := ih (session.note (.status event)) fun other mem => quiet other (.tail _ mem)
      rw [postStatus, List.foldl_cons, reactTo_of_isQuiet _ (quiet event (.head _))]
      exact restQuiet.trans (note_recovery _ _)

@[simp] theorem resetStatus_recovery (session : Session) (forgetUnread : Bool) :
    (session.resetStatus forgetUnread).recovery = session.recovery :=
  postStatus_recovery _ fun _ posted => Status.isQuiet_of_mem_reset posted

@[simp] theorem takeDown_recovery (session : Session) (options : StopOptions) :
    (session.takeDown options).recovery = session.recovery := by
  unfold takeDown
  rw [closeLink_recovery]
  cases session.link.startup with
  | none =>
      dsimp only [forget]
      rw [resetStatus_recovery]
      split <;> simp
  | some startup =>
      dsimp only
      rw [settleStartup_recovery]
      dsimp only [forget]
      rw [resetStatus_recovery]
      split <;> simp

@[simp] theorem stop_recovery (session : Session) (options : StopOptions) :
    (session.stop options).recovery = session.recovery := by
  unfold stop
  split <;> simp

@[simp] theorem giveUp_recovery (session : Session) (keys : Option ResumeKeys) :
    (session.giveUp keys).recovery = session.recovery := by
  simp [giveUp]

end Session

end RelayClient
