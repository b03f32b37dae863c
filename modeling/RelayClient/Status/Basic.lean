import RelayClient.Status.Buildup
import RelayClient.Status.Tracks

/-!
# Connection status

The status of a connection holds the two reported tracks, the summary of them,
the number of unread messages and the buildup. An update returns the events it
posts, and an update that changes nothing posts none. Times are in milliseconds.
-/

namespace RelayClient

/-- Which track the summary follows. -/
inductive Stage where
  | signaling
  | task
  deriving DecidableEq, Inhabited

structure GlobalChange where
  previous : GlobalState
  current : GlobalState
  /-- The task was connected at some time since the last reset. -/
  wasConnected : Bool
  deriving DecidableEq

/-- What an update posts. -/
inductive StatusEvent where
  | global (change : GlobalChange)
  | buildup (state : Buildup)
  | reset
  deriving DecidableEq

structure Status where
  signaling : SignalingState := .new
  task : TaskState := .new
  stage : Stage := .signaling
  global : GlobalState := .error
  wasConnected : Bool := false
  unread : Nat := 0
  buildup : Buildup := .new
  progress : Nat := 0
  /-- The buildup has been at its ceiling for a period. -/
  slow : Bool := false
  /-- The time at which the buildup moves on by itself. -/
  nextTick : Option Nat := none
  /-- There is a clock, without which the buildup does not move on by itself. -/
  clocked : Bool := true
  deriving DecidableEq, Inhabited

namespace Status

def setGlobal (status : Status) (state : GlobalState) : Status × List StatusEvent :=
  if status.global = state then (status, [])
  else ({ status with global := state }, [.global ⟨status.global, state, status.wasConnected⟩])

/-- Enters a state of the buildup, which starts anew unless it is the current one. -/
def setBuildup (status : Status) (state : Buildup) (now : Nat) : Status × List StatusEvent :=
  if status.buildup = state then (status, [])
  else
    ({ status with
        buildup := state
        progress := state.initial
        slow := false
        nextTick := if status.clocked then state.period?.map (now + ·) else none },
      [.buildup state])

/-- Reports a state of the signaling, which counts only before the task stage. -/
def reportSignaling (status : Status) (state : SignalingState) : Status × List StatusEvent :=
  match status.stage, state.summary? with
  | .signaling, some summary =>
      setGlobal { status with
        signaling := state
        stage := if state = .task then .task else .signaling } summary
  | _, _ => (status, [])

/-- Reports a state of the task, with which the task stage begins. -/
def reportTask (status : Status) (state : TaskState) : Status × List StatusEvent :=
  match state.summary? with
  | some summary =>
      setGlobal { status with
        task := state
        stage := .task
        wasConnected := status.wasConnected || state == .connected } summary
  | none => (status, [])

/-- Returns to the initial status; the number of unread messages is kept unless told otherwise. -/
def reset (status : Status) (forgetUnread : Bool) (now : Nat) : Status × List StatusEvent :=
  let cleared := { status with
    signaling := .new
    task := .new
    stage := .signaling
    wasConnected := false
    unread := if forgetUnread then 0 else status.unread }
  let (cleared, buildupEvents) := setBuildup cleared .new now
  let (cleared, globalEvents) := setGlobal cleared .error
  (cleared, globalEvents ++ buildupEvents ++ [.reset])

/-- The progress, slowness and next tick of a buildup once all ticks up to a time are done. -/
def tickUntil (state : Buildup) (period : Nat) (positive : 0 < period) (now due progress : Nat) :
    Nat × Bool × Option Nat :=
  if due ≤ now then
    match state.next? progress with
    | some further => tickUntil state period positive now (due + period) further
    | none => (progress, true, none)
  else (progress, false, some due)
termination_by now + 1 - due

/-- The status at a later time. -/
def passTo (status : Status) (now : Nat) : Status :=
  match status.nextTick, found : status.buildup.period? with
  | some due, some period =>
      let (progress, slow, nextTick) :=
        tickUntil status.buildup period (Buildup.period_pos found) now due status.progress
      { status with progress, slow := status.slow || slow, nextTick }
  | _, _ => status

end Status

end RelayClient
