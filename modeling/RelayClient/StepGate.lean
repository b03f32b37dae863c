/-!
# Step gates

A session is ready once three steps are complete. A routine that needs some of
them waits in a queue until the last of those it needs completes, and leaves
the queue before it runs, so it runs at most once. Resetting a gate forgets the
completed steps and drops the routines that wait.
-/

namespace RelayClient

/-- What has to arrive before a session is ready. -/
inductive InitStep where
  | clientInfo
  | conversations
  | receivers
  deriving DecidableEq, Inhabited

namespace InitStep

def all : List InitStep := [.clientInfo, .conversations, .receivers]

def name : InitStep → String
  | .clientInfo => "client info"
  | .conversations => "conversations"
  | .receivers => "receivers"

end InitStep

structure StepSet where
  clientInfo : Bool := false
  conversations : Bool := false
  receivers : Bool := false
  deriving DecidableEq, Inhabited

namespace StepSet

def contains (steps : StepSet) : InitStep → Bool
  | .clientInfo => steps.clientInfo
  | .conversations => steps.conversations
  | .receivers => steps.receivers

def insert (steps : StepSet) : InitStep → StepSet
  | .clientInfo => { steps with clientInfo := true }
  | .conversations => { steps with conversations := true }
  | .receivers => { steps with receivers := true }

def covers (steps : StepSet) (required : List InitStep) : Bool :=
  required.all steps.contains

theorem contains_insert (steps : StepSet) (step other : InitStep) :
    (steps.insert step).contains other = (step == other || steps.contains other) := by
  cases step <;> cases other <;> rfl

end StepSet

/-- A routine that waits, and the steps it needs. -/
structure Waiting (ρ : Type) where
  required : List InitStep
  routine : ρ

/-- The completed steps, and the routines that wait, oldest first. -/
structure StepGate (ρ : Type) where
  completed : StepSet := {}
  queue : List (Waiting ρ) := []
  deriving Inhabited

namespace StepGate

variable {ρ : Type}

def isComplete (gate : StepGate ρ) (step : InitStep) : Bool :=
  gate.completed.contains step

/-- Completes a step and releases, in queue order, the routines it was the last
need of. A step that is complete already changes nothing. -/
def register (gate : StepGate ρ) (step : InitStep) : StepGate ρ × List ρ :=
  if gate.completed.contains step then (gate, [])
  else
    let completed := gate.completed.insert step
    let parts := gate.queue.partition fun waiting => completed.covers waiting.required
    (⟨completed, parts.2⟩, parts.1.map (·.routine))

/-- Releases a routine at once when all it needs is complete, and queues it otherwise. -/
def runAfter (gate : StepGate ρ) (required : List InitStep) (routine : ρ) : StepGate ρ × List ρ :=
  if gate.completed.covers required then (gate, [routine])
  else ({ gate with queue := gate.queue ++ [⟨required, routine⟩] }, [])

end StepGate

/-- A call on a gate whose routines are programs of further calls. -/
inductive GateCall where
  | register (step : InitStep)
  | runAfter (label : String) (required : List InitStep) (program : List GateCall)
  | reset

/-- A routine given as a program. -/
structure GateRoutine where
  label : String
  program : List GateCall

namespace GateCall

mutual

/-- How many calls a call can lead to, itself included. -/
def weight : GateCall → Nat
  | .register _ => 1
  | .runAfter _ _ program => 2 + programWeight program
  | .reset => 1

/-- How many calls a program can lead to. -/
def programWeight : List GateCall → Nat
  | [] => 0
  | call :: rest => weight call + programWeight rest

end

end GateCall

/-- How many calls a routine can lead to, its own start included. -/
def GateRoutine.weight (routine : GateRoutine) : Nat :=
  1 + GateCall.programWeight routine.program

/-- A gate with the labels of the routines that have run, oldest first. -/
structure GateRun where
  gate : StepGate GateRoutine := {}
  ran : List String := []

namespace GateRun

def queueWeight : List (Waiting GateRoutine) → Nat
  | [] => 0
  | waiting :: rest => waiting.routine.weight + queueWeight rest

def routinesWeight : List GateRoutine → Nat
  | [] => 0
  | routine :: rest => routine.weight + routinesWeight rest

/-- What is left to do: calls of the routine that runs, then released routines. -/
inductive Work where
  | invoke (call : GateCall)
  | start (routine : GateRoutine)

def Work.weight : Work → Nat
  | .invoke call => call.weight
  | .start routine => routine.weight

def workWeight : List Work → Nat
  | [] => 0
  | work :: rest => work.weight + workWeight rest

def invocations (program : List GateCall) : List Work :=
  program.map .invoke

/-- Released routines, to be run in order. -/
def starts (routines : List GateRoutine) : List Work :=
  routines.map .start

theorem workWeight_append (first second : List Work) :
    workWeight (first ++ second) = workWeight first + workWeight second := by
  induction first with
  | nil => simp [workWeight]
  | cons work rest ih => simp [workWeight, ih, Nat.add_assoc]

theorem workWeight_starts (routines : List GateRoutine) :
    workWeight (starts routines) = routinesWeight routines := by
  induction routines with
  | nil => rfl
  | cons routine rest ih => simpa [starts, workWeight, routinesWeight, Work.weight] using ih

theorem workWeight_invocations (program : List GateCall) :
    workWeight (invocations program) = GateCall.programWeight program := by
  induction program with
  | nil => rfl
  | cons call rest ih => simpa [invocations, workWeight, GateCall.programWeight, Work.weight] using ih

theorem queueWeight_append (first second : List (Waiting GateRoutine)) :
    queueWeight (first ++ second) = queueWeight first + queueWeight second := by
  induction first with
  | nil => simp [queueWeight]
  | cons waiting rest ih => simp [queueWeight, ih, Nat.add_assoc]

theorem weight_partition (test : Waiting GateRoutine → Bool) (queue : List (Waiting GateRoutine)) :
    routinesWeight ((queue.filter test).map (·.routine)) + queueWeight (queue.filter (not ∘ test)) =
      queueWeight queue := by
  induction queue with
  | nil => rfl
  | cons waiting rest ih =>
      cases hit : test waiting <;> simp [hit, queueWeight, routinesWeight] <;> omega

theorem weight_register (gate : StepGate GateRoutine) (step : InitStep) :
    routinesWeight (gate.register step).2 + queueWeight (gate.register step).1.queue =
      queueWeight gate.queue := by
  unfold StepGate.register
  split
  · simp [routinesWeight]
  · simp only [List.partition_eq_filter_filter]
    exact weight_partition _ gate.queue

theorem weight_runAfter (gate : StepGate GateRoutine) (required : List InitStep) (routine : GateRoutine) :
    routinesWeight (gate.runAfter required routine).2 + queueWeight (gate.runAfter required routine).1.queue =
      routine.weight + queueWeight gate.queue := by
  unfold StepGate.runAfter
  split
  · simp [routinesWeight]
  · simp [routinesWeight, queueWeight_append, queueWeight, Nat.add_comm]

/-- Does all that is left to do. A released routine runs to its end, with all
that it releases in turn, before the call after the one that released it. -/
def perform (run : GateRun) : List Work → GateRun
  | [] => run
  | .start routine :: rest =>
      perform { run with ran := run.ran ++ [routine.label] } (invocations routine.program ++ rest)
  | .invoke (.register step) :: rest =>
      perform { run with gate := (run.gate.register step).1 } (starts (run.gate.register step).2 ++ rest)
  | .invoke (.runAfter label required program) :: rest =>
      perform { run with gate := (run.gate.runAfter required ⟨label, program⟩).1 }
        (starts (run.gate.runAfter required ⟨label, program⟩).2 ++ rest)
  | .invoke .reset :: rest => perform { run with gate := {} } rest
termination_by work => workWeight work + queueWeight run.gate.queue
decreasing_by
  · simp only [workWeight_append, workWeight_invocations, workWeight, Work.weight, GateRoutine.weight]
    omega
  · have := weight_register run.gate step
    simp only [workWeight_append, workWeight_starts, workWeight, Work.weight, GateCall.weight]
    omega
  · have := weight_runAfter run.gate required ⟨label, program⟩
    simp only [GateRoutine.weight] at this
    simp only [workWeight_append, workWeight_starts, workWeight, Work.weight, GateCall.weight]
    omega
  · simp only [workWeight, Work.weight, GateCall.weight, queueWeight]
    omega

def call (run : GateRun) (call : GateCall) : GateRun :=
  run.perform [.invoke call]

end GateRun

end RelayClient
