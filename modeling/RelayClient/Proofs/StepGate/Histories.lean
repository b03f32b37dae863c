import RelayClient.Proofs.Lists
import RelayClient.StepGate

/-!
# Histories of a step gate

Calls on a gate are carried out one at a time, those of a routine when it runs.
Every routine draws a ticket when it is given, which tells it apart from all others,
and each call is noted with the tickets that it releases. Without tickets and notes
this is what a gate does, and it comes to an end whatever the calls are.
-/

namespace RelayClient

namespace StepGate

variable {ρ σ : Type}

/-- The gate with its routines replaced. -/
def map (replace : ρ → σ) (gate : StepGate ρ) : StepGate σ :=
  ⟨gate.completed, gate.queue.map fun waiting => ⟨waiting.required, replace waiting.routine⟩⟩

/-- A gate looks at the steps that routines need, and not at the routines. -/
theorem register_map (replace : ρ → σ) (gate : StepGate ρ) (step : InitStep) :
    (gate.map replace).register step = ((gate.register step).1.map replace, (gate.register step).2.map replace) := by
  unfold register map
  dsimp only
  split
  · rfl
  · simp only [List.partition_eq_filter_filter, List.filter_map, List.map_map]
    rfl

theorem runAfter_map (replace : ρ → σ) (gate : StepGate ρ) (required : List InitStep) (routine : ρ) :
    (gate.map replace).runAfter required (replace routine) =
      ((gate.runAfter required routine).1.map replace, (gate.runAfter required routine).2.map replace) := by
  unfold runAfter map
  dsimp only
  split
  · rfl
  · rw [List.map_append]
    rfl

end StepGate

namespace GateRun

/-- Does the next thing that is left to do, and tells what it leads to first. -/
def advance (run : GateRun) : Work → GateRun × List Work
  | .start routine => ({ run with ran := run.ran ++ [routine.label] }, invocations routine.program)
  | .invoke (.register step) =>
      ({ run with gate := (run.gate.register step).1 }, starts (run.gate.register step).2)
  | .invoke (.runAfter label required program) =>
      ({ run with gate := (run.gate.runAfter required ⟨label, program⟩).1 },
        starts (run.gate.runAfter required ⟨label, program⟩).2)
  | .invoke .reset => ({ run with gate := {} }, [])

theorem perform_nil (run : GateRun) : run.perform [] = run := by
  rw [perform]

theorem perform_cons (run : GateRun) (work : Work) (rest : List Work) :
    run.perform (work :: rest) = (run.advance work).1.perform ((run.advance work).2 ++ rest) := by
  cases work with
  | start routine => rw [perform, advance]
  | invoke call =>
      cases call with
      | reset =>
          rw [perform, advance]
          rfl
      | _ => rw [perform, advance]

/-- Whatever is left to do gets done, one thing after the other. -/
theorem perform_induction {motive : GateRun → List Work → Prop} (done : ∀ run, motive run [])
    (next : ∀ run work rest, motive (run.advance work).1 ((run.advance work).2 ++ rest) → motive run (work :: rest))
    (run : GateRun) (work : List Work) : motive run work := by
  induction run, work using perform.induct with
  | case1 run => exact done run
  | case2 run routine rest ih => exact next run (.start routine) rest ih
  | case3 run step rest ih => exact next run (.invoke (.register step)) rest ih
  | case4 run label required program rest ih => exact next run (.invoke (.runAfter label required program)) rest ih
  | case5 run rest ih => exact next run (.invoke .reset) rest ih

theorem perform_append (run : GateRun) (first second : List Work) :
    run.perform (first ++ second) = (run.perform first).perform second := by
  induction run, first using perform_induction with
  | done run => rw [perform_nil, List.nil_append]
  | next run work rest ih => rw [List.cons_append, perform_cons, perform_cons run, ← List.append_assoc, ih]

/-- Calls made one after the other do what they do as one program. -/
theorem foldl_call (run : GateRun) (program : List GateCall) :
    program.foldl call run = run.perform (invocations program) := by
  induction program generalizing run with
  | nil => exact run.perform_nil.symm
  | cons first rest ih => rw [List.foldl_cons, ih, call, ← perform_append]; rfl

end GateRun

/-- A routine with its ticket. -/
structure Ticketed where
  ticket : Nat
  routine : GateRoutine

/-- What is noted of a gate. -/
inductive GateEvent where
  /-- A step was registered, which released the routines with these tickets. -/
  | registered (step : InitStep) (released : List Nat)
  /-- A routine was given, and was released at once or queued. -/
  | given (ticket : Nat) (required : List InitStep) (atOnce : Bool)
  /-- A routine began to run. -/
  | started (ticket : Nat) (label : String)
  | reset

namespace GateEvent

def IsReset (event : GateEvent) : Prop :=
  event = .reset

def Registers (step : InitStep) (event : GateEvent) : Prop :=
  ∃ released, event = .registered step released

def Gives (ticket : Nat) (required : List InitStep) (event : GateEvent) : Prop :=
  ∃ atOnce, event = .given ticket required atOnce

/-- The tickets of the routines that were released. -/
def released : GateEvent → List Nat
  | .registered _ released => released
  | .given ticket _ true => [ticket]
  | _ => []

/-- The ticket of the routine that was given. -/
def given? : GateEvent → Option Nat
  | .given ticket _ _ => some ticket
  | _ => none

/-- The ticket of the routine that began to run. -/
def started? : GateEvent → Option Nat
  | .started ticket _ => some ticket
  | _ => none

/-- The label of the routine that began to run. -/
def label? : GateEvent → Option String
  | .started _ label => some label
  | _ => none

/-- A step was registered, and the gate was not reset since. -/
def IsComplete (history : List GateEvent) (step : InitStep) : Prop :=
  Stands (Registers step) IsReset history

/-- A routine was queued, and was neither released nor dropped since. -/
def IsQueued (history : List GateEvent) (ticket : Nat) (required : List InitStep) : Prop :=
  Stands (· = .given ticket required false) (fun event => event.IsReset ∨ ticket ∈ event.released) history

/-- A routine was given, and the gate was not reset since. -/
def IsGiven (history : List GateEvent) (ticket : Nat) (required : List InitStep) : Prop :=
  Stands (Gives ticket required) IsReset history

/-- A routine was queued when the gate was reset. -/
def IsDropped (history : List GateEvent) (ticket : Nat) : Prop :=
  ∃ before after required, history = before ++ .reset :: after ∧ IsQueued before ticket required

/-- At some time all steps were complete that a routine needs, with no reset since it was given. -/
def IsDue (history : List GateEvent) (ticket : Nat) : Prop :=
  ∃ before after required, history = before ++ after ∧ IsGiven before ticket required ∧
    ∀ step ∈ required, IsComplete before step

variable {history : List GateEvent} {event : GateEvent} {ticket : Nat}

theorem isDropped_concat_iff : IsDropped (history ++ [event]) ticket ↔
    IsDropped history ticket ∨ event = .reset ∧ ∃ required, IsQueued history ticket required := by
  constructor
  · rintro ⟨before, after, required, split, queued⟩
    rcases concat_eq_split_iff.mp split with ⟨-, rfl, same⟩ | ⟨middle, -, rfl⟩
    · exact .inr ⟨same, required, queued⟩
    · exact .inl ⟨before, middle, required, rfl, queued⟩
  · rintro (⟨before, after, required, rfl, queued⟩ | ⟨rfl, required, queued⟩)
    · exact ⟨before, after ++ [event], required, by simp, queued⟩
    · exact ⟨history, [], required, rfl, queued⟩

/-- A routine is due once it was before, or if all it needs is complete now. -/
theorem isDue_concat (due : IsDue (history ++ [event]) ticket) :
    IsDue history ticket ∨ ∃ required, IsGiven (history ++ [event]) ticket required ∧
      ∀ step ∈ required, IsComplete (history ++ [event]) step := by
  obtain ⟨before, after, required, split, given, complete⟩ := due
  rcases List.eq_nil_or_concat after with rfl | ⟨middle, last, rfl⟩
  · rw [List.append_nil] at split
    rw [split]
    exact .inr ⟨required, given, complete⟩
  · rw [List.concat_eq_append, ← List.append_assoc] at split
    obtain ⟨rfl, -⟩ := List.append_inj' split rfl
    exact .inl ⟨before, middle, required, rfl, given, complete⟩

end GateEvent

/-- A gate with tickets, and what was noted of it so far. -/
structure GateTrace where
  gate : StepGate Ticketed := {}
  /-- Tickets drawn so far. -/
  tickets : Nat := 0
  history : List GateEvent := []

/-- What is left to do, with tickets. -/
inductive TicketedWork where
  | invoke (call : GateCall)
  | start (routine : Ticketed)

namespace TicketedWork

def plain : TicketedWork → GateRun.Work
  | .invoke call => .invoke call
  | .start routine => .start routine.routine

/-- The calls of a program or of a routine, which are still to be made. -/
def calls (program : List GateCall) : List TicketedWork :=
  program.map .invoke

theorem plain_calls (program : List GateCall) : (calls program).map plain = GateRun.invocations program :=
  List.map_map

theorem plain_starts (routines : List Ticketed) :
    (routines.map TicketedWork.start).map plain = GateRun.starts (routines.map (·.routine)) := by
  unfold GateRun.starts
  rw [List.map_map, List.map_map]
  rfl

end TicketedWork

namespace GateTrace

open TicketedWork (plain calls plain_calls plain_starts)

/-- What is noted when the next thing is done that is left to do. -/
def event (trace : GateTrace) : TicketedWork → GateEvent
  | .start routine => .started routine.ticket routine.routine.label
  | .invoke (.register step) => .registered step ((trace.gate.register step).2.map (·.ticket))
  | .invoke (.runAfter _ required _) => .given trace.tickets required (trace.gate.completed.covers required)
  | .invoke .reset => .reset

/-- Does the next thing that is left to do, and tells what it leads to first. -/
def advance (trace : GateTrace) (work : TicketedWork) : GateTrace × List TicketedWork :=
  let noted := { trace with history := trace.history ++ [trace.event work] }
  match work with
  | .start routine => (noted, calls routine.routine.program)
  | .invoke (.register step) =>
      ({ noted with gate := (trace.gate.register step).1 }, (trace.gate.register step).2.map .start)
  | .invoke (.runAfter label required program) =>
      let queued := trace.gate.runAfter required ⟨trace.tickets, label, program⟩
      ({ noted with gate := queued.1, tickets := trace.tickets + 1 }, queued.2.map .start)
  | .invoke .reset => ({ noted with gate := {} }, [])

theorem advance_history (trace : GateTrace) (work : TicketedWork) :
    (trace.advance work).1.history = trace.history ++ [trace.event work] := by
  cases work with
  | start routine => rfl
  | invoke call => cases call <;> rfl

/-- The gate without tickets, with the labels of the routines that have run. -/
def run (trace : GateTrace) : GateRun :=
  ⟨trace.gate.map (·.routine), trace.history.filterMap GateEvent.label?⟩

/-- What is noted beside a gate does not change what it does. -/
theorem run_advance (trace : GateTrace) (work : TicketedWork) :
    ((trace.advance work).1.run, (trace.advance work).2.map plain) = trace.run.advance work.plain := by
  cases work with
  | start routine =>
      dsimp only [advance, event, run, plain, GateRun.advance]
      rw [plain_calls, List.filterMap_append]
      rfl
  | invoke call =>
      cases call with
      | register step =>
          dsimp only [advance, event, run, plain, GateRun.advance]
          rw [trace.gate.register_map (·.routine) step, plain_starts, List.filterMap_append]
          simp only [List.filterMap_cons, GateEvent.label?, List.filterMap_nil, List.append_nil]
      | runAfter label required program =>
          dsimp only [advance, event, run, plain, GateRun.advance]
          rw [trace.gate.runAfter_map (·.routine) required ⟨trace.tickets, label, program⟩, plain_starts,
              List.filterMap_append]
          simp only [List.filterMap_cons, GateEvent.label?, List.filterMap_nil, List.append_nil]
      | reset =>
          dsimp only [advance, event, run, plain, GateRun.advance]
          rw [List.filterMap_append]
          simp only [List.filterMap_cons, GateEvent.label?, List.filterMap_nil, List.append_nil]
          rfl

theorem perform_advance (trace : GateTrace) (work : TicketedWork) (rest : List TicketedWork) :
    (trace.advance work).1.run.perform (((trace.advance work).2 ++ rest).map plain) =
      trace.run.perform ((work :: rest).map plain) := by
  have step := trace.run_advance work
  rw [List.map_append, List.map_cons, GateRun.perform_cons, ← step]

/-- What is left to do leads from a trace to another one, and to what is left then. -/
inductive Leads (first : GateTrace) (program : List TicketedWork) : GateTrace → List TicketedWork → Prop
  | refl : Leads first program first program
  | step {trace : GateTrace} {work : TicketedWork} {rest : List TicketedWork}
      (former : Leads first program trace (work :: rest)) :
      Leads first program (trace.advance work).1 ((trace.advance work).2 ++ rest)

variable {first trace : GateTrace} {program work : List TicketedWork}

theorem Leads.perform (leads : first.Leads program trace work) :
    trace.run.perform (work.map plain) = first.run.perform (program.map plain) := by
  induction leads with
  | refl => rfl
  | step former ih => rw [perform_advance, ih]

/-- Everything that is left to do comes to an end, also what routines add to it as they run. -/
theorem Leads.exists_end (leads : first.Leads program trace work) : ∃ last, first.Leads program last [] := by
  generalize runs : trace.run = run
  generalize left : work.map plain = plainWork
  induction run, plainWork using GateRun.perform_induction generalizing trace work with
  | done run =>
      rw [List.map_eq_nil_iff.mp left] at leads
      exact ⟨trace, leads⟩
  | next run next rest ih =>
      obtain ⟨head, tail, rfl, rfl, rfl⟩ := List.map_eq_cons_iff.mp left
      have step := trace.run_advance head
      refine ih leads.step ?_ ?_
      · rw [← runs, ← step]
      · rw [List.map_append, ← runs, ← step]

end GateTrace

end RelayClient
