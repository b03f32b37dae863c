import Mathlib.Data.List.Nodup
import Mathlib.Data.List.Perm.Subperm
import RelayClient.Proofs.StepGate.Histories

/-!
# What a step gate lets through

A gate and what is left to do are accounted for by what was noted before: no ticket
is in two places, what waits still needs a step, and whoever was given and did not
start is waiting or about to start. A run of any program keeps this.
-/

namespace RelayClient

namespace StepSet

theorem covers_iff {steps : StepSet} {required : List InitStep} :
    steps.covers required = true ↔ ∀ step ∈ required, steps.contains step = true :=
  List.all_eq_true

theorem insert_of_contains {steps : StepSet} {step : InitStep} (contained : steps.contains step = true) :
    steps.insert step = steps := by
  cases step <;> cases steps <;> cases contained <;> rfl

end StepSet

namespace StepGate

/-- No routine waits whose steps are all complete. -/
def IsTight {ρ : Type} (gate : StepGate ρ) : Prop :=
  ∀ waiting ∈ gate.queue, gate.completed.covers waiting.required = false

/-- A step releases what needs nothing more, and nothing if it is complete already. -/
theorem IsTight.register_eq {ρ : Type} {gate : StepGate ρ} (tight : gate.IsTight) (step : InitStep) :
    gate.register step =
      (⟨gate.completed.insert step, gate.queue.filter fun waiting =>
          !(gate.completed.insert step).covers waiting.required⟩,
        (gate.queue.filter fun waiting => (gate.completed.insert step).covers waiting.required).map (·.routine)) := by
  unfold StepGate.register
  split
  case isTrue complete =>
    rw [StepSet.insert_of_contains complete, List.filter_eq_self.mpr, List.filter_eq_nil_iff.mpr]
    · rfl
    · intro waiting mem
      simp [tight waiting mem]
    · intro waiting mem
      simp [tight waiting mem]
  case isFalse =>
    dsimp only
    rw [List.partition_eq_filter_filter]
    rfl

theorem IsTight.register {ρ : Type} {gate : StepGate ρ} (tight : gate.IsTight) (step : InitStep) :
    (gate.register step).1.IsTight := by
  rw [tight.register_eq]
  intro waiting mem
  have kept := (List.mem_filter.mp mem).2
  rwa [Bool.not_eq_true'] at kept

theorem IsTight.runAfter {ρ : Type} {gate : StepGate ρ} (tight : gate.IsTight) (required : List InitStep)
    (routine : ρ) : (gate.runAfter required routine).1.IsTight := by
  unfold StepGate.runAfter
  split
  case isTrue => exact tight
  case isFalse uncovered =>
    intro waiting mem
    rcases List.mem_append.mp mem with mem | mem
    · exact tight waiting mem
    · rw [List.mem_singleton.mp mem]
      exact Bool.eq_false_iff.mpr uncovered

theorem isComplete_register {ρ : Type} (gate : StepGate ρ) (step other : InitStep) :
    (gate.register step).1.isComplete other = (step == other || gate.isComplete other) := by
  unfold StepGate.register
  split
  case isTrue complete =>
    cases same : step == other
    · rfl
    · rw [← beq_iff_eq.mp same, isComplete, complete, Bool.true_or]
  case isFalse => exact StepSet.contains_insert gate.completed step other

theorem isComplete_runAfter {ρ : Type} (gate : StepGate ρ) (required : List InitStep) (routine : ρ) (step : InitStep) :
    (gate.runAfter required routine).1.isComplete step = gate.isComplete step := by
  unfold StepGate.runAfter
  split <;> rfl

/-- A routine with this ticket waits for these steps. -/
def Holds (gate : StepGate Ticketed) (ticket : Nat) (required : List InitStep) : Prop :=
  ∃ waiting ∈ gate.queue, waiting.required = required ∧ waiting.routine.ticket = ticket

end StepGate

/-- The ticket of the routine that is about to run. -/
def TicketedWork.ticket? : TicketedWork → Option Nat
  | .start routine => some routine.ticket
  | .invoke _ => none

namespace GateTrace

open GateEvent

/-- The tickets of the routines that wait. -/
def waiting (trace : GateTrace) : List Nat :=
  trace.gate.queue.map (·.routine.ticket)

/-- The tickets of the routines that have begun to run. -/
def started (trace : GateTrace) : List Nat :=
  trace.history.filterMap started?

/-- The tickets of the routines that have begun to run or are about to. -/
def released (trace : GateTrace) (work : List TicketedWork) : List Nat :=
  trace.started ++ work.filterMap TicketedWork.ticket?

theorem tickets_starts (routines : List Ticketed) :
    (routines.map TicketedWork.start).filterMap TicketedWork.ticket? = routines.map (·.ticket) := by
  rw [List.filterMap_map, ← List.filterMap_eq_map]
  rfl

theorem tickets_calls (program : List GateCall) :
    (TicketedWork.calls program).filterMap TicketedWork.ticket? = [] := by
  rw [TicketedWork.calls, List.filterMap_map]
  exact List.filterMap_eq_nil_iff.mpr fun _ _ => rfl

variable {trace : GateTrace} {work : TicketedWork} {rest : List TicketedWork}

theorem event_started : (trace.event work).started? = work.ticket? := by
  cases work with
  | start routine => rfl
  | invoke call => cases call <;> rfl

theorem started_advance : (trace.advance work).1.started = trace.started ++ work.ticket?.toList := by
  rw [started, advance_history, List.filterMap_append, ← trace.event_started]
  cases noted : (trace.event work).started? <;> simp [started, noted]

/-- What was released is about to run. -/
theorem tickets_advance : (trace.advance work).2.filterMap TicketedWork.ticket? = (trace.event work).released := by
  cases work with
  | start routine => exact tickets_calls routine.routine.program
  | invoke call =>
      cases call with
      | register step => exact tickets_starts (trace.gate.register step).2
      | runAfter label required program =>
          dsimp only [advance, event, StepGate.runAfter]
          rw [tickets_starts]
          cases trace.gate.completed.covers required <;> rfl
      | reset => rfl

theorem released_advance : ((trace.advance work).1.released ((trace.advance work).2 ++ rest)).Perm
      (trace.released (work :: rest) ++ (trace.event work).released) := by
  have cons : (work :: rest).filterMap TicketedWork.ticket? =
      work.ticket?.toList ++ rest.filterMap TicketedWork.ticket? := by
    cases ticket : work.ticket? <;> simp [ticket]
  rw [released, released, started_advance, List.filterMap_append, tickets_advance, cons]
  simp only [List.append_assoc]
  exact (List.perm_append_comm.append_left _).append_left _

theorem mem_released_advance {ticket : Nat} :
    ticket ∈ (trace.advance work).1.released ((trace.advance work).2 ++ rest) ↔
      ticket ∈ trace.released (work :: rest) ∨ ticket ∈ (trace.event work).released := by
  rw [released_advance.mem_iff, List.mem_append]

/-- A routine that was given waits until it is released or dropped. -/
theorem waiting_advance (tight : trace.gate.IsTight) :
    ((trace.advance work).1.waiting ++ (trace.event work).released).Subperm
      (trace.waiting ++ (trace.event work).given?.toList) := by
  cases work with
  | start routine => exact List.Subperm.refl _
  | invoke call =>
      cases call with
      | register step =>
          have halves := List.filter_append_perm
            (fun waiting => (trace.gate.completed.insert step).covers waiting.required) trace.gate.queue
          have parted := (List.perm_append_comm.trans halves).map (·.routine.ticket)
          rw [List.map_append] at parted
          dsimp only [waiting, advance, event, GateEvent.released, given?, Option.toList]
          rw [tight.register_eq, List.append_nil, List.map_map]
          exact parted.subperm
      | runAfter label required program =>
          dsimp only [waiting, advance, event, StepGate.runAfter]
          cases trace.gate.completed.covers required
          · simp only [Bool.false_eq_true, if_false, List.map_append, GateEvent.released, List.append_nil]
            exact List.Subperm.refl _
          · exact List.Subperm.refl _
      | reset => exact List.nil_subperm

theorem range_tickets_advance :
    List.range (trace.advance work).1.tickets = List.range trace.tickets ++ (trace.event work).given?.toList := by
  cases work with
  | start routine => exact (List.append_nil _).symm
  | invoke call =>
      cases call with
      | runAfter label required program => exact List.range_succ
      | register step => exact (List.append_nil _).symm
      | reset => exact (List.append_nil _).symm

/-- The tickets that are somewhere: with a routine that waits, is about to run or has begun to. -/
def places (trace : GateTrace) (work : List TicketedWork) : List Nat :=
  trace.waiting ++ trace.released work

theorem places_advance (tight : trace.gate.IsTight) :
    ((trace.advance work).1.places ((trace.advance work).2 ++ rest)).Subperm
      (trace.places (work :: rest) ++ (trace.event work).given?.toList) := by
  have moved : ((trace.advance work).1.places ((trace.advance work).2 ++ rest)).Perm
      (((trace.advance work).1.waiting ++ (trace.event work).released) ++ trace.released (work :: rest)) := by
    rw [List.append_assoc]
    exact (released_advance.trans List.perm_append_comm).append_left _
  have added : ((trace.waiting ++ (trace.event work).given?.toList) ++ trace.released (work :: rest)).Perm
      (trace.places (work :: rest) ++ (trace.event work).given?.toList) := by
    rw [places, List.append_assoc, List.append_assoc]
    exact List.perm_append_comm.append_left _
  exact moved.subperm.trans (((List.subperm_append_right _).mpr (waiting_advance tight)).trans added.subperm)

/-- The tickets that are somewhere have been drawn, and each is in one place. -/
theorem nodup_of_subperm {places : List Nat} {tickets : Nat} (drawn : places.Subperm (List.range tickets)) :
    places.Nodup := by
  obtain ⟨ordered, perm, sublist⟩ := drawn
  exact perm.nodup_iff.mp (List.nodup_range.sublist sublist)

theorem not_holds_fresh (drawn : (trace.places (work :: rest)).Subperm (List.range trace.tickets))
    (required : List InitStep) : ¬ trace.gate.Holds trace.tickets required := by
  rintro ⟨waiting, mem, -, ticket⟩
  have placed : trace.tickets ∈ trace.places (work :: rest) :=
    List.mem_append_left _ (List.mem_map.mpr ⟨waiting, mem, ticket⟩)
  exact Nat.lt_irrefl _ (List.mem_range.mp (drawn.subset placed))

theorem holds_register_iff (tight : trace.gate.IsTight) (unique : trace.waiting.Nodup) (step : InitStep) (ticket : Nat)
    (required : List InitStep) :
    (trace.gate.register step).1.Holds ticket required ↔
      trace.gate.Holds ticket required ∧ ticket ∉ (trace.gate.register step).2.map (·.ticket) := by
  rw [tight.register_eq]
  constructor
  · rintro ⟨waiting, mem, rfl, rfl⟩
    obtain ⟨mem, uncovered⟩ := List.mem_filter.mp mem
    refine ⟨⟨waiting, mem, rfl, rfl⟩, ?_⟩
    rw [List.map_map]
    intro released
    obtain ⟨other, otherMem, same⟩ := List.mem_map.mp released
    obtain ⟨otherMem, covered⟩ := List.mem_filter.mp otherMem
    have equal : other = waiting := List.inj_on_of_nodup_map unique otherMem mem same
    rw [equal] at covered
    simp [covered] at uncovered
  · rintro ⟨⟨waiting, mem, rfl, rfl⟩, kept⟩
    refine ⟨waiting, List.mem_filter.mpr ⟨mem, ?_⟩, rfl, rfl⟩
    rw [List.map_map] at kept
    rw [Bool.not_eq_true', Bool.eq_false_iff]
    intro covered
    exact kept (List.mem_map.mpr ⟨waiting, List.mem_filter.mpr ⟨mem, covered⟩, rfl⟩)

theorem holds_runAfter_iff (gate : StepGate Ticketed) (required other : List InitStep) (routine : Ticketed)
    (ticket : Nat) :
    (gate.runAfter required routine).1.Holds ticket other ↔
      (gate.completed.covers required = false ∧ required = other ∧ routine.ticket = ticket) ∨
        gate.Holds ticket other := by
  unfold StepGate.runAfter
  cases gate.completed.covers required
  · simp [StepGate.Holds, or_comm]
  · simp

/-- A routine waits if it was queued just now, or did before and was neither released nor dropped. -/
theorem holds_advance_iff (tight : trace.gate.IsTight)
    (drawn : (trace.places (work :: rest)).Subperm (List.range trace.tickets)) (ticket : Nat)
    (required : List InitStep) :
    (trace.advance work).1.gate.Holds ticket required ↔
      trace.event work = .given ticket required false ∨
        trace.gate.Holds ticket required ∧ ¬ ((trace.event work).IsReset ∨ ticket ∈ (trace.event work).released) := by
  cases work with
  | start routine => simp [advance, event, IsReset, GateEvent.released]
  | invoke call =>
      cases call with
      | register step =>
          have unique := (List.nodup_append.mp (nodup_of_subperm drawn)).1
          simpa [advance, event, IsReset, GateEvent.released] using holds_register_iff tight unique step ticket required
      | runAfter label needed program =>
          dsimp only [advance, event]
          rw [holds_runAfter_iff]
          cases trace.gate.completed.covers needed
          · simp [IsReset, GateEvent.released, and_comm]
          · have fresh : trace.gate.Holds ticket required → ticket ≠ trace.tickets := by
              rintro held rfl
              exact not_holds_fresh drawn required held
            simpa [IsReset, GateEvent.released] using fresh
      | reset => simp [advance, event, IsReset, StepGate.Holds]

theorem isTight_advance (tight : trace.gate.IsTight) : (trace.advance work).1.gate.IsTight := by
  cases work with
  | start routine => exact tight
  | invoke call =>
      cases call with
      | register step => exact tight.register step
      | runAfter label required program => exact tight.runAfter required _
      | reset => nofun

/-- A step is complete if it was registered just now, or was complete before and the gate was not reset. -/
theorem isComplete_advance_iff (step : InitStep) :
    (trace.advance work).1.gate.isComplete step = true ↔
      (trace.event work).Registers step ∨ trace.gate.isComplete step = true ∧ ¬ (trace.event work).IsReset := by
  cases work with
  | start routine => simp [advance, event, Registers, IsReset]
  | invoke call =>
      cases call with
      | register other => simp [advance, event, Registers, IsReset, StepGate.isComplete_register]
      | runAfter label required program => simp [advance, event, Registers, IsReset, StepGate.isComplete_runAfter]
      | reset => cases step <;> simp [advance, event, Registers, IsReset, StepGate.isComplete, StepSet.contains]

/-- What is released waited for steps that are complete now, or was given when they were. -/
theorem released_rightful (tight : trace.gate.IsTight) {ticket : Nat} (mem : ticket ∈ (trace.event work).released) :
    ∃ required, (trace.gate.Holds ticket required ∧ ¬ (trace.event work).IsReset ∨
        (trace.event work).Gives ticket required) ∧
      ∀ step ∈ required, (trace.advance work).1.gate.isComplete step = true := by
  cases work with
  | start routine => cases mem
  | invoke call =>
      cases call with
      | register step =>
          dsimp only [advance, event, GateEvent.released] at mem ⊢
          rw [tight.register_eq, List.map_map] at mem
          obtain ⟨waiting, released, rfl⟩ := List.mem_map.mp mem
          obtain ⟨waits, covered⟩ := List.mem_filter.mp released
          refine ⟨waiting.required, .inl ⟨⟨waiting, waits, rfl, rfl⟩, nofun⟩, ?_⟩
          rw [tight.register_eq]
          exact StepSet.covers_iff.mp covered
      | runAfter label required program =>
          dsimp only [event] at mem
          cases covered : trace.gate.completed.covers required with
          | false => rw [covered] at mem; cases mem
          | true =>
              rw [covered] at mem
              refine ⟨required, .inr ⟨true, ?_⟩, ?_⟩
              · rw [List.mem_singleton.mp mem, event, covered]
              · intro step needed
                dsimp only [advance]
                rw [StepGate.isComplete_runAfter]
                exact StepSet.covers_iff.mp covered step needed
      | reset => cases mem

/-- Everything about the gate and what is left to do follows from what was noted. -/
structure Accounts (trace : GateTrace) (work : List TicketedWork) : Prop where
  tickets : trace.history.filterMap given? = List.range trace.tickets
  drawn : (trace.places work).Subperm (List.range trace.tickets)
  tight : trace.gate.IsTight
  complete : ∀ step, trace.gate.isComplete step = true ↔ GateEvent.IsComplete trace.history step
  queued : ∀ ticket required, trace.gate.Holds ticket required ↔ IsQueued trace.history ticket required
  rightful : ∀ before event after, trace.history = before ++ event :: after → ∀ ticket ∈ event.released,
    ∃ required, IsGiven (before ++ [event]) ticket required ∧
      ∀ step ∈ required, GateEvent.IsComplete (before ++ [event]) step
  freed : ∀ ticket ∈ trace.released work, ∃ event ∈ trace.history, ticket ∈ event.released
  runs : ∀ before ticket label after, trace.history = before ++ .started ticket label :: after →
    ∃ event ∈ before, ticket ∈ event.released
  given : ∀ ticket required, IsGiven trace.history ticket required →
    trace.gate.Holds ticket required ∨ ticket ∈ trace.released work
  due : ∀ ticket, IsDue trace.history ticket → ticket ∈ trace.released work
  dropped : ∀ ticket, IsDropped trace.history ticket → ticket < trace.tickets ∧ ticket ∉ trace.places work

theorem accounts_start (program : List GateCall) : Accounts {} (TicketedWork.calls program) where
  tickets := rfl
  drawn := by
    rw [places, released, tickets_calls]
    exact List.Subperm.refl _
  tight := nofun
  complete := by
    intro step
    constructor
    · cases step <;> nofun
    · intro complete
      exact absurd complete not_stands_nil
  queued := by
    intro ticket required
    constructor
    · rintro ⟨waiting, mem, -⟩
      cases mem
    · intro queued
      exact absurd queued not_stands_nil
  rightful := by
    intro before event after split
    cases before <;> cases split
  freed := by
    intro ticket mem
    rw [released, tickets_calls] at mem
    cases mem
  runs := by
    intro before ticket label after split
    cases before <;> cases split
  given := by
    intro ticket required given
    exact absurd given not_stands_nil
  due := by
    rintro ticket ⟨before, after, required, split, given, -⟩
    rw [(List.append_eq_nil_iff.mp split.symm).1] at given
    exact absurd given not_stands_nil
  dropped := by
    rintro ticket ⟨before, after, required, split, -⟩
    cases before <;> cases split

namespace Accounts

variable (accounts : Accounts trace (work :: rest))
include accounts

theorem tickets_advance :
    (trace.advance work).1.history.filterMap given? = List.range (trace.advance work).1.tickets := by
  rw [advance_history, range_tickets_advance, List.filterMap_append, accounts.tickets]
  cases noted : (trace.event work).given? <;> simp [noted]

theorem drawn_advance :
    ((trace.advance work).1.places ((trace.advance work).2 ++ rest)).Subperm
      (List.range (trace.advance work).1.tickets) := by
  rw [range_tickets_advance]
  exact (places_advance accounts.tight).trans ((List.subperm_append_right _).mpr accounts.drawn)

theorem complete_advance (step : InitStep) :
    (trace.advance work).1.gate.isComplete step = true ↔ GateEvent.IsComplete (trace.advance work).1.history step := by
  rw [isComplete_advance_iff, advance_history, GateEvent.IsComplete, stands_concat_iff, accounts.complete]
  rfl

theorem queued_advance (ticket : Nat) (required : List InitStep) :
    (trace.advance work).1.gate.Holds ticket required ↔ IsQueued (trace.advance work).1.history ticket required := by
  rw [holds_advance_iff accounts.tight accounts.drawn, advance_history, IsQueued, stands_concat_iff, accounts.queued]
  rfl

/-- What waits was given. -/
theorem given_of_holds {ticket : Nat} {required : List InitStep} (held : trace.gate.Holds ticket required) :
    IsGiven trace.history ticket required := by
  apply ((accounts.queued ticket required).mp held).imp
  · rintro event rfl
    exact ⟨false, rfl⟩
  · intro event reset
    exact .inl reset

theorem rightful_advance (before : List GateEvent) (event : GateEvent) (after : List GateEvent)
    (split : (trace.advance work).1.history = before ++ event :: after) (ticket : Nat)
    (mem : ticket ∈ event.released) :
    ∃ required, IsGiven (before ++ [event]) ticket required ∧
      ∀ step ∈ required, GateEvent.IsComplete (before ++ [event]) step := by
  have split' := split
  rw [advance_history] at split'
  rcases concat_eq_split_iff.mp split' with ⟨rfl, rfl, rfl⟩ | ⟨middle, -, former⟩
  · obtain ⟨required, given, complete⟩ := released_rightful accounts.tight mem
    refine ⟨required, stands_concat_iff.mpr ?_, ?_⟩
    · rcases given with ⟨held, unreset⟩ | gives
      · exact .inr ⟨accounts.given_of_holds held, unreset⟩
      · exact .inl gives
    · intro step needed
      rw [← split]
      exact (accounts.complete_advance step).mp (complete step needed)
  · exact accounts.rightful before event middle former ticket mem

theorem freed_advance (ticket : Nat)
    (mem : ticket ∈ (trace.advance work).1.released ((trace.advance work).2 ++ rest)) :
    ∃ event ∈ (trace.advance work).1.history, ticket ∈ event.released := by
  rw [advance_history]
  rcases mem_released_advance.mp mem with former | freed
  · obtain ⟨event, noted, freed⟩ := accounts.freed ticket former
    exact ⟨event, List.mem_append_left _ noted, freed⟩
  · exact ⟨trace.event work, List.mem_append_right _ (List.mem_singleton_self _), freed⟩

theorem runs_advance (before : List GateEvent) (ticket : Nat) (label : String) (after : List GateEvent)
    (split : (trace.advance work).1.history = before ++ .started ticket label :: after) :
    ∃ event ∈ before, ticket ∈ event.released := by
  rw [advance_history] at split
  rcases concat_eq_split_iff.mp split with ⟨-, rfl, noted⟩ | ⟨middle, -, former⟩
  · have begins : work.ticket? = some ticket := by rw [← trace.event_started, noted]; rfl
    apply accounts.freed ticket
    exact List.mem_append_right _ (List.mem_filterMap.mpr ⟨work, List.mem_cons_self, begins⟩)
  · exact accounts.runs before ticket label middle former

theorem given_advance (ticket : Nat) (required : List InitStep)
    (given : IsGiven (trace.advance work).1.history ticket required) :
    (trace.advance work).1.gate.Holds ticket required ∨
      ticket ∈ (trace.advance work).1.released ((trace.advance work).2 ++ rest) := by
  rw [mem_released_advance, holds_advance_iff accounts.tight accounts.drawn]
  rw [advance_history, IsGiven, stands_concat_iff] at given
  by_cases freed : ticket ∈ (trace.event work).released
  · exact .inr (.inr freed)
  rcases given with ⟨atOnce, gives⟩ | ⟨former, unreset⟩
  · cases atOnce with
    | false => exact .inl (.inl gives)
    | true =>
        rw [gives] at freed
        exact absurd (List.mem_singleton_self ticket) freed
  · rcases accounts.given ticket required former with held | released
    · exact .inl (.inr ⟨held, fun ended => ended.elim unreset freed⟩)
    · exact .inr (.inl released)

theorem due_advance (ticket : Nat) (due : IsDue (trace.advance work).1.history ticket) :
    ticket ∈ (trace.advance work).1.released ((trace.advance work).2 ++ rest) := by
  rw [advance_history] at due
  rcases isDue_concat due with former | ⟨required, given, complete⟩
  · exact mem_released_advance.mpr (.inl (accounts.due ticket former))
  · rw [← advance_history] at given complete
    rcases accounts.given_advance ticket required given with ⟨waiting, mem, rfl, rfl⟩ | released
    · have uncovered := isTight_advance accounts.tight waiting mem
      have covered := StepSet.covers_iff.mpr fun step needed =>
        (accounts.complete_advance step).mpr (complete step needed)
      rw [uncovered] at covered
      cases covered
    · exact released

theorem dropped_advance (ticket : Nat) (dropped : IsDropped (trace.advance work).1.history ticket) :
    ticket < (trace.advance work).1.tickets ∧
      ticket ∉ (trace.advance work).1.places ((trace.advance work).2 ++ rest) := by
  have drawn : (List.range trace.tickets ++ (trace.event work).given?.toList).Nodup := by
    rw [← range_tickets_advance]
    exact List.nodup_range
  rw [← List.mem_range, range_tickets_advance]
  rw [advance_history, isDropped_concat_iff] at dropped
  rcases dropped with former | ⟨reset, required, queued⟩
  · obtain ⟨below, gone⟩ := accounts.dropped ticket former
    refine ⟨List.mem_append_left _ (List.mem_range.mpr below), ?_⟩
    intro placed
    rcases List.mem_append.mp ((places_advance accounts.tight).subset placed) with before | fresh
    · exact gone before
    · exact (List.nodup_append.mp drawn).2.2 ticket (List.mem_range.mpr below) ticket fresh rfl
  · obtain ⟨waiting, mem, -, held⟩ := (accounts.queued ticket required).mpr queued
    have waits : ticket ∈ trace.waiting := List.mem_map.mpr ⟨waiting, mem, held⟩
    refine ⟨List.mem_append_left _ (accounts.drawn.subset (List.mem_append_left _ waits)), ?_⟩
    have empty : (trace.advance work).1.waiting = [] ∧ (trace.event work).released = [] := by
      cases work with
      | start routine => cases reset
      | invoke call => cases call <;> cases reset; exact ⟨rfl, rfl⟩
    rw [places, empty.1, List.nil_append, mem_released_advance, empty.2]
    rintro (released | none)
    · exact (List.nodup_append.mp (nodup_of_subperm accounts.drawn)).2.2 ticket waits ticket released rfl
    · cases none

end Accounts

theorem accounts_advance (accounts : Accounts trace (work :: rest)) :
    Accounts (trace.advance work).1 ((trace.advance work).2 ++ rest) where
  tickets := accounts.tickets_advance
  drawn := accounts.drawn_advance
  tight := isTight_advance accounts.tight
  complete := accounts.complete_advance
  queued := accounts.queued_advance
  rightful := accounts.rightful_advance
  freed := accounts.freed_advance
  runs := accounts.runs_advance
  given := accounts.given_advance
  due := accounts.due_advance
  dropped := accounts.dropped_advance

theorem Leads.accounts {program : List GateCall} {trace : GateTrace} {work : List TicketedWork}
    (leads : Leads {} (TicketedWork.calls program) trace work) : Accounts trace work := by
  induction leads with
  | refl => exact accounts_start program
  | step former ih => exact accounts_advance ih

/-- What can be said of a program at any time of its run, with this left to do. -/
structure IsGated (program : List GateCall) (trace : GateTrace) (work : List TicketedWork) : Prop where
  /-- Going on from here ends where the calls of the program end, one made after the other. -/
  models : program.foldl GateRun.call {} = trace.run.perform (work.map TicketedWork.plain)
  returns : ∃ last, trace.Leads work last []
  /-- Every routine that was given has a ticket of its own. -/
  tickets : trace.history.filterMap given? = List.range trace.tickets
  once : trace.started.Nodup
  /-- What has begun to run was released before. -/
  released : ∀ before ticket label after, trace.history = before ++ .started ticket label :: after →
    ∃ event ∈ before, ticket ∈ event.released
  /-- What was released was given, and all that it needs was complete by then. -/
  rightful : ∀ before event after, trace.history = before ++ event :: after → ∀ ticket ∈ event.released,
    ∃ required, IsGiven (before ++ [event]) ticket required ∧
      ∀ step ∈ required, GateEvent.IsComplete (before ++ [event]) step
  complete : ∀ step, trace.gate.isComplete step = true ↔ GateEvent.IsComplete trace.history step
  queued : ∀ ticket required, trace.gate.Holds ticket required ↔ IsQueued trace.history ticket required
  waiting : ∀ waiting ∈ trace.gate.queue, ∃ step ∈ waiting.required, trace.gate.isComplete step = false
  /-- When a call has returned, and only further calls are left, all that is due has begun to run. -/
  due : ∀ remaining, work = TicketedWork.calls remaining → ∀ ticket, IsDue trace.history ticket → ticket ∈ trace.started
  dropped : ∀ ticket, IsDropped trace.history ticket → ticket ∉ trace.started

theorem isGated_of_leads {program : List GateCall} {trace : GateTrace} {work : List TicketedWork}
    (leads : Leads {} (TicketedWork.calls program) trace work) : IsGated program trace work := by
  have accounts := leads.accounts
  exact {
    models := by rw [leads.perform, TicketedWork.plain_calls, GateRun.foldl_call]; rfl
    returns := Leads.exists_end .refl
    tickets := accounts.tickets
    once := (List.nodup_append.mp (List.nodup_append.mp (nodup_of_subperm accounts.drawn)).2.1).1
    released := accounts.runs
    rightful := accounts.rightful
    complete := accounts.complete
    queued := accounts.queued
    waiting := by
      intro waiting mem
      have uncovered := accounts.tight waiting mem
      rw [← Bool.not_eq_true, StepSet.covers_iff] at uncovered
      push Not at uncovered
      obtain ⟨step, needed, missing⟩ := uncovered
      exact ⟨step, needed, Bool.eq_false_iff.mpr missing⟩
    due := by
      intro remaining returned ticket due
      have released := accounts.due ticket due
      rwa [GateTrace.released, returned, tickets_calls, List.append_nil] at released
    dropped := by
      intro ticket dropped started
      exact (accounts.dropped ticket dropped).2 (List.mem_append_right _ (List.mem_append_left _ started)) }

/-- A routine that runs registers a step, queues a routine and resets the gate. -/
def nestedProgram : List GateCall :=
  [.runAfter "outer" [.clientInfo] [.register .conversations, .runAfter "inner" [.receivers] [], .reset],
    .register .clientInfo, .register .receivers]

/-- The first routine runs, and the one that it queues never does. -/
def nestedTrace : GateTrace where
  gate := { completed := { receivers := true } }
  tickets := 2
  history := [.given 0 [.clientInfo] false, .registered .clientInfo [0], .started 0 "outer",
    .registered .conversations [], .given 1 [.receivers] false, .reset, .registered .receivers []]

theorem isGated_nested : Leads {} (TicketedWork.calls nestedProgram) nestedTrace [] ∧
    IsGated nestedProgram nestedTrace [] := by
  have start : Leads {} (TicketedWork.calls nestedProgram) {} (TicketedWork.calls nestedProgram) := .refl
  have leads : Leads {} (TicketedWork.calls nestedProgram) nestedTrace [] := start.step.step.step.step.step.step.step
  exact ⟨leads, isGated_of_leads leads⟩

end GateTrace

end RelayClient
