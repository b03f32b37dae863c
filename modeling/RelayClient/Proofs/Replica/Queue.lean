import RelayClient.Proofs.Replica.Completion

/-!
# What waits in a replica

Conversations wait for the receivers and for nothing else, and none wait once the
receivers came. So the only answer that lets them in is that of the receivers, and
what any other step releases leaves the data as it is.
-/

namespace RelayClient

open Pack (Value)
open Replica (AppData)

/-- Conversations that wait do so for the receivers alone, which have not come. -/
def StepGate.IsOrderly (gate : StepGate Continuation) : Prop :=
  ∀ waiting ∈ gate.queue, ∀ list, waiting.routine = .storeConversations list →
    waiting.required = [.receivers] ∧ gate.completed.receivers = false

namespace StepGate.IsOrderly

variable {gate : StepGate Continuation}

theorem empty : StepGate.IsOrderly {} := nofun

/-- Conversations that a step releases had waited, and the step was that of the receivers. -/
theorem released (orderly : gate.IsOrderly) {step : InitStep} {list : List Value}
    (mem : .storeConversations list ∈ (gate.register step).2) :
    step = .receivers ∧ ∃ waiting ∈ gate.queue, waiting.routine = .storeConversations list := by
  unfold StepGate.register at mem
  split at mem
  · cases mem
  · simp only [List.partition_eq_filter_filter] at mem
    obtain ⟨waiting, found, routine⟩ := List.mem_map.mp mem
    obtain ⟨queued, covered⟩ := List.mem_filter.mp found
    obtain ⟨required, missing⟩ := orderly waiting queued list routine
    refine ⟨?_, waiting, queued, routine⟩
    rw [required] at covered
    cases step with
    | receivers => rfl
    | clientInfo | conversations => simp [StepSet.covers, StepSet.contains, StepSet.insert, missing] at covered

theorem register (orderly : gate.IsOrderly) (step : InitStep) : (gate.register step).1.IsOrderly := by
  unfold StepGate.register
  split
  · exact orderly
  · simp only [List.partition_eq_filter_filter]
    intro waiting mem list routine
    obtain ⟨queued, uncovered⟩ := List.mem_filter.mp mem
    obtain ⟨required, missing⟩ := orderly waiting queued list routine
    refine ⟨required, ?_⟩
    cases step with
    | clientInfo | conversations => exact missing
    | receivers => simp [required, StepSet.covers, StepSet.contains, StepSet.insert] at uncovered

theorem runAfter_storeConversations (orderly : gate.IsOrderly) (list : List Value) :
    (gate.runAfter [.receivers] (.storeConversations list)).1.IsOrderly := by
  unfold StepGate.runAfter
  split
  · exact orderly
  · next missing =>
      intro waiting mem other routine
      rcases List.mem_append.mp mem with former | added
      · exact orderly waiting former other routine
      · cases List.mem_singleton.mp added
        refine ⟨rfl, ?_⟩
        simpa [StepSet.covers, StepSet.contains] using missing

theorem runAfter_finishStart (orderly : gate.IsOrderly) (required : List InitStep) (number : Nat) :
    (gate.runAfter required (.finishStart number)).1.IsOrderly := by
  unfold StepGate.runAfter
  split
  · exact orderly
  · intro waiting mem list routine
    rcases List.mem_append.mp mem with former | added
    · exact orderly waiting former list routine
    · cases List.mem_singleton.mp added
      cases routine

end StepGate.IsOrderly

namespace Replica

variable {replica : Replica}

/-- Whatever is released, the gate stays in order. -/
theorem release_isOrderly (replica : Replica) (notices : List Notice) (work : List Continuation)
    (orderly : replica.gate.IsOrderly) : (replica.release notices work).1.gate.IsOrderly := by
  induction replica, notices, work using release.induct with
  | case1 replica notices =>
      unfold release
      exact orderly
  | case2 replica notices list rest stored ih =>
      unfold release
      exact ih (orderly.register .conversations)
  | case3 replica notices number rest ih =>
      unfold release
      exact ih orderly

/-- Routines that store no conversations change nothing. -/
theorem release_of_finishing (replica : Replica) (notices : List Notice) (work : List Continuation)
    (finishing : ∀ list, .storeConversations list ∉ work) : (replica.release notices work).1 = replica := by
  induction replica, notices, work using release.induct with
  | case1 replica notices => simp [release]
  | case2 replica notices list rest stored ih => exact absurd (.head rest) (finishing list)
  | case3 replica notices number rest ih =>
      unfold release
      exact ih fun list mem => finishing list (.tail _ mem)

/-- A step other than the receivers changes no data when it completes. -/
theorem data_completeStep (orderly : replica.gate.IsOrderly) {step : InitStep} (other : step ≠ .receivers) :
    (replica.completeStep step).1.data = replica.data := by
  have finishing : ∀ list, .storeConversations list ∉ (replica.gate.register step).2 :=
    fun list mem => other (orderly.released mem).1
  unfold completeStep
  rw [release_of_finishing _ _ _ finishing]

/-- Handling a message leaves the gate in order. -/
theorem handle_isOrderly (orderly : replica.gate.IsOrderly) (message : Message) :
    (replica.handle message).replica.gate.IsOrderly := by
  unfold handle
  cases message.kind with
  | response =>
      dsimp only
      unfold onResponse
      split
      · exact release_isOrderly _ _ _ (orderly.register .clientInfo)
      · exact orderly
      · exact release_isOrderly _ _ _ (orderly.register .receivers)
      · exact release_isOrderly _ _ _ (orderly.runAfter_storeConversations _)
      all_goals
        repeat' split
        all_goals exact orderly
  | update =>
      rw [(isAside_onUpdate replica message).1]
      exact orderly
  | create =>
      rw [(isAside_onCreate replica message).1]
      exact orderly
  | delete =>
      rw [(isAside_onDelete replica message).1]
      exact orderly
  | request => exact orderly

/-- A replica as it comes about: its data may be changed from outside at any time, messages are
handled, an opened channel waits for all steps, and each attempt to connect starts with a new gate. -/
inductive Arises : Replica → Prop where
  | start : Arises {}
  | changed {replica : Replica} (arises : Arises replica) (data : AppData) : Arises { replica with data }
  | handled {replica : Replica} (arises : Arises replica) (message : Message) :
      Arises (replica.handle message).replica
  | opened {replica : Replica} (arises : Arises replica) (number : Nat) :
      Arises (replica.runAfter InitStep.all (.finishStart number)).1
  | reset {replica : Replica} (arises : Arises replica) : Arises { replica with gate := {} }

theorem Arises.isOrderly (arises : replica.Arises) : replica.gate.IsOrderly := by
  induction arises with
  | start => exact .empty
  | changed arises data ih => exact ih
  | handled arises message ih => exact handle_isOrderly ih message
  | opened arises number ih => exact release_isOrderly _ _ _ (ih.runAfter_finishStart InitStep.all number)
  | reset arises ih => exact .empty

end Replica

end RelayClient
