import RelayClient.Replica.Routing

/-!
# What completes the initial steps

A step is complete only once the device answered the request for it, and the
routine that makes a session ready runs only when all of them are complete and
the channel was opened. Both are stated for any account of the answers that came
and of the channel, so that they hold for one attempt to connect.
-/

namespace RelayClient

/-- The initial step that a message answers the request for. -/
def Message.answers? (message : Message) : Option InitStep :=
  match message.kind, message.subject with
  | .response, .clientInfo => some .clientInfo
  | .response, .receivers => some .receivers
  | .response, .conversations => some .conversations
  | _, _ => none

section Account

variable (answered : InitStep → Prop) (opened : Prop)

/-- Whether a routine may run. -/
def Continuation.IsDue : Continuation → Prop
  | .storeConversations _ => answered .conversations
  | .finishStart _ => opened ∧ ∀ step, answered step

/-- Whether a routine may wait for the steps it needs. -/
def Waiting.IsBacked (waiting : Waiting Continuation) : Prop :=
  match waiting.routine with
  | .storeConversations _ => answered .conversations
  | .finishStart _ => waiting.required = InitStep.all ∧ opened

/-- A gate holds nothing that was not answered or opened. -/
structure StepGate.IsBacked (gate : StepGate Continuation) : Prop where
  completed : ∀ step, gate.isComplete step = true → answered step
  queued : ∀ waiting ∈ gate.queue, waiting.IsBacked answered opened

/-- A handling leaves a gate that is backed, and tells of a start only when it may be over. -/
structure Replica.Handling.IsBacked (handling : Replica.Handling) : Prop where
  gate : handling.replica.gate.IsBacked answered opened
  due : ∀ number, .startFinished number ∈ handling.notices → opened ∧ ∀ step, answered step

end Account

variable {answered : InitStep → Prop} {opened : Prop}

/-- A routine that waits may run once all it needs is complete. -/
theorem Waiting.IsBacked.isDue {waiting : Waiting Continuation} {completed : StepSet}
    (backed : waiting.IsBacked answered opened) (complete : ∀ step, completed.contains step = true → answered step)
    (covered : completed.covers waiting.required = true) : waiting.routine.IsDue answered opened := by
  unfold IsBacked at backed
  unfold Continuation.IsDue
  split at backed
  · exact backed
  · obtain ⟨required, opens⟩ := backed
    rw [required] at covered
    refine ⟨opens, fun step => complete step (List.all_eq_true.mp covered step ?_)⟩
    cases step <;> decide

namespace StepGate.IsBacked

variable {gate : StepGate Continuation}

theorem empty : StepGate.IsBacked answered opened {} where
  completed step complete := by cases step <;> cases complete
  queued := nofun

/-- What was answered, and what was opened, stays so. -/
theorem mono {moreAnswered : InitStep → Prop} {moreOpened : Prop} (backed : gate.IsBacked answered opened)
    (answers : ∀ step, answered step → moreAnswered step) (opens : opened → moreOpened) :
    gate.IsBacked moreAnswered moreOpened where
  completed step complete := answers step (backed.completed step complete)
  queued waiting mem := by
    have former := backed.queued waiting mem
    unfold Waiting.IsBacked at former ⊢
    split at former
    · exact answers _ former
    · exact ⟨former.1, opens former.2⟩

/-- A step that was answered may be completed, and what this releases may run. -/
theorem register (backed : gate.IsBacked answered opened) {step : InitStep} (answer : answered step) :
    (gate.register step).1.IsBacked answered opened ∧
      ∀ routine ∈ (gate.register step).2, routine.IsDue answered opened := by
  have complete (other : InitStep) (holds : (gate.completed.insert step).contains other = true) : answered other := by
    rw [StepSet.contains_insert, Bool.or_eq_true, beq_iff_eq] at holds
    rcases holds with rfl | former
    · exact answer
    · exact backed.completed other former
  unfold StepGate.register
  split
  · exact ⟨backed, nofun⟩
  · simp only [List.partition_eq_filter_filter]
    refine ⟨⟨complete, fun waiting mem => backed.queued waiting (List.mem_filter.mp mem).1⟩, fun routine mem => ?_⟩
    obtain ⟨waiting, released, rfl⟩ := List.mem_map.mp mem
    obtain ⟨queued, covered⟩ := List.mem_filter.mp released
    exact (backed.queued waiting queued).isDue complete covered

/-- A routine that may wait is queued, or runs at once when it may. -/
theorem runAfter (backed : gate.IsBacked answered opened) {required : List InitStep} {routine : Continuation}
    (fresh : (⟨required, routine⟩ : Waiting Continuation).IsBacked answered opened) :
    (gate.runAfter required routine).1.IsBacked answered opened ∧
      ∀ other ∈ (gate.runAfter required routine).2, other.IsDue answered opened := by
  unfold StepGate.runAfter
  split
  · next covered =>
      refine ⟨backed, fun other mem => ?_⟩
      rw [List.mem_singleton.mp mem]
      exact fresh.isDue backed.completed covered
  · refine ⟨⟨backed.completed, fun waiting mem => ?_⟩, nofun⟩
    rcases List.mem_append.mp mem with mem | mem
    · exact backed.queued waiting mem
    · rw [List.mem_singleton.mp mem]
      exact fresh

end StepGate.IsBacked

namespace Replica

/-- Running routines that may run keeps a gate backed, and tells of a start only when it may be over. -/
theorem release_isBacked (replica : Replica) (notices : List Notice) (work : List Continuation)
    (backed : replica.gate.IsBacked answered opened) (due : ∀ routine ∈ work, routine.IsDue answered opened)
    (told : ∀ number, .startFinished number ∈ notices → opened ∧ ∀ step, answered step) :
    (handledNoting (replica.release notices work)).IsBacked answered opened := by
  induction replica, notices, work using release.induct with
  | case1 replica notices =>
      unfold release
      exact ⟨backed, told⟩
  | case2 replica notices list rest stored ih =>
      have answer : answered .conversations := due _ (.head _)
      obtain ⟨registered, released⟩ := backed.register answer
      unfold release
      refine ih registered (fun routine mem => ?_) fun number mem => ?_
      · rcases List.mem_append.mp mem with mem | mem
        · exact released routine mem
        · exact due routine (.tail _ mem)
      · rcases List.mem_append.mp mem with mem | mem
        · exact told number mem
        · cases List.mem_singleton.mp mem
  | case3 replica notices number rest ih =>
      unfold release
      refine ih backed (fun routine mem => due routine (.tail _ mem)) fun other mem => ?_
      rcases List.mem_append.mp mem with mem | mem
      · exact told other mem
      · exact due (.finishStart number) (.head _)

variable {replica : Replica}

theorem completeStep_isBacked (data : AppData) {gate : StepGate Continuation}
    (backed : gate.IsBacked answered opened) {step : InitStep} (answer : answered step) :
    (handledNoting (completeStep ⟨data, gate⟩ step)).IsBacked answered opened := by
  obtain ⟨registered, released⟩ := backed.register answer
  exact release_isBacked _ _ _ registered released nofun

theorem runAfter_isBacked (backed : replica.gate.IsBacked answered opened) {required : List InitStep}
    {routine : Continuation} (fresh : (⟨required, routine⟩ : Waiting Continuation).IsBacked answered opened) :
    (handledNoting (replica.runAfter required routine)).IsBacked answered opened := by
  obtain ⟨queued, released⟩ := backed.runAfter fresh
  exact release_isBacked _ _ _ queued released nofun

/-- A handling that leaves the gate alone, and tells of no start. -/
def Handling.IsAside (handling : Handling) (gate : StepGate Continuation) : Prop :=
  handling.replica.gate = gate ∧ ∀ number, .startFinished number ∉ handling.notices

theorem Handling.IsAside.isBacked {handling : Handling} (aside : handling.IsAside replica.gate)
    (backed : replica.gate.IsBacked answered opened) : handling.IsBacked answered opened where
  gate := by rw [aside.1]; exact backed
  due number mem := absurd mem (aside.2 number)

/-- Handlings without notices that only change data. -/
theorem isAside_of_data (replica : Replica) (data : AppData) (outcome : Outcome) :
    Handling.IsAside { replica := { replica with data }, outcome } replica.gate :=
  ⟨rfl, nofun⟩

theorem isAside_disconnected (replica : Replica) (outcome : Outcome) (reasons : List DisconnectReason) :
    Handling.IsAside { replica, outcome, notices := reasons.map .disconnected } replica.gate := by
  refine ⟨rfl, fun number mem => ?_⟩
  obtain ⟨reason, _, other⟩ := List.mem_map.mp mem
  cases other

theorem isAside_onUpdate (replica : Replica) (message : Message) :
    (replica.onUpdate message).IsAside replica.gate := by
  unfold onUpdate
  repeat' split
  all_goals first
    | exact isAside_of_data _ _ _
    | exact isAside_disconnected _ _ _

theorem isAside_onCreate (replica : Replica) (message : Message) :
    (replica.onCreate message).IsAside replica.gate := by
  unfold onCreate
  repeat' split
  all_goals exact isAside_of_data _ _ _

theorem isAside_onDelete (replica : Replica) (message : Message) :
    (replica.onDelete message).IsAside replica.gate := by
  unfold onDelete
  repeat' split
  all_goals exact isAside_of_data _ _ _

theorem onResponse_isBacked (backed : replica.gate.IsBacked answered opened) {message : Message}
    (response : message.kind = .response) (answers : ∀ step, message.answers? = some step → answered step) :
    (replica.onResponse message).IsBacked answered opened := by
  unfold onResponse
  split
  · next subject =>
      refine completeStep_isBacked _ backed (answers _ ?_)
      rw [Message.answers?, response, subject]
  · exact (isAside_of_data replica _ _).isBacked backed
  · next subject =>
      refine completeStep_isBacked _ backed (answers _ ?_)
      rw [Message.answers?, response, subject]
  · next subject =>
      refine runAfter_isBacked backed (answers .conversations ?_)
      rw [Message.answers?, response, subject]
  all_goals
    repeat' split
    all_goals exact (isAside_of_data replica _ _).isBacked backed

/-- Handling a message keeps a gate backed, once its answer counts. -/
theorem handle_isBacked (backed : replica.gate.IsBacked answered opened) {message : Message}
    (answers : ∀ step, message.answers? = some step → answered step) :
    (replica.handle message).IsBacked answered opened := by
  unfold handle
  cases kind : message.kind with
  | response => exact onResponse_isBacked backed kind answers
  | update => exact (isAside_onUpdate replica message).isBacked backed
  | create => exact (isAside_onCreate replica message).isBacked backed
  | delete => exact (isAside_onDelete replica message).isBacked backed
  | request => exact (isAside_of_data replica _ _).isBacked backed

end Replica

end RelayClient
