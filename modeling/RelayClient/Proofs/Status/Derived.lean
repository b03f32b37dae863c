import Mathlib.Data.List.Induction
import RelayClient.Status.Basic

/-!
# What a status shows

A status shows what was reported to it since the last reset, and nothing older:
its stage, its summary and whether the task was ever connected follow from these
reports alone. Once the task stage has begun, reports of the signaling have no
effect until the next reset.
-/

namespace RelayClient

/-- A call on a status, or time that passes. -/
inductive StatusCall where
  | signaling (state : SignalingState)
  | task (state : TaskState)
  | buildup (state : Buildup) (now : Nat)
  | reset (forgetUnread : Bool) (now : Nat)
  /-- The number of unread messages is told. -/
  | unread (count : Nat)
  | pass (now : Nat)

theorem SignalingState.isKnown_eq (state : SignalingState) : state.isKnown = state.summary?.isSome := by
  cases state <;> rfl

/-- The signaling alone is never summed up as ok. -/
theorem SignalingState.summary?_ne_ok (state : SignalingState) : state.summary? ≠ some .ok := by
  cases state <;> exact fun same => nomatch same

theorem SignalingState.summary?_eq_error_iff (state : SignalingState) :
    state.summary? = some .error ↔ state = .closing ∨ state = .closed := by
  cases state <;> simp [summary?]

theorem TaskState.isKnown_eq (state : TaskState) : state.isKnown = state.summary?.isSome := by
  cases state <;> rfl

theorem TaskState.summary?_eq_ok_iff (state : TaskState) : state.summary? = some .ok ↔ state = .connected := by
  cases state <;> simp [summary?]

theorem TaskState.summary?_eq_warning_iff (state : TaskState) :
    state.summary? = some .warning ↔ state = .new ∨ state = .connecting ∨ state = .reconnecting := by
  cases state <;> simp [summary?]

theorem TaskState.summary?_eq_error_iff (state : TaskState) :
    state.summary? = some .error ↔ state = .disconnected := by
  cases state <;> simp [summary?]

namespace StatusCall

def isReset : StatusCall → Bool
  | .reset _ _ => true
  | _ => false

/-- The calls since the last reset, oldest first. -/
def recent (history : List StatusCall) : List StatusCall :=
  (history.reverse.takeWhile fun call => !call.isReset).reverse

/-- The state of the signaling that a call reports, if it is known. -/
def signaling? : StatusCall → Option SignalingState
  | .signaling state => if state.isKnown then some state else none
  | _ => none

/-- The last known state of the signaling that was reported. -/
def lastSignaling? (calls : List StatusCall) : Option SignalingState :=
  (calls.filterMap signaling?).getLast?

/-- Whether a call begins the task stage: the handshake is done, or a known state of the task comes early. -/
def beginsTask : StatusCall → Bool
  | .signaling state => state = .task
  | .task state => state.isKnown
  | _ => false

theorem recent_concat (history : List StatusCall) (call : StatusCall) :
    recent (history ++ [call]) = if call.isReset then [] else recent history ++ [call] := by
  unfold recent
  rw [List.reverse_append, List.reverse_singleton, List.singleton_append, List.takeWhile_cons]
  cases call.isReset with
  | true => rfl
  | false => exact List.reverse_cons

theorem recent_append {later : List StatusCall} (history : List StatusCall)
    (kept : ∀ call ∈ later, call.isReset = false) : recent (history ++ later) = recent history ++ later := by
  induction later using List.reverseRecOn with
  | nil => rw [List.append_nil, List.append_nil]
  | append_singleton before call ih =>
      have last : call.isReset = false := kept call (by simp)
      have former := ih fun other mem => kept other (List.mem_append_left _ mem)
      rw [← List.append_assoc, recent_concat, former, last, List.append_assoc]
      rfl

theorem lastSignaling?_concat (calls : List StatusCall) (call : StatusCall) :
    lastSignaling? (calls ++ [call]) = call.signaling?.or (lastSignaling? calls) := by
  unfold lastSignaling?
  rw [List.filterMap_append]
  cases found : call.signaling? with
  | none => simp [found]
  | some state => simp [found]

theorem isKnown_of_lastSignaling? {calls : List StatusCall} {state : SignalingState}
    (last : lastSignaling? calls = some state) : state.isKnown = true := by
  obtain ⟨call, -, reported⟩ := List.mem_filterMap.mp (List.mem_of_getLast? last)
  cases call with
  | signaling other =>
      obtain ⟨known, same⟩ := Option.ite_none_right_eq_some.mp reported
      cases same
      exact known
  | _ => cases reported

/-- The task stage begins with the end of the handshake, or with a known state of the task that comes early. -/
theorem exists_beginsTask_iff (calls : List StatusCall) :
    (∃ call ∈ calls, call.beginsTask = true) ↔
      .signaling .task ∈ calls ∨ ∃ state, state.isKnown = true ∧ .task state ∈ calls := by
  constructor
  · rintro ⟨call, mem, begins⟩
    cases call with
    | signaling state =>
        rw [of_decide_eq_true begins] at mem
        exact .inl mem
    | task state => exact .inr ⟨state, begins, mem⟩
    | _ => cases begins
  · rintro (mem | ⟨state, known, mem⟩)
    · exact ⟨.signaling .task, mem, rfl⟩
    · exact ⟨.task state, mem, known⟩

end StatusCall

namespace Status

open StatusCall (recent lastSignaling?)

/-- The status after a call. -/
def answer (status : Status) : StatusCall → Status
  | .signaling state => (status.reportSignaling state).1
  | .task state => (status.reportTask state).1
  | .buildup state now => (status.setBuildup state now).1
  | .reset forgetUnread now => (status.reset forgetUnread now).1
  | .unread count => { status with unread := count }
  | .pass now => status.passTo now

/-- A new status after any calls, with or without a clock. -/
def after (clocked : Bool) (history : List StatusCall) : Status :=
  history.foldl answer { clocked }

theorem after_concat (clocked : Bool) (history : List StatusCall) (call : StatusCall) :
    after clocked (history ++ [call]) = (after clocked history).answer call := by
  rw [after, List.foldl_append]
  rfl

theorem setGlobal_fst (status : Status) (state : GlobalState) :
    (status.setGlobal state).1 = { status with global := state } := by
  unfold setGlobal
  split
  · next same => rw [← same]
  · rfl

/-- What a status keeps of the reports, apart from the state of the signaling. -/
def tracks (status : Status) : TaskState × Stage × GlobalState × Bool :=
  (status.task, status.stage, status.global, status.wasConnected)

theorem tracks_setBuildup (status : Status) (state : Buildup) (now : Nat) :
    (status.setBuildup state now).1.tracks = status.tracks := by
  unfold setBuildup
  split <;> rfl

theorem tracks_passTo (status : Status) (now : Nat) : (status.passTo now).tracks = status.tracks := by
  unfold passTo
  split <;> rfl

theorem tracks_reset (status : Status) (forgetUnread : Bool) (now : Nat) :
    (status.reset forgetUnread now).1.tracks = (.new, .signaling, .error, false) := by
  have kept := tracks_setBuildup
    { status with
      signaling := .new, task := .new, stage := .signaling, wasConnected := false
      unread := if forgetUnread then 0 else status.unread } .new now
  simp only [tracks, Prod.mk.injEq] at kept
  obtain ⟨task, stage, -, wasConnected⟩ := kept
  simp only [tracks, reset, setGlobal_fst, task, stage, wasConnected]

theorem setBuildup_buildup (status : Status) (state : Buildup) (now : Nat) :
    (status.setBuildup state now).1.buildup = state := by
  unfold setBuildup
  split
  · next same => exact same
  · rfl

theorem reset_buildup (status : Status) (forgetUnread : Bool) (now : Nat) :
    (status.reset forgetUnread now).1.buildup = .new := by
  unfold reset
  dsimp only
  rw [setGlobal_fst]
  exact setBuildup_buildup _ .new now

theorem reset_global (status : Status) (forgetUnread : Bool) (now : Nat) :
    (status.reset forgetUnread now).1.global = .error := by
  have tracks := status.tracks_reset forgetUnread now
  simp only [Status.tracks, Prod.mk.injEq] at tracks
  exact tracks.2.2.1

theorem setBuildup_global (status : Status) (state : Buildup) (now : Nat) :
    (status.setBuildup state now).1.global = status.global := by
  have tracks := status.tracks_setBuildup state now
  simp only [Status.tracks, Prod.mk.injEq] at tracks
  exact tracks.2.2.1

theorem passTo_global (status : Status) (now : Nat) : (status.passTo now).global = status.global := by
  have tracks := status.tracks_passTo now
  simp only [Status.tracks, Prod.mk.injEq] at tracks
  exact tracks.2.2.1

theorem passTo_buildup (status : Status) (now : Nat) : (status.passTo now).buildup = status.buildup := by
  unfold passTo
  split <;> rfl

theorem tracks_reportTask (status : Status) {state : TaskState} {summary : GlobalState}
    (known : state.summary? = some summary) :
    (status.reportTask state).1.tracks = (state, .task, summary, status.wasConnected || state == .connected) := by
  unfold reportTask
  rw [known]
  dsimp only
  rw [setGlobal_fst]
  rfl

theorem tracks_reportSignaling {status : Status} {state : SignalingState} {summary : GlobalState}
    (early : status.stage = .signaling) (known : state.summary? = some summary) :
    (status.reportSignaling state).1.tracks =
      (status.task, if state = .task then .task else .signaling, summary, status.wasConnected) := by
  unfold reportSignaling
  rw [early, known]
  dsimp only
  rw [setGlobal_fst]
  rfl

theorem reportSignaling_of_task {status : Status} (late : status.stage = .task) (state : SignalingState) :
    status.reportSignaling state = (status, []) := by
  unfold reportSignaling
  rw [late]

theorem reportSignaling_of_unknown (status : Status) {state : SignalingState} (unknown : state.isKnown = false) :
    status.reportSignaling state = (status, []) := by
  rw [state.isKnown_eq, Option.isSome_eq_false_iff, Option.isNone_iff_eq_none] at unknown
  unfold reportSignaling
  rw [unknown]
  cases status.stage <;> rfl

theorem reportTask_of_unknown (status : Status) {state : TaskState} (unknown : state.isKnown = false) :
    status.reportTask state = (status, []) := by
  rw [state.isKnown_eq, Option.isSome_eq_false_iff, Option.isNone_iff_eq_none] at unknown
  unfold reportTask
  rw [unknown]

/-- What links a status to the calls since its last reset. -/
structure Follows (status : Status) (calls : List StatusCall) : Prop where
  stage_iff : status.stage = .task ↔ ∃ call ∈ calls, call.beginsTask = true
  wasConnected_iff : status.wasConnected = true ↔ .task .connected ∈ calls
  late : status.stage = .task → status.task.summary? = some status.global
  early : status.stage = .signaling →
    status.task = .new ∧ status.global = ((lastSignaling? calls).bind SignalingState.summary?).getD .error

namespace Follows

variable {status : Status} {calls : List StatusCall}

/-- A status follows no calls once its tracks are those of a reset. -/
theorem of_tracks (tracks : status.tracks = (.new, .signaling, .error, false)) : status.Follows [] := by
  simp only [Status.tracks, Prod.mk.injEq] at tracks
  obtain ⟨task, stage, global, wasConnected⟩ := tracks
  constructor
  · simp [stage]
  · simp [wasConnected]
  · intro late
    rw [stage] at late
    cases late
  · intro _
    exact ⟨task, global⟩

/-- A call that changes no track, and neither begins the task stage nor reports a track, is followed. -/
theorem unchanged (follows : status.Follows calls) {after : Status} {call : StatusCall}
    (same : after.tracks = status.tracks) (stays : call.beginsTask = true → status.stage = .task)
    (disconnected : call ≠ .task .connected) (silent : status.stage = .signaling → call.signaling? = none) :
    after.Follows (calls ++ [call]) := by
  simp only [tracks, Prod.mk.injEq] at same
  obtain ⟨task, stage, global, wasConnected⟩ := same
  constructor
  · rw [stage]
    constructor
    · intro late
      obtain ⟨former, mem, begins⟩ := follows.stage_iff.mp late
      exact ⟨former, List.mem_append_left _ mem, begins⟩
    · rintro ⟨former, mem, begins⟩
      rcases List.mem_append.mp mem with mem | mem
      · exact follows.stage_iff.mpr ⟨former, mem, begins⟩
      · rw [List.mem_singleton.mp mem] at begins
        exact stays begins
  · rw [wasConnected, follows.wasConnected_iff, List.mem_append, List.mem_singleton]
    constructor
    · exact Or.inl
    · rintro (mem | same)
      · exact mem
      · exact absurd same.symm disconnected
  · rw [stage, task, global]
    exact follows.late
  · rw [stage, task, global]
    intro early
    rw [StatusCall.lastSignaling?_concat, silent early]
    exact follows.early early

theorem reportTask (follows : status.Follows calls) (state : TaskState) :
    (status.reportTask state).1.Follows (calls ++ [.task state]) := by
  have isKnown := state.isKnown_eq
  cases known : state.summary? with
  | none =>
      rw [known] at isKnown
      rw [reportTask_of_unknown status isKnown]
      refine follows.unchanged rfl (fun begins => ?_) (fun same => ?_) fun _ => rfl
      · exact absurd (isKnown.symm.trans begins) Bool.false_ne_true
      · cases same
        cases isKnown
  | some summary =>
      rw [known] at isKnown
      have tracks := tracks_reportTask status known
      simp only [Status.tracks, Prod.mk.injEq] at tracks
      obtain ⟨task, stage, global, wasConnected⟩ := tracks
      constructor
      · rw [stage]
        exact iff_of_true rfl ⟨.task state, by simp, isKnown⟩
      · rw [wasConnected, Bool.or_eq_true, follows.wasConnected_iff, List.mem_append, List.mem_singleton,
          StatusCall.task.injEq, beq_iff_eq, eq_comm (a := state)]
      · intro _
        rw [task, global, known]
      · intro early
        rw [stage] at early
        cases early

/-- A known state of the signaling is followed before the task stage. -/
theorem reportSignaling_known (follows : status.Follows calls) {state : SignalingState} {summary : GlobalState}
    (early : status.stage = .signaling) (known : state.summary? = some summary) :
    (status.reportSignaling state).1.Follows (calls ++ [.signaling state]) := by
  have tracks := tracks_reportSignaling early known
  simp only [Status.tracks, Prod.mk.injEq] at tracks
  obtain ⟨task, stage, global, wasConnected⟩ := tracks
  have done_iff : (status.reportSignaling state).1.stage = .task ↔ state = .task := by
    rw [stage]
    simp
  constructor
  · rw [done_iff]
    constructor
    · intro done
      exact ⟨.signaling state, by simp, decide_eq_true done⟩
    · rintro ⟨former, mem, begins⟩
      rcases List.mem_append.mp mem with mem | mem
      · have late := follows.stage_iff.mpr ⟨former, mem, begins⟩
        rw [early] at late
        cases late
      · rw [List.mem_singleton.mp mem] at begins
        exact of_decide_eq_true begins
  · rw [wasConnected, follows.wasConnected_iff]
    simp
  · intro late
    -- The handshake is done, and no task has been reported yet.
    rw [task, global, (follows.early early).1, ← known, done_iff.mp late]
    rfl
  · intro _
    have isKnown : state.isKnown = true := by rw [state.isKnown_eq, known, Option.isSome_some]
    have last : (StatusCall.signaling state).signaling? = some state := if_pos isKnown
    rw [task, global, StatusCall.lastSignaling?_concat, last, Option.some_or, Option.bind_some, known, Option.getD_some]
    exact ⟨(follows.early early).1, rfl⟩

theorem reportSignaling (follows : status.Follows calls) (state : SignalingState) :
    (status.reportSignaling state).1.Follows (calls ++ [.signaling state]) := by
  cases stage : status.stage with
  | task =>
      rw [reportSignaling_of_task stage]
      refine follows.unchanged rfl (fun _ => stage) (fun same => nomatch same) fun early => ?_
      rw [stage] at early
      cases early
  | signaling =>
      cases known : state.summary? with
      | none =>
          have unknown : state.isKnown = false := by rw [state.isKnown_eq, known, Option.isSome_none]
          rw [reportSignaling_of_unknown status unknown]
          refine follows.unchanged rfl (fun begins => ?_) (fun same => nomatch same) fun _ => ?_
          · rw [of_decide_eq_true begins] at known
            cases known
          · exact if_neg (Bool.eq_false_iff.mp unknown)
      | some summary => exact follows.reportSignaling_known stage known

/-- A call keeps a status in step with the calls since the last reset. -/
theorem answer {history : List StatusCall} (follows : status.Follows (recent history)) (call : StatusCall) :
    (status.answer call).Follows (recent (history ++ [call])) := by
  rw [StatusCall.recent_concat]
  cases call with
  | signaling state => exact follows.reportSignaling state
  | task state => exact follows.reportTask state
  | buildup state now =>
      exact follows.unchanged (tracks_setBuildup status state now) (fun begins => nomatch begins)
        (fun same => nomatch same) fun _ => rfl
  | reset forgetUnread now => exact of_tracks (tracks_reset status forgetUnread now)
  | unread count =>
      exact follows.unchanged rfl (fun begins => nomatch begins) (fun same => nomatch same) fun _ => rfl
  | pass now =>
      exact follows.unchanged (tracks_passTo status now) (fun begins => nomatch begins)
        (fun same => nomatch same) fun _ => rfl

theorem ok_iff (follows : status.Follows calls) : status.global = .ok ↔ status.task = .connected := by
  cases stage : status.stage with
  | task => rw [← TaskState.summary?_eq_ok_iff, follows.late stage, Option.some_inj]
  | signaling =>
      obtain ⟨task, global⟩ := follows.early stage
      rw [task, global]
      refine iff_of_false ?_ (fun same => nomatch same)
      cases lastSignaling? calls with
      | none => exact fun same => nomatch same
      | some state =>
          have notOk := state.summary?_ne_ok
          rw [Option.bind_some]
          cases summary : state.summary? with
          | none => exact fun same => nomatch same
          | some global => exact fun same => notOk (summary.trans (congrArg some same))

theorem error_iff (follows : status.Follows calls) (early : status.stage = .signaling) :
    status.global = .error ↔ lastSignaling? calls = none ∨ lastSignaling? calls = some .closing ∨
      lastSignaling? calls = some .closed := by
  rw [(follows.early early).2]
  cases last : lastSignaling? calls with
  | none => exact iff_of_true rfl (.inl rfl)
  | some state =>
      have known := StatusCall.isKnown_of_lastSignaling? last
      rw [state.isKnown_eq] at known
      obtain ⟨summary, found⟩ := Option.isSome_iff_exists.mp known
      rw [Option.bind_some, found, Option.getD_some, Option.some_inj, Option.some_inj,
        ← state.summary?_eq_error_iff, found, Option.some_inj]
      exact ⟨.inr, fun either => either.resolve_left fun same => nomatch same⟩

end Follows

theorem follows_after (clocked : Bool) (history : List StatusCall) :
    (after clocked history).Follows (recent history) := by
  induction history using List.reverseRecOn with
  | nil => exact Follows.of_tracks rfl
  | append_singleton before call ih =>
      rw [after_concat]
      exact ih.answer call

/-- In the task stage calls without a reset leave the stage as it is. -/
theorem stage_after_append {clocked : Bool} {history later : List StatusCall}
    (kept : ∀ call ∈ later, call.isReset = false) (late : (after clocked history).stage = .task) :
    (after clocked (history ++ later)).stage = .task := by
  obtain ⟨call, mem, begins⟩ := (follows_after clocked history).stage_iff.mp late
  refine (follows_after clocked (history ++ later)).stage_iff.mpr ⟨call, ?_, begins⟩
  rw [StatusCall.recent_append history kept]
  exact List.mem_append_left _ mem

/-- What a status shows after any calls, in terms of the calls since its last reset. -/
structure IsDerived (clocked : Bool) (history : List StatusCall) : Prop where
  ok_iff : (after clocked history).global = .ok ↔ (after clocked history).task = .connected
  stage_iff : (after clocked history).stage = .task ↔
    .signaling .task ∈ recent history ∨ ∃ state, state.isKnown = true ∧ .task state ∈ recent history
  warning_iff : (after clocked history).stage = .task → ((after clocked history).global = .warning ↔
    (after clocked history).task = .new ∨ (after clocked history).task = .connecting ∨
      (after clocked history).task = .reconnecting)
  error_iff : (after clocked history).stage = .task →
    ((after clocked history).global = .error ↔ (after clocked history).task = .disconnected)
  /-- Once the task stage has begun, no report of the signaling has any effect until a reset. -/
  settled : (after clocked history).stage = .task →
    ∀ later : List StatusCall, (∀ call ∈ later, call.isReset = false) → ∀ state,
      (after clocked (history ++ later)).stage = .task ∧
        (after clocked (history ++ later)).reportSignaling state = (after clocked (history ++ later), [])
  early : (after clocked history).stage = .signaling → (after clocked history).task = .new ∧
    ((after clocked history).global = .error ↔ lastSignaling? (recent history) = none ∨
      lastSignaling? (recent history) = some .closing ∨ lastSignaling? (recent history) = some .closed)
  wasConnected_iff : (after clocked history).wasConnected = true ↔ .task .connected ∈ recent history
  unknownSignaling : ∀ state : SignalingState, state.isKnown = false →
    (after clocked history).reportSignaling state = (after clocked history, [])
  unknownTask : ∀ state : TaskState, state.isKnown = false →
    (after clocked history).reportTask state = (after clocked history, [])

theorem isDerived_after (clocked : Bool) (history : List StatusCall) : IsDerived clocked history := by
  have follows := follows_after clocked history
  constructor
  case ok_iff => exact follows.ok_iff
  case stage_iff => exact follows.stage_iff.trans (StatusCall.exists_beginsTask_iff _)
  case warning_iff =>
    intro late
    rw [← TaskState.summary?_eq_warning_iff, follows.late late, Option.some_inj]
  case error_iff =>
    intro late
    rw [← TaskState.summary?_eq_error_iff, follows.late late, Option.some_inj]
  case settled =>
    intro late later kept state
    have stage := stage_after_append kept late
    exact ⟨stage, reportSignaling_of_task stage state⟩
  case early =>
    intro early
    exact ⟨(follows.early early).1, follows.error_iff early⟩
  case wasConnected_iff => exact follows.wasConnected_iff
  case unknownSignaling => exact fun state unknown => reportSignaling_of_unknown _ unknown
  case unknownTask => exact fun state unknown => reportTask_of_unknown _ unknown

end Status

end RelayClient
