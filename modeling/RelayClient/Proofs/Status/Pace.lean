import RelayClient.Proofs.Status.Events

/-!
# The pace of the buildup

Some states of the buildup move on by themselves, one step a period. How far the
current one has come, whether it is slow and when it moves on is the pace of a
status. Passing time changes nothing but the pace, and a call takes no notice of
it: it leaves the pace as it is, unless it enters a state from another one, which
begins anew.
-/

namespace RelayClient

/-- The pace of a state of the buildup: how far it has come, and when it moves on. -/
@[ext]
structure Pace where
  progress : Nat
  slow : Bool
  nextTick : Option Nat

namespace Pace

/-- The pace at which a state begins. -/
def entering (state : Buildup) (clocked : Bool) (now : Nat) : Pace where
  progress := state.initial
  slow := false
  nextTick := if clocked then state.period?.map (now + ·) else none

/-- The pace that ticks lead to. -/
def after (pace : Pace) (ticks : Nat × Bool × Option Nat) : Pace :=
  ⟨ticks.1, pace.slow || ticks.2.1, ticks.2.2⟩

/-- The pace once all ticks up to a time are done. -/
def passTo (pace : Pace) (state : Buildup) (now : Nat) : Pace :=
  match pace.nextTick, found : state.period? with
  | some due, some period =>
      pace.after (Status.tickUntil state period (Buildup.period_pos found) now due pace.progress)
  | _, _ => pace

variable {pace : Pace} {state : Buildup} {now due period : Nat}

theorem passTo_of_idle (idle : pace.nextTick = none) : pace.passTo state now = pace := by
  rw [passTo, idle]

theorem passTo_of_still (still : state.period? = none) : pace.passTo state now = pace := by
  unfold passTo
  split
  · next found =>
      rw [still] at found
      cases found
  · rfl

theorem passTo_of_period (next : pace.nextTick = some due) (found : state.period? = some period) :
    pace.passTo state now =
      pace.after (Status.tickUntil state period (Buildup.period_pos found) now due pace.progress) := by
  unfold passTo
  split
  · next due' period' next' found' =>
      cases next.symm.trans next'
      cases found.symm.trans found'
      rfl
  · next none => exact (none due period next found).elim

theorem passTo_of_later (next : pace.nextTick = some due) (later : now < due) : pace.passTo state now = pace := by
  cases found : state.period? with
  | none => exact passTo_of_still found
  | some period =>
      rw [passTo_of_period next found, Status.tickUntil, if_neg (Nat.not_le.mpr later), after, Bool.or_false, ← next]

/-- A state that has just been entered does not move on yet. -/
theorem passTo_entering (state : Buildup) (clocked : Bool) (now : Nat) :
    (entering state clocked now).passTo state now = entering state clocked now := by
  cases next : (entering state clocked now).nextTick with
  | none => exact passTo_of_idle next
  | some due =>
      obtain ⟨-, started⟩ := Option.ite_none_right_eq_some.mp next
      obtain ⟨period, found, rfl⟩ := Option.map_eq_some_iff.mp started
      exact passTo_of_later next (Nat.lt_add_of_pos_right (Buildup.period_pos found))

/-- A due tick comes first. -/
theorem passTo_of_due {further : Nat} (next : pace.nextTick = some due) (isDue : due ≤ now)
    (found : state.period? = some period) (moves : state.next? pace.progress = some further) :
    pace.passTo state now = passTo ⟨further, pace.slow, some (due + period)⟩ state now := by
  rw [passTo_of_period next found, passTo_of_period rfl found, Status.tickUntil, if_pos isDue, moves]
  rfl

/-- A due tick at the ceiling is the last one. -/
theorem passTo_of_ceiling (next : pace.nextTick = some due) (isDue : due ≤ now)
    (found : state.period? = some period) (stays : state.next? pace.progress = none) :
    pace.passTo state now = ⟨pace.progress, true, none⟩ := by
  rw [passTo_of_period next found, Status.tickUntil, if_pos isDue, stays]
  exact congrArg (Pace.mk _ · _) (Bool.or_true _)

/-- The ticks up to a time, and then those up to a later time, are the ticks up to the later time. -/
theorem passTo_passTo (pace : Pace) (state : Buildup) {now later : Nat} (le : now ≤ later) :
    (pace.passTo state now).passTo state later = pace.passTo state later := by
  cases found : state.period? with
  | none => rw [passTo_of_still found, passTo_of_still found, passTo_of_still found]
  | some period =>
      have positive := Buildup.period_pos found
      -- Induction on the time for which ticks are due.
      induction span : now + 1 - pace.nextTick.getD (now + 1) using Nat.strongRecOn generalizing pace with
      | ind span ih =>
          cases next : pace.nextTick with
          | none => rw [passTo_of_idle next]
          | some due =>
              rw [next, Option.getD_some] at span
              by_cases isDue : due ≤ now
              · have isDueLater := Nat.le_trans isDue le
                cases moves : state.next? pace.progress with
                | none =>
                    rw [passTo_of_ceiling next isDue found moves, passTo_of_ceiling next isDueLater found moves]
                    exact passTo_of_idle rfl
                | some further =>
                    rw [passTo_of_due next isDue found moves, passTo_of_due next isDueLater found moves]
                    refine ih (now + 1 - (due + period)) ?_ _ rfl
                    omega
              · rw [passTo_of_later next (Nat.not_le.mp isDue)]

end Pace

namespace StatusCall

/-- The time after a call that is made at a time. -/
def timeAfter (now : Nat) : StatusCall → Nat
  | .pass later => later
  | _ => now

/-- A call names the time at which it is made, and time passes forward only. -/
def IsTimely (now : Nat) : StatusCall → Prop
  | .buildup _ time => time = now
  | .reset _ time => time = now
  | .pass later => now ≤ later
  | _ => True

theorem IsTimely.le_timeAfter {call : StatusCall} {now : Nat} (timely : call.IsTimely now) :
    now ≤ call.timeAfter now := by
  cases call with
  | pass later => exact timely
  | _ => exact Nat.le_refl now

theorem timeAfter_of_present {call : StatusCall} (present : ∀ later, call ≠ .pass later) (now : Nat) :
    call.timeAfter now = now := by
  cases call with
  | pass later => exact absurd rfl (present later)
  | _ => rfl

/-- The state of the buildup that a call asks for. -/
def entered? : StatusCall → Option Buildup
  | .buildup state _ => some state
  | .reset _ _ => some .new
  | _ => none

end StatusCall

namespace Status

def pace (status : Status) : Pace :=
  ⟨status.progress, status.slow, status.nextTick⟩

/-- The status at another pace. -/
def atPace (status : Status) (pace : Pace) : Status :=
  { status with progress := pace.progress, slow := pace.slow, nextTick := pace.nextTick }

theorem passTo_eq (status : Status) (now : Nat) :
    status.passTo now = status.atPace (status.pace.passTo status.buildup now) := by
  cases found : status.buildup.period? with
  | none =>
      rw [Pace.passTo_of_still found, passTo]
      split
      · next found' =>
          rw [found] at found'
          cases found'
      · rfl
  | some period =>
      cases next : status.nextTick with
      | none =>
          rw [Pace.passTo_of_idle next, passTo, next]
          rfl
      | some due =>
          rw [Pace.passTo_of_period next found, passTo]
          split
          · next due' period' next' found' =>
              cases next.symm.trans next'
              cases found.symm.trans found'
              rfl
          · next none => exact (none due period next found).elim

theorem pace_setGlobal (status : Status) (state : GlobalState) : (status.setGlobal state).1.pace = status.pace := by
  rw [setGlobal_fst]
  rfl

theorem setGlobal_atPace (status : Status) (pace : Pace) (state : GlobalState) :
    (status.atPace pace).setGlobal state = ((status.setGlobal state).1.atPace pace, (status.setGlobal state).2) := by
  by_cases same : status.global = state
  · rw [setGlobal, setGlobal, if_pos same]
    exact if_pos same
  · rw [setGlobal, setGlobal, if_neg same]
    exact if_neg same

theorem pace_setBuildup (status : Status) (state : Buildup) (now : Nat) :
    (status.setBuildup state now).1.pace =
      if status.buildup = state then status.pace else .entering state status.clocked now := by
  unfold setBuildup
  split <;> rfl

theorem setBuildup_of_eq (status : Status) {state : Buildup} (same : status.buildup = state) (now : Nat) :
    status.setBuildup state now = (status, []) :=
  if_pos same

theorem setBuildup_atPace_of_ne (status : Status) {state : Buildup} (differs : status.buildup ≠ state)
    (pace : Pace) (now : Nat) : (status.atPace pace).setBuildup state now = status.setBuildup state now := by
  rw [setBuildup, setBuildup, if_neg differs]
  exact if_neg differs

theorem reportSignaling_buildup (status : Status) (state : SignalingState) :
    (status.reportSignaling state).1.buildup = status.buildup := by
  unfold reportSignaling
  split
  · rw [setGlobal_fst]
  · rfl

theorem reportTask_buildup (status : Status) (state : TaskState) :
    (status.reportTask state).1.buildup = status.buildup := by
  unfold reportTask
  split
  · rw [setGlobal_fst]
  · rfl

theorem pace_reportSignaling (status : Status) (state : SignalingState) :
    (status.reportSignaling state).1.pace = status.pace := by
  unfold reportSignaling
  split
  · rw [pace_setGlobal]
    rfl
  · rfl

theorem pace_reportTask (status : Status) (state : TaskState) :
    (status.reportTask state).1.pace = status.pace := by
  unfold reportTask
  split
  · rw [pace_setGlobal]
    rfl
  · rfl

theorem reportSignaling_of_known {status : Status} {state : SignalingState} {summary : GlobalState}
    (early : status.stage = .signaling) (known : state.summary? = some summary) :
    status.reportSignaling state =
      setGlobal { status with
        signaling := state
        stage := if state = .task then .task else .signaling } summary := by
  rw [reportSignaling, early, known]

theorem reportTask_of_known (status : Status) {state : TaskState} {summary : GlobalState}
    (known : state.summary? = some summary) :
    status.reportTask state =
      setGlobal { status with
        task := state
        stage := .task
        wasConnected := status.wasConnected || state == .connected } summary := by
  rw [reportTask, known]

theorem reportSignaling_atPace (status : Status) (pace : Pace) (state : SignalingState) :
    (status.atPace pace).reportSignaling state =
      ((status.reportSignaling state).1.atPace pace, (status.reportSignaling state).2) := by
  cases stage : status.stage with
  | task =>
      have stageAt : (status.atPace pace).stage = .task := stage
      rw [reportSignaling_of_task stage, reportSignaling_of_task stageAt]
  | signaling =>
      have stageAt : (status.atPace pace).stage = .signaling := stage
      cases known : state.summary? with
      | none =>
          have unknown : state.isKnown = false := by rw [state.isKnown_eq, known, Option.isSome_none]
          rw [reportSignaling_of_unknown _ unknown, reportSignaling_of_unknown _ unknown]
      | some summary =>
          rw [reportSignaling_of_known stage known, reportSignaling_of_known stageAt known]
          exact setGlobal_atPace { status with
            signaling := state, stage := if state = .task then .task else .signaling } pace summary

theorem reportTask_atPace (status : Status) (pace : Pace) (state : TaskState) :
    (status.atPace pace).reportTask state =
      ((status.reportTask state).1.atPace pace, (status.reportTask state).2) := by
  cases known : state.summary? with
  | none =>
      have unknown : state.isKnown = false := by rw [state.isKnown_eq, known, Option.isSome_none]
      rw [reportTask_of_unknown _ unknown, reportTask_of_unknown _ unknown]
  | some summary =>
      rw [reportTask_of_known status known, reportTask_of_known _ known]
      exact setGlobal_atPace { status with
        task := state, stage := .task, wasConnected := status.wasConnected || state == .connected } pace summary

theorem reset_atPace_of_eq {status : Status} (same : status.buildup = .new) (pace : Pace) (forgetUnread : Bool)
    (now : Nat) : (status.atPace pace).reset forgetUnread now =
      ((status.reset forgetUnread now).1.atPace pace, (status.reset forgetUnread now).2) := by
  have kept : (status.cleared forgetUnread).setBuildup .new now = (status.cleared forgetUnread, []) :=
    setBuildup_of_eq (status.cleared forgetUnread) same now
  have keptAt : ((status.atPace pace).cleared forgetUnread).setBuildup .new now =
      ((status.cleared forgetUnread).atPace pace, []) :=
    setBuildup_of_eq ((status.atPace pace).cleared forgetUnread) same now
  rw [reset_eq, reset_eq, kept, keptAt, setGlobal_atPace]

theorem reset_atPace_of_ne {status : Status} (differs : status.buildup ≠ .new) (pace : Pace) (forgetUnread : Bool)
    (now : Nat) : (status.atPace pace).reset forgetUnread now = status.reset forgetUnread now := by
  have same : ((status.atPace pace).cleared forgetUnread).setBuildup .new now =
      (status.cleared forgetUnread).setBuildup .new now := setBuildup_atPace_of_ne (status.cleared forgetUnread) differs pace now
  rw [reset_eq, reset_eq, same]

theorem pace_reset (status : Status) (forgetUnread : Bool) (now : Nat) :
    (status.reset forgetUnread now).1.pace =
      if status.buildup = .new then status.pace else .entering .new status.clocked now := by
  rw [reset_eq, pace_setGlobal]
  exact pace_setBuildup (status.cleared forgetUnread) .new now

theorem passTo_of_idle (status : Status) (idle : status.nextTick = none) (now : Nat) : status.passTo now = status := by
  rw [passTo_eq, Pace.passTo_of_idle idle]
  rfl

/-- A call leads to the state of the buildup that it asks for, or leaves the one there is. -/
theorem respond_buildup (status : Status) (call : StatusCall) :
    (status.respond call).1.buildup = call.entered?.getD status.buildup := by
  cases call with
  | signaling state => exact reportSignaling_buildup status state
  | task state => exact reportTask_buildup status state
  | buildup state now => exact setBuildup_buildup status state now
  | reset forgetUnread now => exact reset_buildup status forgetUnread now
  | unread count => rfl
  | pass now => exact passTo_buildup status now

/-- A turn is made with its own clock, or without any. -/
theorem turn_clocked (status : Status) (next : StatusTurn) : (status.turn next).1.clocked = next.clocked := by
  have keeps (status : Status) (state : Buildup) (now : Nat) :
      (status.setBuildup state now).1.clocked = status.clocked := by
    unfold setBuildup
    split <;> rfl
  rw [turn]
  cases next.call with
  | signaling state =>
      dsimp only [respond]
      unfold reportSignaling
      split
      · rw [setGlobal_fst]
      · rfl
  | task state =>
      dsimp only [respond]
      unfold reportTask
      split
      · rw [setGlobal_fst]
      · rfl
  | buildup state now => exact keeps _ state now
  | reset forgetUnread now =>
      dsimp only [respond]
      rw [reset_eq, setGlobal_fst]
      exact keeps _ .new now
  | unread count => rfl
  | pass now =>
      dsimp only [respond]
      rw [passTo_eq]
      rfl

/-- A state of the buildup that is entered from another one begins anew, and any other call leaves the pace. -/
theorem pace_respond (status : Status) {call : StatusCall} {now : Nat} (idle : status.nextTick = none)
    (timely : call.IsTimely now) :
    (status.respond call).1.pace =
      if status.buildup = (status.respond call).1.buildup then status.pace
      else .entering (status.respond call).1.buildup status.clocked now := by
  cases call with
  | signaling state =>
      exact (pace_reportSignaling status state).trans (if_pos (reportSignaling_buildup status state).symm).symm
  | task state => exact (pace_reportTask status state).trans (if_pos (reportTask_buildup status state).symm).symm
  | buildup state time =>
      cases timely
      have entered : (status.respond (.buildup state now)).1.buildup = state := setBuildup_buildup status state now
      rw [entered]
      exact pace_setBuildup status state now
  | reset forgetUnread time =>
      cases timely
      have entered : (status.respond (.reset forgetUnread now)).1.buildup = .new :=
        reset_buildup status forgetUnread now
      rw [entered]
      exact pace_reset status forgetUnread now
  | unread count => exact (if_pos rfl).symm
  | pass later =>
      have same : (status.respond (.pass later)).1 = status := passTo_of_idle status idle later
      rw [same]
      exact (if_pos rfl).symm

/-- A call takes no notice of the pace, which it leaves unless a state of the buildup is entered from another one. -/
theorem respond_atPace (status : Status) (pace : Pace) {call : StatusCall} (present : ∀ later, call ≠ .pass later) :
    (status.atPace pace).respond call =
      if status.buildup = (status.respond call).1.buildup then
        ((status.respond call).1.atPace pace, (status.respond call).2)
      else status.respond call := by
  cases call with
  | signaling state =>
      exact (reportSignaling_atPace status pace state).trans (if_pos (reportSignaling_buildup status state).symm).symm
  | task state =>
      exact (reportTask_atPace status pace state).trans (if_pos (reportTask_buildup status state).symm).symm
  | buildup state now =>
      have entered : (status.respond (.buildup state now)).1.buildup = state := setBuildup_buildup status state now
      rw [entered]
      by_cases same : status.buildup = state
      · have kept : status.respond (.buildup state now) = (status, []) := setBuildup_of_eq status same now
        rw [if_pos same, kept]
        exact setBuildup_of_eq (status.atPace pace) same now
      · rw [if_neg same]
        exact setBuildup_atPace_of_ne status same pace now
  | reset forgetUnread now =>
      have entered : (status.respond (.reset forgetUnread now)).1.buildup = .new :=
        reset_buildup status forgetUnread now
      rw [entered]
      by_cases same : status.buildup = .new
      · rw [if_pos same]
        exact reset_atPace_of_eq same pace forgetUnread now
      · rw [if_neg same]
        exact reset_atPace_of_ne same pace forgetUnread now
  | unread count => exact (if_pos rfl).symm
  | pass later => exact (present later rfl).elim

/-- Only a call that takes no time enters another state of the buildup. -/
theorem present_of_ne {status : Status} {next : StatusTurn} (differs : status.buildup ≠ (status.turn next).1.buildup)
    (later : Nat) : next.call ≠ .pass later := by
  intro call
  refine differs ?_
  rw [turn, call]
  exact (passTo_buildup { status with clocked := next.clocked } later).symm

end Status

end RelayClient
