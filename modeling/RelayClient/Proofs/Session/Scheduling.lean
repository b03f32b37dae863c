import RelayClient.Session.Schedule

/-!
# What the schedule keeps

Whatever a task, a timer and time itself keep holds after all ready tasks have run,
and after any time has passed.
-/

namespace RelayClient

namespace Session

variable {motive : Session → Prop} {session : Session}

/-- Waking makes the tasks ready whose timers are due, each by itself. -/
theorem wake_induction (here : motive session)
    (next : ∀ current timed, timed ∈ session.wakeTimes → motive current →
        motive ((current.endPause timed.2).spawn timed.2)) :
    motive session.wake := by
  have each (timers : List (Nat × Task)) (known : ∀ timed ∈ timers, timed ∈ session.wakeTimes)
      (current : Session) (holds : motive current) :
      motive (timers.foldl (fun current timed => (current.endPause timed.2).spawn timed.2) current) := by
    induction timers generalizing current with
    | nil => exact holds
    | cons timed rest ih =>
        exact ih (fun other mem => known other (.tail _ mem)) _ (next current timed (known timed (.head _)) holds)
  exact each _ (fun timed mem => (List.mem_filter.mp mem).1) session here

theorem runTasks_induction (taken : ∀ current ready, motive current → motive { current with ready })
    (run : ∀ current task, motive current → motive (current.runTask task)) (here : motive session) (count : Nat) :
    motive (session.runTasks count) := by
  induction count generalizing session with
  | zero => exact here
  | succ count ih =>
      unfold runTasks
      split
      · exact here
      · next task rest _ => exact ih (run _ task (taken session rest here))

theorem passSteps_induction (moved : ∀ current time, motive current → motive (current.moveTo time))
    (woken : ∀ current, motive current → motive current.wake)
    (ran : ∀ current, motive current → motive current.runReady)
    (here : motive session) (limit stops : Nat) : motive (session.passSteps limit stops) := by
  induction stops generalizing session with
  | zero => exact moved session limit here
  | succ stops ih =>
      unfold passSteps
      split
      · exact moved session limit here
      · next time _ => exact ih (ran _ (woken _ (moved session time here)))

end Session

end RelayClient
