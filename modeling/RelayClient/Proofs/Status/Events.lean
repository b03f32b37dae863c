import RelayClient.Proofs.Status.Derived

/-!
# What a status announces

Whoever listens to a status learns of every change, in the order of the changes,
and of nothing else. A change of the summary is told before a change of the
buildup, and the end of a reset after both. That the task was connected is told
only until the next reset, whose own change already denies it.
-/

namespace RelayClient

/-- A call on a status, made with or without a clock. -/
structure StatusTurn where
  clocked : Bool
  call : StatusCall

namespace StatusEvent

def change? : StatusEvent → Option GlobalChange
  | .global change => some change
  | _ => none

def buildup? : StatusEvent → Option Buildup
  | .buildup state => some state
  | _ => none

end StatusEvent

/-- Changes lead from one state to another: each begins where the one before ended, and ends elsewhere. -/
inductive Leads {State Change : Type} (links : Change → State → State → Prop) : State → List Change → State → Prop where
  | nil (state : State) : Leads links state [] state
  | cons {former next last : State} {change : Change} {later : List Change} :
      links change former next → former ≠ next → Leads links next later last →
        Leads links former (change :: later) last

theorem Leads.append {State Change : Type} {links : Change → State → State → Prop} {first middle last : State}
    {before later : List Change} (leads : Leads links first before middle) (further : Leads links middle later last) :
    Leads links first (before ++ later) last := by
  induction leads with
  | nil state => exact further
  | cons link differs _ ih => exact .cons link differs (ih further)

/-- A change of the summary names both its ends. -/
def GlobalChange.Links (change : GlobalChange) (former next : GlobalState) : Prop :=
  change.previous = former ∧ change.current = next

/-- A change of the buildup names only the state that is entered. -/
def Buildup.Links (state _former next : Buildup) : Prop :=
  state = next

namespace Status

open StatusCall (recent)

/-- What a reset forgets apart from the buildup and the summary. -/
def cleared (status : Status) (forgetUnread : Bool) : Status :=
  { status with
    signaling := .new, task := .new, stage := .signaling, wasConnected := false
    unread := if forgetUnread then 0 else status.unread }

theorem reset_eq (status : Status) (forgetUnread : Bool) (now : Nat) :
    status.reset forgetUnread now =
      ((((status.cleared forgetUnread).setBuildup .new now).1.setGlobal .error).1,
        (((status.cleared forgetUnread).setBuildup .new now).1.setGlobal .error).2 ++
          ((status.cleared forgetUnread).setBuildup .new now).2 ++ [.reset]) :=
  rfl

/-- The status after a call, with what the call posts. -/
def respond (status : Status) : StatusCall → Status × List StatusEvent
  | .signaling state => status.reportSignaling state
  | .task state => status.reportTask state
  | .buildup state now => status.setBuildup state now
  | .reset forgetUnread now => status.reset forgetUnread now
  | .unread count => ({ status with unread := count }, [])
  | .pass now => (status.passTo now, [])

theorem respond_fst (status : Status) (call : StatusCall) : (status.respond call).1 = status.answer call := by
  cases call <;> rfl

def turn (status : Status) (turn : StatusTurn) : Status × List StatusEvent :=
  { status with clocked := turn.clocked }.respond turn.call

/-- The status after any turns. -/
def turned (status : Status) (turns : List StatusTurn) : Status :=
  turns.foldl (fun status next => (status.turn next).1) status

/-- All that a status posts in some turns, oldest first. -/
def posted (status : Status) : List StatusTurn → List StatusEvent
  | [] => []
  | next :: later => (status.turn next).2 ++ (status.turn next).1.posted later

theorem turned_append (status : Status) (before later : List StatusTurn) :
    status.turned (before ++ later) = (status.turned before).turned later :=
  List.foldl_append

theorem posted_append (status : Status) (before later : List StatusTurn) :
    status.posted (before ++ later) = status.posted before ++ (status.turned before).posted later := by
  induction before generalizing status with
  | nil => rfl
  | cons next rest ih =>
      calc status.posted (next :: rest ++ later)
          = (status.turn next).2 ++ (status.turn next).1.posted (rest ++ later) := rfl
        _ = (status.turn next).2 ++
              ((status.turn next).1.posted rest ++ ((status.turn next).1.turned rest).posted later) := by rw [ih]
        _ = status.posted (next :: rest) ++ (status.turned (next :: rest)).posted later :=
              (List.append_assoc ..).symm

/-- What there is to tell about the way from one status to another. -/
def news (before after : Status) (isReset : Bool) : List StatusEvent :=
  (if before.global = after.global then [] else [.global ⟨before.global, after.global, after.wasConnected⟩]) ++
    (if before.buildup = after.buildup then [] else [.buildup after.buildup]) ++
    if isReset then [.reset] else []

/-- Without a reset and with the same buildup, only the summary is worth telling. -/
theorem news_global {before after : Status} (same : before.buildup = after.buildup) :
    before.news after false =
      if before.global = after.global then [] else [.global ⟨before.global, after.global, after.wasConnected⟩] := by
  rw [news, if_pos same, List.append_nil]
  exact List.append_nil _

/-- Without a reset and with the same summary, only the buildup is worth telling. -/
theorem news_buildup {before after : Status} (same : before.global = after.global) :
    before.news after false = if before.buildup = after.buildup then [] else [.buildup after.buildup] := by
  rw [news, if_pos same, List.nil_append]
  exact List.append_nil _

theorem news_nothing {before after : Status} (global : before.global = after.global)
    (buildup : before.buildup = after.buildup) : before.news after false = [] := by
  rw [news_global buildup, if_pos global]

theorem setGlobal_snd (status : Status) (state : GlobalState) :
    (status.setGlobal state).2 =
      if status.global = state then [] else [.global ⟨status.global, state, status.wasConnected⟩] := by
  unfold setGlobal
  split <;> rfl

theorem setBuildup_snd (status : Status) (state : Buildup) (now : Nat) :
    (status.setBuildup state now).2 = if status.buildup = state then [] else [.buildup state] := by
  unfold setBuildup
  split <;> rfl

/-- A report that is summed up tells of the summary, in the light of what is known after it. -/
theorem setGlobal_news {status changed : Status} (state : GlobalState) (global : changed.global = status.global)
    (buildup : changed.buildup = status.buildup) :
    (changed.setGlobal state).2 = status.news (changed.setGlobal state).1 false := by
  have same : status.buildup = (changed.setGlobal state).1.buildup := by rw [setGlobal_fst, buildup]
  rw [news_global same, setGlobal_snd, setGlobal_fst, global]

theorem reportSignaling_news (status : Status) (state : SignalingState) :
    (status.reportSignaling state).2 = status.news (status.reportSignaling state).1 false := by
  unfold reportSignaling
  split
  · exact setGlobal_news _ rfl rfl
  · exact (news_nothing rfl rfl).symm

theorem reportTask_news (status : Status) (state : TaskState) :
    (status.reportTask state).2 = status.news (status.reportTask state).1 false := by
  unfold reportTask
  split
  · exact setGlobal_news _ rfl rfl
  · exact (news_nothing rfl rfl).symm

theorem setBuildup_news (status : Status) (state : Buildup) (now : Nat) :
    (status.setBuildup state now).2 = status.news (status.setBuildup state now).1 false := by
  rw [news_buildup (setBuildup_global status state now).symm, setBuildup_snd, setBuildup_buildup]

theorem reset_news (status : Status) (forgetUnread : Bool) (now : Nat) :
    (status.reset forgetUnread now).2 = status.news (status.reset forgetUnread now).1 true := by
  have tracks := tracks_reset status forgetUnread now
  simp only [Status.tracks, Prod.mk.injEq] at tracks
  obtain ⟨-, -, global, wasConnected⟩ := tracks
  have kept := tracks_setBuildup (status.cleared forgetUnread) .new now
  simp only [Status.tracks, Prod.mk.injEq] at kept
  rw [news, reset_buildup, global, wasConnected, reset_eq, setGlobal_snd, setBuildup_snd, kept.2.2.1, kept.2.2.2]
  rfl

theorem passTo_news (status : Status) (now : Nat) : [] = status.news (status.passTo now) false :=
  (news_nothing (passTo_global status now).symm (passTo_buildup status now).symm).symm

/-- Every call posts the news of its change, and no other. -/
theorem respond_news (status : Status) (call : StatusCall) :
    (status.respond call).2 = status.news (status.respond call).1 call.isReset := by
  cases call with
  | signaling state => exact reportSignaling_news status state
  | task state => exact reportTask_news status state
  | buildup state now => exact setBuildup_news status state now
  | reset forgetUnread now => exact reset_news status forgetUnread now
  | unread count => exact (news_nothing rfl rfl).symm
  | pass now => exact passTo_news status now

theorem turn_news (status : Status) (next : StatusTurn) :
    (status.turn next).2 = status.news (status.turn next).1 next.call.isReset :=
  respond_news { status with clocked := next.clocked } next.call

/-- The changes of the summary among the news lead from the one summary to the other. -/
theorem leads_news (before after : Status) (isReset : Bool) :
    Leads GlobalChange.Links before.global ((before.news after isReset).filterMap StatusEvent.change?)
      after.global := by
  have others : ((if before.buildup = after.buildup then [] else [StatusEvent.buildup after.buildup]) ++
      if isReset then [StatusEvent.reset] else []).filterMap StatusEvent.change? = [] := by
    split <;> split <;> rfl
  rw [news, List.append_assoc, List.filterMap_append, others, List.append_nil]
  split
  · next same =>
      rw [← same]
      exact .nil _
  · next differs => exact .cons ⟨rfl, rfl⟩ differs (.nil _)

/-- The states of the buildup among the news lead from the one buildup to the other. -/
theorem leads_news_buildup (before after : Status) (isReset : Bool) :
    Leads Buildup.Links before.buildup ((before.news after isReset).filterMap StatusEvent.buildup?)
      after.buildup := by
  have former : (if before.global = after.global then []
      else [StatusEvent.global ⟨before.global, after.global, after.wasConnected⟩]).filterMap
        StatusEvent.buildup? = [] := by
    split <;> rfl
  have ending : (if isReset then [StatusEvent.reset] else []).filterMap StatusEvent.buildup? = [] := by
    split <;> rfl
  rw [news, List.filterMap_append, List.filterMap_append, former, ending, List.nil_append, List.append_nil]
  split
  · next same =>
      rw [← same]
      exact .nil _
  · next differs => exact .cons rfl differs (.nil _)

/-- Changes that lead from state to state in each turn do so in any number of turns. -/
theorem leads_posted {State Change : Type} {links : Change → State → State → Prop} {shown : Status → State}
    {picked : StatusEvent → Option Change}
    (leads : ∀ (before after : Status) (isReset : Bool),
      Leads links (shown before) ((before.news after isReset).filterMap picked) (shown after))
    (status : Status) (turns : List StatusTurn) :
    Leads links (shown status) ((status.posted turns).filterMap picked) (shown (status.turned turns)) := by
  induction turns generalizing status with
  | nil => exact .nil _
  | cons next later ih =>
      rw [posted, List.filterMap_append, turn_news]
      exact (leads _ _ _).append (ih _)

/-- Turns are followed as calls are, whether or not there is a clock. -/
theorem follows_turned (turns : List StatusTurn) :
    (turned {} turns).Follows (recent (turns.map StatusTurn.call)) := by
  induction turns using List.reverseRecOn with
  | nil => exact Follows.of_tracks rfl
  | append_singleton before next ih =>
      have clocked : { turned {} before with clocked := next.clocked }.Follows (recent (before.map StatusTurn.call)) :=
        ⟨ih.stage_iff, ih.wasConnected_iff, ih.late, ih.early⟩
      rw [turned_append, List.map_append]
      change (respond _ next.call).1.Follows _
      rw [respond_fst]
      exact clocked.answer next.call

/-- A change among the news tells whether the task was connected before its end. -/
theorem wasConnected_of_mem_news {before after : Status} {isReset : Bool} {change : GlobalChange}
    (mem : .global change ∈ before.news after isReset) : change.wasConnected = after.wasConnected := by
  rw [news, List.append_assoc, List.mem_append] at mem
  rcases mem with mem | mem
  · split at mem
    · cases mem
    · cases List.mem_singleton.mp mem
      rfl
  · rw [List.mem_append] at mem
    rcases mem with mem | mem <;> split at mem <;> simp at mem

/-- The news of a reset end with the reset, and no other news tell of one. -/
theorem reset_of_news (before after : Status) :
    StatusEvent.reset ∉ before.news after false ∧ before.news after true = before.news after false ++ [.reset] := by
  constructor
  · unfold news
    split <;> split <;> simp
  · simp [news]

theorem count_reset_news (before after : Status) (isReset : Bool) :
    (before.news after isReset).count .reset = if isReset then 1 else 0 := by
  obtain ⟨absent, ends⟩ := before.reset_of_news after
  have none := List.count_eq_zero.mpr absent
  cases isReset with
  | false => exact none
  | true =>
      rw [ends, List.count_append, none]
      rfl

theorem count_reset_posted (status : Status) (turns : List StatusTurn) :
    (status.posted turns).count .reset = turns.countP fun next => next.call.isReset := by
  induction turns generalizing status with
  | nil => rfl
  | cons next later ih =>
      rw [posted, List.count_append, turn_news, count_reset_news, ih, List.countP_cons, Nat.add_comm]

/-- What is posted by a new status in any turns tells all its changes, and nothing else. -/
structure IsTold (turns : List StatusTurn) : Prop where
  /-- The changes of the summary lead from the first one to the current one. -/
  changes :
    Leads GlobalChange.Links .error ((posted {} turns).filterMap StatusEvent.change?) (turned {} turns).global
  /-- The announced states of the buildup lead from the first one to the current one. -/
  buildups : Leads Buildup.Links .new ((posted {} turns).filterMap StatusEvent.buildup?) (turned {} turns).buildup
  /-- Each turn posts its news: a change of the summary, one of the buildup and the end of a reset, in this order. -/
  news : ∀ before next later, turns = before ++ next :: later →
    posted {} turns = posted {} before ++ (turned {} before).news (turned {} (before ++ [next])) next.call.isReset ++
      (turned {} (before ++ [next])).posted later
  wasConnected_iff : ∀ before next later, turns = before ++ next :: later →
    ∀ change, .global change ∈ ((turned {} before).turn next).2 →
      (change.wasConnected = true ↔ .task .connected ∈ recent ((before ++ [next]).map StatusTurn.call))
  /-- The change that a reset makes denies that the task was connected. -/
  denied : ∀ before next later, turns = before ++ next :: later → next.call.isReset = true →
    ∀ change, .global change ∈ ((turned {} before).turn next).2 → change.wasConnected = false
  /-- Every reset posts its end once, after everything else. -/
  resets : ∀ before next later, turns = before ++ next :: later → next.call.isReset = true →
    ∃ changes, ((turned {} before).turn next).2 = changes ++ [.reset] ∧ .reset ∉ changes
  resetCount : (posted {} turns).count .reset = turns.countP fun next => next.call.isReset

/-- A new status tells the whole truth about its changes, whatever is called on it. -/
theorem isTold_posted (turns : List StatusTurn) : IsTold turns := by
  have wasConnected (before : List StatusTurn) (next : StatusTurn) {change : GlobalChange}
      (mem : .global change ∈ ((turned {} before).turn next).2) :
      change.wasConnected = true ↔ .task .connected ∈ recent ((before ++ [next]).map StatusTurn.call) := by
    have follows := follows_turned (before ++ [next])
    rw [turn_news] at mem
    rw [wasConnected_of_mem_news mem, ← follows.wasConnected_iff, turned_append]
    rfl
  constructor
  case changes => exact leads_posted leads_news {} turns
  case buildups => exact leads_posted leads_news_buildup {} turns
  case news =>
    rintro before next later rfl
    rw [posted_append, turned_append, List.append_assoc]
    exact congrArg (posted {} before ++ ·) (congrArg (· ++ _) (turn_news _ next))
  case wasConnected_iff =>
    rintro before next later -
    exact fun _ mem => wasConnected before next mem
  case denied =>
    rintro before next later - isReset change mem
    refine Bool.eq_false_iff.mpr fun connected => ?_
    have reported := (wasConnected before next mem).mp connected
    rw [List.map_append, List.map_singleton, StatusCall.recent_concat, isReset] at reported
    cases reported
  case resets =>
    rintro before next later - isReset
    obtain ⟨absent, ends⟩ := (turned {} before).reset_of_news ((turned {} before).turn next).1
    rw [turn_news, isReset]
    exact ⟨_, ends, absent⟩
  case resetCount => exact count_reset_posted {} turns

end Status

end RelayClient
