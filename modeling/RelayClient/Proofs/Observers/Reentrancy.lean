import RelayClient.Observers
import RelayClient.Proofs.Lists

/-!
# Calls from inside of notices

A callback may subscribe, withdraw and post while it runs, and what it posts runs before
it goes on. In the order of time this is one sequence of moves: whoever runs makes a call,
or has made its last one, and then the next callback is called that a notice still has to
call. Those of a notice come before all that were due when it began. Whatever the moves
are, a notice calls those who were subscribed when it began, each once and in the order in
which they subscribed, and programs of any depth are such moves.
-/

namespace RelayClient

/-- A notice calls the callback with an id, and passes it a value. -/
structure Telling (κ β : Type) where
  notice : Nat
  id : Nat
  callback : κ
  value : β

/-- What is noted of an observer list. -/
inductive ObserverEvent (κ β : Type) where
  | subscribed (id : Nat) (callback : κ)
  /-- Somebody withdrew an id, and was told whether it was subscribed. -/
  | withdrawn (id : Nat) (found : Bool)
  | began (notice : Nat) (value : β)
  | called (telling : Telling κ β)

namespace ObserverEvent

variable {κ β : Type}

def subscription? : ObserverEvent κ β → Option (Nat × κ)
  | .subscribed id callback => some (id, callback)
  | _ => none

def telling? : ObserverEvent κ β → Option (Telling κ β)
  | .called telling => some telling
  | _ => none

def notice? : ObserverEvent κ β → Option Nat
  | .began notice _ => some notice
  | _ => none

/-- Subscriptions in the order in which they were made. -/
def subscriptions (history : List (ObserverEvent κ β)) : List (Nat × κ) :=
  history.filterMap subscription?

/-- A callback was subscribed under an id, which was not withdrawn since. -/
def IsSubscribed (history : List (ObserverEvent κ β)) (id : Nat) (callback : κ) : Prop :=
  Stands (· = .subscribed id callback) (fun event => ∃ found, event = .withdrawn id found) history

variable {history : List (ObserverEvent κ β)} {event : ObserverEvent κ β} {id other : Nat} {callback added : κ}
  {found : Bool}

theorem subscriptions_concat (history : List (ObserverEvent κ β)) (event : ObserverEvent κ β) :
    subscriptions (history ++ [event]) = subscriptions history ++ event.subscription?.toList := by
  rw [subscriptions, List.filterMap_append]
  cases noted : event.subscription? <;> simp [subscriptions, noted]

theorem isSubscribed_concat_subscribed : IsSubscribed (history ++ [.subscribed other added]) id callback ↔
    (other = id ∧ added = callback) ∨ IsSubscribed history id callback := by
  rw [IsSubscribed, stands_concat_iff]
  constructor
  · rintro (same | ⟨stood, -⟩)
    · cases same
      exact .inl ⟨rfl, rfl⟩
    · exact .inr stood
  · rintro (⟨rfl, rfl⟩ | stood)
    · exact .inl rfl
    · exact .inr ⟨stood, nofun⟩

theorem isSubscribed_concat_withdrawn : IsSubscribed (history ++ [.withdrawn other found]) id callback ↔
    IsSubscribed history id callback ∧ id ≠ other := by
  rw [IsSubscribed, stands_concat_iff]
  constructor
  · rintro (same | ⟨stood, going⟩)
    · cases same
    · exact ⟨stood, fun same => going ⟨found, by rw [same]⟩⟩
  · rintro ⟨stood, distinct⟩
    refine .inr ⟨stood, ?_⟩
    rintro ⟨flag, same⟩
    cases same
    exact distinct rfl

/-- Notices and their calls leave all subscriptions. -/
theorem isSubscribed_concat_other (subscribed : ∀ id callback, event ≠ .subscribed id callback)
    (withdrawn : ∀ id found, event ≠ .withdrawn id found) :
    IsSubscribed (history ++ [event]) id callback ↔ IsSubscribed history id callback := by
  rw [IsSubscribed, stands_concat_iff]
  constructor
  · rintro (same | ⟨stood, -⟩)
    · exact absurd same (subscribed id callback)
    · exact stood
  · exact fun stood => .inr ⟨stood, fun ⟨found, same⟩ => withdrawn id found same⟩

end ObserverEvent

/-- What can happen next around an observer list. -/
inductive ObserverMove (κ β : Type) where
  | subscribe (callback : κ)
  | unsubscribe (id : Nat)
  | notify (value : β)
  /-- Whoever runs has made its last call, so that the next callback is called. -/
  | proceed

/-- Whom a notice has to call when it begins. -/
def Observers.tellings {κ β : Type} (observers : Observers κ) (notice : Nat) (value : β) : List (Telling κ β) :=
  observers.list.map fun entry => ⟨notice, entry.1, entry.2, value⟩

theorem Observers.callbacks_eq {κ β : Type} (observers : Observers κ) (notice : Nat) (value : β) :
    observers.callbacks = (observers.tellings notice value).map (·.callback) := by
  rw [tellings, List.map_map]
  rfl

theorem Observers.filter_tellings_self {κ β : Type} (observers : Observers κ) (notice : Nat) (value : β) :
    (observers.tellings notice value).filter (·.notice = notice) = observers.tellings notice value := by
  refine List.filter_eq_self.mpr fun telling mem => ?_
  obtain ⟨entry, -, rfl⟩ := List.mem_map.mp mem
  exact decide_eq_true rfl

theorem Observers.filter_tellings_of_ne {κ β : Type} (observers : Observers κ) {notice other : Nat} (value : β)
    (distinct : notice ≠ other) : (observers.tellings notice value).filter (·.notice = other) = [] := by
  refine List.filter_eq_nil_iff.mpr fun telling mem => ?_
  obtain ⟨entry, -, rfl⟩ := List.mem_map.mp mem
  simpa using distinct

/-- An observer list with what was noted of it. -/
structure ObserverTrace (κ β : Type) where
  observers : Observers κ := {}
  /-- How many notices have begun. The next one has this number. -/
  notices : Nat := 0
  /-- Whom the notices under way still have to call, those of the last one first. -/
  due : List (Telling κ β) := []
  history : List (ObserverEvent κ β) := []

namespace ObserverTrace

open ObserverEvent

variable {κ β : Type}

def step (trace : ObserverTrace κ β) : ObserverMove κ β → ObserverTrace κ β
  | .subscribe callback =>
      let added := trace.observers.subscribe callback
      { trace with observers := added.1, history := trace.history ++ [.subscribed added.2 callback] }
  | .unsubscribe id =>
      let withdrawn := trace.observers.unsubscribe id
      { trace with observers := withdrawn.1, history := trace.history ++ [.withdrawn id withdrawn.2] }
  | .notify value =>
      { trace with
        notices := trace.notices + 1
        due := trace.observers.tellings trace.notices value ++ trace.due
        history := trace.history ++ [.began trace.notices value] }
  | .proceed =>
      match trace.due with
      | [] => trace
      | next :: rest => { trace with due := rest, history := trace.history ++ [.called next] }

def play (trace : ObserverTrace κ β) (moves : List (ObserverMove κ β)) : ObserverTrace κ β :=
  moves.foldl step trace

/-- The calls that a notice has made, oldest first. -/
def calledBy (trace : ObserverTrace κ β) (notice : Nat) : List (Telling κ β) :=
  (trace.history.filterMap telling?).filter (·.notice = notice)

/-- The calls that a notice still has to make. -/
def dueOf (trace : ObserverTrace κ β) (notice : Nat) : List (Telling κ β) :=
  trace.due.filter (·.notice = notice)

/-- The entries are those who are subscribed after a history, in the order in which they subscribed. -/
structure Lists (history : List (ObserverEvent κ β)) (entries : List (Nat × κ)) : Prop where
  order : entries.Sublist (subscriptions history)
  mem_iff : ∀ id callback, (id, callback) ∈ entries ↔ IsSubscribed history id callback

/-- What callbacks may rely on, whatever they do while they are called. With nothing left to
call, the calls of a notice are those that were made. -/
structure ToleratesReentrancy (trace : ObserverTrace κ β) : Prop where
  calls : ∀ before notice value after, trace.history = before ++ .began notice value :: after →
    ∃ entries, Lists before entries ∧ trace.calledBy notice ++ trace.dueOf notice =
      entries.map fun entry => ⟨notice, entry.1, entry.2, value⟩
  /-- Nobody is called but by a notice, and with its value. -/
  begun : ∀ before telling after, trace.history = before ++ .called telling :: after →
    .began telling.notice telling.value ∈ before
  notices : (trace.history.filterMap notice?).Nodup
  ids : ((subscriptions trace.history).map (·.1)).Nodup
  answers : ∀ before id found after, trace.history = before ++ .withdrawn id found :: after →
    (found = true ↔ ∃ callback, IsSubscribed before id callback) ∧
    ∀ other callback, IsSubscribed (before ++ [.withdrawn id found]) other callback ↔
      IsSubscribed before other callback ∧ other ≠ id

/-! ## The list -/

namespace Lists

variable {history : List (ObserverEvent κ β)} {entries : List (Nat × κ)} {event : ObserverEvent κ β}

theorem subscribe (lists : Lists history entries) (id : Nat) (callback : κ) :
    Lists (history ++ [.subscribed id callback]) (entries ++ [(id, callback)]) where
  order := by
    rw [subscriptions_concat]
    exact lists.order.append (.refl _)
  mem_iff other held := by
    rw [List.mem_append, isSubscribed_concat_subscribed, lists.mem_iff, List.mem_singleton, Prod.mk.injEq, or_comm]
    simp only [eq_comm]

theorem unsubscribe (lists : Lists history entries) (id : Nat) (found : Bool) :
    Lists (history ++ [.withdrawn id found]) (entries.filter fun entry => entry.1 != id) where
  order := by
    rw [subscriptions_concat]
    exact List.filter_sublist.trans (lists.order.trans (List.sublist_append_left _ _))
  mem_iff other held := by
    rw [List.mem_filter, isSubscribed_concat_withdrawn, lists.mem_iff, bne_iff_ne]

/-- Notices and their calls leave the list. -/
theorem other (lists : Lists history entries) (subscribed : ∀ id callback, event ≠ .subscribed id callback)
    (withdrawn : ∀ id found, event ≠ .withdrawn id found) : Lists (history ++ [event]) entries where
  order := by
    rw [subscriptions_concat]
    exact lists.order.trans (List.sublist_append_left _ _)
  mem_iff id held := by
    rw [isSubscribed_concat_other subscribed withdrawn, lists.mem_iff]

end Lists

/-- If an id was withdrawn here, the answer told whether it was subscribed. -/
def IsAnswered (before : List (ObserverEvent κ β)) (event : ObserverEvent κ β) : Prop :=
  ∀ id found, event = .withdrawn id found → (found = true ↔ ∃ callback, IsSubscribed before id callback)

/-- An observer list in step with what was noted of it. -/
structure IsListed (observers : Observers κ) (history : List (ObserverEvent κ β)) : Prop where
  lists : Lists history observers.list
  ascending : (subscriptions history).Pairwise fun first second => first.1 < second.1
  below : ∀ entry ∈ subscriptions history, entry.1 < observers.nextId
  answered : Throughout IsAnswered history

namespace IsListed

variable {observers : Observers κ} {history : List (ObserverEvent κ β)} {event : ObserverEvent κ β}

theorem start : IsListed ({} : Observers κ) ([] : List (ObserverEvent κ β)) where
  lists := ⟨.slnil, fun _ _ => iff_of_false nofun not_stands_nil⟩
  ascending := .nil
  below := nofun
  answered := throughout_nil

theorem subscribe (listed : IsListed observers history) (callback : κ) :
    IsListed (observers.subscribe callback).1
      (history ++ [.subscribed (observers.subscribe callback).2 callback]) where
  lists := listed.lists.subscribe _ callback
  ascending := by
    rw [subscriptions_concat]
    refine List.pairwise_append.mpr ⟨listed.ascending, List.pairwise_singleton _ _, fun first mem second added => ?_⟩
    rw [List.mem_singleton.mp added]
    exact listed.below first mem
  below := by
    rw [subscriptions_concat]
    intro entry mem
    rcases List.mem_append.mp mem with former | added
    · exact Nat.lt_succ_of_lt (listed.below entry former)
    · rw [List.mem_singleton.mp added]
      exact Nat.lt_succ_self _
  answered := listed.answered.concat nofun

theorem unsubscribe (listed : IsListed observers history) (id : Nat) :
    IsListed (observers.unsubscribe id).1 (history ++ [.withdrawn id (observers.unsubscribe id).2]) := by
  have same : subscriptions (history ++ [.withdrawn id (observers.unsubscribe id).2]) = subscriptions history :=
    (subscriptions_concat _ _).trans (List.append_nil _)
  constructor
  case lists => exact listed.lists.unsubscribe id _
  case ascending => rw [same]; exact listed.ascending
  case below => rw [same]; exact listed.below
  case answered =>
    refine listed.answered.concat fun other found noted => ?_
    cases noted
    simp [Observers.unsubscribe, List.any_eq_true, ← listed.lists.mem_iff]

/-- Notices and their calls leave the list. -/
theorem other (listed : IsListed observers history) (subscribed : ∀ id callback, event ≠ .subscribed id callback)
    (withdrawn : ∀ id found, event ≠ .withdrawn id found) : IsListed observers (history ++ [event]) := by
  have same : subscriptions (history ++ [event]) = subscriptions history := by
    rw [subscriptions_concat]
    cases event
    case subscribed id callback => exact absurd rfl (subscribed id callback)
    all_goals exact List.append_nil _
  constructor
  case lists => exact listed.lists.other subscribed withdrawn
  case ascending => rw [same]; exact listed.ascending
  case below => rw [same]; exact listed.below
  case answered => exact listed.answered.concat fun id found noted => absurd noted (withdrawn id found)

end IsListed

/-! ## Notices -/

/-- If somebody was called here, the notice had begun with that value. -/
def IsBegun (before : List (ObserverEvent κ β)) (event : ObserverEvent κ β) : Prop :=
  ∀ telling, event = .called telling → .began telling.notice telling.value ∈ before

/-- If a notice began here, those whom it calls were subscribed then, each once and in their order. -/
def IsSettled (tellings : List (Telling κ β)) (before : List (ObserverEvent κ β)) (event : ObserverEvent κ β) : Prop :=
  ∀ notice value, event = .began notice value → ∃ entries, Lists before entries ∧
    tellings.filter (·.notice = notice) = entries.map fun entry => ⟨notice, entry.1, entry.2, value⟩

/-- The calls of notices in step with what was noted of them. -/
structure IsTold (notices : Nat) (due : List (Telling κ β)) (history : List (ObserverEvent κ β)) : Prop where
  numbered : history.filterMap notice? = List.range notices
  waiting : ∀ telling ∈ due, .began telling.notice telling.value ∈ history
  begun : Throughout IsBegun history
  settled : Throughout (IsSettled (history.filterMap telling? ++ due)) history

namespace IsTold

variable {notices : Nat} {due : List (Telling κ β)} {history : List (ObserverEvent κ β)} {event : ObserverEvent κ β}

theorem start : IsTold 0 [] ([] : List (ObserverEvent κ β)) where
  numbered := rfl
  waiting := nofun
  begun := throughout_nil
  settled := throughout_nil

theorem lt_of_began (told : IsTold notices due history) {notice : Nat} {value : β}
    (began : .began notice value ∈ history) : notice < notices := by
  rw [← List.mem_range, ← told.numbered]
  exact List.mem_filterMap.mpr ⟨_, began, rfl⟩

/-- The calls of all notices, made or due, are those of notices that have begun. -/
theorem lt_of_mem (told : IsTold notices due history) {telling : Telling κ β}
    (mem : telling ∈ history.filterMap telling? ++ due) : telling.notice < notices := by
  rcases List.mem_append.mp mem with made | waits
  · obtain ⟨event, noted, called⟩ := List.mem_filterMap.mp made
    obtain ⟨before, after, split⟩ := List.append_of_mem noted
    cases event <;> cases called
    have began : .began telling.notice telling.value ∈ history := by
      rw [split]
      exact List.mem_append_left _ (told.begun before _ after split telling rfl)
    exact told.lt_of_began began
  · exact told.lt_of_began (told.waiting telling waits)

/-- Subscriptions and withdrawals leave the notices under way. -/
theorem other (told : IsTold notices due history) (began : ∀ notice value, event ≠ .began notice value)
    (called : ∀ telling, event ≠ .called telling) : IsTold notices due (history ++ [event]) := by
  have noNotice : event.notice? = none := by
    cases event
    case began notice value => exact absurd rfl (began notice value)
    all_goals rfl
  have noTelling : event.telling? = none := by
    cases event
    case called telling => exact absurd rfl (called telling)
    all_goals rfl
  constructor
  case numbered => simpa [List.filterMap_append, noNotice] using told.numbered
  case waiting => exact fun telling waits => List.mem_append_left _ (told.waiting telling waits)
  case begun => exact told.begun.concat fun telling noted => absurd noted (called telling)
  case settled =>
    have same : (history ++ [event]).filterMap telling? = history.filterMap telling? := by
      simp [List.filterMap_append, noTelling]
    rw [same]
    exact told.settled.concat fun notice value noted => absurd noted (began notice value)

/-- The calls of a new notice come in between those that were made and those that are due,
and leave the calls of a notice before it. -/
theorem filter_former (told : IsTold notices due history) (observers : Observers κ) {former : Nat} {value : β}
    (began : .began former value ∈ history) (newest : β) :
    (history.filterMap telling? ++ (observers.tellings notices newest ++ due)).filter (·.notice = former) =
      (history.filterMap telling? ++ due).filter (·.notice = former) := by
  have none := observers.filter_tellings_of_ne newest (Nat.ne_of_gt (told.lt_of_began began))
  rw [List.filter_append, List.filter_append, List.filter_append, none, List.nil_append]

theorem filter_newest (told : IsTold notices due history) (observers : Observers κ) (newest : β) :
    (history.filterMap telling? ++ (observers.tellings notices newest ++ due)).filter (·.notice = notices) =
      observers.tellings notices newest := by
  have others {tellings : List (Telling κ β)}
      (part : ∀ telling ∈ tellings, telling ∈ history.filterMap telling? ++ due) :
      tellings.filter (·.notice = notices) = [] := by
    refine List.filter_eq_nil_iff.mpr fun telling mem => ?_
    simpa using Nat.ne_of_lt (told.lt_of_mem (part telling mem))
  rw [List.filter_append, List.filter_append, Observers.filter_tellings_self,
    others fun telling mem => List.mem_append_left _ mem, others fun telling mem => List.mem_append_right _ mem,
    List.nil_append, List.append_nil]

theorem notify (told : IsTold notices due history) {observers : Observers κ} (listed : IsListed observers history)
    (value : β) : IsTold (notices + 1) (observers.tellings notices value ++ due)
      (history ++ [.began notices value]) where
  numbered := by
    rw [List.filterMap_append, told.numbered, List.range_succ]
    rfl
  waiting telling waits := by
    rcases List.mem_append.mp waits with own | former
    · obtain ⟨entry, -, rfl⟩ := List.mem_map.mp own
      exact List.mem_append_right _ (List.mem_singleton_self _)
    · exact List.mem_append_left _ (told.waiting telling former)
  begun := told.begun.concat nofun
  settled := by
    have same : (history ++ [ObserverEvent.began notices value]).filterMap telling? = history.filterMap telling? :=
      (List.filterMap_append).trans (List.append_nil _)
    rw [same]
    refine Throughout.concat (fun before event after split notice former noted => ?_) fun notice own noted => ?_
    · have began : .began notice former ∈ history := by
        rw [split, noted]
        exact List.mem_append_right _ (List.mem_cons_self ..)
      obtain ⟨entries, lists, calls⟩ := told.settled before event after split notice former noted
      exact ⟨entries, lists, (told.filter_former observers began value).trans calls⟩
    · cases noted
      exact ⟨observers.list, listed.lists, told.filter_newest observers value⟩

theorem proceed {next : Telling κ β} (told : IsTold notices (next :: due) history) :
    IsTold notices due (history ++ [.called next]) where
  numbered := (List.filterMap_append.trans (List.append_nil _)).trans told.numbered
  waiting telling waits := List.mem_append_left _ (told.waiting telling (List.mem_cons_of_mem _ waits))
  begun := told.begun.concat fun telling noted => by
    cases noted
    exact told.waiting next (List.mem_cons_self ..)
  settled := by
    have same : (history ++ [ObserverEvent.called next]).filterMap telling? ++ due =
        history.filterMap telling? ++ next :: due := by
      simp [List.filterMap_append, telling?]
    rw [same]
    exact told.settled.concat nofun

end IsTold

/-! ## All moves -/

/-- A trace whose list and notices are in step with what was noted. -/
structure IsOrderly (trace : ObserverTrace κ β) : Prop where
  listed : IsListed trace.observers trace.history
  told : IsTold trace.notices trace.due trace.history

namespace IsOrderly

variable {trace : ObserverTrace κ β}

theorem start : IsOrderly ({} : ObserverTrace κ β) :=
  ⟨.start, .start⟩

theorem step (orderly : trace.IsOrderly) (move : ObserverMove κ β) : (trace.step move).IsOrderly := by
  cases move with
  | subscribe callback => exact ⟨orderly.listed.subscribe callback, orderly.told.other nofun nofun⟩
  | unsubscribe id => exact ⟨orderly.listed.unsubscribe id, orderly.told.other nofun nofun⟩
  | notify value => exact ⟨orderly.listed.other nofun nofun, orderly.told.notify orderly.listed value⟩
  | proceed =>
    rw [ObserverTrace.step]
    split
    case h_1 => exact orderly
    case h_2 next rest due =>
      have told := orderly.told
      rw [due] at told
      exact ⟨orderly.listed.other nofun nofun, told.proceed⟩

theorem play (orderly : trace.IsOrderly) (moves : List (ObserverMove κ β)) : (trace.play moves).IsOrderly :=
  List.foldlRecOn moves ObserverTrace.step orderly fun _ former move _ => former.step move

theorem toleratesReentrancy (orderly : trace.IsOrderly) : trace.ToleratesReentrancy where
  calls before notice value after split := by
    obtain ⟨entries, lists, calls⟩ := orderly.told.settled before _ after split notice value rfl
    exact ⟨entries, lists, List.filter_append _ _ ▸ calls⟩
  begun before telling after split := orderly.told.begun before _ after split telling rfl
  notices := orderly.told.numbered ▸ List.nodup_range
  ids := List.pairwise_map.mpr (orderly.listed.ascending.imp fun less => Nat.ne_of_lt less)
  answers before id found after split :=
    ⟨orderly.listed.answered before _ after split id found rfl, fun _ _ => isSubscribed_concat_withdrawn⟩

end IsOrderly

/-! ## Programs -/

/-- Performs one call of a program and notes it, with a way to run the programs of callbacks. -/
def perform (runProgram : List ObserverCall → ObserverTrace ObserverProgram Int → ObserverTrace ObserverProgram Int)
    (trace : ObserverTrace ObserverProgram Int) : ObserverCall → ObserverTrace ObserverProgram Int
  | .subscribe label program => trace.step (.subscribe ⟨label, program⟩)
  | .unsubscribe id => trace.step (.unsubscribe id)
  | .notify value =>
      (trace.observers.tellings trace.notices value).foldl
        (fun current telling => runProgram telling.callback.calls (current.step .proceed)) (trace.step (.notify value))

/-- Runs a program and notes it. Callbacks run their own programs to a given depth of nesting. -/
def runProgram : (depth : Nat) → List ObserverCall → ObserverTrace ObserverProgram Int →
    ObserverTrace ObserverProgram Int
  | 0, _, trace => trace
  | depth + 1, calls, trace => calls.foldl (perform (runProgram depth)) trace

/-- What a call of a callback leaves in the log of a run. -/
def logged? : ObserverEvent ObserverProgram Int → Option (String × Int)
  | .called telling => some (telling.callback.label, telling.value)
  | _ => none

/-- The list and the log, without what else was noted. -/
def run (trace : ObserverTrace ObserverProgram Int) : ObserverRun :=
  ⟨trace.observers, trace.history.filterMap logged?⟩

/-- What is not a call of a callback leaves the log. -/
theorem run_eq_of_silent {trace later : ObserverTrace ObserverProgram Int}
    {event : ObserverEvent ObserverProgram Int} (noted : later.history = trace.history ++ [event])
    (silent : logged? event = none) : later.run = { trace.run with observers := later.observers } := by
  rw [run, noted, List.filterMap_append, List.filterMap_cons_none silent, List.filterMap_nil, List.append_nil]
  rfl

/-- A call, what it gave back, and how it is noted. -/
inductive Notes : ObserverCall → ObserverAnswer → ObserverEvent ObserverProgram Int → Prop where
  | subscribe (label : String) (program : List ObserverCall) (id : Nat) :
      Notes (.subscribe label program) (.id id) (.subscribed id ⟨label, program⟩)
  | unsubscribe (id : Nat) (found : Bool) : Notes (.unsubscribe id) (.withdrawn found) (.withdrawn id found)
  | notify (value : Int) (notice : Nat) : Notes (.notify value) .done (.began notice value)

theorem history_step (trace : ObserverTrace κ β) (move : ObserverMove κ β) :
    trace.history <+: (trace.step move).history := by
  cases move with
  | subscribe callback => exact List.prefix_append _ _
  | unsubscribe id => exact List.prefix_append _ _
  | notify value => exact List.prefix_append _ _
  | proceed =>
    rw [step]
    split
    · exact List.prefix_refl _
    · exact List.prefix_append _ _

/-- Moves lead from one trace to another. -/
def Leads (trace later : ObserverTrace κ β) : Prop :=
  ∃ moves, later = trace.play moves

namespace Leads

variable {trace middle later : ObserverTrace κ β}

theorem refl (trace : ObserverTrace κ β) : Leads trace trace :=
  ⟨[], rfl⟩

theorem trans (first : Leads trace middle) (second : Leads middle later) : Leads trace later := by
  obtain ⟨moves, rfl⟩ := first
  obtain ⟨further, rfl⟩ := second
  exact ⟨moves ++ further, List.foldl_append.symm⟩

theorem step (trace : ObserverTrace κ β) (move : ObserverMove κ β) : Leads trace (trace.step move) :=
  ⟨[move], rfl⟩

/-- What was noted stays. -/
theorem history_kept (leads : Leads trace later) : trace.history <+: later.history := by
  obtain ⟨moves, rfl⟩ := leads
  induction moves generalizing trace with
  | nil => exact List.prefix_refl _
  | cons move moves further => exact (history_step trace move).trans further

theorem isOrderly (leads : Leads trace later) (orderly : trace.IsOrderly) : later.IsOrderly := by
  obtain ⟨moves, rfl⟩ := leads
  exact orderly.play moves

end Leads

/-- A way to go on from a trace is one to go on from a run, and leaves nothing more to call. -/
structure Traces (traced : ObserverTrace ObserverProgram Int → ObserverTrace ObserverProgram Int)
    (plain : ObserverRun → ObserverRun) : Prop where
  leads : ∀ trace, Leads trace (traced trace)
  due : ∀ trace, (traced trace).due = trace.due
  run : ∀ trace, (traced trace).run = plain trace.run

namespace Traces

theorem refl : Traces id id :=
  ⟨.refl, fun _ => rfl, fun _ => rfl⟩

theorem trans {traced further : ObserverTrace ObserverProgram Int → ObserverTrace ObserverProgram Int}
    {plain plainer : ObserverRun → ObserverRun} (first : Traces traced plain) (second : Traces further plainer) :
    Traces (further ∘ traced) (plainer ∘ plain) where
  leads trace := (first.leads trace).trans (second.leads (traced trace))
  due trace := (second.due (traced trace)).trans (first.due trace)
  run trace := (second.run (traced trace)).trans (congrArg plainer (first.run trace))

/-- Call by call. -/
theorem foldl {traced : ObserverTrace ObserverProgram Int → ObserverCall → ObserverTrace ObserverProgram Int}
    {plain : ObserverRun → ObserverCall → ObserverRun}
    (each : ∀ call, Traces (traced · call) (plain · call)) (calls : List ObserverCall) :
    Traces (calls.foldl traced) (calls.foldl plain) := by
  induction calls with
  | nil => exact refl
  | cons call calls rest => exact (each call).trans rest

variable {traced : List ObserverCall → ObserverTrace ObserverProgram Int → ObserverTrace ObserverProgram Int}
  {plain : List ObserverCall → ObserverRun → ObserverRun}

/-- The callbacks of a notice are called one after the other, each with its program. -/
theorem callAll (programs : ∀ calls, Traces (traced calls) (plain calls)) {value : Int}
    {rest : List (Telling ObserverProgram Int)} (tellings : List (Telling ObserverProgram Int))
    (trace : ObserverTrace ObserverProgram Int) (due : trace.due = tellings ++ rest)
    (values : ∀ telling ∈ tellings, telling.value = value) :
    let later := tellings.foldl (fun current telling => traced telling.callback.calls (current.step .proceed)) trace
    Leads trace later ∧ later.due = rest ∧
      later.run = (tellings.map (·.callback)).foldl (ObserverRun.callback plain value) trace.run := by
  induction tellings generalizing trace with
  | nil => exact ⟨.refl trace, due, rfl⟩
  | cons telling tellings further =>
    have proceeds : trace.step .proceed =
        { trace with due := tellings ++ rest, history := trace.history ++ [.called telling] } := by
      rw [ObserverTrace.step, due]
      rfl
    have logs : (trace.step .proceed).run =
        { trace.run with log := trace.run.log ++ [(telling.callback.label, value)] } := by
      rw [proceeds, ← values telling (List.mem_cons_self ..), ObserverTrace.run, List.filterMap_append]
      rfl
    have program := programs telling.callback.calls
    obtain ⟨leads, left, same⟩ := further (traced telling.callback.calls (trace.step .proceed))
      ((program.due _).trans (congrArg ObserverTrace.due proceeds))
      fun other mem => values other (List.mem_cons_of_mem _ mem)
    refine ⟨((Leads.step trace .proceed).trans (program.leads _)).trans leads, left, same.trans ?_⟩
    rw [program.run, logs]
    rfl

theorem notify (programs : ∀ calls, Traces (traced calls) (plain calls)) (trace : ObserverTrace ObserverProgram Int)
    (value : Int) :
    let later := ObserverTrace.perform traced trace (.notify value)
    Leads (trace.step (.notify value)) later ∧ later.due = trace.due ∧
      later.run = (trace.run.perform plain (.notify value)).1 := by
  have values : ∀ telling ∈ trace.observers.tellings trace.notices value, telling.value = value := by
    intro telling mem
    obtain ⟨entry, -, rfl⟩ := List.mem_map.mp mem
    rfl
  obtain ⟨leads, due, called⟩ := callAll programs _ (trace.step (.notify value)) rfl values
  refine ⟨leads, due, called.trans ?_⟩
  rw [run_eq_of_silent rfl rfl, ← Observers.callbacks_eq]
  rfl

theorem perform (programs : ∀ calls, Traces (traced calls) (plain calls)) (call : ObserverCall) :
    Traces (ObserverTrace.perform traced · call) fun run => (run.perform plain call).1 := by
  cases call with
  | subscribe label program =>
    exact ⟨fun trace => .step trace (.subscribe ⟨label, program⟩), fun _ => rfl, fun _ => run_eq_of_silent rfl rfl⟩
  | unsubscribe id =>
    exact ⟨fun trace => .step trace (.unsubscribe id), fun _ => rfl, fun _ => run_eq_of_silent rfl rfl⟩
  | notify value =>
    exact ⟨fun trace => (Leads.step trace _).trans (notify programs trace value).1,
      fun trace => (notify programs trace value).2.1, fun trace => (notify programs trace value).2.2⟩

theorem runProgram (depth : Nat) (calls : List ObserverCall) :
    Traces (ObserverTrace.runProgram depth calls) (ObserverRun.runProgram depth calls) := by
  induction depth generalizing calls with
  | zero => exact refl
  | succ depth programs => exact foldl (perform programs) calls

/-- The first thing that a call notes is what it gives back. -/
theorem notes (programs : ∀ calls, Traces (traced calls) (plain calls))
    (trace : ObserverTrace ObserverProgram Int) (call : ObserverCall) :
    ∃ event rest, (ObserverTrace.perform traced trace call).history = trace.history ++ event :: rest ∧
      Notes call (trace.run.perform plain call).2 event := by
  cases call with
  | subscribe label program => exact ⟨_, [], rfl, .subscribe label program _⟩
  | unsubscribe id => exact ⟨_, [], rfl, .unsubscribe id _⟩
  | notify value =>
    obtain ⟨rest, noted⟩ := (notify programs trace value).1.history_kept
    exact ⟨.began trace.notices value, rest, noted.symm.trans (List.append_assoc _ _ _), .notify value _⟩

end Traces

/-- Whatever is done around an observer list, callbacks can rely on the law, and so they can
when they are programs: a program does such moves, with each call noted for what it gives back,
and no notice is left when it ends. -/
theorem toleratesReentrancy_runProgram :
    (∀ (κ β : Type) (moves : List (ObserverMove κ β)), (play {} moves).ToleratesReentrancy) ∧
    (∀ (depth : Nat) (calls : List ObserverCall), (runProgram depth calls {}).ToleratesReentrancy ∧
      (runProgram depth calls {}).due = [] ∧
      (runProgram depth calls {}).run = ObserverRun.runProgram depth calls {}) ∧
    (∀ (depth : Nat) (trace : ObserverTrace ObserverProgram Int) (call : ObserverCall),
      (trace.perform (runProgram depth) call).run = (trace.run.call depth call).1 ∧
      ∃ event rest, (trace.perform (runProgram depth) call).history = trace.history ++ event :: rest ∧
        Notes call (trace.run.call depth call).2 event) := by
  refine ⟨fun κ β moves => (IsOrderly.start.play moves).toleratesReentrancy, fun depth calls => ?_,
    fun depth trace call => ?_⟩
  · have traces := Traces.runProgram depth calls
    exact ⟨((traces.leads {}).isOrderly .start).toleratesReentrancy, traces.due {}, traces.run {}⟩
  · exact ⟨(Traces.perform (Traces.runProgram depth) call).run trace, Traces.notes (Traces.runProgram depth) trace call⟩

/-- The first callback withdraws the second and adds a third: both count from the next notice on. -/
example : (ObserverRun.runProgram 2
    [.subscribe "first" [.unsubscribe 2, .subscribe "third" []], .subscribe "second" [], .notify 1, .notify 2] {}).log =
    [("first", 1), ("second", 1), ("first", 2), ("third", 2)] := rfl

end ObserverTrace

end RelayClient
