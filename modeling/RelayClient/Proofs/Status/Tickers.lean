import RelayClient.Proofs.Status.Pace

/-!
# Tickers of the buildup

A `Status` knows when its buildup moves on next, and does all the ticks of a
passing time at once. Underneath, each state of the buildup that moves on by
itself has a ticker of its own: it is called off when another state is entered,
but may be late to end, and its ticks may be late as well. A ticker writes only
while the state that started it is still the current one, which is told by the
number of states that were entered. The tickers therefore never disturb each
other, and a status whose due ticks are done is the `Status` they stand for.
-/

namespace RelayClient

/-- A ticker was started when a state of the buildup was entered, and moves it on once a period. -/
structure Ticker where
  state : Buildup
  period : Nat
  /-- The number of states entered until then, this one included. -/
  epoch : Nat
  due : Nat
  deriving DecidableEq

/-- What a status shows to whoever asks for it. -/
structure StatusView where
  global : GlobalState
  signaling : SignalingState
  task : TaskState
  wasConnected : Bool
  unread : Nat
  buildup : Buildup
  progress : Nat
  slow : Bool
  deriving DecidableEq

def Status.view (status : Status) : StatusView where
  global := status.global
  signaling := status.signaling
  task := status.task
  wasConnected := status.wasConnected
  unread := status.unread
  buildup := status.buildup
  progress := status.progress
  slow := status.slow

/-- A status whose buildup is moved on by tickers. -/
structure TickedStatus where
  /-- The status, whose own next tick is not used. -/
  shown : Status := {}
  now : Nat := 0
  /-- The number of states of the buildup that were entered. -/
  epoch : Nat := 0
  /-- The ticker of the state that was entered last, until it ends. -/
  held : Option Ticker := none
  /-- The tickers that were called off, and have not ended yet. -/
  former : List Ticker := []

/-- What is seen of a status: the events of a call, or what it shows at some moment. -/
inductive Sight where
  | called (next : StatusTurn) (events : List StatusEvent)
  | seen (view : StatusView)

namespace Sight

def turn? : Sight → Option StatusTurn
  | .called next _ => some next
  | .seen _ => none

def events : Sight → List StatusEvent
  | .called _ events => events
  | .seen _ => []

/-- The calls among what is seen. -/
def turns (sights : List Sight) : List StatusTurn :=
  sights.filterMap turn?

theorem turns_concat_called (sights : List Sight) (next : StatusTurn) (events : List StatusEvent) :
    turns (sights ++ [.called next events]) = turns sights ++ [next] := by
  rw [turns, List.filterMap_append]
  rfl

theorem turns_concat_seen (sights : List Sight) (view : StatusView) :
    turns (sights ++ [.seen view]) = turns sights := by
  rw [turns, List.filterMap_append]
  exact List.append_nil _

end Sight

namespace TickedStatus

/-- A new status at a time. -/
def fresh (clocked : Bool) (now : Nat) : TickedStatus :=
  { shown := { clocked }, now }

/-- The ticker of a state that is entered, if the state moves on by itself and there is a clock. -/
def ticker? (clocked : Bool) (state : Buildup) (epoch now : Nat) : Option Ticker :=
  if clocked then state.period?.map fun period => ⟨state, period, epoch, now + period⟩ else none

/-- A call, which calls off the ticker if another state of the buildup is entered. -/
def turn (ticked : TickedStatus) (next : StatusTurn) : TickedStatus × List StatusEvent :=
  let (answered, events) := ticked.shown.turn next
  let shown := { answered with nextTick := none }
  let now := next.call.timeAfter ticked.now
  if ticked.shown.buildup = shown.buildup then ({ ticked with shown, now }, events)
  else
    ({ shown, now
       epoch := ticked.epoch + 1
       held := ticker? next.clocked shown.buildup (ticked.epoch + 1) now
       former := ticked.held.toList ++ ticked.former },
      events)

/-- What a tick makes of the status and of its ticker, which ends once another state has been entered. -/
def beat (ticked : TickedStatus) (ticker : Ticker) : Status × Option Ticker :=
  if ticker.epoch = ticked.epoch then
    match ticker.state.next? ticked.shown.progress with
    | some progress =>
        ({ ticked.shown with progress }, some { ticker with due := ticker.due + ticker.period })
    | none => ({ ticked.shown with slow := true }, none)
  else (ticked.shown, none)

/-- What the tickers do by themselves. A ticker that was called off may tick until it ends. -/
inductive Ticks (ticked : TickedStatus) : TickedStatus → Prop where
  | held {ticker : Ticker} : ticked.held = some ticker → ticker.due ≤ ticked.now →
      Ticks ticked { ticked with shown := (ticked.beat ticker).1, held := (ticked.beat ticker).2 }
  | former {ticker : Ticker} : ticker ∈ ticked.former → ticker.due ≤ ticked.now →
      Ticks ticked { ticked with
        shown := (ticked.beat ticker).1
        former := (ticked.beat ticker).2.toList ++ ticked.former.erase ticker }
  | ended {ticker : Ticker} : ticker ∈ ticked.former →
      Ticks ticked { ticked with former := ticked.former.erase ticker }

/-- The runs of a status: it is called, its tickers tick, and it is looked at, in any order. -/
inductive Run (first : TickedStatus) : List Sight → TickedStatus → Prop where
  | start : Run first [] first
  | call {sights : List Sight} {ticked : TickedStatus} (next : StatusTurn) : Run first sights ticked →
      next.call.IsTimely ticked.now → Run first (sights ++ [.called next (ticked.turn next).2]) (ticked.turn next).1
  | tick {sights : List Sight} {ticked later : TickedStatus} : Run first sights ticked → Ticks ticked later →
      Run first sights later
  | look {sights : List Sight} {ticked : TickedStatus} : Run first sights ticked →
      Run first (sights ++ [.seen ticked.shown.view]) ticked

/-- What holds of a status and its tickers at all times. -/
structure IsOrderly (ticked : TickedStatus) : Prop where
  idle : ticked.shown.nextTick = none
  /-- A state that does not move on by itself stays as it began. -/
  still : ticked.shown.buildup.period? = none →
    ticked.shown.progress = ticked.shown.buildup.initial ∧ ticked.shown.slow = false
  /-- The ticker that is held belongs to the current state, which it entered. -/
  held : ∀ ticker, ticked.held = some ticker → ticker.epoch = ticked.epoch ∧
    ticker.state = ticked.shown.buildup ∧ ticked.shown.buildup.period? = some ticker.period
  former : ∀ ticker ∈ ticked.former, ticker.epoch < ticked.epoch

theorem isOrderly_fresh (clocked : Bool) (now : Nat) : (fresh clocked now).IsOrderly where
  idle := rfl
  still := fun _ => ⟨rfl, rfl⟩
  held := fun _ held => nomatch held
  former := fun _ mem => nomatch mem

variable {ticked later : TickedStatus} {ticker : Ticker} {next : StatusTurn}

/-- A state that does not move on by itself has no ticker. -/
theorem IsOrderly.held_eq_none (orderly : ticked.IsOrderly) (still : ticked.shown.buildup.period? = none) :
    ticked.held = none := by
  cases held : ticked.held with
  | none => rfl
  | some ticker => exact nomatch still.symm.trans (orderly.held ticker held).2.2

theorem of_ticker? {clocked : Bool} {state : Buildup} {epoch now : Nat}
    (started : ticker? clocked state epoch now = some ticker) :
    ∃ period, state.period? = some period ∧ ticker = ⟨state, period, epoch, now + period⟩ := by
  obtain ⟨-, started⟩ := Option.ite_none_right_eq_some.mp started
  obtain ⟨period, found, same⟩ := Option.map_eq_some_iff.mp started
  exact ⟨period, found, same.symm⟩

/-- A ticker is due for the first time when its state moves on next. -/
theorem due_ticker? (clocked : Bool) (state : Buildup) (epoch now : Nat) :
    (ticker? clocked state epoch now).map Ticker.due = (Pace.entering state clocked now).nextTick := by
  unfold ticker? Pace.entering
  cases clocked with
  | false => rfl
  | true => exact Option.map_map ..

theorem turn_snd (ticked : TickedStatus) (next : StatusTurn) :
    (ticked.turn next).2 = (ticked.shown.turn next).2 := by
  unfold turn
  dsimp only
  split <;> rfl

/-- A call either leaves the state of the buildup with its pace and its ticker, or enters another one. -/
theorem IsOrderly.turn_cases (orderly : ticked.IsOrderly) (timely : next.call.IsTimely ticked.now) :
    (ticked.shown.buildup = (ticked.shown.turn next).1.buildup ∧
      (ticked.shown.turn next).1.pace = ticked.shown.pace ∧
      (ticked.turn next).1 =
        { ticked with shown := (ticked.shown.turn next).1, now := next.call.timeAfter ticked.now }) ∨
    (ticked.shown.buildup ≠ (ticked.shown.turn next).1.buildup ∧
      (ticked.shown.turn next).1.pace =
        .entering (ticked.shown.turn next).1.buildup next.clocked ticked.now ∧
      (ticked.turn next).1 =
        { shown := { (ticked.shown.turn next).1 with nextTick := none }
          now := ticked.now
          epoch := ticked.epoch + 1
          held := ticker? next.clocked (ticked.shown.turn next).1.buildup (ticked.epoch + 1) ticked.now
          former := ticked.held.toList ++ ticked.former }) := by
  have pace := Status.pace_respond { ticked.shown with clocked := next.clocked } orderly.idle timely
  change (ticked.shown.turn next).1.pace =
    if ticked.shown.buildup = (ticked.shown.turn next).1.buildup then ticked.shown.pace
    else .entering (ticked.shown.turn next).1.buildup next.clocked ticked.now at pace
  by_cases same : ticked.shown.buildup = (ticked.shown.turn next).1.buildup
  · rw [if_pos same] at pace
    have idle : (ticked.shown.turn next).1.nextTick = none :=
      (congrArg Pace.nextTick pace).trans orderly.idle
    refine .inl ⟨same, pace, ?_⟩
    unfold turn
    dsimp only
    rw [if_pos same, ← idle]
  · rw [if_neg same] at pace
    have present := StatusCall.timeAfter_of_present (Status.present_of_ne same) ticked.now
    refine .inr ⟨same, pace, ?_⟩
    unfold turn
    dsimp only
    rw [if_neg same, present]

/-- A ticker of an earlier state writes nothing, and ends. -/
theorem beat_of_former (earlier : ticker.epoch < ticked.epoch) : ticked.beat ticker = (ticked.shown, none) :=
  if_neg (Nat.ne_of_lt earlier)

/-- The ticker that is held moves the current state on. -/
theorem IsOrderly.beat_further {further : Nat} (orderly : ticked.IsOrderly) (held : ticked.held = some ticker)
    (moves : ticked.shown.buildup.next? ticked.shown.progress = some further) :
    ticked.beat ticker =
      ({ ticked.shown with progress := further }, some { ticker with due := ticker.due + ticker.period }) := by
  obtain ⟨epoch, state, -⟩ := orderly.held ticker held
  rw [beat, if_pos epoch, state, moves]

/-- The ticker that is held ends at the ceiling of the current state. -/
theorem IsOrderly.beat_ceiling (orderly : ticked.IsOrderly) (held : ticked.held = some ticker)
    (stays : ticked.shown.buildup.next? ticked.shown.progress = none) :
    ticked.beat ticker = ({ ticked.shown with slow := true }, none) := by
  obtain ⟨epoch, state, -⟩ := orderly.held ticker held
  rw [beat, if_pos epoch, state, stays]

/-- The ticks of a status: the ticker that is held ticks, or one that was called off does so in vain, or ends. -/
theorem IsOrderly.ticks_cases (orderly : ticked.IsOrderly) (ticks : Ticks ticked later) :
    (∃ ticker, ticked.held = some ticker ∧ ticker.due ≤ ticked.now ∧
      later = { ticked with shown := (ticked.beat ticker).1, held := (ticked.beat ticker).2 }) ∨
    ∃ former, former ⊆ ticked.former ∧ later = { ticked with former } := by
  cases ticks with
  | held held isDue => exact .inl ⟨_, held, isDue, rfl⟩
  | @former ticker mem isDue =>
      rw [beat_of_former (orderly.former ticker mem)]
      exact .inr ⟨_, List.erase_subset, rfl⟩
  | ended mem => exact .inr ⟨_, List.erase_subset, rfl⟩

theorem IsOrderly.turn (orderly : ticked.IsOrderly) (timely : next.call.IsTimely ticked.now) :
    (ticked.turn next).1.IsOrderly := by
  rcases orderly.turn_cases timely with ⟨same, pace, turned⟩ | ⟨-, pace, turned⟩
  · rw [turned]
    constructor
    case idle => exact (congrArg Pace.nextTick pace).trans orderly.idle
    case still =>
      intro still
      rw [← same] at still ⊢
      obtain ⟨progress, slow⟩ := orderly.still still
      exact ⟨(congrArg Pace.progress pace).trans progress, (congrArg Pace.slow pace).trans slow⟩
    case held =>
      intro ticker held
      rw [← same]
      exact orderly.held ticker held
    case former => exact orderly.former
  · rw [turned]
    constructor
    case idle => rfl
    case still => exact fun _ => ⟨congrArg Pace.progress pace, congrArg Pace.slow pace⟩
    case held =>
      intro ticker held
      obtain ⟨period, found, rfl⟩ := of_ticker? held
      exact ⟨rfl, rfl, found⟩
    case former =>
      intro ticker mem
      refine Nat.lt_succ_of_le ?_
      rcases List.mem_append.mp mem with mem | mem
      · exact Nat.le_of_eq (orderly.held ticker (Option.mem_toList.mp mem)).1
      · exact Nat.le_of_lt (orderly.former ticker mem)

theorem IsOrderly.ticks (orderly : ticked.IsOrderly) (ticks : Ticks ticked later) : later.IsOrderly := by
  rcases orderly.ticks_cases ticks with ⟨ticker, held, -, rfl⟩ | ⟨former, subset, rfl⟩
  · obtain ⟨epoch, state, period⟩ := orderly.held ticker held
    cases moves : ticked.shown.buildup.next? ticked.shown.progress with
    | some further =>
        rw [orderly.beat_further held moves]
        refine ⟨orderly.idle, fun still => ?_, ?_, orderly.former⟩
        · exact nomatch period.symm.trans still
        · rintro _ ⟨⟩
          exact ⟨epoch, state, period⟩
    | none =>
        rw [orderly.beat_ceiling held moves]
        refine ⟨orderly.idle, fun still => ?_, fun _ none => (nomatch none), orderly.former⟩
        exact nomatch period.symm.trans still
  · exact ⟨orderly.idle, orderly.still, orderly.held, fun ticker mem => orderly.former ticker (subset mem)⟩

theorem Run.isOrderly {first : TickedStatus} {sights : List Sight} (run : Run first sights ticked)
    (orderly : first.IsOrderly) : ticked.IsOrderly := by
  induction run with
  | start => exact orderly
  | call next _ timely ih => exact ih.turn timely
  | tick _ ticks ih => exact ih.ticks ticks
  | look _ ih => exact ih

/-- What is shown, with the time at which it moves on next. -/
def face (ticked : TickedStatus) : Status :=
  { ticked.shown with nextTick := ticked.held.map Ticker.due }

/-- What is shown once all due ticks are done. -/
def caught (ticked : TickedStatus) : Status :=
  ticked.face.passTo ticked.now

/-- No tick is due. -/
def IsSettled (ticked : TickedStatus) : Prop :=
  ∀ ticker, ticked.held = some ticker → ticked.now < ticker.due

theorem caught_eq (ticked : TickedStatus) :
    ticked.caught = ticked.shown.atPace (ticked.face.pace.passTo ticked.shown.buildup ticked.now) :=
  Status.passTo_eq ticked.face ticked.now

theorem IsSettled.caught_eq (settled : ticked.IsSettled) : ticked.caught = ticked.face := by
  have stays : ticked.face.pace.passTo ticked.shown.buildup ticked.now = ticked.face.pace := by
    cases held : ticked.held with
    | none => exact Pace.passTo_of_idle (congrArg (Option.map Ticker.due) held)
    | some ticker => exact Pace.passTo_of_later (congrArg (Option.map Ticker.due) held) (settled ticker held)
  rw [TickedStatus.caught_eq, stays]
  rfl

/-- A call is answered as if all due ticks were done. -/
theorem IsOrderly.turn_caught (orderly : ticked.IsOrderly) (timely : next.call.IsTimely ticked.now) :
    ticked.caught.turn next = ((ticked.turn next).1.caught, (ticked.turn next).2) := by
  let status : Status := { ticked.shown with clocked := next.clocked }
  let pace := ticked.face.pace.passTo ticked.shown.buildup ticked.now
  have asked : ticked.caught.turn next = (status.atPace pace).respond next.call := by
    rw [ticked.caught_eq]
    rfl
  rw [asked, turn_snd]
  rcases orderly.turn_cases timely with ⟨same, kept, turned⟩ | ⟨differs, entered, turned⟩
  · have progress := congrArg Pace.progress kept
    have slow := congrArg Pace.slow kept
    have caught : (ticked.turn next).1.caught = (ticked.shown.turn next).1.atPace
        (ticked.face.pace.passTo ticked.shown.buildup (next.call.timeAfter ticked.now)) := by
      rw [turned, TickedStatus.caught_eq]
      dsimp only [face, Status.pace] at progress slow ⊢
      rw [progress, slow, same]
    rw [caught]
    by_cases passes : ∃ later, next.call = .pass later
    · obtain ⟨later, call⟩ := passes
      rw [call] at timely ⊢
      have answer : ticked.shown.turn next = (status, []) := by
        rw [Status.turn, call]
        exact congrArg (·, []) (Status.passTo_of_idle status orderly.idle later)
      rw [answer]
      refine congrArg (·, []) ?_
      rw [Status.passTo_eq]
      exact congrArg status.atPace (Pace.passTo_passTo _ _ timely)
    · have present : ∀ later, next.call ≠ .pass later := fun later call => passes ⟨later, call⟩
      rw [StatusCall.timeAfter_of_present present, Status.respond_atPace status pace present]
      exact if_pos same
  · have caught : (ticked.turn next).1.caught = (ticked.shown.turn next).1 := by
      have begins : (ticked.turn next).1.face.pace = (ticked.shown.turn next).1.pace := by
        rw [turned]
        exact Pace.ext rfl rfl ((due_ticker? ..).trans (congrArg Pace.nextTick entered).symm)
      rw [TickedStatus.caught_eq, begins, turned, entered, Pace.passTo_entering, ← entered]
      rfl
    rw [caught, Status.respond_atPace status pace (Status.present_of_ne differs)]
    exact if_neg differs

/-- Ticks do not change what is shown once all of them are done. -/
theorem IsOrderly.caught_ticks (orderly : ticked.IsOrderly) (ticks : Ticks ticked later) :
    later.caught = ticked.caught := by
  rcases orderly.ticks_cases ticks with ⟨ticker, held, isDue, rfl⟩ | ⟨former, -, rfl⟩
  · obtain ⟨-, -, period⟩ := orderly.held ticker held
    have next : ticked.face.pace.nextTick = some ticker.due := congrArg (Option.map Ticker.due) held
    cases moves : ticked.shown.buildup.next? ticked.shown.progress with
    | some further =>
        rw [orderly.beat_further held moves, ticked.caught_eq, Pace.passTo_of_due next isDue period moves,
          TickedStatus.caught_eq]
        rfl
    | none =>
        rw [orderly.beat_ceiling held moves, ticked.caught_eq, Pace.passTo_of_ceiling next isDue period moves,
          TickedStatus.caught_eq, Pace.passTo_of_idle rfl]
        rfl
  · rfl

/-- Once all due ticks are done, a run shows and has told what the `Status` that is called alike does. -/
theorem Run.caught {first : TickedStatus} {sights : List Sight} (run : Run first sights ticked)
    (orderly : first.IsOrderly) :
    ticked.caught = first.caught.turned (Sight.turns sights) ∧
      sights.flatMap Sight.events = first.caught.posted (Sight.turns sights) := by
  induction run with
  | start => exact ⟨rfl, rfl⟩
  | @call sights ticked next run timely ih =>
      obtain ⟨caught, events⟩ := ih
      have turned := (run.isOrderly orderly).turn_caught timely
      rw [caught] at turned
      rw [Sight.turns_concat_called, Status.turned_append, Status.posted_append, List.flatMap_append, events]
      refine ⟨congrArg Prod.fst turned.symm, congrArg (_ ++ ·) ?_⟩
      exact congrArg (·.2 ++ []) turned.symm
  | tick run ticks ih =>
      rw [(run.isOrderly orderly).caught_ticks ticks]
      exact ih
  | look _ ih =>
      rw [Sight.turns_concat_seen, List.flatMap_append]
      exact ⟨ih.1, (List.append_nil _).trans ih.2⟩

/-- From any moment on, the tickers come to have no tick due. -/
theorem Run.exists_settled {first : TickedStatus} {sights : List Sight} (run : Run first sights ticked)
    (orderly : first.IsOrderly) : ∃ later, Run first sights later ∧ later.IsSettled := by
  -- Induction on the time for which ticks are due.
  induction span : ticked.now + 1 - (ticked.held.map Ticker.due).getD (ticked.now + 1) using Nat.strongRecOn
    generalizing ticked with
  | ind span ih =>
      by_cases settled : ticked.IsSettled
      · exact ⟨ticked, run, settled⟩
      · simp only [IsSettled, not_forall, Nat.not_lt] at settled
        obtain ⟨ticker, held, isDue⟩ := settled
        rw [held, Option.map_some, Option.getD_some] at span
        have ticks := run.tick (Ticks.held held isDue)
        cases moves : ticked.shown.buildup.next? ticked.shown.progress with
        | some further =>
            rw [(run.isOrderly orderly).beat_further held moves] at ticks
            have positive := Buildup.period_pos ((run.isOrderly orderly).held ticker held).2.2
            refine ih (ticked.now + 1 - (ticker.due + ticker.period)) ?_ ticks rfl
            omega
        | none =>
            rw [(run.isOrderly orderly).beat_ceiling held moves] at ticks
            exact ⟨_, ticks, fun _ none => nomatch none⟩

end TickedStatus

end RelayClient
