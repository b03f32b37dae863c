import RelayClient.Proofs.Status.Tickers

/-!
# Progress of the buildup

How far the buildup has come depends on nothing but its current state and the
time for which that state has lasted: one step for each period, until the
ceiling of the state is reached, and slow from the next period on. It does not
matter how often the state was asked for again in the meantime, which states came
before, or how late the tickers of those are to end.
-/

namespace RelayClient

namespace Buildup

/-- The progress of a state after some steps, which end at its ceiling. -/
def climb (state : Buildup) : Nat → Nat
  | 0 => state.initial
  | steps + 1 => (state.next? (state.climb steps)).getD (state.climb steps)

/-- The furthest progress of a state. -/
def ceiling : Buildup → Nat
  | .push => 12
  | .peerHandshake => 60
  | .loading => 99
  | state => state.initial

theorem initial_le_ceiling (state : Buildup) : state.initial ≤ state.ceiling := by
  cases state <;> decide

/-- A step leads further, and not beyond the ceiling. -/
theorem lt_of_next? {state : Buildup} {progress further : Nat} (le : progress ≤ state.ceiling)
    (moves : state.next? progress = some further) : progress < further ∧ further ≤ state.ceiling := by
  cases state <;> simp only [next?, ceiling, reduceCtorEq] at le moves ⊢
  all_goals grind

/-- Steps end at the ceiling, and only there. -/
theorem next?_eq_none_iff {state : Buildup} {progress : Nat} (ge : state.initial ≤ progress)
    (le : progress ≤ state.ceiling) : state.next? progress = none ↔ progress = state.ceiling := by
  cases state <;> simp only [next?, ceiling, initial] at ge le ⊢
  all_goals grind

theorem climb_of_next? {state : Buildup} {steps further : Nat} (moves : state.next? (state.climb steps) = some further) :
    state.climb (steps + 1) = further := by
  rw [climb, moves, Option.getD_some]

theorem climb_range (state : Buildup) (steps : Nat) :
    state.initial ≤ state.climb steps ∧ state.climb steps ≤ state.ceiling := by
  induction steps with
  | zero => exact ⟨Nat.le_refl _, state.initial_le_ceiling⟩
  | succ steps ih =>
      cases moves : state.next? (state.climb steps) with
      | none =>
          rw [climb, moves, Option.getD_none]
          exact ih
      | some further =>
          rw [climb_of_next? moves]
          obtain ⟨lt, le⟩ := lt_of_next? ih.2 moves
          exact ⟨Nat.le_of_lt (Nat.lt_of_le_of_lt ih.1 lt), le⟩

theorem next?_climb_eq_none_iff (state : Buildup) (steps : Nat) :
    state.next? (state.climb steps) = none ↔ state.climb steps = state.ceiling :=
  next?_eq_none_iff (state.climb_range steps).1 (state.climb_range steps).2

/-- A state that has reached its ceiling stays there. -/
theorem climb_of_ceiling {state : Buildup} {steps later : Nat} (reached : state.climb steps = state.ceiling)
    (le : steps ≤ later) : state.climb later = state.ceiling := by
  induction le with
  | refl => exact reached
  | @step later _ ih => rw [climb, (state.next?_climb_eq_none_iff later).mpr ih, Option.getD_none, ih]

end Buildup

/-- A state of the buildup, the time at which it was entered from another one, and the current time. -/
structure Spell where
  state : Buildup
  since : Nat
  now : Nat

namespace Spell

/-- A call may enter a state; to ask for the current one again means nothing. -/
def heed (spell : Spell) (call : StatusCall) : Spell :=
  match call.entered? with
  | some state => if spell.state = state then spell else ⟨state, spell.now, spell.now⟩
  | none => { spell with now := call.timeAfter spell.now }

/-- The spell that turns lead to from a start on. -/
def ofTurns (start : Nat) (turns : List StatusTurn) : Spell :=
  turns.foldl (fun spell next => spell.heed next.call) ⟨.new, start, start⟩

/-- The number of periods for which the state has lasted. -/
def periods (spell : Spell) : Nat :=
  match spell.state.period? with
  | some period => (spell.now - spell.since) / period
  | none => 0

/-- A status shows the state, one step for each period, and whether it has been at the ceiling for a period. -/
structure IsShown (spell : Spell) (status : Status) : Prop where
  state : status.buildup = spell.state
  progress : status.progress = spell.state.climb spell.periods
  slow_iff : status.slow = true ↔ ∃ steps < spell.periods, spell.state.climb steps = spell.state.ceiling

variable {spell : Spell} {call : StatusCall}

theorem ofTurns_concat (start : Nat) (turns : List StatusTurn) (next : StatusTurn) :
    ofTurns start (turns ++ [next]) = (ofTurns start turns).heed next.call := by
  rw [ofTurns, List.foldl_append]
  rfl

theorem periods_of_still (still : spell.state.period? = none) : spell.periods = 0 := by
  rw [periods, still]

theorem periods_eq {period : Nat} (found : spell.state.period? = some period) :
    spell.periods = (spell.now - spell.since) / period := by
  rw [periods, found]

/-- A call that enters no other state only takes its time. -/
theorem heed_of_same (same : spell.state = call.entered?.getD spell.state) :
    spell.heed call = { spell with now := call.timeAfter spell.now } := by
  cases call with
  | buildup state time => exact if_pos same
  | reset forgetUnread time => exact if_pos same
  | _ => rfl

theorem heed_of_ne (differs : spell.state ≠ call.entered?.getD spell.state) :
    spell.heed call = ⟨call.entered?.getD spell.state, spell.now, spell.now⟩ := by
  cases call with
  | buildup state time => exact if_neg differs
  | reset forgetUnread time => exact if_neg differs
  | _ => exact absurd rfl differs

end Spell

namespace TickedStatus

/-- A status keeps pace with a spell: each tick of the ticker that is held was one step, and the next is due after it. -/
structure Paces (ticked : TickedStatus) (spell : Spell) : Prop where
  state : ticked.shown.buildup = spell.state
  now : ticked.now = spell.now
  clocked : ticked.shown.clocked = true
  /-- While there is a ticker, it has not reached the ceiling yet, or has just done so. -/
  moving : ∀ ticker, ticked.held = some ticker → ticked.shown.slow = false ∧
    ∃ steps, ticked.shown.progress = spell.state.climb steps ∧
      ticker.due = spell.since + (steps + 1) * ticker.period ∧
      spell.since + steps * ticker.period ≤ spell.now ∧
      ∀ earlier < steps, spell.state.climb earlier ≠ spell.state.ceiling
  /-- A ticker has ended because it reached the ceiling, a period ago at least. -/
  ended : ticked.held = none → ∀ period, spell.state.period? = some period → ticked.shown.slow = true ∧
    ∃ steps, ticked.shown.progress = spell.state.climb steps ∧
      spell.state.climb steps = spell.state.ceiling ∧ spell.since + (steps + 1) * period ≤ spell.now

variable {ticked later : TickedStatus} {spell : Spell} {next : StatusTurn}

theorem paces_fresh (start : Nat) : (fresh true start).Paces ⟨.new, start, start⟩ where
  state := rfl
  now := rfl
  clocked := rfl
  moving := fun _ held => nomatch held
  ended := fun _ _ found => nomatch found

namespace Paces

theorem turn (paces : ticked.Paces spell) (orderly : ticked.IsOrderly) (timely : next.call.IsTimely ticked.now)
    (clocked : next.clocked = true) : (ticked.turn next).1.Paces (spell.heed next.call) := by
  have entered : (ticked.shown.turn next).1.buildup = next.call.entered?.getD spell.state := by
    rw [← paces.state]
    exact Status.respond_buildup { ticked.shown with clocked := next.clocked } next.call
  have timed : spell.now ≤ next.call.timeAfter spell.now := by
    rw [paces.now] at timely
    exact timely.le_timeAfter
  have clockedAfter := (ticked.shown.turn_clocked next).trans clocked
  rcases orderly.turn_cases timely with ⟨same, pace, turned⟩ | ⟨differs, pace, turned⟩
  · have progress := congrArg Pace.progress pace
    have slow := congrArg Pace.slow pace
    rw [turned, Spell.heed_of_same (by rw [← entered, ← paces.state, same])]
    constructor
    case state => exact same.symm.trans paces.state
    case now => exact congrArg next.call.timeAfter paces.now
    case clocked => exact clockedAfter
    case moving =>
      intro ticker held
      obtain ⟨swift, steps, climbed, due, started, short⟩ := paces.moving ticker held
      exact ⟨slow.trans swift, steps, progress.trans climbed, due, Nat.le_trans started timed, short⟩
    case ended =>
      intro held period found
      obtain ⟨slowed, steps, climbed, reached, lapsed⟩ := paces.ended held period found
      exact ⟨slow.trans slowed, steps, progress.trans climbed, reached, Nat.le_trans lapsed timed⟩
  · rw [turned, Spell.heed_of_ne (by rw [← entered, ← paces.state]; exact differs), ← entered]
    constructor
    case state => rfl
    case now => exact paces.now
    case clocked => exact clockedAfter
    case moving =>
      intro ticker held
      obtain ⟨period, -, rfl⟩ := of_ticker? held
      refine ⟨congrArg Pace.slow pace, 0, congrArg Pace.progress pace, ?_, ?_, ?_⟩
      · rw [paces.now, Nat.zero_add, Nat.one_mul]
      · rw [Nat.zero_mul]
        exact Nat.le_refl _
      · exact fun _ none => nomatch none
    case ended =>
      intro held period found
      rw [ticker?, if_pos clocked, found] at held
      cases held

theorem ticks (paces : ticked.Paces spell) (orderly : ticked.IsOrderly) (ticks : Ticks ticked later) :
    later.Paces spell := by
  rcases orderly.ticks_cases ticks with ⟨ticker, held, isDue, rfl⟩ | ⟨former, -, rfl⟩
  · obtain ⟨-, -, period⟩ := orderly.held ticker held
    obtain ⟨swift, steps, climbed, due, started, short⟩ := paces.moving ticker held
    rw [paces.now, due] at isDue
    cases moves : ticked.shown.buildup.next? ticked.shown.progress with
    | some further =>
        rw [orderly.beat_further held moves]
        rw [paces.state, climbed] at moves
        refine ⟨paces.state, paces.now, paces.clocked, ?_, fun none => nomatch none⟩
        rintro _ ⟨⟩
        refine ⟨swift, steps + 1, (Buildup.climb_of_next? moves).symm, ?_, isDue, fun earlier lt reached => ?_⟩
        · rw [due, Nat.add_assoc, ← Nat.succ_mul]
        · rcases Nat.lt_succ_iff_lt_or_eq.mp lt with lt | rfl
          · exact short earlier lt reached
          · rw [(spell.state.next?_climb_eq_none_iff earlier).mpr reached] at moves
            cases moves
    | none =>
        rw [orderly.beat_ceiling held moves]
        rw [paces.state, climbed] at moves
        refine ⟨paces.state, paces.now, paces.clocked, fun _ none => (nomatch none), fun _ other found => ?_⟩
        rw [← paces.state, period] at found
        cases found
        exact ⟨rfl, steps, climbed, (spell.state.next?_climb_eq_none_iff steps).mp moves, isDue⟩
  · exact ⟨paces.state, paces.now, paces.clocked, paces.moving, paces.ended⟩

/-- What is shown is the progress after no more steps than periods have passed. -/
theorem exists_climb (paces : ticked.Paces spell) (orderly : ticked.IsOrderly) :
    ∃ steps ≤ spell.periods, ticked.shown.progress = spell.state.climb steps := by
  cases found : spell.state.period? with
  | none =>
      obtain ⟨initial, -⟩ := orderly.still (by rw [paces.state, found])
      refine ⟨0, Nat.zero_le _, ?_⟩
      rw [initial, paces.state]
      rfl
  | some period =>
      have positive := Buildup.period_pos found
      rw [Spell.periods_eq found]
      cases held : ticked.held with
      | none =>
          obtain ⟨-, steps, climbed, -, lapsed⟩ := paces.ended held period found
          rw [Nat.succ_mul] at lapsed
          exact ⟨steps, (Nat.le_div_iff_mul_le positive).mpr (by omega), climbed⟩
      | some ticker =>
          obtain ⟨-, steps, climbed, -, started, -⟩ := paces.moving ticker held
          have same := (orderly.held ticker held).2.2
          rw [paces.state, found] at same
          cases same
          exact ⟨steps, (Nat.le_div_iff_mul_le positive).mpr (by omega), climbed⟩

/-- Once no tick is due, what is shown is the spell. -/
theorem isShown (paces : ticked.Paces spell) (orderly : ticked.IsOrderly) (settled : ticked.IsSettled) :
    spell.IsShown ticked.shown := by
  cases found : spell.state.period? with
  | none =>
      obtain ⟨progress, slow⟩ := orderly.still (by rw [paces.state, found])
      have periods := Spell.periods_of_still found
      constructor
      case state => exact paces.state
      case progress =>
        rw [progress, periods, paces.state]
        rfl
      case slow_iff =>
        rw [slow, periods]
        simp
  | some period =>
      have positive := Buildup.period_pos found
      have periods := Spell.periods_eq found
      cases held : ticked.held with
      | none =>
          obtain ⟨slow, steps, climbed, reached, lapsed⟩ := paces.ended held period found
          have passed : steps < spell.periods := by
            rw [periods]
            have whole : (steps + 1) * period ≤ spell.now - spell.since := by omega
            exact (Nat.le_div_iff_mul_le positive).mpr whole
          constructor
          case state => exact paces.state
          case progress => rw [climbed, reached, Buildup.climb_of_ceiling reached (Nat.le_of_lt passed)]
          case slow_iff => exact iff_of_true slow ⟨steps, passed, reached⟩
      | some ticker =>
          obtain ⟨swift, steps, climbed, due, started, short⟩ := paces.moving ticker held
          have same := (orderly.held ticker held).2.2
          rw [paces.state, found] at same
          cases same
          have ahead := settled ticker held
          rw [due, paces.now] at ahead
          have passed : spell.periods = steps := by
            rw [periods]
            refine Nat.div_eq_of_lt_le (by omega) ?_
            omega
          constructor
          case state => exact paces.state
          case progress => rw [climbed, passed]
          case slow_iff =>
            rw [swift, passed]
            refine iff_of_false Bool.false_ne_true ?_
            rintro ⟨earlier, lt, reached⟩
            exact short earlier lt reached

end Paces

/-- With a clock at hand, every run keeps pace with its spell. -/
theorem Run.paces {start : Nat} {sights : List Sight} (run : Run (fresh true start) sights ticked)
    (clocked : ∀ next ∈ Sight.turns sights, next.clocked = true) :
    ticked.Paces (Spell.ofTurns start (Sight.turns sights)) := by
  induction run with
  | start => exact paces_fresh start
  | call next run timely ih =>
      rw [Sight.turns_concat_called] at clocked ⊢
      rw [Spell.ofTurns_concat]
      have former := ih fun other mem => clocked other (List.mem_append_left _ mem)
      exact former.turn (run.isOrderly (isOrderly_fresh true start)) timely (clocked next (by simp))
  | tick run ticks ih => exact (ih clocked).ticks (run.isOrderly (isOrderly_fresh true start)) ticks
  | look _ ih =>
      rw [Sight.turns_concat_seen] at clocked ⊢
      exact ih clocked

/-- To ask for the current state of the buildup again changes nothing. -/
theorem IsOrderly.turn_again (orderly : ticked.IsOrderly) (clocked : ticked.shown.clocked = true) :
    ticked.turn ⟨true, .buildup ticked.shown.buildup ticked.now⟩ = (ticked, []) := by
  have answer : ticked.shown.turn ⟨true, .buildup ticked.shown.buildup ticked.now⟩ = (ticked.shown, []) := by
    rw [Status.turn, ← clocked]
    exact Status.setBuildup_of_eq ticked.shown rfl ticked.now
  rw [TickedStatus.turn, answer]
  dsimp only
  rw [if_pos rfl, ← orderly.idle]
  rfl

/-- A ticker writes only if it is the one that is held, which belongs to the current state and began with its spell. -/
theorem Paces.held_of_writes (paces : ticked.Paces spell) (orderly : ticked.IsOrderly) {ticker : Ticker}
    (mem : ticked.held = some ticker ∨ ticker ∈ ticked.former)
    (writes : (ticked.beat ticker).1 ≠ ticked.shown) :
    ticked.held = some ticker ∧ ticker.state = ticked.shown.buildup ∧
      ∃ ticks, ticker.due = spell.since + ticks * ticker.period := by
  rcases mem with held | mem
  · obtain ⟨-, state, -⟩ := orderly.held ticker held
    obtain ⟨-, steps, -, due, -⟩ := paces.moving ticker held
    exact ⟨held, state, steps + 1, due⟩
  · rw [beat_of_former (orderly.former ticker mem)] at writes
    exact absurd rfl writes

/-- What a run shows of the buildup, in terms of the spell of its state and of nothing else. -/
structure KeepsPace (start : Nat) (sights : List Sight) (ticked : TickedStatus) : Prop where
  state : ticked.shown.buildup = (Spell.ofTurns start (Sight.turns sights)).state
  /-- Once no tick is due, each period that has passed was a step, and slowness shows that one passed at the ceiling. -/
  settled : ticked.IsSettled → (Spell.ofTurns start (Sight.turns sights)).IsShown ticked.shown
  /-- As long as ticks are due, some of these steps are missing. -/
  late : ∃ steps ≤ (Spell.ofTurns start (Sight.turns sights)).periods,
    ticked.shown.progress = ticked.shown.buildup.climb steps
  /-- The ticks that are due come to an end. -/
  settles : ∃ later, Run (fresh true start) sights later ∧ later.IsSettled
  range : ticked.shown.buildup.initial ≤ ticked.shown.progress ∧
    ticked.shown.progress ≤ ticked.shown.buildup.ceiling
  again : ticked.turn ⟨true, .buildup ticked.shown.buildup ticked.now⟩ = (ticked, [])
  /-- No ticker of an earlier state writes. -/
  writes : ∀ ticker, ticked.held = some ticker ∨ ticker ∈ ticked.former →
    (ticked.beat ticker).1 ≠ ticked.shown → ticked.held = some ticker ∧
      ticker.state = ticked.shown.buildup ∧
      ∃ ticks, ticker.due = (Spell.ofTurns start (Sight.turns sights)).since + ticks * ticker.period
  /-- A `Status`, which does all due ticks at once, shows the same. -/
  status : (Spell.ofTurns start (Sight.turns sights)).IsShown (Status.turned {} (Sight.turns sights))

theorem caught_fresh (clocked : Bool) (now : Nat) : (fresh clocked now).caught = { clocked } :=
  Status.passTo_of_idle _ rfl now

/-- With a clock at hand, the progress of the buildup depends on its state and the time spent in it only. -/
theorem keepsPace_of_run {start : Nat} {sights : List Sight} (run : Run (fresh true start) sights ticked)
    (clocked : ∀ next ∈ Sight.turns sights, next.clocked = true) : KeepsPace start sights ticked := by
  have first := isOrderly_fresh true start
  have orderly := run.isOrderly first
  have paces := run.paces clocked
  obtain ⟨steps, le, climbed⟩ := paces.exists_climb orderly
  rw [← paces.state] at climbed
  obtain ⟨later, further, quiet⟩ := run.exists_settled first
  constructor
  case state => exact paces.state
  case settled => exact paces.isShown orderly
  case late => exact ⟨steps, le, climbed⟩
  case settles => exact ⟨later, further, quiet⟩
  case range =>
    rw [climbed]
    exact ticked.shown.buildup.climb_range steps
  case again => exact orderly.turn_again paces.clocked
  case writes => exact fun ticker mem writes => paces.held_of_writes orderly mem writes
  case status =>
    -- What the status shows is what the tickers come to show once no tick is due.
    have shown := (further.paces clocked).isShown (further.isOrderly first) quiet
    have caught := (further.caught first).1
    rw [quiet.caught_eq, caught_fresh] at caught
    rw [← caught]
    exact ⟨shown.state, shown.progress, shown.slow_iff⟩

/-- The handshake begins while the ticker of the push is late, and is asked for again after a period. -/
def handshakeSights : List Sight :=
  [.called ⟨true, .buildup .push 0⟩ [.buildup .push], .called ⟨true, .pass 1700⟩ [],
    .called ⟨true, .buildup .peerHandshake 1700⟩ [.buildup .peerHandshake], .called ⟨true, .pass 2300⟩ [],
    .called ⟨true, .buildup .peerHandshake 2300⟩ []]

def handshakeStatus : TickedStatus where
  shown := { buildup := .peerHandshake, progress := 20 }
  now := 2300
  epoch := 2
  held := some ⟨.peerHandshake, 500, 2, 2700⟩
  former := [⟨.push, 800, 1, 800⟩]

theorem run_handshakeStatus : Run (fresh true 0) handshakeSights handshakeStatus := by
  have begun : Run (fresh true 0) [] (fresh true 0) := .start
  have pushed := begun.call ⟨true, .buildup .push 0⟩ rfl
  have waited := pushed.call ⟨true, .pass 1700⟩ (Nat.zero_le 1700)
  have shaken := waited.call ⟨true, .buildup .peerHandshake 1700⟩ rfl
  have passed := shaken.call ⟨true, .pass 2300⟩ (by change 1700 ≤ 2300; decide)
  have ticked := passed.tick (.held rfl (by change 2200 ≤ 2300; decide))
  exact ticked.call ⟨true, .buildup .peerHandshake 2300⟩ rfl

theorem keepsPace_handshakeStatus :
    Run (fresh true 0) handshakeSights handshakeStatus ∧
      (∀ next ∈ Sight.turns handshakeSights, next.clocked = true) ∧
      KeepsPace 0 handshakeSights handshakeStatus := by
  have clocked : ∀ next ∈ Sight.turns handshakeSights, next.clocked = true := by
    simp [Sight.turns, handshakeSights, Sight.turn?]
  exact ⟨run_handshakeStatus, clocked, keepsPace_of_run run_handshakeStatus clocked⟩

end TickedStatus

end RelayClient
