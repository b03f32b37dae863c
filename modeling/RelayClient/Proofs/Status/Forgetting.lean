import RelayClient.Proofs.Status.Progress

/-!
# What a reset forgets

After a reset a status cannot be told from a new one, whatever happened to it
before: no call is answered differently, and it never shows anything else. This
holds although it may still have tickers from before the reset, and counts the
states it has entered. Only the number of unread messages may be kept.
-/

namespace RelayClient

namespace Status

/-- A status that stays as its first state of the buildup began is new after a reset, apart from the unread messages. -/
theorem reset_fst (status : Status) (still : status.buildup = .new → status.pace = ⟨0, false, none⟩)
    (forgetUnread : Bool) (now : Nat) :
    (status.reset forgetUnread now).1 =
      { clocked := status.clocked, unread := if forgetUnread then 0 else status.unread } := by
  rw [reset_eq, setGlobal_fst]
  by_cases same : status.buildup = .new
  · have kept : (status.cleared forgetUnread).setBuildup .new now = (status.cleared forgetUnread, []) :=
      setBuildup_of_eq (status.cleared forgetUnread) same now
    have pace := still same
    simp only [Status.pace, Pace.mk.injEq] at pace
    obtain ⟨progress, slow, nextTick⟩ := pace
    rw [kept]
    simp only [cleared, same, progress, slow, nextTick]
  · have differs : (status.cleared forgetUnread).buildup ≠ .new := same
    have idle : (if (status.cleared forgetUnread).clocked then Buildup.new.period?.map (now + ·) else none) = none := by
      split <;> rfl
    rw [setBuildup, if_neg differs, idle]
    rfl

end Status

namespace TickedStatus

/-- Two moments that nobody can tell apart: they show the same, and move on at the same time. -/
structure IsAlike (one other : TickedStatus) : Prop where
  shown : one.shown = other.shown
  now : one.now = other.now
  due : one.held.map Ticker.due = other.held.map Ticker.due

variable {one other later ticked : TickedStatus} {next : StatusTurn}

namespace IsAlike

theorem symm (alike : one.IsAlike other) : other.IsAlike one :=
  ⟨alike.shown.symm, alike.now.symm, alike.due.symm⟩

theorem caught (alike : one.IsAlike other) : one.caught = other.caught := by
  rw [TickedStatus.caught, TickedStatus.caught, face, face, alike.shown, alike.now, alike.due]

/-- A call is answered alike, and leaves both alike: the number of entries plays no part in either. -/
theorem turn (alike : one.IsAlike other) (next : StatusTurn) :
    (one.turn next).1.IsAlike (other.turn next).1 ∧ (one.turn next).2 = (other.turn next).2 := by
  rw [turn_snd, turn_snd, alike.shown]
  refine ⟨?_, rfl⟩
  unfold TickedStatus.turn
  rw [alike.shown, alike.now]
  dsimp only
  split
  · exact ⟨rfl, rfl, alike.due⟩
  · exact ⟨rfl, rfl, (due_ticker? ..).trans (due_ticker? ..).symm⟩

/-- A tick that is seen of the one is seen of the other as well, and no other tick is seen at all. -/
theorem ticks (alike : one.IsAlike other) (orderly : one.IsOrderly) (otherOrderly : other.IsOrderly)
    (ticks : Ticks one later) : ∃ last, (last = other ∨ Ticks other last) ∧ later.IsAlike last := by
  rcases orderly.ticks_cases ticks with ⟨ticker, held, isDue, rfl⟩ | ⟨former, -, rfl⟩
  · have due := alike.due
    rw [held, Option.map_some, eq_comm] at due
    obtain ⟨partner, partnerHeld, sameDue⟩ := Option.map_eq_some_iff.mp due
    rw [← sameDue, alike.now] at isDue
    refine ⟨_, .inr (.held partnerHeld isDue), ?_⟩
    have period := (orderly.held ticker held).2.2
    rw [alike.shown, (otherOrderly.held partner partnerHeld).2.2, Option.some_inj] at period
    cases moves : one.shown.buildup.next? one.shown.progress with
    | some further =>
        rw [orderly.beat_further held moves]
        rw [alike.shown] at moves ⊢
        rw [otherOrderly.beat_further partnerHeld moves]
        refine ⟨rfl, alike.now, congrArg some ?_⟩
        rw [← sameDue, period]
    | none =>
        rw [orderly.beat_ceiling held moves]
        rw [alike.shown] at moves ⊢
        rw [otherOrderly.beat_ceiling partnerHeld moves]
        exact ⟨rfl, alike.now, rfl⟩
  · exact ⟨other, .inl rfl, alike.shown, alike.now, alike.due⟩

/-- Whatever is seen of the one may be seen of the other. -/
theorem run {sights : List Sight} (alike : one.IsAlike other) (orderly : one.IsOrderly)
    (otherOrderly : other.IsOrderly) (run : Run one sights later) :
    ∃ last, Run other sights last ∧ later.IsAlike last := by
  induction run with
  | start => exact ⟨other, .start, alike⟩
  | @call sights ticked next run timely ih =>
      obtain ⟨last, matched, same⟩ := ih
      obtain ⟨after, events⟩ := same.turn next
      rw [same.now] at timely
      rw [events]
      exact ⟨_, matched.call next timely, after⟩
  | tick run ticked ih =>
      obtain ⟨last, matched, same⟩ := ih
      obtain ⟨final, reached, after⟩ := same.ticks (run.isOrderly orderly) (matched.isOrderly otherOrderly) ticked
      rcases reached with rfl | further
      · exact ⟨final, matched, after⟩
      · exact ⟨final, matched.tick further, after⟩
  | look _ ih =>
      obtain ⟨last, matched, same⟩ := ih
      rw [same.shown]
      exact ⟨last, matched.look, same⟩

/-- The same is seen of both. -/
theorem sights_iff (alike : one.IsAlike other) (orderly : one.IsOrderly) (otherOrderly : other.IsOrderly)
    (sights : List Sight) : (∃ later, Run one sights later) ↔ ∃ later, Run other sights later := by
  constructor
  · rintro ⟨later, run⟩
    obtain ⟨last, matched, -⟩ := alike.run orderly otherOrderly run
    exact ⟨last, matched⟩
  · rintro ⟨later, run⟩
    obtain ⟨last, matched, -⟩ := alike.symm.run otherOrderly orderly run
    exact ⟨last, matched⟩

end IsAlike

/-- A reset leads to what a new status is, as far as anyone can tell, but for the unread messages. -/
theorem IsOrderly.isAlike_reset (orderly : ticked.IsOrderly) (clocked forgetUnread : Bool) :
    (ticked.turn ⟨clocked, .reset forgetUnread ticked.now⟩).1.IsAlike
      ((fresh clocked ticked.now).turn
        ⟨clocked, .unread (if forgetUnread then 0 else ticked.shown.unread)⟩).1 := by
  have still : ticked.shown.buildup = .new → ticked.shown.pace = ⟨0, false, none⟩ := by
    intro same
    obtain ⟨progress, slow⟩ := orderly.still (by rw [same]; rfl)
    rw [Status.pace, progress, slow, orderly.idle, same]
    rfl
  let next : StatusTurn := ⟨clocked, .reset forgetUnread ticked.now⟩
  have timely : next.call.IsTimely ticked.now := rfl
  have answer : (ticked.shown.turn next).1 =
      { clocked, unread := if forgetUnread then 0 else ticked.shown.unread } :=
    Status.reset_fst { ticked.shown with clocked } still forgetUnread ticked.now
  have shown : (ticked.turn next).1.shown =
      { clocked, unread := if forgetUnread then 0 else ticked.shown.unread } ∧
        (ticked.turn next).1.now = ticked.now := by
    rcases orderly.turn_cases timely with ⟨-, -, turned⟩ | ⟨-, -, turned⟩
    · rw [turned, answer]
      exact ⟨rfl, rfl⟩
    · rw [turned, answer]
      exact ⟨rfl, rfl⟩
  have still : (ticked.turn next).1.shown.buildup.period? = none := by rw [shown.1]; rfl
  exact ⟨shown.1, shown.2, congrArg (Option.map Ticker.due) ((orderly.turn timely).held_eq_none still)⟩

/-- A status is new again after a reset: nothing that happens later differs from what happens to a new one. -/
structure Forgets (clocked : Bool) (sights : List Sight) (ticked : TickedStatus) : Prop where
  /-- The same is seen as of a new status. -/
  sights_iff : ∀ clockedThen later, (∃ last, Run (ticked.turn ⟨clockedThen, .reset true ticked.now⟩).1 later last) ↔
    ∃ last, Run (fresh clockedThen ticked.now) later last
  /-- If the unread messages are kept, the same is seen as of a new status that is told their number. -/
  unread_iff : ∀ clockedThen later, (∃ last, Run (ticked.turn ⟨clockedThen, .reset false ticked.now⟩).1 later last) ↔
    ∃ last, Run ((fresh clockedThen ticked.now).turn ⟨clockedThen, .unread ticked.shown.unread⟩).1 later last
  /-- A `Status` becomes a new one, in every field. -/
  status : ∀ clockedThen forgetUnread,
    ((Status.turned { clocked } (Sight.turns sights)).turn ⟨clockedThen, .reset forgetUnread ticked.now⟩).1 =
      { clocked := clockedThen, unread := if forgetUnread then 0 else ticked.shown.unread }

theorem forgets_of_run {clocked : Bool} {start : Nat} {sights : List Sight}
    (run : Run (fresh clocked start) sights ticked) : Forgets clocked sights ticked := by
  have orderly := run.isOrderly (isOrderly_fresh clocked start)
  have afterReset (clockedThen forgetUnread : Bool) :
      (ticked.turn ⟨clockedThen, .reset forgetUnread ticked.now⟩).1.IsOrderly := orderly.turn rfl
  constructor
  case sights_iff =>
    intro clockedThen later
    exact (orderly.isAlike_reset clockedThen true).sights_iff (afterReset clockedThen true)
      (isOrderly_fresh clockedThen ticked.now) later
  case unread_iff =>
    intro clockedThen later
    exact (orderly.isAlike_reset clockedThen false).sights_iff (afterReset clockedThen false)
      ((isOrderly_fresh clockedThen ticked.now).turn trivial) later
  case status =>
    intro clockedThen forgetUnread
    have caught := (run.caught (isOrderly_fresh clocked start)).1
    rw [caught_fresh] at caught
    have timely : (StatusCall.reset forgetUnread ticked.now).IsTimely ticked.now := rfl
    rw [← caught, orderly.turn_caught timely, (orderly.isAlike_reset clockedThen forgetUnread).caught]
    exact Status.passTo_of_idle
      { clocked := clockedThen, unread := if forgetUnread then 0 else ticked.shown.unread } rfl ticked.now

/-- The handshake is forgotten although its ticker and that of the push have not ended yet. -/
theorem forgets_handshakeStatus :
    Run (fresh true 0) handshakeSights handshakeStatus ∧ Forgets true handshakeSights handshakeStatus :=
  ⟨run_handshakeStatus, forgets_of_run run_handshakeStatus⟩

end TickedStatus

end RelayClient
