import RelayClient.Proofs.Exchange.Correlation

/-!
# What the pending table holds

An entry does not say whose it is: that a waiter has left is read off its closed
mailbox. Still every entry belongs to one reply that waits, and every reply that
waits has one. A reply that is dropped, or polled too late, takes its own entry
with it, and never that of a later request under the same id.
-/

namespace RelayClient.Messenger

variable {κ : Type} {limit : Option Nat} {draw : Nat → String} {now : Nat} {messenger : Messenger κ}
  {history : List ExchangeEvent}

/-- The id that a reply waits under. -/
def waitingId? (messenger : Messenger κ) (reply : Nat) : Option String :=
  match messenger.fate reply with
  | some (.waiting id) => some id
  | _ => none

/-- The replies that wait, in the order in which they were sent, with their ids. -/
def awaited (messenger : Messenger κ) : List (Nat × String) :=
  (List.range messenger.replies.length).filterMap fun reply => (messenger.waitingId? reply).map (reply, ·)

/-- The time from which on a reply is awaited no more has come. -/
def IsOverdue (messenger : Messenger κ) (now reply : Nat) : Prop :=
  ∃ expected, messenger.replies[reply]? = some expected ∧ expected.deadline.any (· ≤ now) = true

theorem waitingId?_eq_some_iff (messenger : Messenger κ) (reply : Nat) (id : String) :
    messenger.waitingId? reply = some id ↔ messenger.fate reply = some (.waiting id) := by
  unfold waitingId?
  split
  · next found => simp [found]
  · next other =>
      constructor
      · nofun
      · intro found
        exact absurd found (other id)

theorem lt_of_fate_waiting {reply : Nat} {id : String} (waits : messenger.fate reply = some (.waiting id)) :
    reply < messenger.replies.length := by
  obtain ⟨expected, found, -⟩ := exists_of_fate_waiting waits
  exact (List.getElem?_eq_some_iff.mp found).1

theorem mem_awaited_iff (messenger : Messenger κ) (reply : Nat) (id : String) :
    (reply, id) ∈ messenger.awaited ↔ messenger.fate reply = some (.waiting id) := by
  rw [awaited, List.mem_filterMap, ← waitingId?_eq_some_iff]
  constructor
  · rintro ⟨other, -, told⟩
    obtain ⟨name, waits, same⟩ := Option.map_eq_some_iff.mp told
    cases same
    exact waits
  · intro waits
    have inside := lt_of_fate_waiting ((messenger.waitingId?_eq_some_iff reply id).mp waits)
    exact ⟨reply, List.mem_range.mpr inside, by rw [waits]; rfl⟩

/-- A reply is awaited once. -/
theorem nodup_awaited (messenger : Messenger κ) : (messenger.awaited.map (·.1)).Nodup := by
  have ordered : messenger.awaited.Pairwise fun first second => first.1 < second.1 := by
    refine List.Pairwise.filterMap _ (fun first second before one held other heldToo => ?_)
      List.pairwise_lt_range
    obtain ⟨-, -, rfl⟩ := Option.map_eq_some_iff.mp held
    obtain ⟨-, -, rfl⟩ := Option.map_eq_some_iff.mp heldToo
    exact before
  exact (List.pairwise_map.mpr ordered).imp Nat.ne_of_lt

namespace Sound

/-- No two replies that wait share an id, so no id is awaited twice. -/
theorem nodup_awaited_ids (sound : messenger.Sound) : (messenger.awaited.map (·.2)).Nodup := by
  refine List.pairwise_map.mpr (List.Pairwise.imp_of_mem ?_ (List.pairwise_map.mp messenger.nodup_awaited))
  -- two replies under one id would be waiters of one entry
  intro first second mem memToo distinct same
  have waits := (messenger.mem_awaited_iff first.1 first.2).mp mem
  have waitsToo := (messenger.mem_awaited_iff second.1 second.2).mp memToo
  rw [← same] at waitsToo
  exact distinct (sound.waiting_inj waits waitsToo)

/-- An id is a key of the table exactly if a reply waits under it. -/
theorem mem_keys_iff (sound : messenger.Sound) (id : String) :
    id ∈ messenger.table.entries.keys ↔ ∃ reply, messenger.fate reply = some (.waiting id) := by
  rw [Dictionary.mem_keys_iff]
  constructor
  · rintro ⟨waiter, entry⟩
    obtain ⟨reply, waits, -⟩ := (sound.entry_iff id waiter).mp entry
    exact ⟨reply, waits⟩
  · rintro ⟨reply, waits⟩
    obtain ⟨expected, found, -⟩ := exists_of_fate_waiting waits
    exact ⟨expected.waiter, (sound.entry_iff id _).mpr ⟨reply, waits, waiter?_of_getElem found⟩⟩

/-- The keys of the table are the ids that are awaited, each as often as it is awaited. -/
theorem awaited_perm_keys (sound : messenger.Sound) :
    (messenger.awaited.map (·.2)).Perm messenger.table.entries.keys := by
  refine (List.perm_ext_iff_of_nodup sound.nodup_awaited_ids messenger.table.entries.nodup_keys).mpr fun id => ?_
  rw [sound.mem_keys_iff, List.mem_map]
  constructor
  · rintro ⟨⟨reply, name⟩, mem, rfl⟩
    exact ⟨reply, (messenger.mem_awaited_iff reply name).mp mem⟩
  · rintro ⟨reply, waits⟩
    exact ⟨(reply, id), (messenger.mem_awaited_iff reply id).mpr waits, rfl⟩

/-- The mailbox of an entry is vacant: its waiter has neither an answer nor left. -/
theorem mailbox_of_entry (sound : messenger.Sound) {id : String} {waiter : Nat}
    (entry : messenger.table.entries.get? id = some waiter) : messenger.table.mailbox waiter = .vacant := by
  obtain ⟨reply, waits, held⟩ := (sound.entry_iff id waiter).mp entry
  obtain ⟨expected, found, -, vacant, -⟩ := exists_of_fate_waiting waits
  rw [waiter?_of_getElem found] at held
  cases held
  exact vacant

/-- A reply that is dropped takes its own entry with it, if that is still there, and no other. -/
theorem entries_abandon (sound : messenger.Sound) (reply : Nat) (id : String) (waiter : Nat) :
    (messenger.abandon reply).table.entries.get? id = some waiter ↔
      messenger.table.entries.get? id = some waiter ∧ messenger.fate reply ≠ some (.waiting id) := by
  by_cases running : ∃ expected, messenger.replies[reply]? = some expected ∧ expected.finished = false
  · obtain ⟨expected, found, going⟩ := running
    rw [(table_abandon sound found going).2.2, and_comm]
  · have idle : messenger.fate reply ≠ some (.waiting id) := by
      intro waits
      obtain ⟨expected, found, going, -⟩ := exists_of_fate_waiting waits
      exact running ⟨expected, found, going⟩
    rw [abandon_eq_self fun expected found => ?_, and_iff_left idle]
    rw [← Bool.not_eq_false]
    intro going
    exact running ⟨expected, found, going⟩

end Sound

/-- A reply that waits and is overdue comes to a time-out, and is left. -/
theorem poll_of_isOverdue {reply : Nat} {id : String} (waits : messenger.fate reply = some (.waiting id))
    (overdue : messenger.IsOverdue now reply) :
    messenger.poll now reply = (messenger.abandon reply, some (.error (.timeout id))) := by
  obtain ⟨expected, found, going, vacant, rfl⟩ := exists_of_fate_waiting waits
  obtain ⟨same, foundToo, past⟩ := overdue
  rw [found] at foundToo
  cases foundToo
  simp [poll, found, going, PendingTable.receive, vacant, past]

/-- A poll leaves the entries as they are, unless the reply waits and is overdue. -/
theorem entries_poll_of_timely {reply : Nat}
    (timely : ∀ id, messenger.fate reply = some (.waiting id) → ¬ messenger.IsOverdue now reply) :
    (messenger.poll now reply).1.table.entries = messenger.table.entries := by
  cases found : messenger.replies[reply]? with
  | none => simp [poll, found]
  | some expected =>
      cases going : expected.finished with
      | true => simp [poll, found, going]
      | false =>
          cases box : messenger.table.mailbox expected.waiter with
          | vacant =>
              have waits : messenger.fate reply = some (.waiting expected.id) := by
                rw [fate_of_getElem found, (expected.fate_eq_waiting_iff _ _).mpr ⟨going, box, rfl⟩]
              have early : expected.deadline.any (· ≤ now) ≠ true :=
                fun past => timely expected.id waits ⟨expected, found, past⟩
              simp [poll, found, going, PendingTable.receive, box, early]
          | delivered answer =>
              cases answer <;> simp [poll, found, going, PendingTable.receive, box]
          | closed => simp [poll, found, going, PendingTable.receive, box, finish]
          | abandoned => simp [poll, found, going, PendingTable.receive, box, finish]

/-- What the pending table holds, after any history. -/
structure Balanced (messenger : Messenger κ) (history : List ExchangeEvent) : Prop where
  /-- Awaited are just the replies that were handed out and have not come to an end since. -/
  awaited_iff : ∀ reply id, (reply, id) ∈ messenger.awaited ↔ Waits history reply id
  /-- No reply is awaited twice. -/
  awaited_once : (messenger.awaited.map (·.1)).Nodup
  /-- There is one entry for each reply that is awaited, under its id, and no entry else. -/
  keys : (messenger.awaited.map (·.2)).Perm messenger.table.entries.keys
  /-- An entry leads to the waiter of the reply that waits under its id, -/
  owner : ∀ id waiter, messenger.table.entries.get? id = some waiter ↔
    ∃ reply, Waits history reply id ∧ messenger.waiter? reply = some waiter
  /-- and an answer can still come to it. -/
  vacant : ∀ id waiter, messenger.table.entries.get? id = some waiter → messenger.table.mailbox waiter = .vacant
  /-- Dropping a reply takes out its own entry, if that is still there, and no other. -/
  dropping : ∀ reply id waiter, (messenger.abandon reply).table.entries.get? id = some waiter ↔
    messenger.table.entries.get? id = some waiter ∧ ¬ Waits history reply id
  /-- So does polling it from its deadline on, -/
  overdue : ∀ reply later, messenger.IsOverdue later reply → ∀ id waiter,
    (messenger.poll later reply).1.table.entries.get? id = some waiter ↔
      messenger.table.entries.get? id = some waiter ∧ ¬ Waits history reply id
  /-- which is told of a reply that waited until then. -/
  timeout : ∀ reply id later, Waits history reply id → messenger.IsOverdue later reply →
    (messenger.poll later reply).2 = some (.error (.timeout id))
  /-- A poll before the deadline takes out nothing. -/
  timely : ∀ reply later, ¬ messenger.IsOverdue later reply →
    (messenger.poll later reply).1.table.entries = messenger.table.entries

/-- After every run of a messenger its table holds exactly what is awaited. -/
theorem balanced_of_run (run : Run limit draw history now messenger) : messenger.Balanced history := by
  have tracks := run.tracks
  have sound := tracks.sound
  constructor
  case awaited_iff =>
    intro reply id
    rw [mem_awaited_iff, tracks.waiting_iff]
  case awaited_once => exact messenger.nodup_awaited
  case keys => exact sound.awaited_perm_keys
  case owner =>
    intro id waiter
    simp only [sound.entry_iff, tracks.waiting_iff]
  case vacant =>
    intro id waiter entry
    exact sound.mailbox_of_entry entry
  case dropping =>
    intro reply id waiter
    rw [sound.entries_abandon, Ne, tracks.waiting_iff]
  case overdue =>
    intro reply later overdue id waiter
    by_cases waits : ∃ name, messenger.fate reply = some (.waiting name)
    · obtain ⟨name, waits⟩ := waits
      rw [poll_of_isOverdue waits overdue, sound.entries_abandon, Ne, tracks.waiting_iff]
    · have idle : ∀ name, messenger.fate reply ≠ some (.waiting name) := fun name held => waits ⟨name, held⟩
      rw [entries_poll_of_timely fun name held => absurd held (idle name), and_iff_left]
      rw [← tracks.waiting_iff]
      exact idle id
  case timeout =>
    intro reply id later waits overdue
    rw [poll_of_isOverdue ((tracks.waiting_iff reply id).mpr waits) overdue]
  case timely =>
    intro reply later early
    exact entries_poll_of_timely fun _ _ => early

/-- A request under an id, its answer, a request under the same id again, and the first reply dropped. -/
def reclaimedHistory : List ExchangeEvent :=
  [.sent 0 "a", .handled ⟨.response, .avatar, some (carrying "a"), none⟩ .handled, .sent 1 "a", .dropped 0]

/-- The second request keeps its entry when the first reply is dropped. It loses it when it is polled at
its deadline, but not before. -/
theorem balanced_reclaimed : ∃ messenger : Messenger Unit,
    Run (some 5) (fun _ => "") reclaimedHistory 3 messenger ∧ messenger.Balanced reclaimedHistory ∧
      messenger.awaited = [(1, "a")] ∧ messenger.table.entries.keys = ["a"] ∧
      ¬ messenger.IsOverdue 7 1 ∧ messenger.IsOverdue 8 1 ∧
      (messenger.poll 8 1).1.table.entries.keys = [] := by
  have start : Run (some 5) (fun _ => "") [] 0 ({ limit := some 5, draw := fun _ => "" } : Messenger Unit) :=
    .start 0
  have attached := start.step (.attach ())
  have first := attached.step
    (.sent (rfl : send _ 0 none ⟨.request, .avatar, some (carrying "a"), none⟩ = (_, .ok _)))
  have answered := first.step
    (.dispatch (fun (_ : Unit) _ => ((), .handled)) () ⟨.response, .avatar, some (carrying "a"), none⟩)
  have later := answered.step (.pass (by decide : 0 ≤ 3))
  have second := later.step
    (.sent (rfl : send _ 3 none ⟨.request, .avatar, some (carrying "a"), none⟩ = (_, .ok _)))
  have run := second.step (.drop 0)
  refine ⟨_, run, balanced_of_run run, by decide +kernel, by decide +kernel, ?_, ⟨_, rfl, by decide⟩, by decide +kernel⟩
  rintro ⟨expected, found, past⟩
  cases found
  exact absurd past (by decide)

end RelayClient.Messenger
