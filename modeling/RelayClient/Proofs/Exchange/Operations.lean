import RelayClient.Proofs.Exchange.Fate

/-!
# Operations of a messenger on fates

For each operation of a messenger: that it keeps the messenger sound, and the
fate of every expected reply after it.
-/

namespace RelayClient.Messenger

variable {κ : Type} {messenger : Messenger κ}

/-! ## Giving up all requests -/

theorem table_clear (messenger : Messenger κ) : messenger.clear.1.table = messenger.table.clear.1 := rfl

/-- The waiter of a reply has an entry exactly while the reply waits. -/
theorem mem_values_iff (sound : messenger.Sound) {reply : Nat} {expected : ExpectedReply}
    (found : messenger.replies[reply]? = some expected) :
    expected.waiter ∈ messenger.table.entries.values ↔
      ∃ id, expected.fate messenger.table = .waiting id := by
  rw [Dictionary.mem_values_iff]
  refine exists_congr fun id => ?_
  rw [sound.entry_iff]
  constructor
  · rintro ⟨other, waits, same⟩
    rw [sound.waiter_inj other reply _ same (waiter?_of_getElem found), fate_of_getElem found] at waits
    exact Option.some.inj waits
  · intro waits
    exact ⟨reply, by rw [fate_of_getElem found, waits], waiter?_of_getElem found⟩

theorem fate_clear (sound : messenger.Sound) (reply : Nat) :
    messenger.clear.1.fate reply = (messenger.fate reply).map Fate.giveUp := by
  cases found : messenger.replies[reply]? with
  | none =>
      have gone : messenger.clear.1.replies[reply]? = none := found
      simp [fate, found, gone]
  | some expected =>
      have kept : messenger.clear.1.replies[reply]? = some expected := found
      have held := mem_values_iff sound found
      rw [fate_of_getElem found, fate_of_getElem kept, Option.map_some, Option.some.injEq]
      unfold ExpectedReply.fate at held ⊢
      rw [table_clear, PendingTable.mailbox_clear]
      cases finished : expected.finished <;>
        cases current : messenger.table.mailbox expected.waiter <;>
        simp_all [Mailbox.close, Mailbox.fate, Fate.giveUp]

theorem Sound.clear (sound : messenger.Sound) : messenger.clear.1.Sound := by
  have length : messenger.clear.1.table.mailboxes.length = messenger.table.mailboxes.length :=
    messenger.table.length_clear
  refine sound.of_removal (fun _ => True) (fun _ => rfl) (Nat.le_of_eq length.symm) (fun id waiter => ?_) fun reply id => ?_
  · simp [table_clear, PendingTable.entries_clear]
  · rw [fate_clear sound]
    cases messenger.fate reply with
    | none => simp
    | some fate => cases fate <;> simp [Fate.giveUp]

/-! ## Answering -/

theorem replies_settle (messenger : Messenger κ) (message : Message) (outcome : Outcome) :
    (messenger.settle message outcome).replies = messenger.replies := by
  unfold settle
  split <;> rfl

/-- A message that answers nothing that waits changes nothing at all. -/
theorem settle_eq_self (sound : messenger.Sound) {message : Message} {outcome : Outcome}
    (idle : ∀ id, message.temporaryId? = some id → ∀ reply, messenger.fate reply ≠ some (.waiting id)) :
    messenger.settle message outcome = messenger := by
  unfold settle
  split
  · rename_i reply id _ carried
    rw [PendingTable.resolve, PendingTable.takeOut_of_none (sound.get?_eq_none (idle id carried))]
  · rfl

/-- A message that was not taken changes nothing. -/
theorem settle_of_replyOf_none {message : Message} {outcome : Outcome}
    (silent : message.replyOf outcome = none) : messenger.settle message outcome = messenger := by
  simp [settle, silent]

/-- An answer takes the entry of its id out and delivers to the waiter there. -/
theorem table_settle (messenger : Messenger κ) {message : Message} {outcome : Outcome} {answer : Reply} {id : String}
    (answered : message.replyOf outcome = some answer) (carried : message.temporaryId? = some id) :
    (messenger.settle message outcome).table =
      (messenger.table.takeOut id (Mailbox.deliver answer)).1 := by
  simp only [settle, answered, carried, PendingTable.resolve]

/-- The mailbox of a waiter stays unless its reply waits under the id of an answer. -/
theorem mailbox_settle_of_foreign (sound : messenger.Sound) {message : Message} {outcome : Outcome}
    {reply : Nat} {expected : ExpectedReply} (found : messenger.replies[reply]? = some expected)
    (foreign : ∀ answer id, message.replyOf outcome = some answer → message.temporaryId? = some id →
      expected.fate messenger.table ≠ .waiting id) :
    (messenger.settle message outcome).table.mailbox expected.waiter =
      messenger.table.mailbox expected.waiter := by
  cases answered : message.replyOf outcome with
  | none => simp [settle, answered]
  | some answer =>
      cases carried : message.temporaryId? with
      | none => simp [settle, carried]
      | some id =>
          rw [messenger.table_settle answered carried]
          cases entry : messenger.table.entries.get? id with
          | none => rw [PendingTable.takeOut_of_none entry]
          | some waiter =>
              obtain ⟨holder, waits, held⟩ := (sound.entry_iff id waiter).mp entry
              rw [PendingTable.mailbox_takeOut entry (sound.waiter_lt holder waiter held), if_neg]
              intro same
              rw [sound.waiter_inj holder reply waiter held (same ▸ waiter?_of_getElem found),
                fate_of_getElem found] at waits
              exact foreign answer id answered carried (Option.some.inj waits)

/-- A handled message answers the reply that waits under its id, and no other. -/
theorem fate_settle (sound : messenger.Sound) (message : Message) (outcome : Outcome) (reply : Nat) :
    (messenger.settle message outcome).fate reply = (messenger.fate reply).map (Fate.hear message outcome) := by
  cases found : messenger.replies[reply]? with
  | none => simp [fate, replies_settle, found]
  | some expected =>
      rw [fate_of_getElem found, fate_of_getElem (by rw [replies_settle, found]), Option.map_some,
        Option.some.injEq]
      by_cases addressed : ∃ answer id, message.replyOf outcome = some answer ∧
          message.temporaryId? = some id ∧ expected.fate messenger.table = .waiting id
      · obtain ⟨answer, id, answered, carried, waits⟩ := addressed
        have entry := (sound.entry_iff id expected.waiter).mpr
          ⟨reply, by rw [fate_of_getElem found, waits], waiter?_of_getElem found⟩
        have inside := sound.waiter_lt reply _ (waiter?_of_getElem found)
        obtain ⟨waiting, box, -⟩ := (expected.fate_eq_waiting_iff messenger.table id).mp waits
        rw [waits, messenger.table_settle answered carried, ExpectedReply.fate, waiting,
          PendingTable.mailbox_takeOut entry inside]
        simp [box, Mailbox.deliver, Mailbox.fate, Fate.hear, answered, carried]
      · rw [Fate.hear_eq_self]
        · exact expected.fate_congr (mailbox_settle_of_foreign sound found
            fun answer id answered carried waits => addressed ⟨answer, id, answered, carried, waits⟩)
        · intro id waits
          cases answered : message.replyOf outcome with
          | none => exact .inl rfl
          | some answer => exact .inr fun carried => addressed ⟨answer, id, answered, carried, waits⟩

theorem Sound.settle (sound : messenger.Sound) (message : Message) (outcome : Outcome) :
    (messenger.settle message outcome).Sound := by
  cases answered : message.replyOf outcome with
  | none => rwa [settle_of_replyOf_none answered]
  | some answer =>
      cases carried : message.temporaryId? with
      | none => rwa [settle_eq_self sound (by simp [carried])]
      | some id =>
          have table := messenger.table_settle answered carried
          refine sound.of_removal (· = id) (fun reply => ?_) ?_ (fun other waiter => ?_) fun reply other => ?_
          · simp [waiter?, replies_settle]
          · rw [table]
            exact Nat.le_of_eq (PendingTable.length_takeOut _ _ _).symm
          · rw [table, PendingTable.entries_takeOut]
            by_cases same : other = id <;> simp [same]
          · rw [fate_settle sound, Option.map_eq_some_iff]
            constructor
            · rintro ⟨former, before, after⟩
              obtain ⟨rfl, silent | distinct⟩ := (former.hear_eq_waiting_iff message outcome other).mp after
              · rw [answered] at silent; cases silent
              · exact ⟨fun same => distinct (same ▸ carried), before⟩
            · rintro ⟨distinct, before⟩
              refine ⟨_, before, (Fate.hear_eq_waiting_iff _ message outcome other).mpr ⟨rfl, .inr ?_⟩⟩
              rw [carried]
              exact fun same => distinct (Option.some.inj same).symm

/-! ## Leaving -/

theorem waiter?_finish (messenger : Messenger κ) (reply other : Nat) :
    (messenger.finish reply).waiter? other = messenger.waiter? other := by
  simp only [waiter?, finish]
  by_cases same : reply = other
  · subst same
    simp [Function.comp_def]
  · rw [List.getElem?_modify_ne _ _ same]

/-- Finishing a reply changes its fate alone. -/
theorem fate_finish (messenger : Messenger κ) (reply other : Nat) :
    (messenger.finish reply).fate other =
      if other = reply then (messenger.fate other).map fun _ => .finished else messenger.fate other := by
  simp only [fate, finish]
  by_cases same : other = reply
  · subst same
    simp [Function.comp_def, ExpectedReply.fate]
  · rw [if_neg same, List.getElem?_modify_ne _ _ (Ne.symm same)]

theorem Sound.waiter_ne (sound : messenger.Sound) {reply other : Nat} {expected another : ExpectedReply}
    (found : messenger.replies[reply]? = some expected)
    (foundToo : messenger.replies[other]? = some another) (distinct : other ≠ reply) :
    another.waiter ≠ expected.waiter := fun same =>
  distinct (sound.waiter_inj other reply _ (waiter?_of_getElem foundToo) (same ▸ waiter?_of_getElem found))

/-- Finishing a reply changes its fate alone, whatever becomes of its own mailbox. -/
theorem fate_of_finish (sound : messenger.Sound) {after : Messenger κ} {reply : Nat} {expected : ExpectedReply}
    (found : messenger.replies[reply]? = some expected) (replies : after.replies = (messenger.finish reply).replies)
    (boxes : ∀ waiter, waiter ≠ expected.waiter → after.table.mailbox waiter = messenger.table.mailbox waiter)
    (other : Nat) : after.fate other =
      if other = reply then (messenger.fate other).map fun _ => .finished else messenger.fate other := by
  rw [← fate_finish, fate, fate, replies]
  refine Option.map_congr fun another foundToo => ?_
  by_cases same : other = reply
  · subst same
    rw [finish, List.getElem?_modify_eq, found] at foundToo
    cases foundToo
    simp [ExpectedReply.fate]
  · rw [finish, List.getElem?_modify_ne _ _ (Ne.symm same)] at foundToo
    exact another.fate_congr (boxes _ (sound.waiter_ne found foundToo same))

/-- A waiter that leaves while its reply waits takes its entry out of the table. -/
theorem evictAbandoned_of_waiting (sound : messenger.Sound) {reply : Nat} {expected : ExpectedReply}
    (found : messenger.replies[reply]? = some expected)
    (waits : messenger.fate reply = some (.waiting expected.id)) :
    (messenger.table.abandon expected.waiter).evictAbandoned expected.id =
      (messenger.table.abandon expected.waiter).evict expected.id := by
  have inside := sound.waiter_lt reply _ (waiter?_of_getElem found)
  have entry := (sound.entry_iff _ _).mpr ⟨reply, waits, waiter?_of_getElem found⟩
  have gone : ((messenger.table.abandon expected.waiter).mailbox expected.waiter).isClosed = true := by
    rw [PendingTable.abandon, PendingTable.mailbox_change _ _ inside, if_pos rfl]
    rfl
  exact PendingTable.evictAbandoned_of_closed entry gone

/-- A waiter that leaves later takes no entry out: one under its id is that of a
later request, whose mailbox is vacant. -/
theorem evictAbandoned_of_idle (sound : messenger.Sound) {reply : Nat} {expected : ExpectedReply}
    (found : messenger.replies[reply]? = some expected)
    (idle : messenger.fate reply ≠ some (.waiting expected.id)) :
    (messenger.table.abandon expected.waiter).evictAbandoned expected.id =
      (messenger.table.abandon expected.waiter, false) := by
  refine PendingTable.evictAbandoned_of_open fun waiter entry => ?_
  obtain ⟨holder, holds, held⟩ := (sound.entry_iff expected.id waiter).mp entry
  obtain ⟨another, foundToo, -, box, -⟩ := exists_of_fate_waiting holds
  have distinct : holder ≠ reply := fun same => idle (same ▸ holds)
  have registered := waiter?_of_getElem foundToo
  rw [held] at registered
  cases registered
  rw [PendingTable.abandon, PendingTable.mailbox_change_of_ne _ _
    (sound.waiter_ne found foundToo distinct), box]
  rfl

/-- The table once a reply was left: its own entry is gone, and no other. -/
theorem table_abandon (sound : messenger.Sound) {reply : Nat} {expected : ExpectedReply}
    (found : messenger.replies[reply]? = some expected) (running : expected.finished = false) :
    (messenger.abandon reply).table.mailboxes.length = messenger.table.mailboxes.length ∧
      (∀ waiter, waiter ≠ expected.waiter →
        (messenger.abandon reply).table.mailbox waiter = messenger.table.mailbox waiter) ∧
      ∀ id waiter, (messenger.abandon reply).table.entries.get? id = some waiter ↔
        messenger.fate reply ≠ some (.waiting id) ∧ messenger.table.entries.get? id = some waiter := by
  have table : (messenger.abandon reply).table =
      ((messenger.table.abandon expected.waiter).evictAbandoned expected.id).1 := by
    simp [Messenger.abandon, found, running]
  rw [table]
  by_cases waits : messenger.fate reply = some (.waiting expected.id)
  · have inside : expected.waiter < (messenger.table.abandon expected.waiter).mailboxes.length := by
      rw [PendingTable.abandon, PendingTable.length_change]
      exact sound.waiter_lt reply _ (waiter?_of_getElem found)
    have entry : (messenger.table.abandon expected.waiter).entries.get? expected.id = some expected.waiter :=
      (sound.entry_iff _ _).mpr ⟨reply, waits, waiter?_of_getElem found⟩
    rw [evictAbandoned_of_waiting sound found waits, PendingTable.evict]
    refine ⟨?_, fun waiter distinct => ?_, fun id waiter => ?_⟩
    · rw [PendingTable.length_takeOut, PendingTable.abandon, PendingTable.length_change]
    · rw [PendingTable.mailbox_takeOut entry inside, if_neg distinct, PendingTable.abandon,
        PendingTable.mailbox_change_of_ne _ _ distinct]
    · rw [PendingTable.entries_takeOut, waits]
      by_cases same : id = expected.id
      · simp [same]
      · simp [same, Ne.symm same, PendingTable.abandon]
  · rw [evictAbandoned_of_idle sound found waits]
    refine ⟨PendingTable.length_change .., fun waiter distinct => ?_, fun id waiter => ?_⟩
    · exact PendingTable.mailbox_change_of_ne _ _ distinct
    · refine ⟨fun entry => ⟨fun waitsToo => ?_, entry⟩, fun kept => kept.2⟩
      obtain ⟨another, foundToo, -, -, rfl⟩ := exists_of_fate_waiting waitsToo
      rw [found] at foundToo
      cases foundToo
      exact waits waitsToo

theorem replies_abandon {reply : Nat} {expected : ExpectedReply}
    (found : messenger.replies[reply]? = some expected) (running : expected.finished = false) :
    (messenger.abandon reply).replies = (messenger.finish reply).replies := by
  simp [Messenger.abandon, found, running]

/-- A reply that is finished or was never expected cannot be left. -/
theorem abandon_eq_self {reply : Nat}
    (finished : ∀ expected, messenger.replies[reply]? = some expected → expected.finished = true) :
    messenger.abandon reply = messenger := by
  unfold Messenger.abandon
  split
  · rfl
  · rename_i expected found
    rw [if_pos (finished expected found)]

/-- Leaving finishes a reply, and touches no other. -/
theorem fate_abandon (sound : messenger.Sound) (reply other : Nat) :
    (messenger.abandon reply).fate other =
      if other = reply then (messenger.fate other).map fun _ => .finished else messenger.fate other := by
  by_cases running : ∃ expected, messenger.replies[reply]? = some expected ∧ expected.finished = false
  · obtain ⟨expected, found, running⟩ := running
    exact fate_of_finish sound found (replies_abandon found running) (table_abandon sound found running).2.1 other
  · have finished : ∀ expected, messenger.replies[reply]? = some expected → expected.finished = true :=
      fun expected found => by simpa using fun running' => running ⟨expected, found, running'⟩
    rw [abandon_eq_self finished]
    by_cases same : other = reply
    · subst same
      cases found : messenger.replies[other]? with
      | none => simp [fate, found]
      | some expected => simp [fate, found, ExpectedReply.fate, finished expected found]
    · simp [same]

theorem Sound.abandon (sound : messenger.Sound) (reply : Nat) : (messenger.abandon reply).Sound := by
  by_cases running : ∃ expected, messenger.replies[reply]? = some expected ∧ expected.finished = false
  · obtain ⟨expected, found, running⟩ := running
    obtain ⟨length, -, entries⟩ := table_abandon sound found running
    refine sound.of_removal (fun id => messenger.fate reply = some (.waiting id)) (fun other => ?_)
      (Nat.le_of_eq length.symm) entries fun other id => ?_
    · rw [← waiter?_finish messenger reply, waiter?, waiter?, replies_abandon found running]
    · rw [fate_abandon sound]
      by_cases same : other = reply
      · subst same
        simp
      · rw [if_neg same]
        exact ⟨fun waits => ⟨fun waitsToo => same (sound.waiting_inj waits waitsToo), waits⟩, fun kept => kept.2⟩
  · rwa [abandon_eq_self fun expected found => by
      simpa using fun running' => running ⟨expected, found, running'⟩]

end RelayClient.Messenger
