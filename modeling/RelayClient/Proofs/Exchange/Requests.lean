import RelayClient.Proofs.Exchange.Operations

/-!
# Requests and their replies

Sending a request adds one reply that waits, or none when it fails. Polling a
reply either changes nothing or finishes it, with a result that tells its fate.
-/

namespace RelayClient

open Pack (Value)

/-- What a reply comes to when it is polled. -/
def Reply.result : Reply → Except Failure Value
  | .ok data => .ok data
  | .rejected reason => .error (.rejected reason)

/-- The id of a message, looked up where a request finds it. -/
theorem Message.temporaryId?_eq (message : Message) :
    message.temporaryId? = ((message.args.getD .empty).get? temporaryIdKey).bind Value.text? := by
  obtain ⟨kind, subject, args, data⟩ := message
  cases args with
  | none => rfl
  | some args => rfl

/-- The message with an id as an argument. -/
def Message.under (message : Message) (id : String) : Message :=
  { message with args := some ((message.args.getD .empty).insert temporaryIdKey (.text id)) }

namespace Messenger

variable {κ : Type} {messenger : Messenger κ}

/-! ## Polling -/

/-- What polling a reply can come to: the messenger after it, and the result. -/
inductive Polled (messenger : Messenger κ) (reply : Nat) :
    Messenger κ × Option (Except Failure Value) → Prop where
  | nothing : Polled messenger reply (messenger, none)
  | answered {expected : ExpectedReply} {answer : Reply}
      (found : messenger.replies[reply]? = some expected)
      (fate : expected.fate messenger.table = .answered answer) :
      Polled messenger reply
        ({ messenger.finish reply with table := messenger.table.change expected.waiter fun _ => .closed },
          some answer.result)
  | stopped (fate : messenger.fate reply = some .stopped) :
      Polled messenger reply (messenger.finish reply, some (.error .stopped))
  | late {id : String} (fate : messenger.fate reply = some (.waiting id)) :
      Polled messenger reply (messenger.abandon reply, some (.error (.timeout id)))

theorem polled_poll (messenger : Messenger κ) (now reply : Nat) :
    Polled messenger reply (messenger.poll now reply) := by
  cases found : messenger.replies[reply]? with
  | none => simpa [poll, found] using Polled.nothing
  | some expected =>
      cases finished : expected.finished with
      | true => simpa [poll, found, finished] using Polled.nothing
      | false =>
          have fate : messenger.fate reply =
              some ((messenger.table.mailbox expected.waiter).fate expected.id) := by
            simp [Messenger.fate, found, ExpectedReply.fate, finished]
          cases box : messenger.table.mailbox expected.waiter with
          | vacant =>
              rw [box] at fate
              by_cases late : expected.deadline.any (· ≤ now) = true
              · simpa [poll, found, finished, PendingTable.receive, box, late] using Polled.late fate
              · simpa [poll, found, finished, PendingTable.receive, box, late] using Polled.nothing
          | delivered answer =>
              have told : expected.fate messenger.table = .answered answer := by
                simp [ExpectedReply.fate, finished, box, Mailbox.fate]
              cases answer <;>
                simpa [poll, found, finished, PendingTable.receive, box, Reply.result] using
                  Polled.answered found told
          | closed =>
              rw [box] at fate
              simpa [poll, found, finished, PendingTable.receive, box] using Polled.stopped fate
          | abandoned =>
              rw [box] at fate
              simpa [poll, found, finished, PendingTable.receive, box] using Polled.stopped fate

/-- Taking a delivered answer finishes its reply, and touches no other. -/
theorem fate_take (sound : messenger.Sound) {reply : Nat} {expected : ExpectedReply}
    (found : messenger.replies[reply]? = some expected) (other : Nat) :
    ({ messenger.finish reply with
        table := messenger.table.change expected.waiter fun _ => .closed } : Messenger κ).fate other =
      if other = reply then (messenger.fate other).map fun _ => .finished else messenger.fate other := by
  refine fate_of_finish sound found ?_ (fun waiter distinct => ?_) other
  · rfl
  · exact PendingTable.mailbox_change_of_ne messenger.table _ distinct

/-- Finishing a reply that does not wait keeps a messenger sound, whatever becomes of its mailbox. -/
theorem Sound.finish_of_idle (sound : messenger.Sound) {after : Messenger κ} {reply : Nat}
    (idle : ∀ id, messenger.fate reply ≠ some (.waiting id))
    (replies : after.replies = (messenger.finish reply).replies)
    (entries : after.table.entries = messenger.table.entries)
    (length : after.table.mailboxes.length = messenger.table.mailboxes.length)
    (fates : ∀ other, after.fate other =
      if other = reply then (messenger.fate other).map fun _ => .finished else messenger.fate other) :
    after.Sound := by
  refine sound.of_removal (fun _ => False) (fun other => ?_) (Nat.le_of_eq length.symm)
    (fun id waiter => by simp [entries]) fun other id => ?_
  · rw [← waiter?_finish messenger reply, waiter?, waiter?, replies]
  · rw [fates]
    by_cases same : other = reply
    · subst same
      simp [idle id]
    · simp [same]

namespace Polled

variable {reply : Nat} {polled : Messenger κ × Option (Except Failure Value)}

/-- Polling finishes a reply if it tells a result, and otherwise changes nothing. -/
theorem fate (outcome : Polled messenger reply polled) (sound : messenger.Sound) (other : Nat) :
    polled.1.fate other =
      if other = reply ∧ polled.2.isSome then (messenger.fate other).map fun _ => .finished
      else messenger.fate other := by
  cases outcome with
  | nothing => simp
  | answered found told => simpa using fate_take sound found other
  | stopped told => simpa using fate_finish messenger reply other
  | late told => simpa using fate_abandon sound reply other

theorem sound (outcome : Polled messenger reply polled) (sound : messenger.Sound) : polled.1.Sound := by
  cases outcome with
  | nothing => exact sound
  | answered found told =>
      refine sound.finish_of_idle (fun id => ?_) rfl rfl (PendingTable.length_change ..) (fate_take sound found)
      rw [fate_of_getElem found, told]
      simp
  | stopped told =>
      exact sound.finish_of_idle (by simp [told]) rfl rfl rfl (fate_finish messenger reply)
  | late told => exact sound.abandon reply

/-- A result is told only of a reply that was expected and not finished. -/
theorem running (outcome : Polled messenger reply polled) (told : polled.2.isSome) :
    ∃ fate, messenger.fate reply = some fate ∧ fate ≠ .finished := by
  cases outcome with
  | nothing => cases told
  | answered found fate => exact ⟨_, by rw [fate_of_getElem found, fate], by simp⟩
  | stopped fate => exact ⟨_, fate, by simp⟩
  | late fate => exact ⟨_, fate, by simp⟩

/-- Data or a refusal is told only of a reply that was answered so. -/
theorem answer (outcome : Polled messenger reply polled) {answer : Reply}
    (told : polled.2 = some answer.result) : messenger.fate reply = some (.answered answer) := by
  cases outcome with
  | nothing => cases told
  | @answered expected given found fate =>
      have same : given = answer := by
        cases given <;> cases answer <;> simp_all [Reply.result]
      rw [fate_of_getElem found, fate, same]
  | stopped fate => cases answer <;> cases told
  | late fate => cases answer <;> cases told

end Polled

/-! ## Sending -/

theorem freshId_eq (drawn : Nat) :
    messenger.freshId drawn = (messenger.tryDraw drawn).elim messenger.freshId id := by
  rw [freshId, repeatM_eq_of_monadTail, repeatM.body, pure_bind]
  cases messenger.tryDraw drawn <;> rfl

/-- The id that is drawn is the first one drawn that is free. -/
theorem freshId_of_first {first number : Nat} (later : first ≤ number)
    (taken : ∀ earlier, first ≤ earlier → earlier < number → messenger.table.contains (messenger.draw earlier) = true)
    (free : messenger.table.contains (messenger.draw number) = false) :
    messenger.freshId first = ⟨messenger.draw number, number + 1, free⟩ := by
  obtain ⟨count, rfl⟩ := Nat.exists_eq_add_of_le later
  induction count generalizing first with
  | zero =>
      have found : ¬messenger.table.contains (messenger.draw first) = true := Bool.eq_false_iff.mp free
      rw [freshId_eq, tryDraw, dif_neg found]
      rfl
  | succ count ih =>
      have same : first + (count + 1) = first + 1 + count := by omega
      rw [freshId_eq, tryDraw, dif_pos (taken first (Nat.le_refl _) (by omega)), Sum.elim_inl]
      simp only [same] at free taken ⊢
      exact ih (by omega) (fun earlier above => taken earlier (by omega)) free

/-- A number whose draw is the first, of those still to come, that is not pending. -/
structure IsFirstFree (messenger : Messenger κ) (number : Nat) : Prop where
  later : messenger.drawn ≤ number
  taken : ∀ earlier, messenger.drawn ≤ earlier → earlier < number →
    messenger.table.contains (messenger.draw earlier) = true
  free : messenger.table.contains (messenger.draw number) = false

/-- A request without an id is sent as one that was given the first free id drawn. -/
theorem send_of_first {number : Nat} (first : messenger.IsFirstFree number) (now : Nat) (refusal : Option Failure)
    (message : Message) (asking : message.kind ≠ .response) (unnamed : message.temporaryId? = none) :
    messenger.send now refusal message = ({ messenger with drawn := number + 1 } : Messenger κ).send now refusal
      (message.under (messenger.draw number)) := by
  have still : (message.under (messenger.draw number)).kind ≠ .response := asking
  rw [Message.temporaryId?_eq] at unnamed
  rw [send, send, if_neg asking, if_neg still, correlate, unnamed]
  dsimp only [Message.under]
  rw [freshId_of_first first.later first.taken first.free, correlate, Option.getD_some, Dictionary.get?_insert,
    if_pos rfl]
  rfl

theorem correlate_table (messenger : Messenger κ) (args : Args) :
    (messenger.correlate args).1.table = messenger.table ∧
      (messenger.correlate args).1.replies = messenger.replies := by
  unfold correlate
  split <;> exact ⟨rfl, rfl⟩

/-- What sending a request can come to: the messenger after it, and the result. -/
inductive Sent (messenger : Messenger κ) :
    Messenger κ × Except Failure (SentRequest κ) → Prop where
  /-- Nothing was registered. -/
  | refused {after : Messenger κ} {failure : Failure} (table : after.table = messenger.table)
      (replies : after.replies = messenger.replies) : Sent messenger (after, .error failure)
  /-- A waiter was registered under a free id, and left at once. -/
  | failed {after : Messenger κ} {failure : Failure} {id : String}
      (free : messenger.table.entries.get? id = none)
      (table : after.table =
        ((PendingTable.mk (messenger.table.entries.insert id messenger.table.mailboxes.length)
          (messenger.table.mailboxes ++ [.vacant])).evict id).1.abandon messenger.table.mailboxes.length)
      (replies : after.replies = messenger.replies) : Sent messenger (after, .error failure)
  /-- A waiter was registered under a free id, and its reply is expected. -/
  | sent {after : Messenger κ} {request : SentRequest κ} {deadline : Option Nat}
      (free : messenger.table.entries.get? request.id = none)
      (table : after.table =
        PendingTable.mk (messenger.table.entries.insert request.id messenger.table.mailboxes.length)
          (messenger.table.mailboxes ++ [.vacant]))
      (number : request.reply = messenger.replies.length)
      (replies : after.replies = messenger.replies ++
        [⟨request.id, messenger.table.mailboxes.length, deadline, false⟩]) :
      Sent messenger (after, .ok request)

theorem sent_send (messenger : Messenger κ) (now : Nat) (refusal : Option Failure) (message : Message) :
    Sent messenger (messenger.send now refusal message) := by
  unfold send
  split
  · exact .refused rfl rfl
  · obtain ⟨table, replies⟩ := messenger.correlate_table (message.args.getD .empty)
    generalize messenger.correlate (message.args.getD .empty) = correlated at table replies
    obtain ⟨drawn, id, args⟩ := correlated
    simp only at table replies ⊢
    cases free : messenger.table.contains id with
    | true =>
        rw [table, PendingTable.register_of_contains free]
        exact .refused table replies
    | false =>
        rw [table, PendingTable.register_of_free free]
        have absent := (PendingTable.contains_eq_false_iff _ _).mp free
        cases drawn.post refusal with
        | error failure => exact .failed absent rfl replies
        | ok channel => exact .sent absent rfl (by simp [replies]) (by simp [replies]; rfl)

namespace Sent

variable {after : Messenger κ} {failure : Failure} {request : SentRequest κ}

/-- The mailboxes of waiters that registered before stay as they were. -/
theorem mailbox_registered (sound : messenger.Sound) {id : String} {reply : Nat} {expected : ExpectedReply}
    (found : messenger.replies[reply]? = some expected) :
    (PendingTable.mk (messenger.table.entries.insert id messenger.table.mailboxes.length)
      (messenger.table.mailboxes ++ [.vacant])).mailbox expected.waiter =
      messenger.table.mailbox expected.waiter := by
  rw [PendingTable.mailbox_append _ messenger.table.entries, if_neg]
  exact Nat.ne_of_lt (sound.waiter_lt reply _ (waiter?_of_getElem found))

/-- An id that was registered and given up at once leaves all entries as they were. -/
theorem entries_failed {table : PendingTable} {id : String} (free : table.entries.get? id = none) (other : String) :
    (((PendingTable.mk (table.entries.insert id table.mailboxes.length)
      (table.mailboxes ++ [.vacant])).evict id).1.abandon table.mailboxes.length).entries.get? other =
      table.entries.get? other := by
  change ((PendingTable.mk _ _).takeOut id Mailbox.close).1.entries.get? other = _
  rw [PendingTable.entries_takeOut, Dictionary.get?_insert]
  by_cases same : other = id
  · simp [same, free]
  · simp [same]

/-- A request that fails leaves all entries, and every older mailbox, as they were. -/
theorem table_failed (sound : messenger.Sound) {id : String}
    (free : messenger.table.entries.get? id = none) :
    let table := ((PendingTable.mk (messenger.table.entries.insert id messenger.table.mailboxes.length)
      (messenger.table.mailboxes ++ [.vacant])).evict id).1.abandon messenger.table.mailboxes.length
    (∀ other, table.entries.get? other = messenger.table.entries.get? other) ∧
      table.mailboxes.length = messenger.table.mailboxes.length + 1 ∧
      ∀ (reply : Nat) (expected : ExpectedReply), messenger.replies[reply]? = some expected →
        table.mailbox expected.waiter = messenger.table.mailbox expected.waiter := by
  have entry : (messenger.table.entries.insert id messenger.table.mailboxes.length).get? id =
      some messenger.table.mailboxes.length := by
    rw [Dictionary.get?_insert, if_pos rfl]
  refine ⟨entries_failed free, ?_, fun reply expected found => ?_⟩
  · rw [PendingTable.abandon, PendingTable.length_change, PendingTable.evict, PendingTable.length_takeOut]
    simp
  · have older := sound.waiter_lt reply _ (waiter?_of_getElem found)
    rw [PendingTable.abandon, PendingTable.mailbox_change_of_ne _ _ (Nat.ne_of_lt older),
      PendingTable.evict, PendingTable.mailbox_takeOut entry (by simp), if_neg (Nat.ne_of_lt older)]
    exact mailbox_registered sound found

theorem fate_error (outcome : Sent messenger (after, .error failure)) (sound : messenger.Sound)
    (reply : Nat) : after.fate reply = messenger.fate reply := by
  cases outcome with
  | refused table replies => exact fate_congr table replies reply
  | failed free table replies =>
      simp only [Messenger.fate, replies, table]
      exact Option.map_congr fun expected found =>
        expected.fate_congr ((table_failed sound free).2.2 reply expected found)

/-- A request that is sent waits under its id, and changes no other fate. -/
theorem fate_ok (outcome : Sent messenger (after, .ok request)) (sound : messenger.Sound) (reply : Nat) :
    after.fate reply = if reply = request.reply then some (.waiting request.id) else messenger.fate reply := by
  cases outcome with
  | sent free table number replies =>
      simp only [Messenger.fate, replies, table, number, getElem?_concat]
      by_cases newest : reply = messenger.replies.length
      · rw [if_pos newest, if_pos newest]
        simp [ExpectedReply.fate, PendingTable.mailbox_append _ messenger.table.entries, Mailbox.fate]
      · rw [if_neg newest, if_neg newest]
        exact Option.map_congr fun expected found =>
          expected.fate_congr (mailbox_registered sound found)

theorem sound_error (outcome : Sent messenger (after, .error failure)) (sound : messenger.Sound) :
    after.Sound := by
  have fates := outcome.fate_error sound
  cases outcome with
  | refused table replies => exact sound.congr table replies
  | failed free table replies =>
      obtain ⟨entries, length, -⟩ := table_failed sound free
      refine sound.of_removal (fun _ => False) (fun reply => by simp [waiter?, replies]) ?_
        (fun id waiter => ?_) fun reply id => by simp [fates]
      · rw [table, length]
        exact Nat.le_succ _
      · rw [table, entries]
        simp

theorem waiter?_ok (outcome : Sent messenger (after, .ok request)) (reply : Nat) :
    after.waiter? reply =
      if reply = request.reply then some messenger.table.mailboxes.length else messenger.waiter? reply := by
  cases outcome with
  | sent free table number replies =>
      simp only [waiter?, replies, number, getElem?_concat]
      split <;> rfl

/-- The new entry names the new reply, under an id that no other reply waits under. -/
theorem entry_iff_ok (outcome : Sent messenger (after, .ok request)) (sound : messenger.Sound) (id : String)
    (waiter : Nat) : after.table.entries.get? id = some waiter ↔
      ∃ reply, after.fate reply = some (.waiting id) ∧ after.waiter? reply = some waiter := by
  have fates := outcome.fate_ok sound
  have waiters := outcome.waiter?_ok
  cases outcome with
  | sent free table number replies =>
      rw [table, Dictionary.get?_insert]
      by_cases same : id = request.id
      · subst same
        rw [if_pos rfl]
        constructor
        · rintro ⟨rfl⟩
          exact ⟨request.reply, by rw [fates, if_pos rfl], by rw [waiters, if_pos rfl]⟩
        · rintro ⟨reply, waits, held⟩
          rw [fates] at waits
          rw [waiters] at held
          by_cases newest : reply = request.reply
          · rwa [if_pos newest] at held
          · rw [if_neg newest] at waits held
            have entry := (sound.entry_iff _ _).mpr ⟨reply, waits, held⟩
            rw [free] at entry
            cases entry
      · rw [if_neg same, sound.entry_iff]
        refine exists_congr fun reply => ?_
        rw [fates, waiters]
        by_cases newest : reply = request.reply
        · subst newest
          have absent : messenger.fate request.reply = none := by
            simp [Messenger.fate, number]
          simp [absent, Ne.symm same]
        · rw [if_neg newest, if_neg newest]

theorem sound_ok (outcome : Sent messenger (after, .ok request)) (sound : messenger.Sound) :
    after.Sound := by
  have waiters := outcome.waiter?_ok
  have fresh : ∀ reply, messenger.waiter? reply ≠ some messenger.table.mailboxes.length :=
    fun reply held => Nat.lt_irrefl _ (sound.waiter_lt reply _ held)
  refine ⟨outcome.entry_iff_ok sound, fun reply waiter held => ?_, fun first second waiter held heldToo => ?_⟩
  · have longer : after.table.mailboxes.length = messenger.table.mailboxes.length + 1 := by
      cases outcome with
      | sent free table number replies => rw [table, List.length_append, List.length_singleton]
    rw [waiters] at held
    rw [longer]
    split at held
    · cases held
      exact Nat.lt_succ_self _
    · exact Nat.lt_succ_of_lt (sound.waiter_lt reply waiter held)
  · rw [waiters] at held heldToo
    split at held <;> split at heldToo
    · next newest newestToo => exact newest.trans newestToo.symm
    · cases held
      exact absurd heldToo (fresh second)
    · cases heldToo
      exact absurd held (fresh first)
    · exact sound.waiter_inj first second waiter held heldToo

end Sent

end Messenger

end RelayClient
