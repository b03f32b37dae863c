import RelayClient.Proofs.Exchange.Registrations
import RelayClient.Proofs.Exchange.Table

/-!
# Waiters of the pending table

Calls of a pending table and of the receivers of its waiters may come in any order, and ids may be
used again. After any of them the table holds the registrations that no call has taken out, and each
receiver tells what has become of its own registration. So a waiter receives one reply at most,
that of the call that resolved its registration while its receiver was open, and a registration that
was taken out in any other way leaves its receiver closed.
-/

namespace RelayClient

/-- What the receiver of a mailbox tells. -/
def Mailbox.receipt : Mailbox → Receipt
  | .vacant => .empty
  | .delivered reply => .reply reply
  | .closed => .closed
  | .abandoned => .abandoned

namespace PendingTable

/-- Makes a call, and notes what it gave back. -/
def perform (table : PendingTable) : TableCall → PendingTable × TableNote
  | .register id =>
      match table.register id with
      | (after, .ok waiter) => (after, .registered id waiter)
      | (after, .error _) => (after, .refused id)
  | .resolve id reply =>
      let result := table.resolve id reply
      (result.1, .resolved id reply result.2)
  | .evict id =>
      let result := table.evict id
      (result.1, .evicted id result.2)
  | .evictAbandoned id =>
      let result := table.evictAbandoned id
      (result.1, .swept id result.2)
  | .clear =>
      let result := table.clear
      (result.1, .cleared result.2)
  | .drop waiter => (table.abandon waiter, .dropped waiter)
  | .close waiter => (table.close waiter, .closed waiter)
  | .receive waiter =>
      let result := table.receive waiter
      (result.1, .received waiter result.2)

/-- A result of a call that takes an id out: it tells whether the id was in the table, and leaves all others. -/
structure TakesOut (table : PendingTable) (id : String) (result : PendingTable × Bool) : Prop where
  told : result.2 = table.contains id
  entries : ∀ other, result.1.entries.get? other = if other = id then none else table.entries.get? other

theorem takesOut_takeOut (table : PendingTable) (id : String) (how : Mailbox → Mailbox) :
    table.TakesOut id (table.takeOut id how) where
  told := by
    rw [contains, Dictionary.contains]
    cases entry : table.entries.get? id with
    | none => rw [takeOut_of_none entry]; rfl
    | some waiter => rw [takeOut_of_some entry]; rfl
  entries := entries_takeOut table id how

theorem receive_snd (table : PendingTable) (waiter : Nat) :
    (table.receive waiter).2 = (table.mailbox waiter).receipt := by
  unfold receive
  cases table.mailbox waiter <;> rfl

/-- Only a reply is taken out of a mailbox, and leaves it closed. -/
theorem receive_fst (table : PendingTable) (waiter : Nat) :
    (table.receive waiter).1 = table ∧ (∀ reply, (table.mailbox waiter).receipt ≠ .reply reply) ∨
      ∃ reply, table.mailbox waiter = .delivered reply ∧
        (table.receive waiter).1 = table.change waiter fun _ => .closed := by
  unfold receive
  cases table.mailbox waiter with
  | delivered reply => exact .inr ⟨reply, rfl, rfl⟩
  | vacant | closed | abandoned => exact .inl ⟨rfl, nofun⟩

end PendingTable

namespace TableNote

variable {history : List TableNote} {note : TableNote} {id : String} {waiter : Nat} {box : Mailbox}

theorem sees_deliver (fits : Throughout Fits history) (held : IsRegistered history id waiter)
    (sees : Sees history waiter box.receipt) (reply : Reply) (found : Bool) :
    Sees (history ++ [.resolved id reply found]) waiter (box.deliver reply).receipt := by
  cases box with
  | vacant =>
      cases sees with
      | empty _ taking => exact (Ends.answered held taking).sees fits taking.isHere
  | delivered given =>
      cases sees with
      | reply answered => exact absurd ⟨id, held⟩ (answered.not_isPending fits)
  | closed =>
      cases sees with
      | closed here idle =>
          have ends : Ends history waiter (.resolved id reply found) none :=
            .released held rfl fun _ _ _ taking => idle ⟨⟨id, held⟩, taking⟩
          exact ends.sees fits here
  | abandoned =>
      cases sees with
      | abandoned gone => exact sees_of_gone gone (by simp)

theorem sees_close (fits : Throughout Fits history) (held : IsRegistered history id waiter)
    (sees : Sees history waiter box.receipt) (removes : note.Removes id)
    (otherwise : ∀ id reply found, note ≠ .resolved id reply found) :
    Sees (history ++ [note]) waiter box.close.receipt := by
  have ends : Ends history waiter note none :=
    .released held removes fun reply found same => absurd same (otherwise _ _ _)
  cases box with
  | vacant =>
      cases sees with
      | empty _ taking => exact ends.sees fits taking.isHere
  | delivered given =>
      cases sees with
      | reply answered => exact absurd ⟨id, held⟩ (answered.not_isPending fits)
  | closed =>
      cases sees with
      | closed here => exact ends.sees fits here
  | abandoned =>
      cases sees with
      | abandoned gone => exact sees_of_gone gone (removes.bystands waiter).unregistered

theorem sees_dropped : Sees (history ++ [.dropped waiter]) waiter .abandoned := by
  refine .abandoned fun here => ?_
  rcases isHere_concat_iff.mp here with registered | ⟨-, other⟩
  · simp at registered
  · exact other rfl

theorem not_isOpen_closed : ¬ IsOpen (history ++ [.closed waiter]) waiter := by
  intro taking
  rcases isOpen_concat_iff.mp taking with registered | ⟨-, unshut⟩
  · simp at registered
  · exact unshut (.inl rfl)

/-- A receiver that is closed keeps the reply that it has, and gets none any more. -/
theorem sees_closed (fits : Throughout Fits history) (sees : Sees history waiter box.receipt) :
    Sees (history ++ [.closed waiter]) waiter box.close.receipt := by
  have ended_iff {answer : Option Reply} :
      Ended (history ++ [.closed waiter]) waiter answer ↔ Ended history waiter answer := by
    refine ended_concat_iff.trans (or_iff_left fun ends => ?_)
    obtain ⟨id, -, removes⟩ := ends.exists_removes
    exact removes
  have here_iff : IsHere (history ++ [.closed waiter]) waiter ↔ IsHere history waiter := by
    simp [isHere_concat_iff]
  have received_iff : HasReceived (history ++ [.closed waiter]) waiter ↔ HasReceived history waiter := by
    simp [hasReceived_concat_iff]
  cases box with
  | vacant =>
      cases sees with
      | empty pending taking =>
          refine .closed (here_iff.mpr taking.isHere) (fun both => not_isOpen_closed both.2) fun reply ended => ?_
          exact absurd pending ((ended_iff.mp ended).not_isPending fits)
  | delivered given =>
      cases sees with
      | reply answered here untold =>
          exact .reply (ended_iff.mpr answered) (here_iff.mpr here) (mt received_iff.mp untold)
  | closed =>
      cases sees with
      | closed here _ spent =>
          refine .closed (here_iff.mpr here) (fun both => not_isOpen_closed both.2) fun reply ended => ?_
          exact received_iff.mpr (spent reply (ended_iff.mp ended))
  | abandoned =>
      cases sees with
      | abandoned gone => exact sees_of_gone gone (by simp)

/-- A receiver that gave its reply out is closed. -/
theorem sees_received (fits : Throughout Fits history) {reply : Reply} (sees : Sees history waiter (.reply reply)) :
    Sees (history ++ [.received waiter (.reply reply)]) waiter .closed := by
  have fitsToo : Throughout Fits (history ++ [.received waiter (.reply reply)]) := fits.concat sees
  cases sees with
  | reply answered here untold =>
      have ended : Ended (history ++ [.received waiter (.reply reply)]) waiter (some reply) :=
        ended_concat_iff.mpr (.inl answered)
      refine .closed ?_ (fun both => ended.not_isPending fitsToo both.1) fun _ _ => ?_
      · exact isHere_concat_iff.mpr (.inr ⟨here, by simp⟩)
      · exact hasReceived_concat_iff.mpr (.inr ⟨reply, rfl⟩)

end TableNote

/-- A pending table with the calls that were made so far. -/
structure TableTrace where
  table : PendingTable := {}
  history : List TableNote := []

namespace TableTrace

open TableNote

def call (trace : TableTrace) (made : TableCall) : TableTrace :=
  let result := trace.table.perform made
  ⟨result.1, trace.history ++ [result.2]⟩

/-- A new table after these calls. -/
def ofCalls (calls : List TableCall) : TableTrace :=
  calls.foldl call {}

/-- The table and the receivers are in step with the history. -/
structure IsAccurate (trace : TableTrace) : Prop where
  entry_iff : ∀ id waiter, trace.table.entries.get? id = some waiter ↔ IsRegistered trace.history id waiter
  known_iff : ∀ waiter, waiter < trace.table.mailboxes.length ↔ ∃ id, .registered id waiter ∈ trace.history
  sees : ∀ waiter, Sees trace.history waiter (trace.table.mailbox waiter).receipt
  fits : Throughout Fits trace.history

namespace IsAccurate

variable {trace : TableTrace} {note : TableNote} {id : String} {waiter : Nat}

theorem start : IsAccurate {} where
  entry_iff _ _ := iff_of_false nofun not_stands_nil
  known_iff _ := iff_of_false (Nat.not_lt_zero _) nofun
  sees _ := .abandoned not_stands_nil
  fits := throughout_nil

theorem inside (accurate : trace.IsAccurate) (entry : trace.table.entries.get? id = some waiter) :
    waiter < trace.table.mailboxes.length :=
  (accurate.known_iff waiter).mpr ⟨id, ((accurate.entry_iff id waiter).mp entry).mem⟩

/-- The waiter that comes next was not made before. -/
theorem unused (accurate : trace.IsAccurate) (id : String) :
    .registered id trace.table.mailboxes.length ∉ trace.history :=
  fun known => Nat.lt_irrefl _ ((accurate.known_iff _).mpr ⟨id, known⟩)

/-- What a call has to keep in step. -/
theorem extend (accurate : trace.IsAccurate) {after : PendingTable}
    (entries : ∀ id waiter, after.entries.get? id = some waiter ↔
      note = .registered id waiter ∨ trace.table.entries.get? id = some waiter ∧ ¬ note.Removes id)
    (known : ∀ waiter,
      waiter < after.mailboxes.length ↔ waiter < trace.table.mailboxes.length ∨ note.Registers waiter)
    (sees : ∀ waiter, Sees (trace.history ++ [note]) waiter (after.mailbox waiter).receipt)
    (fits : Fits trace.history note) : IsAccurate ⟨after, trace.history ++ [note]⟩ where
  entry_iff id waiter := by rw [entries, accurate.entry_iff, isRegistered_concat_iff]
  known_iff waiter := by
    rw [known, accurate.known_iff, Registers, ← exists_or]
    simp only [List.mem_append, List.mem_singleton, eq_comm]
  sees := sees
  fits := accurate.fits.concat fits

/-- A call that concerns no waiter. -/
theorem silent (accurate : trace.IsAccurate) (bystands : ∀ waiter, note.Bystands waiter)
    (kept : ∀ id, ¬ note.Removes id) (fits : Fits trace.history note) :
    IsAccurate ⟨trace.table, trace.history ++ [note]⟩ := by
  refine accurate.extend ?_ ?_ ?_ fits
  · intro id waiter
    rw [and_iff_left (kept id), or_iff_right fun same => (bystands waiter).unregistered ⟨id, same⟩]
  · intro waiter
    rw [or_iff_left (bystands waiter).unregistered]
  · intro waiter
    exact Spares.sees ⟨bystands waiter, fun id _ => kept id⟩ (accurate.sees waiter)

theorem register (accurate : trace.IsAccurate) (id : String) : (trace.call (.register id)).IsAccurate := by
  rw [call, PendingTable.perform]
  cases taken : trace.table.contains id with
  | true =>
      rw [PendingTable.register_of_contains taken]
      exact accurate.silent (fun _ => by constructor <;> simp) (by simp) trivial
  | false =>
      rw [PendingTable.register_of_free taken]
      dsimp only
      refine accurate.extend ?_ ?_ ?_ accurate.unused
      · intro other waiter
        have absent : trace.table.entries.get? id = none := (PendingTable.contains_eq_false_iff _ _).mp taken
        rw [Dictionary.get?_insert]
        by_cases same : other = id
        · subst same
          simp [absent]
        · simp [same, Ne.symm same]
      · intro waiter
        simp only [List.length_append, List.length_singleton, Nat.lt_succ_iff_lt_or_eq, Registers, registered.injEq,
          exists_eq_left', eq_comm]
      · intro waiter
        rw [PendingTable.mailbox_append _ trace.table.entries]
        split
        · next newest =>
            subst newest
            have registered : Registers trace.table.mailboxes.length (.registered id trace.table.mailboxes.length) :=
              ⟨id, rfl⟩
            exact .empty ⟨id, isRegistered_concat_iff.mpr (.inl rfl)⟩ (isOpen_concat_iff.mpr (.inl registered))
        · next other =>
            refine Spares.sees ⟨⟨?_, by simp, by simp⟩, by simp⟩ (accurate.sees waiter)
            rintro ⟨name, same⟩
            cases same
            exact other rfl

/-- Taking an id out ends the registration of its waiter, and concerns no other. -/
theorem takeOut (accurate : trace.IsAccurate) (id : String) (how : Mailbox → Mailbox)
    (removes_iff : ∀ other, note.Removes other ↔ other = id)
    (settles : ∀ waiter box, IsRegistered trace.history id waiter → Sees trace.history waiter box.receipt →
      Sees (trace.history ++ [note]) waiter (how box).receipt) :
    IsAccurate ⟨(trace.table.takeOut id how).1, trace.history ++ [note]⟩ := by
  have removes : note.Removes id := (removes_iff id).mpr rfl
  have bystands := removes.bystands
  have spares (waiter : Nat) (other : ¬ IsRegistered trace.history id waiter) : Spares trace.history waiter note :=
    ⟨bystands waiter, fun name held removed => other ((removes_iff name).mp removed ▸ held)⟩
  refine accurate.extend ?_ ?_ ?_ (removes.fits trace.history)
  · intro other waiter
    rw [PendingTable.entries_takeOut, removes_iff,
      or_iff_right fun same => (bystands waiter).unregistered ⟨other, same⟩]
    split
    · next same => simp [same]
    · next distinct => simp [distinct]
  · intro waiter
    rw [PendingTable.length_takeOut, or_iff_left (bystands waiter).unregistered]
  · intro waiter
    cases entry : trace.table.entries.get? id with
    | none =>
        rw [PendingTable.takeOut_of_none entry]
        refine (spares waiter fun held => ?_).sees (accurate.sees waiter)
        rw [(accurate.entry_iff id waiter).mpr held] at entry
        cases entry
    | some holder =>
        rw [PendingTable.mailbox_takeOut entry (accurate.inside entry)]
        split
        · next same =>
            subst same
            exact settles waiter _ ((accurate.entry_iff id waiter).mp entry) (accurate.sees waiter)
        · next distinct =>
            refine (spares waiter fun held => distinct ?_).sees (accurate.sees waiter)
            exact Option.some.inj (((accurate.entry_iff id waiter).mpr held).symm.trans entry)

theorem resolve (accurate : trace.IsAccurate) (id : String) (reply : Reply) :
    (trace.call (.resolve id reply)).IsAccurate :=
  accurate.takeOut id (Mailbox.deliver reply) (fun _ => eq_comm) fun _ _ held sees =>
    sees_deliver accurate.fits held sees reply _

/-- Giving up the registration under an id, however that is noted, closes its receiver. -/
theorem giveUp (accurate : trace.IsAccurate) (id : String) (removes_iff : ∀ other, note.Removes other ↔ other = id)
    (otherwise : ∀ id reply found, note ≠ .resolved id reply found) :
    IsAccurate ⟨(trace.table.evict id).1, trace.history ++ [note]⟩ :=
  accurate.takeOut id Mailbox.close removes_iff fun _ _ held sees =>
    sees_close accurate.fits held sees ((removes_iff id).mpr rfl) otherwise

theorem evict (accurate : trace.IsAccurate) (id : String) : (trace.call (.evict id)).IsAccurate := by
  rw [call, PendingTable.perform]
  exact accurate.giveUp id (by simp [eq_comm]) (by simp)

/-- The mailbox of a registration is closed just if its waiter has dropped or closed the receiver. -/
theorem isClosed_iff (accurate : trace.IsAccurate) (held : IsRegistered trace.history id waiter) :
    (trace.table.mailbox waiter).isClosed = true ↔ ¬ IsOpen trace.history waiter := by
  have sees := accurate.sees waiter
  cases box : trace.table.mailbox waiter with
  | vacant =>
      rw [box] at sees
      cases sees with
      | empty _ taking => exact iff_of_false nofun (not_not_intro taking)
  | delivered reply =>
      rw [box] at sees
      cases sees with
      | reply answered => exact absurd ⟨id, held⟩ (answered.not_isPending accurate.fits)
  | closed =>
      rw [box] at sees
      cases sees with
      | closed _ idle => exact iff_of_true rfl fun taking => idle ⟨⟨id, held⟩, taking⟩
  | abandoned =>
      rw [box] at sees
      cases sees with
      | abandoned gone => exact iff_of_true rfl fun taking => gone taking.isHere

/-- The id of a registration whose waiter has dropped or closed its receiver is taken out, any other stays. -/
theorem evictAbandoned_cases (accurate : trace.IsAccurate) (id : String) :
    (∃ waiter, IsRegistered trace.history id waiter ∧ ¬ IsOpen trace.history waiter) ∧
        trace.table.evictAbandoned id = trace.table.evict id ∧ (trace.table.evict id).2 = true ∨
      (∀ waiter, IsRegistered trace.history id waiter → IsOpen trace.history waiter) ∧
        trace.table.evictAbandoned id = (trace.table, false) := by
  by_cases shut : ∃ waiter, IsRegistered trace.history id waiter ∧ ¬ IsOpen trace.history waiter
  · obtain ⟨waiter, held, closed⟩ := shut
    have entry := (accurate.entry_iff id waiter).mpr held
    refine .inl ⟨⟨waiter, held, closed⟩, ?_, ?_⟩
    · exact PendingTable.evictAbandoned_of_closed entry ((accurate.isClosed_iff held).mpr closed)
    · rw [PendingTable.evict, PendingTable.takeOut_of_some entry]
  · have taking : ∀ waiter, IsRegistered trace.history id waiter → IsOpen trace.history waiter :=
      fun waiter held => Classical.byContradiction fun closed => shut ⟨waiter, held, closed⟩
    refine .inr ⟨taking, PendingTable.evictAbandoned_of_open fun waiter entry => ?_⟩
    have held := (accurate.entry_iff id waiter).mp entry
    exact Bool.eq_false_iff.mpr fun closed => (accurate.isClosed_iff held).mp closed (taking waiter held)

theorem evictAbandoned (accurate : trace.IsAccurate) (id : String) : (trace.call (.evictAbandoned id)).IsAccurate := by
  rw [call, PendingTable.perform]
  dsimp only
  rcases accurate.evictAbandoned_cases id with ⟨-, out, told⟩ | ⟨-, kept⟩
  · rw [out, told]
    exact accurate.giveUp id (by simp [eq_comm]) (by simp)
  · rw [kept]
    exact accurate.silent (fun _ => by constructor <;> simp) (by simp) trivial

theorem clear (accurate : trace.IsAccurate) : (trace.call .clear).IsAccurate := by
  have values_iff (waiter : Nat) : waiter ∈ trace.table.entries.values ↔ IsPending trace.history waiter := by
    simp only [Dictionary.mem_values_iff, accurate.entry_iff, IsPending]
  rw [call, PendingTable.perform]
  dsimp only
  refine accurate.extend ?_ ?_ ?_ trivial
  · intro id waiter
    simp [PendingTable.entries_clear]
  · intro waiter
    simp
  · intro waiter
    rw [PendingTable.mailbox_clear]
    split
    · next mem =>
        obtain ⟨id, held⟩ := (values_iff waiter).mp mem
        exact sees_close accurate.fits held (accurate.sees waiter) trivial (by simp)
    · next other =>
        have idle : ¬ IsPending trace.history waiter := mt (values_iff waiter).mpr other
        exact Spares.sees ⟨by constructor <;> simp, fun id held => absurd ⟨id, held⟩ idle⟩ (accurate.sees waiter)

/-- A call of one receiver concerns no other. -/
theorem change (accurate : trace.IsAccurate) {how : Mailbox → Mailbox}
    (stays : trace.table.mailbox waiter = .abandoned → how .abandoned = .abandoned)
    (unregistered : ∀ other, ¬ note.Registers other) (kept : ∀ id, ¬ note.Removes id)
    (bystands : ∀ other, other ≠ waiter → note.Bystands other)
    (sees : Sees (trace.history ++ [note]) waiter (how (trace.table.mailbox waiter)).receipt)
    (fits : Fits trace.history note) : IsAccurate ⟨trace.table.change waiter how, trace.history ++ [note]⟩ := by
  refine accurate.extend ?_ ?_ ?_ fits
  · intro id other
    rw [PendingTable.entries_change, and_iff_left (kept id),
      or_iff_right fun same => unregistered other ⟨id, same⟩]
  · intro other
    rw [PendingTable.length_change, or_iff_left (unregistered other)]
  · intro other
    rw [PendingTable.mailbox_change_of_stays _ stays]
    split
    · next same =>
        subst same
        exact sees
    · next distinct => exact Spares.sees ⟨bystands other distinct, fun id _ => kept id⟩ (accurate.sees other)

theorem drop (accurate : trace.IsAccurate) (waiter : Nat) : (trace.call (.drop waiter)).IsAccurate := by
  rw [call, PendingTable.perform]
  refine accurate.change (fun _ => rfl) (by simp) (by simp) (fun other distinct => ?_) sees_dropped trivial
  constructor <;> simp [Ne.symm distinct]

theorem close (accurate : trace.IsAccurate) (waiter : Nat) : (trace.call (.close waiter)).IsAccurate := by
  rw [call, PendingTable.perform]
  refine accurate.change (fun _ => rfl) (by simp) (by simp) (fun other distinct => ?_)
    (sees_closed accurate.fits (accurate.sees waiter)) trivial
  constructor <;> simp [Ne.symm distinct]

theorem receive (accurate : trace.IsAccurate) (waiter : Nat) : (trace.call (.receive waiter)).IsAccurate := by
  have told := accurate.sees waiter
  rw [call, PendingTable.perform]
  dsimp only
  rw [PendingTable.receive_snd]
  rcases trace.table.receive_fst waiter with ⟨same, empty⟩ | ⟨reply, delivered, changed⟩
  · rw [same]
    refine accurate.silent (fun other => ⟨by simp, by simp, fun reply noted => ?_⟩) (by simp) told
    exact empty reply (received.inj noted).2
  · rw [delivered] at told ⊢
    rw [changed]
    refine accurate.change (fun gone => ?_) (by simp) (by simp) (fun other distinct => ?_)
      (sees_received accurate.fits told) told
    · rw [delivered] at gone
      cases gone
    · constructor <;> simp [Ne.symm distinct]

theorem step (accurate : trace.IsAccurate) (made : TableCall) : (trace.call made).IsAccurate := by
  cases made with
  | register id => exact accurate.register id
  | resolve id reply => exact accurate.resolve id reply
  | evict id => exact accurate.evict id
  | evictAbandoned id => exact accurate.evictAbandoned id
  | clear => exact accurate.clear
  | drop waiter => exact accurate.drop waiter
  | close waiter => exact accurate.close waiter
  | receive waiter => exact accurate.receive waiter

end IsAccurate

/-- Whatever calls are made, the table and the receivers are in step with them. -/
theorem isAccurate_ofCalls (calls : List TableCall) : (ofCalls calls).IsAccurate :=
  List.foldlRecOn calls TableTrace.call .start fun _ accurate made _ => accurate.step made

/-- What holds after any calls. -/
structure AnswersOnce (trace : TableTrace) : Prop where
  /-- The table holds the registrations that no call has taken out. -/
  held_iff : ∀ id waiter, trace.table.entries.get? id = some waiter ↔ IsRegistered trace.history id waiter
  /-- An id that is in the table is refused, which changes nothing, -/
  refuses : ∀ id, trace.table.contains id = true →
    trace.table.register id = (trace.table, .error (PendingTable.duplicate id))
  /-- and any other is registered for a new waiter. -/
  admits : ∀ id, trace.table.contains id = false → ∃ after waiter, trace.table.register id = (after, .ok waiter) ∧
    (∀ name, .registered name waiter ∉ trace.history) ∧
    ∀ other, after.entries.get? other = if other = id then some waiter else trace.table.entries.get? other
  resolves : ∀ id reply, trace.table.TakesOut id (trace.table.resolve id reply)
  evicts : ∀ id, trace.table.TakesOut id (trace.table.evict id)
  /-- An id is swept out if its waiter has dropped or closed the receiver, -/
  sweeps : ∀ id waiter, IsRegistered trace.history id waiter → ¬ IsOpen trace.history waiter →
    (trace.table.evictAbandoned id).2 = true ∧ trace.table.TakesOut id (trace.table.evictAbandoned id)
  /-- and stays otherwise. -/
  spares : ∀ id, (∀ waiter, IsRegistered trace.history id waiter → IsOpen trace.history waiter) →
    trace.table.evictAbandoned id = (trace.table, false)
  clears : ∀ id, trace.table.clear.1.entries.get? id = none
  /-- A registration ends in one way, -/
  ends_once : ∀ waiter answer later, Ended trace.history waiter answer → Ended trace.history waiter later → answer = later
  /-- and what every look into a mailbox told is what had become of the registration by then. -/
  tells : ∀ before waiter receipt after, trace.history = before ++ .received waiter receipt :: after →
    Sees before waiter receipt
  /-- No waiter receives two replies. -/
  once : ∀ before waiter reply between later after,
    trace.history ≠ before ++ .received waiter (.reply reply) :: between ++ .received waiter (.reply later) :: after
  /-- A reply that is received is that of the call that resolved the registration while the receiver was open. -/
  answered : ∀ before waiter reply after, trace.history = before ++ .received waiter (.reply reply) :: after →
    ∃ earlier id found between, before = earlier ++ .resolved id reply found :: between ∧
      IsRegistered earlier id waiter ∧ IsOpen earlier waiter
  /-- Such a reply is there to be received, until it is or the receiver is dropped. -/
  delivers : ∀ waiter reply, Ended trace.history waiter (some reply) → IsHere trace.history waiter →
    ¬ HasReceived trace.history waiter → (trace.table.receive waiter).2 = .reply reply
  /-- After its registration was taken out in any other way, a receiver is found closed, and nothing else. -/
  released : ∀ before waiter receipt after, trace.history = before ++ .received waiter receipt :: after →
    Ended before waiter none → IsHere before waiter → receipt = .closed

/-- Whatever calls are made in whatever order, each registration is answered once at most. -/
theorem answersOnce_ofCalls (calls : List TableCall) : (ofCalls calls).AnswersOnce := by
  have accurate := isAccurate_ofCalls calls
  generalize ofCalls calls = trace at accurate
  constructor
  case held_iff => exact accurate.entry_iff
  case refuses => exact fun id taken => PendingTable.register_of_contains taken
  case admits =>
    intro id free
    exact ⟨_, _, PendingTable.register_of_free free, accurate.unused, fun other => Dictionary.get?_insert _ id other _⟩
  case resolves => exact fun id reply => PendingTable.takesOut_takeOut _ id _
  case evicts => exact fun id => PendingTable.takesOut_takeOut _ id _
  case sweeps =>
    intro id waiter held shut
    rcases accurate.evictAbandoned_cases id with ⟨-, out, told⟩ | ⟨taking, -⟩
    · rw [out]
      exact ⟨told, PendingTable.takesOut_takeOut _ id _⟩
    · exact absurd (taking waiter held) shut
  case spares =>
    intro id taking
    rcases accurate.evictAbandoned_cases id with ⟨⟨waiter, held, shut⟩, -⟩ | ⟨-, kept⟩
    · exact absurd (taking waiter held) shut
    · exact kept
  case clears =>
    intro id
    rw [PendingTable.entries_clear, Dictionary.get?_empty]
  case ends_once => exact fun waiter answer later ended endedToo => ended.unique accurate.fits endedToo
  case tells => exact fun before waiter receipt after split => accurate.fits before _ after split
  case once =>
    intro before waiter reply between later after split
    cases accurate.fits _ _ _ split with
    | reply _ _ untold => exact untold ⟨reply, by simp⟩
  case answered =>
    intro before waiter reply after split
    cases accurate.fits _ _ _ split with
    | reply answered =>
        obtain ⟨earlier, note, between, rfl, ends⟩ := answered
        cases ends with
        | answered held taking => exact ⟨earlier, _, _, between, rfl, held, taking⟩
  case delivers =>
    intro waiter reply ended here untold
    rw [PendingTable.receive_snd]
    exact (accurate.sees waiter).eq_reply accurate.fits ended here untold
  case released =>
    intro before waiter receipt after split ended here
    have former : Throughout Fits before := (split ▸ accurate.fits).of_append
    have told : Sees before waiter receipt := accurate.fits before _ after split
    exact told.eq_closed former ended here

/-- A dropped receiver takes no later registration of its id with it. -/
example : (ofCalls [.register "x", .resolve "x" (.ok .nil), .register "x", .drop 0, .evictAbandoned "x",
    .resolve "x" (.rejected "no"), .receive 1]).history.getLast? = some (.received 1 (.reply (.rejected "no"))) := rfl

end TableTrace

end RelayClient
