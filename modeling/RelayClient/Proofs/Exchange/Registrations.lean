import Mathlib.Data.List.Induction
import RelayClient.Exchange.PendingTable
import RelayClient.Proofs.Lists

/-!
# Registrations

An id may be registered again once it was taken out of the table, and then it has another waiter,
while every waiter stands for one registration. What has become of a registration is read off the
history of calls alone: it is in the table until the first call that takes its id out. That call
answers it, if it resolves it while the receiver is open, and otherwise releases it.
-/

namespace RelayClient

/-- A call of a pending table, or of the receiver of one of its waiters. -/
inductive TableCall where
  | register (id : String)
  | resolve (id : String) (reply : Reply)
  | evict (id : String)
  | evictAbandoned (id : String)
  | clear
  | drop (waiter : Nat)
  | close (waiter : Nat)
  | receive (waiter : Nat)

/-- A call that was made, with what it gave back. -/
inductive TableNote where
  | registered (id : String) (waiter : Nat)
  /-- An id was not registered. -/
  | refused (id : String)
  | resolved (id : String) (reply : Reply) (found : Bool)
  | evicted (id : String) (found : Bool)
  /-- An id was to be taken out if its waiter takes no reply any more. -/
  | swept (id : String) (found : Bool)
  | cleared (count : Nat)
  | dropped (waiter : Nat)
  | closed (waiter : Nat)
  | received (waiter : Nat) (receipt : Receipt)

namespace TableNote

/-! ## What histories say -/

/-- The call takes an id out of the table. -/
@[simp] def Removes (id : String) : TableNote → Prop
  | .resolved other _ _ | .evicted other _ => other = id
  | .swept other found => other = id ∧ found = true
  | .cleared _ => True
  | _ => False

/-- The call makes a waiter. -/
@[simp] def Registers (waiter : Nat) (note : TableNote) : Prop :=
  ∃ id, note = .registered id waiter

/-- The call closes the receiver of a waiter. -/
@[simp] def Shuts (waiter : Nat) (note : TableNote) : Prop :=
  note = .closed waiter ∨ note = .dropped waiter

/-- A waiter was registered under an id, which was not taken out since. -/
def IsRegistered (history : List TableNote) (id : String) (waiter : Nat) : Prop :=
  Stands (· = .registered id waiter) (Removes id) history

/-- The registration of a waiter is in the table. -/
def IsPending (history : List TableNote) (waiter : Nat) : Prop :=
  ∃ id, IsRegistered history id waiter

/-- A waiter has neither dropped nor closed its receiver. -/
def IsOpen (history : List TableNote) (waiter : Nat) : Prop :=
  Stands (Registers waiter) (Shuts waiter) history

/-- A waiter has not dropped its receiver. -/
def IsHere (history : List TableNote) (waiter : Nat) : Prop :=
  Stands (Registers waiter) (· = .dropped waiter) history

/-- A waiter has received a reply. -/
def HasReceived (history : List TableNote) (waiter : Nat) : Prop :=
  ∃ reply, .received waiter (.reply reply) ∈ history

/-- How a call ends the registration of a waiter: with a reply or without one. -/
inductive Ends (before : List TableNote) (waiter : Nat) : TableNote → Option Reply → Prop
  /-- It resolves the registration, and the receiver is open. -/
  | answered {id : String} {reply : Reply} {found : Bool} (held : IsRegistered before id waiter)
      (taking : IsOpen before waiter) : Ends before waiter (.resolved id reply found) (some reply)
  /-- It takes the registration out in any other way. -/
  | released {id : String} {note : TableNote} (held : IsRegistered before id waiter) (removes : note.Removes id)
      (otherwise : ∀ reply found, note = .resolved id reply found → ¬ IsOpen before waiter) :
      Ends before waiter note none

/-- How the registration of a waiter has ended. -/
def Ended (history : List TableNote) (waiter : Nat) (answer : Option Reply) : Prop :=
  Somewhere (fun before note => Ends before waiter note answer) history

/-- What the receiver of a waiter tells after a history. -/
inductive Sees (history : List TableNote) (waiter : Nat) : Receipt → Prop
  | empty (pending : IsPending history waiter) (taking : IsOpen history waiter) : Sees history waiter .empty
  | reply {reply : Reply} (answered : Ended history waiter (some reply)) (here : IsHere history waiter)
      (untold : ¬ HasReceived history waiter) : Sees history waiter (.reply reply)
  | closed (here : IsHere history waiter) (idle : ¬ (IsPending history waiter ∧ IsOpen history waiter))
      (spent : ∀ reply, Ended history waiter (some reply) → HasReceived history waiter) : Sees history waiter .closed
  | abandoned (gone : ¬ IsHere history waiter) : Sees history waiter .abandoned

/-- What is noted is in step with what came before it: each waiter is new, and each receiver tells what it should. -/
def Fits (before : List TableNote) : TableNote → Prop
  | .registered _ waiter => ∀ id, .registered id waiter ∉ before
  | .received waiter receipt => Sees before waiter receipt
  | _ => True

variable {history : List TableNote} {note : TableNote} {id other : String} {waiter : Nat}
  {answer later : Option Reply} {receipt : Receipt}

/-! ## One more call -/

theorem isRegistered_concat_iff : IsRegistered (history ++ [note]) id waiter ↔
    note = .registered id waiter ∨ IsRegistered history id waiter ∧ ¬ note.Removes id :=
  stands_concat_iff

theorem isOpen_concat_iff : IsOpen (history ++ [note]) waiter ↔
    note.Registers waiter ∨ IsOpen history waiter ∧ ¬ note.Shuts waiter :=
  stands_concat_iff

theorem isHere_concat_iff : IsHere (history ++ [note]) waiter ↔
    note.Registers waiter ∨ IsHere history waiter ∧ note ≠ .dropped waiter :=
  stands_concat_iff

theorem ended_concat_iff : Ended (history ++ [note]) waiter answer ↔
    Ended history waiter answer ∨ Ends history waiter note answer :=
  somewhere_concat_iff

theorem hasReceived_concat_iff : HasReceived (history ++ [note]) waiter ↔
    HasReceived history waiter ∨ ∃ reply, note = .received waiter (.reply reply) := by
  simp only [HasReceived, List.mem_append, List.mem_singleton, exists_or, eq_comm]

/-- A call that neither makes a waiter nor changes what its receiver tells. -/
structure Bystands (waiter : Nat) (note : TableNote) : Prop where
  unregistered : ¬ note.Registers waiter
  unshut : ¬ note.Shuts waiter
  untold : ∀ reply, note ≠ .received waiter (.reply reply)

/-- What takes an id out does so through the table alone. -/
theorem Removes.bystands (removes : note.Removes id) (waiter : Nat) : note.Bystands waiter := by
  cases note with
  | resolved | evicted | swept | cleared => constructor <;> simp
  | registered | refused | dropped | closed | received => exact removes.elim

theorem Removes.fits (removes : note.Removes id) (history : List TableNote) : Fits history note := by
  cases note with
  | resolved | evicted | swept | cleared => trivial
  | registered | refused | dropped | closed | received => exact removes.elim

/-! ## A registration ends once -/

theorem IsOpen.isHere (taking : IsOpen history waiter) : IsHere history waiter :=
  taking.imp (fun _ begun => begun) fun _ dropped => .inr dropped

theorem IsRegistered.mem (held : IsRegistered history id waiter) : .registered id waiter ∈ history := by
  obtain ⟨note, mem, rfl⟩ := held.exists_mem
  exact mem

theorem Ends.exists_removes (ends : Ends history waiter note answer) :
    ∃ id, IsRegistered history id waiter ∧ note.Removes id := by
  cases ends with
  | answered held => exact ⟨_, held, rfl⟩
  | released held removes => exact ⟨_, held, removes⟩

theorem Ends.unique (ends : Ends history waiter note answer) (endsToo : Ends history waiter note later) :
    answer = later := by
  cases ends with
  | answered _ taking =>
      cases endsToo with
      | answered => rfl
      | released _ removes otherwise =>
          cases removes
          exact absurd taking (otherwise _ _ rfl)
  | released _ removes otherwise =>
      cases endsToo with
      | answered _ taking =>
          cases removes
          exact absurd taking (otherwise _ _ rfl)
      | released => rfl

theorem Ended.exists_registered (ended : Ended history waiter answer) : ∃ id, .registered id waiter ∈ history := by
  obtain ⟨before, note, after, rfl, ends⟩ := ended
  obtain ⟨id, held, -⟩ := ends.exists_removes
  exact ⟨id, List.mem_append_left _ held.mem⟩

/-- A waiter has one id. -/
theorem id_unique (fits : Throughout Fits history) (first : .registered id waiter ∈ history)
    (second : .registered other waiter ∈ history) : id = other := by
  induction history using List.reverseRecOn with
  | nil => cases first
  | append_singleton history last ih =>
      obtain ⟨former, newest⟩ := throughout_concat_iff.mp fits
      rcases List.mem_append.mp first with known | added
      · rcases List.mem_append.mp second with knownToo | added
        · exact ih former known knownToo
        · cases List.mem_singleton.mp added
          exact absurd known (newest id)
      · cases List.mem_singleton.mp added
        rcases List.mem_append.mp second with knownToo | added
        · exact absurd knownToo (newest other)
        · cases List.mem_singleton.mp added
          rfl

/-- What has ended does not come back: its id may, but with another waiter. -/
theorem Ended.not_isPending (fits : Throughout Fits history) (ended : Ended history waiter answer) :
    ¬ IsPending history waiter := by
  induction history using List.reverseRecOn with
  | nil => exact absurd ended not_somewhere_nil
  | append_singleton history last ih =>
      obtain ⟨former, newest⟩ := throughout_concat_iff.mp fits
      rintro ⟨id, pending⟩
      rcases ended_concat_iff.mp ended with already | ends
      · rcases isRegistered_concat_iff.mp pending with rfl | ⟨held, -⟩
        · obtain ⟨name, known⟩ := already.exists_registered
          exact newest name known
        · exact ih former already ⟨id, held⟩
      · obtain ⟨name, held, removes⟩ := ends.exists_removes
        rcases isRegistered_concat_iff.mp pending with rfl | ⟨heldToo, kept⟩
        · exact removes
        · cases id_unique former held.mem heldToo.mem
          exact kept removes

theorem Ended.unique (fits : Throughout Fits history) (ended : Ended history waiter answer)
    (endedToo : Ended history waiter later) : answer = later := by
  induction history using List.reverseRecOn with
  | nil => exact absurd ended not_somewhere_nil
  | append_singleton history last ih =>
      obtain ⟨former, -⟩ := throughout_concat_iff.mp fits
      rcases ended_concat_iff.mp ended with already | ends
      · rcases ended_concat_iff.mp endedToo with alreadyToo | ends
        · exact ih former already alreadyToo
        · obtain ⟨id, held, -⟩ := ends.exists_removes
          exact absurd ⟨id, held⟩ (already.not_isPending former)
      · rcases ended_concat_iff.mp endedToo with alreadyToo | endsToo
        · obtain ⟨id, held, -⟩ := ends.exists_removes
          exact absurd ⟨id, held⟩ (alreadyToo.not_isPending former)
        · exact ends.unique endsToo

/-- Only what was answered is received. -/
theorem HasReceived.exists_ended (fits : Throughout Fits history) (received : HasReceived history waiter) :
    ∃ reply, Ended history waiter (some reply) := by
  obtain ⟨reply, mem⟩ := received
  obtain ⟨before, after, rfl⟩ := List.mem_iff_append.mp mem
  cases fits _ _ _ rfl with
  | reply answered =>
      obtain ⟨earlier, note, between, rfl, ends⟩ := answered
      exact ⟨reply, earlier, note, _, by rw [List.append_assoc, List.cons_append], ends⟩

/-! ## What receivers tell -/

/-- The receiver of a registration that was answered has the reply until it is received. -/
theorem Sees.eq_reply (fits : Throughout Fits history) (sees : Sees history waiter receipt) {reply : Reply}
    (ended : Ended history waiter (some reply)) (here : IsHere history waiter) (untold : ¬ HasReceived history waiter) :
    receipt = .reply reply := by
  cases sees with
  | empty pending => exact absurd pending (ended.not_isPending fits)
  | reply answered =>
      cases answered.unique fits ended
      rfl
  | closed _ _ spent => exact absurd (spent reply ended) untold
  | abandoned gone => exact absurd here gone

/-- The receiver of a registration that was released is closed. -/
theorem Sees.eq_closed (fits : Throughout Fits history) (sees : Sees history waiter receipt)
    (ended : Ended history waiter none) (here : IsHere history waiter) : receipt = .closed := by
  cases sees with
  | empty pending => exact absurd pending (ended.not_isPending fits)
  | reply answered => cases answered.unique fits ended
  | closed => rfl
  | abandoned gone => exact absurd here gone

/-- A call that does not concern a waiter: it leaves its registration in the table, too. -/
structure Spares (history : List TableNote) (waiter : Nat) (note : TableNote) : Prop extends Bystands waiter note where
  kept : ∀ id, IsRegistered history id waiter → ¬ note.Removes id

namespace Spares

theorem isPending_iff (spares : Spares history waiter note) :
    IsPending (history ++ [note]) waiter ↔ IsPending history waiter := by
  constructor
  · rintro ⟨id, pending⟩
    rcases isRegistered_concat_iff.mp pending with registered | ⟨held, -⟩
    · exact absurd ⟨id, registered⟩ spares.unregistered
    · exact ⟨id, held⟩
  · rintro ⟨id, held⟩
    exact ⟨id, isRegistered_concat_iff.mpr (.inr ⟨held, spares.kept id held⟩)⟩

theorem isOpen_iff (spares : Spares history waiter note) :
    IsOpen (history ++ [note]) waiter ↔ IsOpen history waiter := by
  rw [isOpen_concat_iff, or_iff_right spares.unregistered, and_iff_left spares.unshut]

theorem isHere_iff (spares : Spares history waiter note) :
    IsHere (history ++ [note]) waiter ↔ IsHere history waiter := by
  rw [isHere_concat_iff, or_iff_right spares.unregistered, and_iff_left fun dropped => spares.unshut (.inr dropped)]

theorem ended_iff (spares : Spares history waiter note) :
    Ended (history ++ [note]) waiter answer ↔ Ended history waiter answer := by
  refine ended_concat_iff.trans (or_iff_left fun ends => ?_)
  obtain ⟨id, held, removes⟩ := ends.exists_removes
  exact spares.kept id held removes

theorem hasReceived_iff (spares : Spares history waiter note) :
    HasReceived (history ++ [note]) waiter ↔ HasReceived history waiter := by
  rw [hasReceived_concat_iff, or_iff_left (not_exists.mpr spares.untold)]

theorem sees (spares : Spares history waiter note) (sees : Sees history waiter receipt) :
    Sees (history ++ [note]) waiter receipt := by
  cases sees with
  | empty pending taking => exact .empty (spares.isPending_iff.mpr pending) (spares.isOpen_iff.mpr taking)
  | reply answered here untold =>
      exact .reply (spares.ended_iff.mpr answered) (spares.isHere_iff.mpr here)
        (mt spares.hasReceived_iff.mp untold)
  | closed here idle spent =>
      refine .closed (spares.isHere_iff.mpr here) ?_ fun reply ended => ?_
      · rwa [spares.isPending_iff, spares.isOpen_iff]
      · exact spares.hasReceived_iff.mpr (spent reply (spares.ended_iff.mp ended))
  | abandoned gone => exact .abandoned (mt spares.isHere_iff.mp gone)

end Spares

/-- A receiver that was dropped stays so. -/
theorem sees_of_gone (gone : ¬ IsHere history waiter) (unregistered : ¬ note.Registers waiter) :
    Sees (history ++ [note]) waiter .abandoned := by
  refine .abandoned fun here => ?_
  rcases isHere_concat_iff.mp here with registered | ⟨former, -⟩
  · exact unregistered registered
  · exact gone former

/-- A receiver that is there tells how its registration ends: it has the reply, or is closed. -/
theorem Ends.sees (fits : Throughout Fits history) (ends : Ends history waiter note answer)
    (here : IsHere history waiter) : Sees (history ++ [note]) waiter (answer.elim .closed .reply) := by
  obtain ⟨id, held, removes⟩ := ends.exists_removes
  have bystands := removes.bystands waiter
  have fitsToo : Throughout Fits (history ++ [note]) := fits.concat (removes.fits history)
  have ended : Ended (history ++ [note]) waiter answer := ended_concat_iff.mpr (.inr ends)
  have hereToo : IsHere (history ++ [note]) waiter :=
    isHere_concat_iff.mpr (.inr ⟨here, fun dropped => bystands.unshut (.inr dropped)⟩)
  cases answer with
  | some reply =>
      refine .reply ended hereToo fun received => ?_
      rcases hasReceived_concat_iff.mp received with already | ⟨other, told⟩
      · obtain ⟨given, before⟩ := already.exists_ended fits
        exact before.not_isPending fits ⟨id, held⟩
      · exact bystands.untold other told
  | none =>
      refine .closed hereToo (fun pending => ended.not_isPending fitsToo pending.1) fun reply answered => ?_
      cases ended.unique fitsToo answered

end TableNote

end RelayClient
