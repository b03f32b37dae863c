import RelayClient.Proofs.Replica.Messages
import RelayClient.Proofs.Replica.Receivers

/-!
# Edits of message lists

An update brings entries, one or a list of them, that are put into the list of a
receiver or removed from it, one after the other. An entry takes the place of the one
with its id, or comes last, and what is removed leaves the others in their order. Whatever
was handled, the messages are lists, so that no update meets a value that it would leave
as it is.
-/

namespace RelayClient

open Pack (Value)
open Replica (Container AppData)

namespace Replica

/-! ## Puts -/

/-- Putting an entry into a list in which each id is listed once. -/
inductive Puts (entry : Value) : List Value → List Value → Prop
  /-- The only one with its id leaves the entry its place. -/
  | replaced {former : List Value} {old : Value} {later : List Value} (shared : SameId old entry)
      (others : ∀ other ∈ former ++ later, ¬ SameId other entry) :
      Puts entry (former ++ old :: later) (former ++ entry :: later)
  /-- Where none has its id, or it has none, it comes last. -/
  | appended {entries : List Value} (free : ∀ other ∈ entries, ¬ SameId other entry) :
      Puts entry entries (entries ++ [entry])

theorem sameId_iff {id first second : Value} (given : entryId? second = some id) :
    SameId first second ↔ hasId id first = true := by
  unfold SameId
  rw [given]
  constructor
  · rintro ⟨other, held, has⟩
    cases held
    exact has
  · exact fun has => ⟨id, rfl, has⟩

/-- Two entries that share their id with a third share theirs. -/
theorem SameId.of_shared {first second third : Value} (same : SameId first third) (sameToo : SameId second third) :
    SameId first second := by
  obtain ⟨id, given, has⟩ := same
  obtain ⟨found, held, agree⟩ := hasId_iff.mp has
  obtain ⟨other, heldToo, agreeToo⟩ := hasId_iff.mp ((sameId_iff given).mp sameToo)
  exact ⟨other, heldToo, hasId_iff.mpr ⟨found, held, Value.same_trans agree (Value.same_symm agreeToo)⟩⟩

namespace Puts

variable {entry : Value} {before after : List Value}

theorem cons {first : Value} (apart : ¬ SameId first entry) (puts : Puts entry before after) :
    Puts entry (first :: before) (first :: after) := by
  cases puts with
  | @replaced former old later shared others =>
      exact @replaced entry (first :: former) old later shared (List.forall_mem_cons.mpr ⟨apart, others⟩)
  | appended free => exact .appended (List.forall_mem_cons.mpr ⟨apart, free⟩)

theorem mem (puts : Puts entry before after) : entry ∈ after := by
  cases puts with
  | replaced => exact List.mem_append_right _ (.head _)
  | appended => exact List.mem_append_right _ (.head _)

/-- What has another id stays. -/
theorem mem_of_mem (puts : Puts entry before after) {other : Value} (mem : other ∈ before)
    (apart : ¬ SameId other entry) : other ∈ after := by
  cases puts with
  | replaced shared others =>
      rcases List.mem_append.mp mem with earlier | later
      · exact List.mem_append_left _ earlier
      · rcases List.mem_cons.mp later with rfl | later
        · exact absurd shared apart
        · exact List.mem_append_right _ (.tail _ later)
  | appended free => exact List.mem_append_left _ mem

theorem eq_append_of_bare (puts : Puts entry before after) (bare : entryId? entry = none) :
    after = before ++ [entry] := by
  cases puts with
  | replaced shared =>
      obtain ⟨id, given, -⟩ := shared
      rw [bare] at given
      cases given
  | appended => rfl

/-- An id that equals itself is then listed once, with the entry. -/
theorem filter_hasId (puts : Puts entry before after) {id : Value} (given : entryId? entry = some id)
    (proper : id.same id = true) : after.filter (hasId id) = [entry] := by
  have own : hasId id entry = true := hasId_iff.mpr ⟨id, given, proper⟩
  have none {entries : List Value} (others : ∀ other ∈ entries, ¬ SameId other entry) :
      entries.filter (hasId id) = [] := by
    refine List.filter_eq_nil_iff.mpr fun other mem has => ?_
    exact others other mem ((sameId_iff given).mpr has)
  cases puts with
  | replaced shared others =>
      obtain ⟨earlier, later⟩ := List.forall_mem_append.mp others
      rw [List.filter_append, List.filter_cons_of_pos own, none earlier, none later]
      rfl
  | appended free =>
      rw [List.filter_append, List.filter_cons_of_pos own, none free]
      rfl

end Puts

theorem puts_replaceOrAppend {id entry : Value} {entries : List Value} (distinct : Distinct entries)
    (given : entryId? entry = some id) : Puts entry entries (replaceOrAppend id entry entries) := by
  induction entries with
  | nil => exact .appended (List.forall_mem_nil _)
  | cons first rest ih =>
      obtain ⟨apart, others⟩ := List.pairwise_cons.mp distinct
      rw [replaceOrAppend]
      split
      · next has =>
          have shared := (sameId_iff given).mpr has
          -- No entry of the rest has the id that the first one has.
          refine @Puts.replaced entry [] first rest shared fun other mem same => ?_
          exact apart other mem (shared.of_shared same)
      · next lacks => exact (ih others).cons fun same => lacks ((sameId_iff given).mp same)

theorem puts_upsert {entries : List Value} (distinct : Distinct entries) (entry : Value) :
    Puts entry entries (upsert entry entries) := by
  unfold upsert
  cases given : entryId? entry with
  | some id => exact puts_replaceOrAppend distinct given
  | none =>
      refine .appended fun other _ same => ?_
      obtain ⟨id, held, -⟩ := same
      rw [given] at held
      cases held

/-! ## Removals -/

/-- Dropping the entries of an id from a list. -/
inductive Drops (id : Value) : List Value → List Value → Prop
  | nil : Drops id [] []
  | dropped {entry : Value} {before after : List Value} (has : hasId id entry = true)
      (further : Drops id before after) : Drops id (entry :: before) after
  | kept {entry : Value} {before after : List Value} (lacks : hasId id entry = false)
      (further : Drops id before after) : Drops id (entry :: before) (entry :: after)

theorem drops_without (id : Value) (entries : List Value) : Drops id entries (without id entries) := by
  induction entries with
  | nil => exact .nil
  | cons entry rest ih =>
      unfold without
      cases has : hasId id entry with
      | true =>
          rw [List.filter_cons_of_neg (by rw [has]; exact Bool.false_ne_true)]
          exact .dropped has ih
      | false =>
          rw [List.filter_cons_of_pos (by rw [has]; rfl)]
          exact .kept has ih

namespace Drops

variable {id : Value} {before after : List Value}

theorem sublist (drops : Drops id before after) : after.Sublist before := by
  induction drops with
  | nil => exact .slnil
  | dropped has further ih => exact ih.cons _
  | kept lacks further ih => exact ih.cons_cons _

theorem lacks_of_mem (drops : Drops id before after) : ∀ entry ∈ after, hasId id entry = false := by
  induction drops with
  | nil => exact List.forall_mem_nil _
  | dropped has further ih => exact ih
  | kept lacks further ih => exact List.forall_mem_cons.mpr ⟨lacks, ih⟩

end Drops

/-! ## Entries one after the other -/

/-- What an entry that comes in a mode makes of a list. -/
inductive Edit (mode : String) (entry : Value) : List Value → List Value → Prop
  | put {before after : List Value} (live : mode ≠ "removed") (puts : Puts entry before after) :
      Edit mode entry before after
  | removed {before after : List Value} {id : Value} (dead : mode = "removed") (given : entryId? entry = some id)
      (drops : Drops id before after) : Edit mode entry before after
  /-- An entry without an id tells of nothing to remove. -/
  | passed {entries : List Value} (dead : mode = "removed") (bare : entryId? entry = none) :
      Edit mode entry entries entries

/-- What entries that come in a mode, one after the other, make of a list. -/
inductive Edits (mode : String) : List Value → List Value → List Value → Prop
  | done {entries : List Value} : Edits mode [] entries entries
  | next {entry : Value} {rest before between after : List Value} (edit : Edit mode entry before between)
      (further : Edits mode rest between after) : Edits mode (entry :: rest) before after

namespace Edits

variable {mode : String} {payload before after : List Value}

/-- An entry that is listed stays as long as none with its id comes. -/
theorem mem_of_mem (live : mode ≠ "removed") (edits : Edits mode payload before after) {entry : Value}
    (mem : entry ∈ before) (apart : ∀ other ∈ payload, ¬ SameId entry other) : entry ∈ after := by
  induction edits with
  | done => exact mem
  | next edit further ih =>
      obtain ⟨now, later⟩ := List.forall_mem_cons.mp apart
      cases edit with
      | put _ puts => exact ih (puts.mem_of_mem mem now) later
      | removed dead => exact absurd dead live
      | passed dead => exact absurd dead live

/-- The last entry of its id is listed. -/
theorem mem_of_last (live : mode ≠ "removed") {former later : List Value} {entry : Value}
    (edits : Edits mode (former ++ entry :: later) before after) (last : ∀ other ∈ later, ¬ SameId entry other) :
    entry ∈ after := by
  induction former generalizing before with
  | nil =>
      cases edits with
      | next edit further =>
          cases edit with
          | put _ puts => exact further.mem_of_mem live puts.mem last
          | removed dead => exact absurd dead live
          | passed dead => exact absurd dead live
  | cons first rest ih =>
      cases edits with
      | next edit further => exact ih further

theorem sublist (dead : mode = "removed") (edits : Edits mode payload before after) : after.Sublist before := by
  induction edits with
  | done => exact .refl _
  | next edit further ih =>
      cases edit with
      | put live => exact absurd dead live
      | removed _ _ drops => exact ih.trans drops.sublist
      | passed => exact ih

/-- What was removed is not listed. -/
theorem not_sameId_of_mem (dead : mode = "removed") (edits : Edits mode payload before after) :
    ∀ entry ∈ payload, ∀ other ∈ after, ¬ SameId other entry := by
  induction edits with
  | done => exact List.forall_mem_nil _
  | next edit further ih =>
      refine List.forall_mem_cons.mpr ⟨fun other mem same => ?_, ih⟩
      have listed := (further.sublist dead).mem mem
      cases edit with
      | put live => exact live dead
      | removed _ given drops =>
          have has := (sameId_iff given).mp same
          rw [drops.lacks_of_mem other listed] at has
          cases has
      | passed _ bare =>
          obtain ⟨id, given, -⟩ := same
          rw [bare] at given
          cases given

end Edits

/-! ## Containers -/

namespace Container

/-- What a container has under a key, if anything, is a list. -/
def HoldsListAt (container : Container) (key : String) : Prop :=
  ∀ value, container.get? key = some value → ∃ entries, value = .list entries

/-- All values of a container are lists. -/
def HoldsLists (container : Container) : Prop :=
  ∀ key, container.HoldsListAt key

theorem holdsLists_empty : HoldsLists .empty := nofun

variable {container : Container}

theorem holdsLists_insert (lists : container.HoldsLists) (key : String) (entries : List Value) :
    HoldsLists (container.insert key (.list entries)) := by
  intro other value held
  rw [Dictionary.get?_insert] at held
  split at held
  · cases held
    exact ⟨entries, rfl⟩
  · exact lists other value held

/-- Where a container has a list or nothing, an entry is put into it. -/
theorem upsertIn_eq {key : String} (lists : container.HoldsListAt key) (entry : Value) :
    container.upsertIn key entry = container.insert key (.list (upsert entry (container.listAt key))) := by
  unfold upsertIn listAt
  cases held : container.get? key with
  | none => rfl
  | some value =>
      obtain ⟨entries, rfl⟩ := lists value held
      rfl

theorem removeFrom_eq (container : Container) (key : String) (id : Value) :
    (container.removeFrom key id).1.listAt key = without id (container.listAt key) ∧
      (container.removeFrom key id).2 = (container.listAt key).any (hasId id) := by
  unfold removeFrom
  split
  · next entries held =>
      have listed : container.listAt key = entries := by
        rw [listAt, held]
        rfl
      rw [listAt_insert, if_pos rfl, listed]
      exact ⟨rfl, rfl⟩
  · next other =>
      have nothing : container.listAt key = [] := by
        unfold listAt
        cases held : container.get? key with
        | none => rfl
        | some value =>
            cases value with
            | list entries => exact absurd held (other entries)
            | _ => rfl
      rw [nothing]
      exact ⟨rfl, rfl⟩

theorem keptByEdits_holdsLists : KeptByEdits HoldsLists where
  upserted key entry lists := by
    rw [upsertIn_eq (lists key)]
    exact holdsLists_insert lists key _
  removed key id lists := by
    unfold removeFrom
    split
    · exact holdsLists_insert lists key _
    · exact lists
  erased key lists := by
    intro other value held
    rw [Dictionary.get?_erase] at held
    split at held
    · cases held
    · exact lists other value held

/-- What putting an entry makes of a container. -/
structure Upserts (container : Container) (key : String) (entry : Value) (after : Container) : Prop where
  put : Puts entry (container.listAt key) (after.listAt key)
  /-- Its id, if it equals itself, is listed once, with the entry. -/
  once : ∀ id, entryId? entry = some id → id.same id = true → (after.listAt key).filter (hasId id) = [entry]
  bare : entryId? entry = none → after.listAt key = container.listAt key ++ [entry]
  distinct : Distinct (after.listAt key)
  stored : after.get? key = some (.list (after.listAt key))
  beside : AgreesOff key container after

theorem upserts_upsertIn {key : String} (lists : container.HoldsListAt key) (distinct : Distinct (container.listAt key))
    (entry : Value) : container.Upserts key entry (container.upsertIn key entry) := by
  have puts := puts_upsert distinct entry
  have after : (container.upsertIn key entry).listAt key = upsert entry (container.listAt key) := by
    rw [upsertIn_eq lists, listAt_insert, if_pos rfl]
  rw [← after] at puts
  constructor
  case put => exact puts
  case once => exact fun id given proper => puts.filter_hasId given proper
  case bare => exact puts.eq_append_of_bare
  case distinct =>
    rw [after]
    exact distinct_upsert distinct entry
  case stored => rw [after, upsertIn_eq lists, Dictionary.get?_insert, if_pos rfl]
  case beside => exact agreesOff_upsertIn container key entry

/-- What removing an id makes of a container, and what is told of it. -/
structure Removes (container : Container) (key : String) (id : Value) (result : Container × Bool) : Prop where
  drop : Drops id (container.listAt key) (result.1.listAt key)
  told : result.2 = true ↔ (result.1.listAt key).length < (container.listAt key).length
  beside : AgreesOff key container result.1

theorem removes_removeFrom (container : Container) (key : String) (id : Value) :
    container.Removes key id (container.removeFrom key id) := by
  obtain ⟨left, told⟩ := removeFrom_eq container key id
  constructor
  case drop =>
    rw [left]
    exact drops_without id _
  case told =>
    rw [left, told, without, List.length_filter_lt_length_iff_exists, List.any_eq_true]
    simp only [Bool.not_eq_true', Bool.not_eq_false]
  case beside => exact agreesOff_removeFrom container key id

theorem edit_applyMessage {key : String} (lists : container.HoldsListAt key)
    (distinct : Distinct (container.listAt key)) (mode : String) (entry : Value) :
    Edit mode entry (container.listAt key) ((AppData.applyMessage key mode container entry).listAt key) := by
  unfold AppData.applyMessage
  split
  · next dead =>
      cases given : entryId? entry with
      | none => exact .passed dead given
      | some id => exact .removed dead given (removes_removeFrom container key id).drop
  · next live => exact .put live (upserts_upsertIn lists distinct entry).put

theorem distinct_applyMessage {key : String} (lists : container.HoldsListAt key)
    (distinct : Distinct (container.listAt key)) (mode : String) (entry : Value) :
    Distinct ((AppData.applyMessage key mode container entry).listAt key) := by
  unfold AppData.applyMessage
  split
  · split
    · next id given =>
        rw [(removeFrom_eq container key id).1]
        exact distinct_without distinct id
    · exact distinct
  · exact (upserts_upsertIn lists distinct entry).distinct

/-- What an update makes of the list under a key, and of those beside it. -/
structure Updates (mode key : String) (payload : List Value) (before after : Container) : Prop where
  edits : Edits mode payload (before.listAt key) (after.listAt key)
  distinct : Distinct (after.listAt key)
  /-- Of each id the last entry that came is listed. -/
  listed : mode ≠ "removed" → ∀ former entry later, payload = former ++ entry :: later →
    (∀ other ∈ later, ¬ SameId entry other) → entry ∈ after.listAt key
  /-- No entry with the id of a removed one is. -/
  unlisted : mode = "removed" → ∀ entry ∈ payload, ∀ other ∈ after.listAt key, ¬ SameId other entry
  beside : AgreesOff key before after

theorem edits_foldl_applyMessage {key : String} (lists : container.HoldsLists)
    (distinct : Distinct (container.listAt key)) (mode : String) (payload : List Value) :
    Edits mode payload (container.listAt key) ((payload.foldl (AppData.applyMessage key mode) container).listAt key) ∧
      Distinct ((payload.foldl (AppData.applyMessage key mode) container).listAt key) := by
  induction payload generalizing container with
  | nil => exact ⟨.done, distinct⟩
  | cons entry rest ih =>
      have edit := edit_applyMessage (lists key) distinct mode entry
      -- Each entry finds what the one before it left: a list, in which ids are listed once.
      obtain ⟨further, left⟩ := ih (keptByEdits_holdsLists.applyMessage lists key mode entry)
        (distinct_applyMessage (lists key) distinct mode entry)
      exact ⟨.next edit further, left⟩

theorem updates_foldl_applyMessage {key : String} (lists : container.HoldsLists)
    (distinct : Distinct (container.listAt key)) (mode : String) (payload : List Value) :
    Updates mode key payload container (payload.foldl (AppData.applyMessage key mode) container) := by
  obtain ⟨edits, left⟩ := edits_foldl_applyMessage lists distinct mode payload
  constructor
  case edits => exact edits
  case distinct => exact left
  case listed =>
    rintro live former entry later rfl last
    exact edits.mem_of_last live last
  case unlisted => exact fun dead => edits.not_sameId_of_mem dead
  case beside => exact agreesOff_foldl_applyMessage key mode payload container

end Container

end Replica

/-! ## Messages -/

namespace Message

/-- The mode of an update. One that names none brings what is new. -/
def mode (message : Message) : String :=
  (message.argText? "mode").getD "new"

/-- The entries that an update of messages brings, one or a list of them, and the key of the list they edit. -/
def edits? (message : Message) : Option (String × List Value) :=
  match message.kind, message.subject, Replica.receiverKey? message, message.data with
  | .update, .message, some key, some (.list entries) => some (key, entries)
  | .update, .message, some key, some entry => some (key, [entry])
  | _, _, _, _ => none

end Message

namespace Replica

variable {replica : Replica} {message : Message}

theorem messages_of_edits {key : String} {payload : List Value} (brought : message.edits? = some (key, payload)) :
    (replica.handle message).replica.data.messages =
      payload.foldl (AppData.applyMessage key message.mode) replica.data.messages := by
  unfold Message.edits? at brought
  split at brought
  · next kind subject named given =>
      cases brought
      unfold handle onUpdate
      rw [kind, subject]
      dsimp only
      rw [named, given]
      rfl
  · next entry single kind subject named given =>
      cases brought
      unfold handle onUpdate
      rw [kind, subject]
      dsimp only
      rw [named, given]
      cases entry with
      | list entries => exact absurd rfl (single entries)
      | _ => rfl
  · cases brought

theorem Gathers.holdsLists {history : List (Replica × Message)} (gathers : Gathers history replica) :
    replica.data.messages.HoldsLists := by
  induction gathers with
  | start gate => exact Container.holdsLists_empty
  | @handled history replica former message ih =>
      cases paged : message.page? with
      | none => exact Container.keptByEdits_holdsLists.handle ih paged
      | some listed =>
          rw [messages_of_page paged]
          exact Container.holdsLists_insert ih _ _
  | cleared former ih => exact Container.holdsLists_empty
  | other former same ih =>
      rw [same]
      exact ih

/-- How the messages of receivers are edited. -/
structure KeepsMessages (replica : Replica) : Prop where
  lists : replica.data.messages.HoldsLists
  upserts : ∀ (container : Container) key, container.HoldsListAt key → Distinct (container.listAt key) →
    ∀ entry, container.Upserts key entry (container.upsertIn key entry)
  removes : ∀ (container : Container) key id, container.Removes key id (container.removeFrom key id)
  /-- Each update of a list in which ids are listed once edits it, entry by entry, and no other. -/
  updates : ∀ message key payload, message.edits? = some (key, payload) → Distinct (replica.data.messages.listAt key) →
    Container.Updates message.mode key payload replica.data.messages (replica.handle message).replica.data.messages

/-- Whatever was handled, each update finds a list, and its entries take their places in it. -/
theorem keepsMessages_of_gathers {history : List (Replica × Message)} (gathers : Gathers history replica) :
    KeepsMessages replica where
  lists := gathers.holdsLists
  upserts _ _ lists distinct entry := Container.upserts_upsertIn lists distinct entry
  removes := Container.removes_removeFrom
  updates message key payload brought distinct := by
    rw [messages_of_edits brought]
    exact Container.updates_foldl_applyMessage gathers.holdsLists distinct message.mode payload

/-- An update of a message from the page and of the one that had come before it. -/
theorem keepsMessages_pagedReplica :
    Gathers [({}, latestMessage), (latestReplica, earlierPage)] pagedReplica ∧ KeepsMessages pagedReplica ∧
      Container.Updates "new" "contact:a" [listedEntry "2" "edited", listedEntry "3" "sent"]
        pagedReplica.data.messages (pagedReplica.handle editedMessage).replica.data.messages := by
  have gathers : Gathers [({}, latestMessage), (latestReplica, earlierPage)] pagedReplica :=
    ((Gathers.start {}).handled latestMessage).handled earlierPage
  have keeps := keepsMessages_of_gathers gathers
  exact ⟨gathers, keeps, keeps.updates editedMessage _ _ rfl (by decide +kernel)⟩

end Replica

end RelayClient
