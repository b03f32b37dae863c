import RelayClient.Proofs.Pack.Sameness
import RelayClient.Replica.Routing

/-!
# Messages are listed once

The list of messages of a receiver is written in two ways: updates put each entry in
place of the one with its id, and an answer appends a page of entries to the list. So
an id is listed twice exactly where a page brings back an entry that its list holds
already, and whatever else a device tells keeps each id at one entry.
-/

namespace RelayClient

open Pack (Value)
open Replica (Container AppData)

namespace Replica

/-- Two entries have equal ids, as frames compare them. -/
def SameId (first second : Value) : Prop :=
  ∃ id, entryId? second = some id ∧ hasId id first = true

/-- No two entries of a list have equal ids. -/
def Distinct (entries : List Value) : Prop :=
  entries.Pairwise fun first second => ¬ SameId first second

theorem hasId_iff {id entry : Value} : hasId id entry = true ↔ ∃ found, entryId? entry = some found ∧ found.same id = true := by
  unfold hasId
  cases entryId? entry with
  | none => simp
  | some found => simp

instance (first second : Value) : Decidable (SameId first second) :=
  decidable_of_iff ((entryId? second).any (hasId · first) = true) (by
    unfold SameId
    rw [Option.any_eq_true])

instance (entries : List Value) : Decidable (Distinct entries) :=
  inferInstanceAs (Decidable (entries.Pairwise fun first second => ¬ SameId first second))

/-- An entry that shares its id with two others makes them share theirs. -/
theorem SameId.of_common {first second value id : Value} (has : hasId id first = true) (given : entryId? value = some id)
    (same : SameId value second) : SameId first second := by
  obtain ⟨found, held, agree⟩ := hasId_iff.mp has
  obtain ⟨other, heldToo, shares⟩ := same
  obtain ⟨own, givenToo, agreeToo⟩ := hasId_iff.mp shares
  rw [given] at givenToo
  cases givenToo
  exact ⟨other, heldToo, hasId_iff.mpr ⟨found, held, Value.same_trans agree agreeToo⟩⟩

theorem mem_replaceOrAppend {id value entry : Value} {entries : List Value}
    (mem : entry ∈ replaceOrAppend id value entries) : entry = value ∨ entry ∈ entries := by
  induction entries with
  | nil => exact .inl (List.mem_singleton.mp mem)
  | cons former rest ih =>
      rw [replaceOrAppend] at mem
      split at mem
      · rcases List.mem_cons.mp mem with same | later
        · exact .inl same
        · exact .inr (.tail _ later)
      · rcases List.mem_cons.mp mem with rfl | later
        · exact .inr (.head _)
        · exact (ih later).imp_right (.tail _)

/-! ## Lists -/

section Lists

variable {entries : List Value} (distinct : Distinct entries)

include distinct

/-- The entry takes the place of the only one that has its id. -/
theorem distinct_replaceOrAppend {id value : Value} (given : entryId? value = some id) :
    Distinct (replaceOrAppend id value entries) := by
  induction entries with
  | nil => exact List.pairwise_singleton _ _
  | cons former rest ih =>
      obtain ⟨apart, others⟩ := List.pairwise_cons.mp distinct
      rw [replaceOrAppend]
      split
      · next has =>
          refine List.pairwise_cons.mpr ⟨fun entry mem same => ?_, others⟩
          exact apart entry mem (.of_common has given same)
      · next lacks =>
          refine List.pairwise_cons.mpr ⟨fun entry mem same => ?_, ih others⟩
          rcases mem_replaceOrAppend mem with rfl | later
          · obtain ⟨found, held, has⟩ := same
            rw [given] at held
            cases held
            exact lacks has
          · exact apart entry later same

/-- An entry without an id shares none. -/
theorem distinct_upsert (value : Value) : Distinct (upsert value entries) := by
  unfold upsert
  cases given : entryId? value with
  | some id => exact distinct_replaceOrAppend distinct given
  | none =>
      refine List.pairwise_append.mpr ⟨distinct, List.pairwise_singleton _ _, fun entry _ other mem same => ?_⟩
      obtain ⟨id, held, -⟩ := same
      rw [List.mem_singleton.mp mem, given] at held
      cases held

theorem distinct_without (id : Value) : Distinct (without id entries) :=
  List.Pairwise.filter _ distinct

/-- A page that lists no id twice may follow exactly where it brings back no entry. -/
theorem distinct_append_iff {page : List Value} (once : Distinct page) :
    Distinct (entries ++ page) ↔ ∀ former ∈ entries, ∀ entry ∈ page, ¬ SameId former entry := by
  rw [Distinct, List.pairwise_append]
  exact ⟨fun all => all.2.2, fun apart => ⟨distinct, once, apart⟩⟩

end Lists

/-! ## Containers -/

namespace Container

/-- No list of a container holds two entries with equal ids. -/
def IsDistinct (container : Container) : Prop :=
  ∀ key, Distinct (container.listAt key)

theorem isDistinct_empty : IsDistinct .empty := fun _ => .nil

theorem listAt_insert (container : Container) (key other : String) (entries : List Value) :
    listAt (container.insert key (.list entries)) other = if other = key then entries else container.listAt other := by
  unfold listAt
  rw [Dictionary.get?_insert]
  split <;> rfl

theorem listAt_erase (container : Container) (key other : String) :
    listAt (container.erase key) other = if other = key then [] else container.listAt other := by
  unfold listAt
  rw [Dictionary.get?_erase]
  split <;> rfl

section Distinct

variable {container : Container} (distinct : container.IsDistinct)

include distinct

theorem isDistinct_insert {key : String} {entries : List Value} (own : Distinct entries) :
    IsDistinct (container.insert key (.list entries)) := by
  intro other
  rw [listAt_insert]
  split
  · exact own
  · exact distinct other

theorem isDistinct_erase (key : String) : IsDistinct (container.erase key) := by
  intro other
  rw [listAt_erase]
  split
  · exact .nil
  · exact distinct other

theorem distinct_of_get? {key : String} {entries : List Value} (held : container.get? key = some (.list entries)) :
    Distinct entries := by
  have own := distinct key
  unfold listAt at own
  rw [held] at own
  exact own

theorem isDistinct_upsertIn (key : String) (value : Value) : (container.upsertIn key value).IsDistinct := by
  unfold upsertIn
  split
  · exact isDistinct_insert distinct (distinct_upsert .nil value)
  · next entries held => exact isDistinct_insert distinct (distinct_upsert (distinct_of_get? distinct held) value)
  · exact distinct

theorem isDistinct_removeFrom (key : String) (id : Value) : (container.removeFrom key id).1.IsDistinct := by
  unfold removeFrom
  split
  · next entries held => exact isDistinct_insert distinct (distinct_without (distinct_of_get? distinct held) id)
  · exact distinct

/-- A page keeps a container distinct exactly where it brings back no entry of its list. -/
theorem isDistinct_extend_iff (key : String) {page : List Value} (once : Distinct page) :
    (container.extend key page).IsDistinct ↔
      ∀ former ∈ container.listAt key, ∀ entry ∈ page, ¬ SameId former entry := by
  rw [← distinct_append_iff (distinct key) once]
  constructor
  · intro all
    have own := all key
    rwa [extend, listAt_insert, if_pos rfl] at own
  · exact isDistinct_insert distinct

end Distinct

/-- A property of containers that no edit of their lists takes away. -/
structure KeptByEdits (Holds : Container → Prop) : Prop where
  upserted {container : Container} (key : String) (value : Value) (holds : Holds container) :
    Holds (container.upsertIn key value)
  removed {container : Container} (key : String) (id : Value) (holds : Holds container) :
    Holds (container.removeFrom key id).1
  erased {container : Container} (key : String) (holds : Holds container) : Holds (container.erase key)

theorem keptByEdits_isDistinct : KeptByEdits IsDistinct where
  upserted key value distinct := isDistinct_upsertIn distinct key value
  removed key id distinct := isDistinct_removeFrom distinct key id
  erased key distinct := isDistinct_erase distinct key

namespace KeptByEdits

variable {Holds : Container → Prop} (kept : KeptByEdits Holds) {container : Container} (holds : Holds container)

include kept holds

theorem applyMessage (key mode : String) (entry : Value) : Holds (AppData.applyMessage key mode container entry) := by
  unfold AppData.applyMessage
  split
  · split
    · exact kept.removed key _ holds
    · exact holds
  · exact kept.upserted key entry holds

theorem foldl_applyMessage (key mode : String) (entries : List Value) :
    Holds (entries.foldl (AppData.applyMessage key mode) container) := by
  induction entries generalizing container with
  | nil => exact holds
  | cons entry rest ih => exact ih (kept.applyMessage holds key mode entry)

end KeptByEdits

end Container

/-! ## Handling -/

/-- Routines that were released leave the messages alone. -/
theorem messages_release (replica : Replica) (notices : List Notice) (work : List Continuation) :
    (replica.release notices work).1.data.messages = replica.data.messages := by
  induction replica, notices, work using release.induct with
  | case1 replica notices => rw [release]
  | case2 replica notices list rest stored ih =>
      rw [release]
      exact ih
  | case3 replica notices number rest ih =>
      rw [release]
      exact ih

theorem messages_completeStep (replica : Replica) (step : InitStep) :
    (replica.completeStep step).1.data.messages = replica.data.messages :=
  messages_release _ _ _

theorem messages_setDevice (data : AppData) (key : String) (value : Option Value) :
    (setDevice data key value).messages = data.messages := by
  cases value <;> rfl

theorem messages_setBattery (data : AppData) (value : Value) : (data.setBattery value).messages = data.messages := by
  unfold AppData.setBattery
  split <;> rfl

theorem messages_applyReceiver (data : AppData) (message : Message) :
    (applyReceiver data message).messages = data.messages := by
  unfold applyReceiver
  repeat' split
  all_goals rfl

end Replica

/-- The page of entries that an answer brings, and the key of the list that it is appended to. -/
def Message.page? (message : Message) : Option (String × List Value) :=
  match message.kind, message.subject, Replica.receiverKey? message, message.data with
  | .response, .messages, some key, some (.list page) => some (key, page)
  | _, _, _, _ => none

/-- The page that a message brings, if it brings one, lists no id twice. -/
def Message.PagesOnce (message : Message) : Prop :=
  ∀ key page, message.page? = some (key, page) → Replica.Distinct page

namespace Replica

/-- A message brings a page with an entry whose id its list holds. -/
def Repeats (replica : Replica) (message : Message) : Prop :=
  ∃ key page, message.page? = some (key, page) ∧
    ∃ former ∈ replica.data.messages.listAt key, ∃ entry ∈ page, SameId former entry

variable {replica : Replica} {message : Message}

theorem not_repeats_of_unpaged (unpaged : message.page? = none) : ¬ replica.Repeats message := by
  rintro ⟨key, page, paged, -⟩
  rw [unpaged] at paged
  cases paged

theorem repeats_iff_of_page {key : String} {page : List Value} (paged : message.page? = some (key, page)) :
    replica.Repeats message ↔
      ∃ former ∈ replica.data.messages.listAt key, ∃ entry ∈ page, SameId former entry := by
  constructor
  · rintro ⟨other, entries, given, shared⟩
    rw [paged] at given
    cases given
    exact shared
  · exact fun shared => ⟨key, page, paged, shared⟩

theorem messages_of_page {key : String} {page : List Value} (paged : message.page? = some (key, page)) :
    (replica.handle message).replica.data.messages = replica.data.messages.extend key page := by
  unfold Message.page? at paged
  split at paged
  · next kind subject named given =>
      cases paged
      unfold handle onResponse
      rw [kind, subject]
      dsimp only
      rw [named, given]
      rfl
  · cases paged

theorem messages_onResponse (unpaged : message.page? = none) (response : message.kind = .response) :
    (replica.onResponse message).replica.data.messages = replica.data.messages := by
  unfold onResponse
  cases subject : message.subject with
  | clientInfo => exact (messages_completeStep _ _).trans (messages_setDevice _ _ _)
  | profile => exact messages_setDevice _ _ _
  | receivers =>
      refine (messages_completeStep _ _).trans ?_
      cases message.data <;> rfl
  | conversations => exact messages_release _ _ _
  | messages =>
      unfold Message.page? at unpaged
      rw [response, subject] at unpaged
      dsimp only at unpaged ⊢
      split
      · rfl
      · next key named =>
          split
          · next page given =>
              rw [named, given] at unpaged
              cases unpaged
          · rfl
  | avatar =>
      dsimp only
      split <;> rfl
  | thumbnail | blob | contactDetail =>
      dsimp only
      split <;> rfl
  | batteryStatus =>
      dsimp only
      split
      · exact messages_setBattery _ _
      · rfl
  | _ => rfl

/-- The answer to a creation brings no message. -/
theorem messages_onCreate (message : Message) :
    (replica.onCreate message).replica.data.messages = replica.data.messages := by
  unfold onCreate
  cases message.subject with
  | contact | group | distributionList =>
      dsimp only
      split
      · exact messages_applyReceiver _ _
      · rfl
  | _ => rfl

namespace Container.KeptByEdits

variable {Holds : Container → Prop} (kept : KeptByEdits Holds) (holds : Holds replica.data.messages)

include kept holds

/-- Updates put each entry in place of the one with its id, or remove it. -/
theorem onUpdate (message : Message) : Holds (replica.onUpdate message).replica.data.messages := by
  have unchanged {data : AppData} (same : data.messages = replica.data.messages) : Holds data.messages := by
    rw [same]
    exact holds
  unfold Replica.onUpdate
  cases message.subject with
  | message =>
      dsimp only
      split
      · exact holds
      · next key _ =>
          split
          · exact kept.foldl_applyMessage holds key _ _
          · exact kept.applyMessage holds key _ _
          · exact holds
  | receiver | contact | group | distributionList => exact unchanged (messages_applyReceiver _ _)
  | profile => exact unchanged (messages_setDevice _ _ _)
  | batteryStatus =>
      dsimp only
      split
      · exact unchanged (messages_setBattery _ _)
      · exact holds
  | conversation | typing | avatar =>
      dsimp only
      repeat' split
      all_goals exact holds
  | _ => exact holds

theorem onDelete (message : Message) : Holds (replica.onDelete message).replica.data.messages := by
  unfold Replica.onDelete
  cases message.subject with
  | message =>
      dsimp only
      split
      · exact kept.removed _ _ holds
      · exact holds
  | contact | group | distributionList | cleanReceiver =>
      dsimp only
      split
      · exact kept.erased _ holds
      · exact holds
  | _ => exact holds

/-- A message that brings no page takes away nothing that edits keep. -/
theorem handle (unpaged : message.page? = none) : Holds (replica.handle message).replica.data.messages := by
  unfold Replica.handle
  cases kind : message.kind with
  | response =>
      dsimp only
      rw [messages_onResponse unpaged kind]
      exact holds
  | update => exact kept.onUpdate holds message
  | create =>
      dsimp only
      rw [messages_onCreate]
      exact holds
  | delete => exact kept.onDelete holds message
  | request => exact holds

end Container.KeptByEdits

section Distinct

variable (distinct : replica.data.messages.IsDistinct)

include distinct

/-- Handling a message keeps the lists distinct exactly where the message brings back no entry. -/
theorem isDistinct_handle_iff (once : message.PagesOnce) :
    (replica.handle message).replica.data.messages.IsDistinct ↔ ¬ replica.Repeats message := by
  cases paged : message.page? with
  | none => exact iff_of_true (Container.keptByEdits_isDistinct.handle distinct paged) (not_repeats_of_unpaged paged)
  | some listed =>
      obtain ⟨key, page⟩ := listed
      rw [messages_of_page paged, Container.isDistinct_extend_iff distinct key (once key page paged),
        repeats_iff_of_page paged]
      simp only [not_exists, not_and]

end Distinct

/-- A replica that began without data, and the messages that were handled, each with the replica that it found. -/
inductive Gathers : List (Replica × Message) → Replica → Prop
  | start (gate : StepGate Continuation) : Gathers [] { gate }
  | handled {history : List (Replica × Message)} {replica : Replica} (former : Gathers history replica)
      (message : Message) : Gathers (history ++ [(replica, message)]) (replica.handle message).replica
  /-- All data may be forgotten in between. -/
  | cleared {history : List (Replica × Message)} {replica : Replica} (former : Gathers history replica) :
      Gathers history { replica with data := {} }
  /-- Whatever else is done leaves the messages alone. -/
  | other {history : List (Replica × Message)} {replica after : Replica} (former : Gathers history replica)
      (same : after.data.messages = replica.data.messages) : Gathers history after

/-- How often the messages of a receiver are listed. -/
structure ListsOnce (history : List (Replica × Message)) (replica : Replica) : Prop where
  /-- No id is listed twice, unless a page brought back an entry that its list held. -/
  distinct : (∀ entry ∈ history, ¬ entry.1.Repeats entry.2) → replica.data.messages.IsDistinct
  /-- Where none is, just such a page lists one twice. -/
  repeats : replica.data.messages.IsDistinct → ∀ message, message.PagesOnce →
    ((replica.handle message).replica.data.messages.IsDistinct ↔ ¬ replica.Repeats message)

theorem Gathers.isDistinct {history : List (Replica × Message)} (gathers : Gathers history replica)
    (once : ∀ entry ∈ history, entry.2.PagesOnce) (fresh : ∀ entry ∈ history, ¬ entry.1.Repeats entry.2) :
    replica.data.messages.IsDistinct := by
  induction gathers with
  | start gate => exact Container.isDistinct_empty
  | handled former message ih =>
      obtain ⟨onceBefore, onceNow⟩ := List.forall_mem_append.mp once
      obtain ⟨freshBefore, freshNow⟩ := List.forall_mem_append.mp fresh
      exact (isDistinct_handle_iff (ih onceBefore freshBefore) (onceNow _ (.head _))).mpr (freshNow _ (.head _))
  | cleared former ih => exact Container.isDistinct_empty
  | other former same ih =>
      rw [same]
      exact ih once fresh

/-- As long as no page lists an id twice, messages are listed once, but for pages that bring back an entry. -/
theorem listsOnce_of_gathers {history : List (Replica × Message)} (gathers : Gathers history replica)
    (once : ∀ entry ∈ history, entry.2.PagesOnce) : ListsOnce history replica where
  distinct := gathers.isDistinct once
  repeats distinct _ paged := isDistinct_handle_iff distinct paged

def conversationArgs : Args :=
  .ofList [("type", .text "contact"), ("id", .text "a")]

def listedEntry (id text : String) : Value :=
  .record [("id", .text id), ("text", .text text)]

/-- A message that was just sent. -/
def latestMessage : Message :=
  ⟨.update, .message, some conversationArgs, some (listedEntry "3" "draft")⟩

/-- A page of messages that were sent before. -/
def earlierPage : Message :=
  ⟨.response, .messages, some conversationArgs, some (.list [listedEntry "1" "", listedEntry "2" ""])⟩

def editedMessage : Message :=
  ⟨.update, .message, some conversationArgs, some (.list [listedEntry "2" "edited", listedEntry "3" "sent"])⟩

def latestReplica : Replica :=
  (({} : Replica).handle latestMessage).replica

def pagedReplica : Replica :=
  (latestReplica.handle earlierPage).replica

def pagedHistory : List (Replica × Message) :=
  [({}, latestMessage), (latestReplica, earlierPage), (pagedReplica, editedMessage)]

/-- Updates of entries that came with a page or before it find them where they are listed. -/
theorem listsOnce_pagedReplica :
    Gathers pagedHistory (pagedReplica.handle editedMessage).replica ∧
      (∀ entry ∈ pagedHistory, entry.2.PagesOnce) ∧
      ListsOnce pagedHistory (pagedReplica.handle editedMessage).replica ∧
      (∀ entry ∈ pagedHistory, ¬ entry.1.Repeats entry.2) ∧
      ((pagedReplica.handle editedMessage).replica.data.messages.listAt "contact:a").map
          (fun entry => (entry.get? "text").bind Value.text?) = [some "sent", some "", some "edited"] := by
  have gathers : Gathers pagedHistory (pagedReplica.handle editedMessage).replica :=
    (((Gathers.start {}).handled latestMessage).handled earlierPage).handled editedMessage
  have once : ∀ entry ∈ pagedHistory, entry.2.PagesOnce := by
    simp only [pagedHistory, List.forall_mem_cons]
    refine ⟨nofun, ?_, nofun, List.forall_mem_nil _⟩
    rintro key page ⟨⟩
    decide +kernel
  refine ⟨gathers, once, listsOnce_of_gathers gathers once, ?_, by decide +kernel⟩
  simp only [pagedHistory, List.forall_mem_cons]
  refine ⟨not_repeats_of_unpaged rfl, ?_, not_repeats_of_unpaged rfl, List.forall_mem_nil _⟩
  rw [repeats_iff_of_page rfl]
  decide +kernel

/-- The answer to a request for messages, which has come as an update before. -/
def overlappingPage : Message :=
  ⟨.response, .messages, some conversationArgs, some (.list [listedEntry "3" "draft"])⟩

/-- A page that brings back an entry lists it a second time. -/
theorem not_isDistinct_overlappingPage :
    Gathers [({}, latestMessage), (latestReplica, overlappingPage)] (latestReplica.handle overlappingPage).replica ∧
      latestMessage.PagesOnce ∧ overlappingPage.PagesOnce ∧
      ¬ (latestReplica.handle overlappingPage).replica.data.messages.IsDistinct := by
  have once : overlappingPage.PagesOnce := by
    rintro key page ⟨⟩
    decide +kernel
  refine ⟨((Gathers.start {}).handled latestMessage).handled overlappingPage, nofun, once, fun distinct => ?_⟩
  exact absurd (distinct "contact:a") (by decide +kernel)

end Replica

end RelayClient
