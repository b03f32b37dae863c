import RelayClient.Proofs.Replica.Receivers

/-!
# Receivers are kept apart

What a message changes concerns the receiver it names. A creation or deletion that
failed changes nothing, and the two answers that list receivers or conversations
write what they list, or what was listed before and had to wait, and remove nothing.
-/

namespace RelayClient

open Pack (Value)
open Replica (AppData Container ContainerName receiverKey)

namespace Replica

variable {replica : Replica}

/-! ## Failures -/

/-- A creation or deletion that failed changes nothing at all. -/
theorem handle_of_failed (replica : Replica) {message : Message}
    (change : message.kind = .create ∨ message.kind = .delete)
    (failed : message.argBool? "success" = some false) : (replica.handle message).replica = replica := by
  have unsuccessful : succeeded message = false := by
    rw [succeeded, failed]
    rfl
  unfold handle
  rcases change with kind | kind
  · rw [kind]
    dsimp only
    unfold onCreate
    cases message.subject with
    | contact | group | distributionList =>
        dsimp only
        rw [unsuccessful]
        rfl
    | _ => rfl
  · rw [kind]
    dsimp only
    unfold onDelete
    cases message.subject with
    | message | contact | group | distributionList | cleanReceiver =>
        dsimp only
        rw [unsuccessful]
        rfl
    | _ => rfl

/-! ## Lists -/

/-- A change that writes values where they are listed, and removes none. -/
def Container.Gains (listed : String → Value → Prop) (before after : Container) : Prop :=
  ∀ key, after.get? key = before.get? key ∨ ∃ value, listed key value ∧ after.get? key = some value

namespace Container.Gains

variable {listed : String → Value → Prop} {before middle after : Container}

theorem refl (container : Container) : Gains listed container container := fun _ => .inl rfl

theorem trans (first : Gains listed before middle) (second : Gains listed middle after) : Gains listed before after := by
  intro key
  rcases second key with same | gained
  · rw [same]
    exact first key
  · exact .inr gained

theorem insert (container : Container) {key : String} {value : Value} (given : listed key value) :
    Gains listed container (container.insert key value) := by
  intro other
  rw [Dictionary.get?_insert]
  by_cases same : other = key
  · subst same
    exact .inr ⟨value, given, if_pos rfl⟩
  · exact .inl (if_neg same)

theorem mono {more : String → Value → Prop} (gains : Gains listed before after)
    (given : ∀ key value, listed key value → more key value) : Gains more before after := by
  intro key
  rcases gains key with same | ⟨value, listed, gained⟩
  · exact .inl same
  · exact .inr ⟨value, given key value listed, gained⟩

theorem foldl {α : Type} {step : Container → α → Container} {items : List α}
    (each : ∀ item ∈ items, ∀ current, Gains listed current (step current item)) (first : Container) :
    Gains listed first (items.foldl step first) := by
  induction items generalizing first with
  | nil => exact .refl first
  | cons item rest ih =>
      exact (each item (.head rest) first).trans (ih (fun other mem => each other (.tail _ mem)) _)

end Container.Gains

/-- What a list of conversations holds under a key. -/
def ListsConversation (list : List Value) (key : String) (conversation : Value) : Prop :=
  conversation ∈ list ∧ AppData.conversationKey? conversation = some key

/-- What a table of receivers holds under a key: a receiver in the list of its type. -/
def ListsReceiver (table : Value) (key : String) (receiver : Value) : Prop :=
  ∃ type ∈ AppData.receiverTypes, ∃ list, table.get? type = some (.list list) ∧ receiver ∈ list ∧
    ∃ id, (receiver.get? "id").bind Value.text? = some id ∧ key = receiverKey type id

theorem gains_storeConversations (list : List Value) (state : Container × Nat) :
    Container.Gains (ListsConversation list) state.1 (list.foldl AppData.storeConversation state).1 := by
  induction list generalizing state with
  | nil => exact .refl _
  | cons conversation rest ih =>
      rw [List.foldl_cons]
      refine .trans ?_ ((ih _).mono fun key value held => ⟨.tail _ held.1, held.2⟩)
      unfold AppData.storeConversation
      split
      · next key named => exact .insert _ ⟨.head rest, named⟩
      · exact .refl _

theorem gains_storeReceiversOf (type : String) (list : List Value) (receivers : Container) :
    Container.Gains (fun key receiver => receiver ∈ list ∧
        ∃ id, (receiver.get? "id").bind Value.text? = some id ∧ key = receiverKey type id)
      receivers (AppData.storeReceiversOf type receivers list) := by
  unfold AppData.storeReceiversOf
  apply Container.Gains.foldl
  intro receiver mem current
  split
  · next id named => exact .insert _ ⟨mem, id, named, rfl⟩
  · exact .refl _

theorem gains_storeReceivers (data : AppData) (table : Value) :
    Container.Gains (ListsReceiver table) data.receivers (data.storeReceivers table).receivers := by
  unfold AppData.storeReceivers
  apply Container.Gains.foldl
  intro type known current
  split
  · next list under =>
      exact (gains_storeReceiversOf type list current).mono fun key value held =>
        ⟨type, known, list, under, held⟩
  · exact .refl _

/-- What is released stores the conversations that are in it, and changes no other container. -/
theorem release_storeConversations (replica : Replica) (notices : List Notice) (work : List Continuation)
    (orderly : replica.gate.IsOrderly) :
    (∀ name, name ≠ .conversations →
        (replica.release notices work).1.data.container name = replica.data.container name) ∧
      Container.Gains (fun key value => ∃ list, .storeConversations list ∈ work ∧ ListsConversation list key value)
        replica.data.conversations (replica.release notices work).1.data.conversations := by
  induction replica, notices, work using release.induct with
  | case1 replica notices =>
      unfold release
      exact ⟨fun _ _ => rfl, .refl _⟩
  | case2 replica notices list rest stored ih =>
      unfold release
      obtain ⟨others, gains⟩ := ih (orderly.register .conversations)
      constructor
      · intro name other
        rw [others name other]
        cases name <;> first | rfl | exact absurd rfl other
      · refine .trans ((gains_storeConversations list (replica.data.conversations, 0)).mono ?_) (gains.mono ?_)
        · exact fun key value held => ⟨list, .head rest, held⟩
        · rintro key value ⟨more, mem, held⟩
          -- storing conversations completes their own step, and no conversations wait for that one
          rcases List.mem_append.mp mem with released | waiting
          · cases (orderly.released released).1
          · exact ⟨more, .tail _ waiting, held⟩
  | case3 replica notices number rest ih =>
      unfold release
      obtain ⟨others, gains⟩ := ih orderly
      refine ⟨others, gains.mono ?_⟩
      rintro key value ⟨list, mem, held⟩
      exact ⟨list, .tail _ mem, held⟩

/-- What an answer lists for a container: the receivers in it, its own conversations, or those
that came before the receivers and waited for them. -/
inductive Lists (replica : Replica) (message : Message) : ContainerName → String → Value → Prop where
  | receiver {table receiver : Value} {key : String} (subject : message.subject = .receivers)
      (given : message.data = some table) (listed : ListsReceiver table key receiver) :
      Lists replica message .receivers key receiver
  | conversation {list : List Value} {conversation : Value} {key : String}
      (subject : message.subject = .conversations) (given : message.data = some (.list list))
      (listed : ListsConversation list key conversation) : Lists replica message .conversations key conversation
  | waiting {waiting : Waiting Continuation} {list : List Value} {conversation : Value} {key : String}
      (subject : message.subject = .receivers) (queued : waiting ∈ replica.gate.queue)
      (routine : waiting.routine = .storeConversations list) (listed : ListsConversation list key conversation) :
      Lists replica message .conversations key conversation

/-- The data once the receivers of an answer are stored. -/
def withReceivers (data : AppData) (message : Message) : AppData :=
  message.data.elim data data.storeReceivers

theorem container_withReceivers (data : AppData) (message : Message) {name : ContainerName}
    (other : name ≠ .receivers) : (withReceivers data message).container name = data.container name := by
  unfold withReceivers
  cases message.data with
  | none => rfl
  | some table => cases name <;> first | rfl | exact absurd rfl other

theorem onResponse_receivers {message : Message} (subject : message.subject = .receivers) :
    replica.onResponse message =
      handledNoting (completeStep { replica with data := withReceivers replica.data message } .receivers) := by
  unfold onResponse withReceivers
  rw [subject]
  cases message.data <;> rfl

theorem onResponse_conversations {message : Message} (subject : message.subject = .conversations) :
    replica.onResponse message = handledNoting
      (replica.runAfter [.receivers] (.storeConversations ((message.data.bind Value.list?).getD []))) := by
  unfold onResponse
  rw [subject]

/-- The answer with the receivers stores them, and lets the conversations in that waited for them. -/
theorem gains_receivers (orderly : replica.gate.IsOrderly) {message : Message}
    (subject : message.subject = .receivers) (name : ContainerName) :
    Container.Gains (Lists replica message name) (replica.data.container name)
      ((replica.onResponse message).replica.data.container name) := by
  obtain ⟨kept, gains⟩ := release_storeConversations
    ⟨withReceivers replica.data message, (replica.gate.register .receivers).1⟩ []
    (replica.gate.register .receivers).2 (orderly.register .receivers)
  rw [onResponse_receivers subject]
  by_cases conversations : name = .conversations
  · subst conversations
    have distinct : ContainerName.conversations ≠ .receivers := by decide
    have before : (withReceivers replica.data message).conversations = replica.data.conversations :=
      container_withReceivers replica.data message distinct
    rw [before] at gains
    refine gains.mono fun key value ⟨list, released, held⟩ => ?_
    obtain ⟨-, waiting, queued, routine⟩ := orderly.released released
    exact .waiting subject queued routine held
  · have same := kept name conversations
    unfold handledNoting completeStep
    rw [same]
    by_cases receivers : name = .receivers
    · subst receivers
      unfold withReceivers
      cases given : message.data with
      | none => exact .refl _
      | some table =>
          exact (gains_storeReceivers replica.data table).mono fun key value held => .receiver subject given held
    · dsimp only
      rw [container_withReceivers replica.data message receivers]
      exact .refl _

/-- The answer with the conversations stores them, unless they have to wait for the receivers. -/
theorem gains_conversations (orderly : replica.gate.IsOrderly) {message : Message}
    (subject : message.subject = .conversations) (name : ContainerName) :
    Container.Gains (Lists replica message name) (replica.data.container name)
      ((replica.onResponse message).replica.data.container name) := by
  rw [onResponse_conversations subject]
  generalize given : (message.data.bind Value.list?).getD [] = list
  obtain ⟨kept, gains⟩ := release_storeConversations
    { replica with gate := (replica.gate.runAfter [.receivers] (.storeConversations list)).1 } []
    (replica.gate.runAfter [.receivers] (.storeConversations list)).2 (orderly.runAfter_storeConversations list)
  by_cases conversations : name = .conversations
  · subst conversations
    refine gains.mono fun key value ⟨released, mem, held⟩ => ?_
    have own : released = list := by
      unfold StepGate.runAfter at mem
      split at mem
      · exact Continuation.storeConversations.inj (List.mem_singleton.mp mem)
      · cases mem
    subst own
    refine .conversation subject ?_ held
    cases data : message.data with
    | none =>
        rw [data] at given
        subst given
        cases held.1
    | some value =>
        rw [data] at given
        cases value with
        | list items =>
            cases given
            rfl
        | _ =>
            cases given
            cases held.1
  · have same := kept name conversations
    unfold handledNoting runAfter
    rw [same]
    exact .refl _

/-- What handling a message leaves as it was. -/
structure Separates (replica : Replica) (message : Message) : Prop where
  /-- A message about one receiver leaves what is kept of every other receiver. -/
  others : ¬ message.IsListing → ∀ type id, message.receiver? = some (type, id) → ':' ∉ type.toList →
    ∀ other name, ':' ∉ other.toList → (other, name) ≠ (type, id) → ∀ container ∈ receiverContainers,
      ((replica.handle message).replica.data.container container).get? (receiverKey other name) =
        (replica.data.container container).get? (receiverKey other name)
  /-- A message about none leaves all that is kept by receiver. -/
  nameless : ¬ message.IsListing → message.receiver? = none → ∀ container ∈ receiverContainers,
    (replica.handle message).replica.data.container container = replica.data.container container
  /-- A creation or deletion that failed leaves everything. -/
  failed : message.kind = .create ∨ message.kind = .delete → message.argBool? "success" = some false →
    (replica.handle message).replica.data = replica.data
  /-- An answer that lists receivers or conversations writes what it lists, where it lists it. It
  leaves every other entry and removes none. -/
  listing : message.IsListing → ∀ container key,
    ((replica.handle message).replica.data.container container).get? key =
        (replica.data.container container).get? key ∨
      ∃ value, Lists replica message container key value ∧
        ((replica.handle message).replica.data.container container).get? key = some value

/-- However a replica came about, handling a message keeps receivers apart. -/
theorem separates_of_arises (arises : replica.Arises) (message : Message) : replica.Separates message := by
  have orderly := arises.isOrderly
  constructor
  case others =>
    intro single type id about free other name freeToo distinct container mem
    have named : receiverKey? message = some (receiverKey type id) := by
      rw [receiverKey?_eq, about]
      rfl
    refine (touches_handle orderly single).named _ named container mem (receiverKey other name) fun same => ?_
    obtain ⟨rfl, rfl⟩ := receiverKey_inj freeToo free same
    exact distinct rfl
  case nameless =>
    intro single about
    refine (touches_handle orderly single).nameless ?_
    rw [receiverKey?_eq, about]
    rfl
  case failed =>
    intro change failed
    rw [handle_of_failed replica change failed]
  case listing =>
    intro ⟨kind, subject⟩ container
    unfold handle
    rw [kind]
    rcases subject with receivers | conversations
    · exact gains_receivers orderly receivers container
    · exact gains_conversations orderly conversations container

/-- Two conversations, told before their receivers. -/
def earlyConversations : Message :=
  ⟨.response, .conversations, none, some (.list
    [.record [("type", .text "contact"), ("id", .text "a")], .record [("type", .text "contact"), ("id", .text "b")]])⟩

def lateReceivers : Message :=
  ⟨.response, .receivers, none, some (.record [("contact", .list [.record [("id", .text "a")]])])⟩

/-- A deletion that names the type of its receiver by its subject. -/
def deletedContact : Message :=
  ⟨.delete, .contact, some (Dictionary.empty.insert "id" (.text "a")), none⟩

def listedReplica : Replica :=
  ((({} : Replica).handle earlyConversations).replica.handle lateReceivers).replica

/-- Deleting one contact spares the conversation of the other. -/
theorem separates_deletedContact : listedReplica.Separates deletedContact ∧
    listedReplica.data.conversations.keys = ["contact:a", "contact:b"] ∧
    (listedReplica.handle deletedContact).replica.data.conversations.keys = ["contact:b"] := by
  have arises : listedReplica.Arises := (Arises.start.handled earlyConversations).handled lateReceivers
  exact ⟨separates_of_arises arises deletedContact, by decide +kernel, by decide +kernel⟩

end Replica

end RelayClient
