import RelayClient.Proofs.Replica.Separation

/-!
# One receiver's conversation

The conversations of an answer are kept back until the receivers came, while what
else tells of a conversation is stored at once. Seen from one receiver, a replica is
three things: whether the receivers came, the conversation that is kept back and the
one that is stored. A message does to these what it says of the conversation.
-/

namespace RelayClient

open Pack (Value)
open Replica (AppData)

/-! ## What messages tell of a conversation -/

/-- Whether a message is the answer with the receivers. -/
def Message.bringsReceivers (message : Message) : Bool :=
  message.kind == .response && message.subject == .receivers

/-- The conversations that an answer lists. -/
def Message.listed (message : Message) : List Value :=
  if message.kind = .response ∧ message.subject = .conversations then (message.data.bind Value.list?).getD [] else []

/-- What a message tells of the conversation under a key, and is stored at once: what it is now,
or that it was removed. An update may tell either, a deletion of its receiver tells that it is gone. -/
def Message.news? (message : Message) (key : String) : Option (Option Value) :=
  if Replica.receiverKey? message = some key then
    match message.kind, message.subject with
    | .update, .conversation =>
        if message.argText? "mode" = some "removed" then some none else message.data.map some
    | .delete, .contact | .delete, .group | .delete, .distributionList =>
        if Replica.succeeded message then some none else none
    | _, _ => none
  else none

/-- Only updates and deletions write at once. -/
theorem Message.news?_eq_none {message : Message} (silent : message.kind ≠ .update ∧ message.kind ≠ .delete)
    (key : String) : message.news? key = none := by
  rw [news?]
  cases kind : message.kind with
  | request | response | create => exact ite_self _
  | update => exact absurd kind silent.1
  | delete => exact absurd kind silent.2

/-- The conversation that a list holds under a key; the last one counts. -/
def lastListed (list : List Value) (key : String) : Option Value :=
  (list.filter fun conversation => AppData.conversationKey? conversation == some key).getLast?

theorem lastListed_append (first second : List Value) (key : String) :
    lastListed (first ++ second) key = (lastListed second key).or (lastListed first key) := by
  rw [lastListed, List.filter_append, List.getLast?_append]
  rfl

theorem lastListed_singleton (conversation : Value) (key : String) :
    lastListed [conversation] key =
      if AppData.conversationKey? conversation = some key then some conversation else none := by
  by_cases named : AppData.conversationKey? conversation = some key
  · simp [lastListed, named]
  · simp [lastListed, named]

/-- Storing a list of conversations leaves the last one under each key. -/
theorem get?_storeConversations (list : List Value) (state : Replica.Container × Nat) (key : String) :
    (list.foldl AppData.storeConversation state).1.get? key = (lastListed list key).or (state.1.get? key) := by
  induction list generalizing state with
  | nil => rfl
  | cons conversation rest ih =>
      have stored : (AppData.storeConversation state conversation).1.get? key =
          (lastListed [conversation] key).or (state.1.get? key) := by
        rw [lastListed_singleton]
        unfold AppData.storeConversation
        cases named : AppData.conversationKey? conversation with
        | none => rfl
        | some other =>
            dsimp only
            rw [Dictionary.get?_insert]
            by_cases same : key = other
            · rw [if_pos same, if_pos (by rw [same])]
              rfl
            · rw [if_neg same, if_neg fun equal => same (Option.some.inj equal).symm]
              rfl
      rw [List.foldl_cons, ih, stored, ← Option.or_assoc, ← lastListed_append, List.singleton_append]

/-! ## What is kept back -/

/-- The conversations that a routine stores. -/
def Continuation.listed : Continuation → List Value
  | .storeConversations list => list
  | .finishStart _ => []

/-- All conversations that wait, in the order in which they came. -/
def StepGate.keptBack (gate : StepGate Continuation) : List Value :=
  gate.queue.flatMap (·.routine.listed)

/-- Entries that list nothing may be left out. -/
theorem flatMap_filter_of_forall {α β : Type} {list : List α} {test : α → Bool} {items : α → List β}
    (empty : ∀ entry ∈ list, test entry = false → items entry = []) :
    (list.filter test).flatMap items = list.flatMap items := by
  induction list with
  | nil => rfl
  | cons entry rest ih =>
      have others := ih fun other mem => empty other (.tail _ mem)
      cases kept : test entry with
      | true => rw [List.filter_cons_of_pos kept, List.flatMap_cons, List.flatMap_cons, others]
      | false =>
          rw [List.filter_cons_of_neg (by simp [kept]), List.flatMap_cons, empty entry (.head _) kept, others]
          rfl

theorem Continuation.listed_eq_nil {routine : Continuation}
    (finishes : ∀ list, routine ≠ .storeConversations list) : routine.listed = [] := by
  cases routine with
  | storeConversations list => exact absurd rfl (finishes list)
  | finishStart number => rfl

namespace StepGate.IsOrderly

variable {gate : StepGate Continuation}

/-- Nothing is kept back once the receivers came. -/
theorem keptBack_of_complete (orderly : gate.IsOrderly) (complete : gate.completed.receivers = true) :
    gate.keptBack = [] := by
  refine List.flatMap_eq_nil_iff.mpr fun waiting mem => Continuation.listed_eq_nil fun list routine => ?_
  obtain ⟨-, missing⟩ := orderly waiting mem list routine
  rw [complete] at missing
  cases missing

/-- Any other step lets no conversations in, and keeps back what was kept back. -/
theorem register_of_ne_receivers (orderly : gate.IsOrderly) {step : InitStep} (other : step ≠ .receivers) :
    (gate.register step).2.flatMap Continuation.listed = [] ∧ (gate.register step).1.keptBack = gate.keptBack ∧
      (gate.register step).1.completed.receivers = gate.completed.receivers := by
  refine ⟨List.flatMap_eq_nil_iff.mpr fun routine mem => Continuation.listed_eq_nil fun list same => ?_, ?_, ?_⟩
  · subst same
    exact other (orderly.released mem).1
  · unfold StepGate.register
    split
    · rfl
    · simp only [List.partition_eq_filter_filter]
      apply flatMap_filter_of_forall
      intro waiting mem released
      refine Continuation.listed_eq_nil fun list routine => ?_
      obtain ⟨required, missing⟩ := orderly waiting mem list routine
      cases step with
      | receivers => exact other rfl
      | clientInfo | conversations =>
          simp [required, StepSet.covers, StepSet.contains, StepSet.insert, missing] at released
  · unfold StepGate.register
    split
    · rfl
    · cases step with
      | receivers => exact absurd rfl other
      | clientInfo | conversations => rfl

/-- The receivers let in all that was kept back. -/
theorem register_receivers (orderly : gate.IsOrderly) :
    (gate.register .receivers).2.flatMap Continuation.listed = gate.keptBack ∧
      (gate.register .receivers).1.keptBack = [] ∧ (gate.register .receivers).1.completed.receivers = true := by
  unfold StepGate.register
  split
  · next complete => exact ⟨(orderly.keptBack_of_complete complete).symm, orderly.keptBack_of_complete complete, complete⟩
  · simp only [List.partition_eq_filter_filter]
    refine ⟨?_, ?_, rfl⟩
    · rw [List.flatMap_map]
      apply flatMap_filter_of_forall
      intro waiting mem uncovered
      refine Continuation.listed_eq_nil fun list routine => ?_
      rw [(orderly waiting mem list routine).1] at uncovered
      cases uncovered
    · refine List.flatMap_eq_nil_iff.mpr fun waiting mem => Continuation.listed_eq_nil fun list routine => ?_
      obtain ⟨queued, uncovered⟩ := List.mem_filter.mp mem
      have required := (orderly waiting queued list routine).1
      simp [required, StepSet.covers, StepSet.contains, StepSet.insert] at uncovered

end StepGate.IsOrderly

namespace Replica

variable {replica : Replica} {key : String}

/-- What is released stores the last conversation that it lists under each key, and lets nothing else in. -/
theorem release_listed (replica : Replica) (notices : List Notice) (work : List Continuation)
    (orderly : replica.gate.IsOrderly) :
    (∀ key, (replica.release notices work).1.data.conversations.get? key =
        (lastListed (work.flatMap Continuation.listed) key).or (replica.data.conversations.get? key)) ∧
      (replica.release notices work).1.gate.keptBack = replica.gate.keptBack ∧
      (replica.release notices work).1.gate.completed.receivers = replica.gate.completed.receivers := by
  induction replica, notices, work using release.induct with
  | case1 replica notices =>
      unfold release
      exact ⟨fun _ => rfl, rfl, rfl⟩
  | case2 replica notices list rest stored ih =>
      obtain ⟨released, kept, came⟩ := orderly.register_of_ne_receivers (by decide : InitStep.conversations ≠ .receivers)
      obtain ⟨conversations, keptToo, cameToo⟩ := ih (orderly.register .conversations)
      unfold release
      refine ⟨fun key => ?_, keptToo.trans kept, cameToo.trans came⟩
      have now : stored.1.conversations.get? key = (lastListed list key).or (replica.data.conversations.get? key) :=
        get?_storeConversations list (replica.data.conversations, 0) key
      rw [conversations key, List.flatMap_append, released, List.nil_append, now, ← Option.or_assoc, ← lastListed_append]
      rfl
  | case3 replica notices number rest ih =>
      unfold release
      exact ih orderly

/-! ## One receiver's conversation -/

/-- What a replica knows of one receiver's conversation. -/
structure Thread where
  receiversCame : Bool
  /-- The conversation that waits for the receivers. -/
  held : Option Value
  stored : Option Value

/-- What a message makes of it: the receivers let in what was held, news is stored at once,
and a listed conversation is stored or held. -/
def Thread.hear (key : String) (thread : Thread) (message : Message) : Thread :=
  if message.bringsReceivers then ⟨true, none, thread.held.or thread.stored⟩
  else
    match message.news? key with
    | some said => { thread with stored := said }
    | none =>
        if thread.receiversCame then
          { thread with stored := (lastListed message.listed key).or thread.stored }
        else { thread with held := (lastListed message.listed key).or thread.held }

def thread (replica : Replica) (key : String) : Thread where
  receiversCame := replica.gate.completed.receivers
  held := lastListed replica.gate.keptBack key
  stored := replica.data.conversations.get? key

/-- Nothing is held once the receivers came. -/
theorem held_of_receiversCame (orderly : replica.gate.IsOrderly) (key : String)
    (came : (replica.thread key).receiversCame = true) : (replica.thread key).held = none := by
  unfold thread
  dsimp only
  rw [orderly.keptBack_of_complete came]
  rfl

theorem thread_receivers (orderly : replica.gate.IsOrderly) {message : Message}
    (subject : message.subject = .receivers) (key : String) :
    (replica.onResponse message).replica.thread key = ⟨true, none, (replica.thread key).held.or (replica.thread key).stored⟩ := by
  obtain ⟨released, kept, came⟩ := orderly.register_receivers
  obtain ⟨conversations, keptToo, cameToo⟩ := release_listed
    ⟨withReceivers replica.data message, (replica.gate.register .receivers).1⟩ []
    (replica.gate.register .receivers).2 (orderly.register .receivers)
  have unchanged : (withReceivers replica.data message).conversations = replica.data.conversations :=
    container_withReceivers replica.data message (by decide : ContainerName.conversations ≠ .receivers)
  rw [onResponse_receivers subject]
  unfold thread handledNoting completeStep
  dsimp only at conversations keptToo cameToo ⊢
  rw [conversations, keptToo, cameToo, released, kept, came, unchanged]
  rfl

theorem thread_conversations (orderly : replica.gate.IsOrderly) {message : Message}
    (kind : message.kind = .response) (subject : message.subject = .conversations) (key : String) :
    (replica.onResponse message).replica.thread key = (replica.thread key).hear key message := by
  have listed : message.listed = (message.data.bind Value.list?).getD [] := if_pos ⟨kind, subject⟩
  have silent : message.news? key = none := Message.news?_eq_none (by rw [kind]; decide) key
  have other : message.bringsReceivers = false := by simp [Message.bringsReceivers, subject]
  rw [onResponse_conversations subject, ← listed]
  unfold Thread.hear handledNoting runAfter
  rw [other, silent]
  obtain ⟨conversations, kept, came⟩ := release_listed
    { replica with gate := (replica.gate.runAfter [.receivers] (.storeConversations message.listed)).1 } []
    (replica.gate.runAfter [.receivers] (.storeConversations message.listed)).2
    (orderly.runAfter_storeConversations message.listed)
  unfold thread
  dsimp only at conversations kept came ⊢
  rw [conversations, kept, came]
  unfold StepGate.runAfter StepGate.keptBack
  cases complete : replica.gate.completed.receivers with
  | true =>
      have covered : replica.gate.completed.covers [.receivers] = true := by
        simp [StepSet.covers, StepSet.contains, complete]
      simp [covered, complete, Continuation.listed]
  | false =>
      have uncovered : replica.gate.completed.covers [.receivers] = false := by
        simp [StepSet.covers, StepSet.contains, complete]
      simp [uncovered, complete, Continuation.listed, lastListed]

/-! ## What else leaves conversations as they are -/

theorem conversations_setDevice (data : AppData) (name : String) (value : Option Value) :
    (setDevice data name value).conversations = data.conversations := by
  cases value <;> rfl

theorem conversations_setBattery (data : AppData) (value : Value) :
    (data.setBattery value).conversations = data.conversations := by
  unfold AppData.setBattery
  split <;> rfl

theorem conversations_applyReceiver (data : AppData) (message : Message) :
    (applyReceiver data message).conversations = data.conversations := by
  unfold applyReceiver
  repeat' split
  all_goals rfl

/-- Other responses neither tell of a conversation nor let one in. -/
theorem thread_onResponse_of_single (orderly : replica.gate.IsOrderly) {message : Message}
    (single : message.subject ≠ .receivers ∧ message.subject ≠ .conversations) (key : String) :
    (replica.onResponse message).replica.thread key = replica.thread key := by
  unfold onResponse
  cases subject : message.subject with
  | receivers => exact absurd subject single.1
  | conversations => exact absurd subject single.2
  | clientInfo =>
      obtain ⟨released, kept, came⟩ := orderly.register_of_ne_receivers (by decide : InitStep.clientInfo ≠ .receivers)
      obtain ⟨conversations, keptToo, cameToo⟩ := release_listed
        ⟨setDevice replica.data clientInfoKey message.data, (replica.gate.register .clientInfo).1⟩ []
        (replica.gate.register .clientInfo).2 (orderly.register .clientInfo)
      unfold thread handledNoting completeStep
      dsimp only at conversations keptToo cameToo ⊢
      rw [conversations, keptToo, cameToo, released, kept, came, conversations_setDevice]
      rfl
  | profile =>
      unfold thread handledWith
      dsimp only
      rw [conversations_setDevice]
  | batteryStatus =>
      dsimp only
      split
      · unfold thread handledWith
        dsimp only
        rw [conversations_setBattery]
      · rfl
  | messages =>
      dsimp only
      split
      · rfl
      · split <;> rfl
  | avatar | thumbnail | blob | contactDetail =>
      dsimp only
      split <;> rfl
  | _ => rfl

/-- Updates of anything but a conversation leave all conversations. -/
theorem conversations_onUpdate_of_ne (replica : Replica) {message : Message} (other : message.subject ≠ .conversation) :
    (replica.onUpdate message).replica.data.conversations = replica.data.conversations := by
  unfold onUpdate
  cases subject : message.subject with
  | conversation => exact absurd subject other
  | receiver | contact | group | distributionList => exact conversations_applyReceiver replica.data message
  | profile => exact conversations_setDevice replica.data profileKey message.data
  | batteryStatus =>
      dsimp only
      split
      · exact conversations_setBattery replica.data _
      · rfl
  | message =>
      dsimp only
      split
      · rfl
      · split <;> rfl
  | typing | avatar =>
      dsimp only
      split <;> rfl
  | _ => rfl

/-- Creations leave all conversations. -/
theorem conversations_onCreate (replica : Replica) (message : Message) :
    (replica.onCreate message).replica.data.conversations = replica.data.conversations := by
  unfold onCreate
  cases message.subject with
  | contact | group | distributionList =>
      dsimp only
      split
      · exact conversations_applyReceiver replica.data message
      · rfl
  | _ => rfl

/-! ## News -/

/-- A change under one key, seen under another or the same. -/
theorem ite_eq_getD (name key : String) (written before : Option Value) :
    (if key = name then written else before) = (if some name = some key then some written else none).getD before := by
  by_cases same : key = name
  · rw [if_pos same, if_pos (congrArg some same.symm)]
    rfl
  · rw [if_neg same, if_neg fun equal => same (Option.some.inj equal).symm]
    rfl

theorem get?_onUpdate (replica : Replica) {message : Message} (kind : message.kind = .update) (key : String) :
    (replica.onUpdate message).replica.data.conversations.get? key =
      (message.news? key).getD (replica.data.conversations.get? key) := by
  by_cases subject : message.subject = .conversation
  · unfold onUpdate Message.news?
    rw [kind, subject]
    dsimp only
    cases named : receiverKey? message with
    | none => rfl
    | some name =>
        dsimp only
        by_cases removed : message.argText? "mode" = some "removed"
        · rw [if_pos removed, if_pos removed]
          exact (Dictionary.get?_erase _ _ _).trans (ite_eq_getD name key _ _)
        · rw [if_neg removed, if_neg removed]
          cases message.data with
          | none =>
              rw [Option.map_none, ite_self]
              rfl
          | some conversation => exact (Dictionary.get?_insert _ _ _ _).trans (ite_eq_getD name key _ _)
  · have silent : message.news? key = none := by
      unfold Message.news?
      rw [kind]
      cases named : message.subject with
      | conversation => exact absurd named subject
      | _ => exact ite_self _
    rw [conversations_onUpdate_of_ne replica subject, silent]
    rfl

theorem get?_onDelete (replica : Replica) {message : Message} (kind : message.kind = .delete) (key : String) :
    (replica.onDelete message).replica.data.conversations.get? key =
      (message.news? key).getD (replica.data.conversations.get? key) := by
  unfold onDelete Message.news?
  rw [kind]
  cases message.subject with
  | contact | group | distributionList =>
      dsimp only
      cases succeeded message with
      | false =>
          rw [if_neg Bool.false_ne_true, ite_self]
          rfl
      | true =>
          cases receiverKey? message with
          | none => rfl
          | some name => exact (Dictionary.get?_erase _ _ _).trans (ite_eq_getD name key _ _)
  | message =>
      rw [ite_self]
      dsimp only
      split <;> rfl
  | cleanReceiver =>
      rw [ite_self]
      dsimp only
      split <;> rfl
  | _ =>
      rw [ite_self]
      rfl

/-- Only responses bring the receivers or list conversations. -/
theorem silent_of_ne_response {message : Message} (other : message.kind ≠ .response) :
    message.bringsReceivers = false ∧ message.listed = [] := by
  refine ⟨?_, if_neg fun both => other both.1⟩
  simp [Message.bringsReceivers, other]

/-- What a message that is no response makes of a conversation is its news. -/
theorem Thread.hear_of_ne_response (key : String) (thread : Thread) {message : Message}
    (other : message.kind ≠ .response) :
    thread.hear key message = { thread with stored := (message.news? key).getD thread.stored } := by
  obtain ⟨brings, listed⟩ := silent_of_ne_response other
  unfold hear
  rw [if_neg (by rw [brings]; exact Bool.false_ne_true), listed]
  cases message.news? key with
  | some said => rfl
  | none =>
      dsimp only
      split <;> rfl

/-- A response that neither brings the receivers nor lists conversations makes nothing of a conversation. -/
theorem Thread.hear_of_single (key : String) (thread : Thread) {message : Message} (kind : message.kind = .response)
    (single : message.subject ≠ .receivers ∧ message.subject ≠ .conversations) : thread.hear key message = thread := by
  have brings : message.bringsReceivers = false := by simp [Message.bringsReceivers, single.1]
  have listed : message.listed = [] := if_neg fun both => single.2 both.2
  have silent : message.news? key = none := Message.news?_eq_none (by rw [kind]; decide) key
  unfold hear
  rw [if_neg (by rw [brings]; exact Bool.false_ne_true), silent, listed]
  dsimp only
  split <;> rfl

/-- Handling a message does to each conversation what the message says. -/
theorem thread_handle (orderly : replica.gate.IsOrderly) (message : Message) (key : String) :
    (replica.handle message).replica.thread key = (replica.thread key).hear key message := by
  unfold handle
  cases kind : message.kind with
  | response =>
      by_cases receivers : message.subject = .receivers
      · have brings : message.bringsReceivers = true := by simp [Message.bringsReceivers, kind, receivers]
        rw [Thread.hear, if_pos brings]
        exact thread_receivers orderly receivers key
      · by_cases conversations : message.subject = .conversations
        · exact thread_conversations orderly kind conversations key
        · rw [Thread.hear_of_single key _ kind ⟨receivers, conversations⟩]
          exact thread_onResponse_of_single orderly ⟨receivers, conversations⟩ key
  | update =>
      rw [Thread.hear_of_ne_response key _ (by rw [kind]; decide)]
      unfold thread
      dsimp only
      rw [(isAside_onUpdate replica message).1, get?_onUpdate replica kind]
  | create =>
      have silent : message.news? key = none := Message.news?_eq_none (by rw [kind]; decide) key
      rw [Thread.hear_of_ne_response key _ (by rw [kind]; decide), silent]
      unfold thread
      dsimp only
      rw [(isAside_onCreate replica message).1, conversations_onCreate replica message]
      rfl
  | delete =>
      rw [Thread.hear_of_ne_response key _ (by rw [kind]; decide)]
      unfold thread
      dsimp only
      rw [(isAside_onDelete replica message).1, get?_onDelete replica kind]
  | request =>
      have silent : message.news? key = none := Message.news?_eq_none (by rw [kind]; decide) key
      rw [Thread.hear_of_ne_response key _ (by rw [kind]; decide), silent]
      rfl

/-! ## Sequences of messages -/

/-- The replica after messages, handled one after another. -/
def handleAll (replica : Replica) (messages : List Message) : Replica :=
  messages.foldl (fun current message => (current.handle message).replica) replica

theorem handleAll_append (replica : Replica) (first second : List Message) :
    replica.handleAll (first ++ second) = (replica.handleAll first).handleAll second :=
  List.foldl_append ..

theorem Arises.handleAll (arises : replica.Arises) (messages : List Message) : (replica.handleAll messages).Arises := by
  induction messages generalizing replica with
  | nil => exact arises
  | cons message rest ih => exact ih (arises.handled message)

/-- So a sequence of messages does to each conversation what the messages say, one after another. -/
theorem thread_handleAll (arises : replica.Arises) (messages : List Message) (key : String) :
    (replica.handleAll messages).thread key = messages.foldl (Thread.hear key) (replica.thread key) := by
  induction messages generalizing replica with
  | nil => rfl
  | cons message rest ih =>
      rw [List.foldl_cons, ← thread_handle arises.isOrderly]
      exact ih (arises.handled message)

end Replica

end RelayClient
