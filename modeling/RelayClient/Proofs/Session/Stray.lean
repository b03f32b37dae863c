import RelayClient.Proofs.Session.Readiness
import RelayClient.Proofs.Session.Request

/-!
# Stray frames

A frame is stray when it reads as no message, or as a message without a route.
Which messages have a route depends on their kind and subject alone. A stray frame
changes nothing, and events that wait together come to the same without it.
-/

namespace RelayClient

/-- The subjects that messages of a kind have a route for. A device requests nothing. -/
def MessageType.routes : MessageType → List SubType
  | .request => []
  | .response =>
      [.clientInfo, .profile, .receivers, .conversations, .messages, .avatar, .thumbnail, .blob, .contactDetail,
        .batteryStatus, .read, .keyPersisted, .ack, .groupSync]
  | .update =>
      [.receiver, .contact, .group, .distributionList, .conversation, .message, .typing, .avatar, .profile,
        .batteryStatus, .connectionDisconnect, .alert, .read, .keyPersisted, .groupSync, .ack]
  | .create => [.textMessage, .fileMessage, .contact, .group, .distributionList]
  | .delete => [.message, .group, .distributionList, .contact, .cleanReceiver]

theorem MessageType.not_mem_routes_of_unknown (kind : MessageType) {subject : SubType}
    (unknown : subject.isKnown = false) : subject ∉ kind.routes := by
  cases subject with
  | unknown text =>
      intro mem
      cases kind <;> simp [routes] at mem
  | _ => cases unknown

namespace Replica

/-- A handler takes the messages about some subjects; any other changes nothing and tells of nothing. -/
structure TakesOnly (handler : Replica → Message → Handling) (subjects : List SubType) : Prop where
  taken : ∀ replica message, message.subject ∈ subjects → (handler replica message).outcome ≠ .unhandled
  passed : ∀ replica message, message.subject ∉ subjects → handler replica message = replica.unhandled

theorem takesOnly_onResponse : TakesOnly onResponse MessageType.response.routes := by
  constructor
  · rintro replica ⟨kind, subject, args, data⟩ routed
    simp only [MessageType.routes, List.mem_cons, List.not_mem_nil, or_false] at routed
    rcases routed with rfl | rfl | rfl | rfl | rfl | rfl | rfl | rfl | rfl | rfl | rfl | rfl | rfl | rfl
    all_goals
      unfold onResponse
      dsimp only
      repeat' split
      all_goals exact nofun
  · rintro replica ⟨kind, subject, args, data⟩ free
    cases subject <;> first
      | rfl
      | simp [MessageType.routes] at free

theorem takesOnly_onUpdate : TakesOnly onUpdate MessageType.update.routes := by
  constructor
  · rintro replica ⟨kind, subject, args, data⟩ routed
    simp only [MessageType.routes, List.mem_cons, List.not_mem_nil, or_false] at routed
    rcases routed with rfl | rfl | rfl | rfl | rfl | rfl | rfl | rfl | rfl | rfl | rfl | rfl | rfl | rfl | rfl | rfl
    all_goals
      unfold onUpdate
      dsimp only
      repeat' split
      all_goals exact nofun
  · rintro replica ⟨kind, subject, args, data⟩ free
    cases subject <;> first
      | rfl
      | simp [MessageType.routes] at free

theorem takesOnly_onCreate : TakesOnly onCreate MessageType.create.routes := by
  constructor
  · rintro replica ⟨kind, subject, args, data⟩ routed
    simp only [MessageType.routes, List.mem_cons, List.not_mem_nil, or_false] at routed
    rcases routed with rfl | rfl | rfl | rfl | rfl
    all_goals
      unfold onCreate
      dsimp only
      repeat' split
      all_goals exact nofun
  · rintro replica ⟨kind, subject, args, data⟩ free
    cases subject <;> first
      | rfl
      | simp [MessageType.routes] at free

theorem takesOnly_onDelete : TakesOnly onDelete MessageType.delete.routes := by
  constructor
  · rintro replica ⟨kind, subject, args, data⟩ routed
    simp only [MessageType.routes, List.mem_cons, List.not_mem_nil, or_false] at routed
    rcases routed with rfl | rfl | rfl | rfl | rfl
    all_goals
      unfold onDelete
      dsimp only
      repeat' split
      all_goals exact nofun
  · rintro replica ⟨kind, subject, args, data⟩ free
    cases subject <;> first
      | rfl
      | simp [MessageType.routes] at free

variable {message : Message}

/-- Without a route a message changes nothing and tells of nothing. -/
theorem handle_of_not_mem_routes (replica : Replica) (free : message.subject ∉ message.kind.routes) :
    replica.handle message = replica.unhandled := by
  unfold handle
  cases kind : message.kind with
  | request => rfl
  | response =>
      rw [kind] at free
      exact takesOnly_onResponse.passed replica message free
  | update =>
      rw [kind] at free
      exact takesOnly_onUpdate.passed replica message free
  | create =>
      rw [kind] at free
      exact takesOnly_onCreate.passed replica message free
  | delete =>
      rw [kind] at free
      exact takesOnly_onDelete.passed replica message free

/-- What is handled depends on the kind and the subject alone, not on arguments, data or the replica. -/
theorem outcome_handle_eq_unhandled_iff (replica : Replica) (message : Message) :
    (replica.handle message).outcome = .unhandled ↔ message.subject ∉ message.kind.routes := by
  constructor
  · intro untaken routed
    unfold handle at untaken
    cases kind : message.kind with
    | request =>
        rw [kind] at routed
        cases routed
    | response =>
        rw [kind] at routed untaken
        exact takesOnly_onResponse.taken replica message routed untaken
    | update =>
        rw [kind] at routed untaken
        exact takesOnly_onUpdate.taken replica message routed untaken
    | create =>
        rw [kind] at routed untaken
        exact takesOnly_onCreate.taken replica message routed untaken
    | delete =>
        rw [kind] at routed untaken
        exact takesOnly_onDelete.taken replica message routed untaken
  · intro free
    rw [handle_of_not_mem_routes replica free]
    rfl

end Replica

/-- A frame that a session with a replica has no use for: it reads as no message, or as
one that is not taken, which are the requests of the device, the messages about a
subject without a name, and all others without a route. -/
inductive IsStray (replica : Replica) (frame : Bytes) : Prop
  | unreadable {cause : DecodeError} (refused : Message.decode frame = .error cause)
  | untaken {message : Message} (reads : Message.decode frame = .ok message)
      (untaken : (replica.handle message).outcome = .unhandled)
  | request {message : Message} (reads : Message.decode frame = .ok message) (requests : message.kind = .request)
  | unknown {message : Message} (reads : Message.decode frame = .ok message)
      (unknown : message.subject.isKnown = false)
  | unrouted {message : Message} (reads : Message.decode frame = .ok message)
      (unrouted : message.subject ∉ message.kind.routes)

namespace IsStray

variable {replica : Replica} {frame : Bytes} {message : Message}

/-- Whatever a stray frame reads as has no route. -/
theorem not_mem_routes (stray : IsStray replica frame) (reads : Message.decode frame = .ok message) :
    message.subject ∉ message.kind.routes := by
  cases stray with
  | unreadable refused =>
      rw [refused] at reads
      cases reads
  | untaken same untaken =>
      cases same.symm.trans reads
      exact (Replica.outcome_handle_eq_unhandled_iff replica message).mp untaken
  | request same requests =>
      cases same.symm.trans reads
      rw [requests]
      exact List.not_mem_nil
  | unknown same unknown =>
      cases same.symm.trans reads
      exact message.kind.not_mem_routes_of_unknown unknown
  | unrouted same unrouted =>
      cases same.symm.trans reads
      exact unrouted

/-- A stray frame stays stray, whatever the replica holds by then. -/
theorem anywhere (stray : IsStray replica frame) (other : Replica) : IsStray other frame := by
  cases reads : Message.decode frame with
  | error cause => exact .unreadable reads
  | ok message => exact .unrouted reads (stray.not_mem_routes reads)

end IsStray

/-- A messenger whose handler leaves its state alone where it takes nothing drops what it does not take. -/
theorem Messenger.receive_of_unhandled {κ σ : Type} (messenger : Messenger κ) (handle : σ → Message → σ × Outcome)
    (state : σ) {frame : Bytes}
    (untaken : ∀ message, Message.decode frame = .ok message → handle state message = (state, .unhandled)) :
    messenger.receive handle state frame = (messenger, state) := by
  unfold receive
  cases reads : Message.decode frame with
  | error cause => rfl
  | ok message =>
      dsimp only [dispatch]
      rw [untaken message reads]
      rfl

namespace Session

variable {session : Session} {frame : Bytes}

theorem handleMessage_of_not_mem_routes (session : Session) {message : Message}
    (free : message.subject ∉ message.kind.routes) : session.handleMessage message = (session, .unhandled) := by
  unfold handleMessage
  rw [Replica.handle_of_not_mem_routes session.replica free]
  rfl

theorem receive_of_isStray {κ : Type} (stray : IsStray session.replica frame) (messenger : Messenger κ) :
    messenger.receive handleMessage session frame = (messenger, session) := by
  apply messenger.receive_of_unhandled
  intro message reads
  exact session.handleMessage_of_not_mem_routes (stray.not_mem_routes reads)

theorem handleEvent_of_isStray (stray : IsStray session.replica frame) :
    session.handleEvent (.channelFrame frame) = session := by
  unfold handleEvent receiveFrame
  dsimp only
  rw [receive_of_isStray stray]

/-- Events that are handled one after another come to the same without a stray frame among them. -/
theorem foldl_handleEvent_of_isStray (stray : IsStray session.replica frame) (before after : List TransportEvent) :
    (before ++ .channelFrame frame :: after).foldl handleEvent session = (before ++ after).foldl handleEvent session := by
  rw [List.foldl_append, List.foldl_cons, List.foldl_append, handleEvent_of_isStray (stray.anywhere _)]

theorem handleBatch_of_isStray (stray : IsStray session.replica frame) (before after : List TransportEvent) :
    session.handleBatch (before ++ .channelFrame frame :: after) = session.handleBatch (before ++ after) := by
  unfold handleBatch
  have early : (before ++ .channelFrame frame :: after).filter (!isSignaling ·) =
      before.filter (!isSignaling ·) ++ .channelFrame frame :: after.filter (!isSignaling ·) := by
    rw [List.filter_append, List.filter_cons_of_pos rfl]
  have late : (before ++ .channelFrame frame :: after).filter isSignaling =
      before.filter isSignaling ++ after.filter isSignaling := by
    rw [List.filter_append, List.filter_cons_of_neg Bool.false_ne_true]
  rw [early, late, List.append_assoc, List.cons_append, foldl_handleEvent_of_isStray stray, List.filter_append,
    List.filter_append, List.append_assoc]

/-- What a frame comes to that a session has no use for: nothing at all. -/
structure PassesOver (session : Session) (frame : Bytes) : Prop where
  /-- If it reads as a message, no handler takes it, changes its replica or tells of anything. -/
  unhandled : ∀ (replica : Replica) message, Message.decode frame = .ok message →
    replica.handle message = replica.unhandled
  /-- Whatever is pending and whatever channel is attached, messenger and session stay as they are. -/
  received : ∀ {κ : Type} (messenger : Messenger κ),
    messenger.receive handleMessage session frame = (messenger, session)
  /-- So do the session's own pending requests, its data and steps, its tasks and what it has sent. -/
  event : session.handleEvent (.channelFrame frame) = session
  /-- Among events that wait together, it might as well not have come. -/
  batch : ∀ before after : List TransportEvent,
    session.handleBatch (before ++ .channelFrame frame :: after) = session.handleBatch (before ++ after)

theorem passesOver_of_isStray (stray : IsStray session.replica frame) : session.PassesOver frame where
  unhandled replica _ reads := replica.handle_of_not_mem_routes (stray.not_mem_routes reads)
  received messenger := receive_of_isStray stray messenger
  event := handleEvent_of_isStray stray
  batch := handleBatch_of_isStray stray

/-- A session whose receivers are still to come, and which waits for an avatar. -/
def askingSession : Session :=
  (unansweredSession.call (.requestAvatar ⟨.contact, "ECHOECHO"⟩ true)).1

/-- The avatar was asked for under the first id drawn. -/
theorem askingSession_eq : askingSession =
    (({ unansweredSession with
        messenger := { unansweredSession.messenger with drawn := unansweredSession.messenger.drawn + 1 } } :
          Session).requestReply ((DeviceCall.requestAvatar ⟨.contact, "ECHOECHO"⟩ true).message.under
            (unansweredSession.messenger.draw unansweredSession.messenger.drawn))).1 := by
  have first : unansweredSession.messenger.IsFirstFree unansweredSession.messenger.drawn :=
    ⟨Nat.le_refl _, fun _ above below => absurd below (Nat.not_lt.mpr above), by decide +kernel⟩
  rw [askingSession, call, if_pos (by decide), requestReply_of_first first _ (by decide) (by decide +kernel)]

/-- A request of the device that carries the id of the avatar's request. -/
def strayRequest : Message :=
  ⟨.request, .avatar, some (.ofList [(temporaryIdKey, .text "")]), some (.bool true)⟩

/-- The request of the device answers nothing, and neither does what is left when its end is cut off. -/
theorem passesOver_strayRequest : askingSession.messenger.table.contains "" = true ∧
    askingSession.replica.gate.queue.length = 2 ∧ askingSession.PassesOver strayRequest.encode ∧
      askingSession.PassesOver strayRequest.encode.dropLast := by
  refine ⟨by rw [askingSession_eq]; decide +kernel, by rw [askingSession_eq]; decide +kernel, passesOver_of_isStray ?_,
    passesOver_of_isStray ?_⟩
  · have requests : (Message.decode strayRequest.encode).toOption.map (·.kind) = some .request := by decide +kernel
    cases reads : Message.decode strayRequest.encode with
    | error cause =>
        rw [reads] at requests
        cases requests
    | ok message =>
        rw [reads] at requests
        exact .request reads (Option.some_inj.mp requests)
  · have refused : (Message.decode strayRequest.encode.dropLast).toOption.isNone = true := by decide +kernel
    cases reads : Message.decode strayRequest.encode.dropLast with
    | error cause => exact .unreadable reads
    | ok message =>
        rw [reads] at refused
        cases refused

end Session

end RelayClient
