import RelayClient.Session.Lifecycle

/-!
# Calls to the device

What an application can ask the device for, and the messages that ask for it.
Most calls expect a reply; the rest are sent without one.
-/

namespace RelayClient

open Pack (Value)

inductive ReceiverKind where
  | contact
  | group
  | distributionList
  deriving DecidableEq, Inhabited

namespace ReceiverKind

def name : ReceiverKind → String
  | .contact => "contact"
  | .group => "group"
  | .distributionList => "distributionList"

def ofName? (name : String) : Option ReceiverKind :=
  [contact, group, distributionList].find? fun kind => kind.name == name

end ReceiverKind

/-- A partner of a conversation. -/
structure Receiver where
  kind : ReceiverKind
  id : String

inductive DeviceCall where
  | sendText (receiver : Receiver) (text : String)
  | sendFile (receiver : Receiver) (name mediaType : String) (content : Bytes)
  /-- Messages of a conversation, or those older than one of them. -/
  | requestMessages (receiver : Receiver) (reference : Option String)
  | deleteMessage (receiver : Receiver) (messageId : String)
  | markRead (receiver : Receiver) (messageId : String)
  | acknowledge (receiver : Receiver) (messageId : String) (agreed : Bool)
  | sendTyping (receiver : Receiver) (typing : Bool)
  | requestAvatar (receiver : Receiver) (highResolution : Bool)
  | requestThumbnail (receiver : Receiver) (messageId : String)
  | requestBlob (receiver : Receiver) (messageId : String)
  | addContact (identity : String)
  | requestContactDetail (identity : String)
  | createGroup (name : Option String) (members : List String)
  | leaveGroup (group : String)
  | deleteGroup (group : String)
  | syncGroup (group : String)
  | createDistributionList (name : String) (members : List String)
  | deleteDistributionList (list : String)
  /-- Removes all messages of a conversation from the device. -/
  | cleanConversation (receiver : Receiver)
  /-- The trusted keys were saved here. -/
  | sendKeyPersisted
  | requestBatteryStatus

/-- The parts a frontend may give of a call; each call takes those it needs. -/
structure CallParts where
  receiver : Receiver
  text : String
  /-- The name of a file, a group or a distribution list. -/
  name : Option String
  mediaType : String
  content : Bytes
  messageId : Option String
  /-- The id of a contact, a group or a distribution list. -/
  id : String
  members : List String
  /-- Whether to agree, whether someone is typing, or whether to get the high resolution. -/
  flag : Bool

namespace Receiver

/-- The arguments that name a receiver, and further ones. -/
def args (receiver : Receiver) (further : List (String × Value)) : Option Args :=
  some (.ofList ([("type", .text receiver.kind.name), ("id", .text receiver.id)] ++ further))

end Receiver

namespace DeviceCall

def only (key text : String) : Option Args :=
  some (.ofList [(key, .text text)])

def ofMessage (receiver : Receiver) (messageId : String) : Option Args :=
  receiver.args [("messageId", .text messageId)]

def texts (members : List String) : Value :=
  .list (members.map .text)

def endGroup (group how : String) : Message :=
  ⟨.delete, .group, some (.ofList [("id", .text group), ("deleteType", .text how)]), none⟩

def message : DeviceCall → Message
  | .sendText receiver text =>
      ⟨.create, .textMessage, receiver.args [], some (.record [("text", .text text)])⟩
  | .sendFile receiver name mediaType content =>
      ⟨.create, .fileMessage, receiver.args [],
        some (.record [("name", .text name), ("fileType", .text mediaType),
          ("size", .int (.clamp content.length)), ("data", .binary content)])⟩
  | .requestMessages receiver reference =>
      ⟨.request, .messages, receiver.args (reference.toList.map fun id => ("refMsgId", .text id)), none⟩
  | .deleteMessage receiver messageId => ⟨.delete, .message, ofMessage receiver messageId, none⟩
  | .markRead receiver messageId => ⟨.request, .read, ofMessage receiver messageId, none⟩
  | .acknowledge receiver messageId agreed =>
      ⟨.request, .ack, receiver.args [("messageId", .text messageId), ("acknowledged", .bool agreed)], none⟩
  | .sendTyping receiver typing =>
      ⟨.update, .typing, receiver.args [], some (.record [("isTyping", .bool typing)])⟩
  | .requestAvatar receiver highResolution =>
      ⟨.request, .avatar, receiver.args [("highResolution", .bool highResolution)], none⟩
  | .requestThumbnail receiver messageId => ⟨.request, .thumbnail, ofMessage receiver messageId, none⟩
  | .requestBlob receiver messageId => ⟨.request, .blob, ofMessage receiver messageId, none⟩
  | .addContact identity => ⟨.create, .contact, only "identity" identity, none⟩
  | .requestContactDetail identity => ⟨.request, .contactDetail, only "identity" identity, none⟩
  | .createGroup name members =>
      ⟨.create, .group, none,
        some (.record (("members", texts members) :: name.toList.map fun name => ("name", .text name)))⟩
  | .leaveGroup group => endGroup group "leave"
  | .deleteGroup group => endGroup group "delete"
  | .syncGroup group => ⟨.request, .groupSync, only "id" group, none⟩
  | .createDistributionList name members =>
      ⟨.create, .distributionList, none, some (.record [("name", .text name), ("members", texts members)])⟩
  | .deleteDistributionList list => ⟨.delete, .distributionList, only "id" list, none⟩
  | .cleanConversation receiver => ⟨.delete, .cleanReceiver, receiver.args [], none⟩
  | .sendKeyPersisted => .plain .request .keyPersisted
  | .requestBatteryStatus => .plain .request .batteryStatus

def ofName? (name : String) (parts : CallParts) : Option DeviceCall :=
  let messageId := parts.messageId.getD ""
  match name with
  | "send_text_message" => some (.sendText parts.receiver parts.text)
  | "send_file_message" =>
      some (.sendFile parts.receiver (parts.name.getD "") parts.mediaType parts.content)
  | "request_messages" => some (.requestMessages parts.receiver parts.messageId)
  | "delete_message" => some (.deleteMessage parts.receiver messageId)
  | "mark_read" => some (.markRead parts.receiver messageId)
  | "ack_message" => some (.acknowledge parts.receiver messageId parts.flag)
  | "send_typing" => some (.sendTyping parts.receiver parts.flag)
  | "request_avatar" => some (.requestAvatar parts.receiver parts.flag)
  | "request_thumbnail" => some (.requestThumbnail parts.receiver messageId)
  | "request_blob" => some (.requestBlob parts.receiver messageId)
  | "add_contact" => some (.addContact parts.id)
  | "request_contact_detail" => some (.requestContactDetail parts.id)
  | "create_group" => some (.createGroup parts.name parts.members)
  | "leave_group" => some (.leaveGroup parts.id)
  | "delete_group" => some (.deleteGroup parts.id)
  | "sync_group" => some (.syncGroup parts.id)
  | "create_distribution_list" => some (.createDistributionList (parts.name.getD "") parts.members)
  | "delete_distribution_list" => some (.deleteDistributionList parts.id)
  | "clean_receiver_conversation" => some (.cleanConversation parts.receiver)
  | "send_key_persisted" => some .sendKeyPersisted
  | "request_battery_status" => some .requestBatteryStatus
  | _ => none

def expectsReply : DeviceCall → Bool
  | .requestMessages .. | .markRead .. | .acknowledge .. | .sendTyping .. | .sendKeyPersisted
  | .requestBatteryStatus => false
  | _ => true

end DeviceCall

namespace Session

/-- Sends a request over the attached channel and expects a reply. -/
def requestReply (session : Session) (message : Message) : Session × Except Failure (SentRequest Channel) :=
  match session.messenger.send session.now (session.surroundings.failure? .send) message with
  | (messenger, .error failure) => ({ session with messenger }, .error failure)
  | (messenger, .ok sent) =>
      ({ session with messenger }.note (.send sent.channel sent.message), .ok sent)

/-- Calls the device. A call that expects a reply returns the request that was sent. -/
def call (session : Session) (call : DeviceCall) : Session × Except Failure (Option (SentRequest Channel)) :=
  if call.expectsReply then
    let (session, result) := session.requestReply call.message
    (session, result.map some)
  else
    let (session, result) := session.postMessage call.message
    (session, result.map fun _ => none)

end Session

end RelayClient
