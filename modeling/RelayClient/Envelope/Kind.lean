import RelayClient.Pack.Value

/-!
# Kinds of messages

What a message does, what it is about, and why a device ends a session, each
with its name in a frame. Each name reads back to what it names.
-/

namespace RelayClient

inductive MessageType where
  | request
  | response
  | create
  | update
  | delete
  deriving DecidableEq, Inhabited

namespace MessageType

def name : MessageType → String
  | .request => "request"
  | .response => "response"
  | .create => "create"
  | .update => "update"
  | .delete => "delete"

def ofName? : String → Option MessageType
  | "request" => some .request
  | "response" => some .response
  | "create" => some .create
  | "update" => some .update
  | "delete" => some .delete
  | _ => none

theorem ofName?_name (kind : MessageType) : ofName? kind.name = some kind := by
  cases kind <;> rfl

end MessageType

/-- What a message is about. -/
inductive SubType where
  | receiver
  | receivers
  | conversation
  | conversations
  | message
  | messages
  | avatar
  | thumbnail
  | blob
  | typing
  | read
  | clientInfo
  | profile
  | contact
  | contactDetail
  | group
  | groupSync
  | distributionList
  | alert
  | batteryStatus
  | cleanReceiver
  | keyPersisted
  | ack
  | textMessage
  | fileMessage
  | connectionDisconnect
  /-- A subject this client has no name for. -/
  | unknown (text : String)
  deriving DecidableEq, Inhabited

namespace SubType

def name : SubType → String
  | .receiver => "receiver"
  | .receivers => "receivers"
  | .conversation => "conversation"
  | .conversations => "conversations"
  | .message => "message"
  | .messages => "messages"
  | .avatar => "avatar"
  | .thumbnail => "thumbnail"
  | .blob => "blob"
  | .typing => "typing"
  | .read => "read"
  | .clientInfo => "clientInfo"
  | .profile => "profile"
  | .contact => "contact"
  | .contactDetail => "contactDetail"
  | .group => "group"
  | .groupSync => "groupSync"
  | .distributionList => "distributionList"
  | .alert => "alert"
  | .batteryStatus => "batteryStatus"
  | .cleanReceiver => "cleanReceiverConversation"
  | .keyPersisted => "keyPersisted"
  | .ack => "ack"
  | .textMessage => "textMessage"
  | .fileMessage => "fileMessage"
  | .connectionDisconnect => "connectionDisconnect"
  | .unknown text => text

/-- The subject with a given name. A deleted conversation has a second, shorter name. -/
def ofName : String → SubType
  | "receiver" => .receiver
  | "receivers" => .receivers
  | "conversation" => .conversation
  | "conversations" => .conversations
  | "message" => .message
  | "messages" => .messages
  | "avatar" => .avatar
  | "thumbnail" => .thumbnail
  | "blob" => .blob
  | "typing" => .typing
  | "read" => .read
  | "clientInfo" => .clientInfo
  | "profile" => .profile
  | "contact" => .contact
  | "contactDetail" => .contactDetail
  | "group" => .group
  | "groupSync" => .groupSync
  | "distributionList" => .distributionList
  | "alert" => .alert
  | "batteryStatus" => .batteryStatus
  | "cleanReceiverConversation" => .cleanReceiver
  | "cleanReceiver" => .cleanReceiver
  | "keyPersisted" => .keyPersisted
  | "ack" => .ack
  | "textMessage" => .textMessage
  | "fileMessage" => .fileMessage
  | "connectionDisconnect" => .connectionDisconnect
  | text => .unknown text

/-- Whether this client has a name for the subject. -/
def isKnown : SubType → Bool
  | .unknown _ => false
  | _ => true

theorem ofName_name (subject : SubType) (known : subject.isKnown = true) :
    ofName subject.name = subject := by
  cases subject <;> first | rfl | cases known

end SubType

/-- Why a device ends a session. -/
inductive DisconnectReason where
  /-- The session ended and may be resumed with the trusted key. -/
  | sessionStopped
  /-- The session and its trusted key are gone for good. -/
  | sessionDeleted
  /-- Web access was turned off on the device. -/
  | webAccessDisabled
  /-- Another client took the session over. -/
  | sessionReplaced
  | sessionError
  deriving DecidableEq, Inhabited

namespace DisconnectReason

def name : DisconnectReason → String
  | .sessionStopped => "stop"
  | .sessionDeleted => "delete"
  | .webAccessDisabled => "disable"
  | .sessionReplaced => "replace"
  | .sessionError => "error"

def ofName? : String → Option DisconnectReason
  | "stop" => some .sessionStopped
  | "delete" => some .sessionDeleted
  | "disable" => some .webAccessDisabled
  | "replace" => some .sessionReplaced
  | "error" => some .sessionError
  | _ => none

theorem ofName?_name (reason : DisconnectReason) : ofName? reason.name = some reason := by
  cases reason <;> rfl

/-- Whether the session cannot be resumed afterwards. -/
def closesSession : DisconnectReason → Bool
  | .sessionDeleted | .sessionReplaced | .sessionError => true
  | .sessionStopped | .webAccessDisabled => false

/-- The data of a message that ends a session. -/
def data (reason : DisconnectReason) : Pack.Value :=
  .record [("reason", .text reason.name)]

end DisconnectReason

end RelayClient
