import RelayClient.Replica.Container
import RelayClient.Replica.Battery

/-!
# Replicated data

What a device has told about itself: its own entries, the receivers with their
conversations, messages and avatars by receiver key, who is typing, and the
alerts that were not taken yet.
-/

namespace RelayClient.Replica

open Pack (Value)

/-- All containers of replicated data. -/
structure AppData where
  device : Container := .empty
  receivers : Container := .empty
  conversations : Container := .empty
  messages : Container := .empty
  typing : Container := .empty
  avatars : Container := .empty
  alerts : Container := .empty
  deriving Inhabited

def clientInfoKey : String := "clientInfo"
def profileKey : String := "profile"
def batteryKey : String := "batteryStatus"
def alertsKey : String := "alerts"

/-- Alerts that are kept until they are taken. -/
def maxAlerts : Nat := 32

/-- The largest unread total. -/
def maxUnread : Nat := 2 ^ 32 - 1

inductive ContainerName where
  | device
  | receivers
  | conversations
  | messages
  | typing
  | avatars
  | alerts
  deriving DecidableEq, Inhabited

namespace ContainerName

def all : List ContainerName :=
  [.device, .receivers, .conversations, .messages, .typing, .avatars, .alerts]

def text : ContainerName → String
  | .device => "device"
  | .receivers => "receivers"
  | .conversations => "conversations"
  | .messages => "messages"
  | .typing => "typing"
  | .avatars => "avatars"
  | .alerts => "alerts"

def ofText? (text : String) : Option ContainerName :=
  all.find? fun name => name.text == text

end ContainerName

namespace AppData

def container (data : AppData) : ContainerName → Container
  | .device => data.device
  | .receivers => data.receivers
  | .conversations => data.conversations
  | .messages => data.messages
  | .typing => data.typing
  | .avatars => data.avatars
  | .alerts => data.alerts

def setEntry (data : AppData) (name : ContainerName) (key : String) (value : Value) : AppData :=
  match name with
  | .device => { data with device := data.device.insert key value }
  | .receivers => { data with receivers := data.receivers.insert key value }
  | .conversations => { data with conversations := data.conversations.insert key value }
  | .messages => { data with messages := data.messages.insert key value }
  | .typing => { data with typing := data.typing.insert key value }
  | .avatars => { data with avatars := data.avatars.insert key value }
  | .alerts => { data with alerts := data.alerts.insert key value }

def battery (data : AppData) : Option BatteryStatus :=
  (data.device.get? batteryKey).bind BatteryStatus.ofValue?

def addAlert (data : AppData) (alert : Value) : AppData :=
  { data with alerts := data.alerts.extendCapped alertsKey [alert] maxAlerts }

/-- Hands out the alerts, oldest first, and forgets them. -/
def takeAlerts (data : AppData) : AppData × List Value :=
  ({ data with alerts := data.alerts.erase alertsKey }, data.alerts.listAt alertsKey)

/-- Forgets who is typing. -/
def clearTyping (data : AppData) : AppData :=
  { data with typing := .empty }

/-- Stores a battery status when the value holds one. -/
def setBattery (data : AppData) (value : Value) : AppData :=
  match BatteryStatus.ofValue? value with
  | some status => { data with device := data.device.insert batteryKey status.toValue }
  | none => data

def storeReceiversOf (type : String) (receivers : Container) (list : List Value) : Container :=
  list.foldl (fun current receiver =>
    match (receiver.get? "id").bind Value.text? with
    | some id => current.insert (receiverKey type id) receiver
    | none => current) receivers

/-- The types of receivers, in the order they are stored. -/
def receiverTypes : List String := ["contact", "group", "distributionList"]

/-- Stores the receivers of a value that lists them by type. -/
def storeReceivers (data : AppData) (value : Value) : AppData :=
  { data with
    receivers := receiverTypes.foldl (fun current type =>
      match value.get? type with
      | some (.list list) => storeReceiversOf type current list
      | _ => current) data.receivers }

/-- The receiver key of a conversation, when it names its receiver. -/
def conversationKey? (conversation : Value) : Option String :=
  match (conversation.get? "type").bind Value.text?, (conversation.get? "id").bind Value.text? with
  | some type, some id => some (receiverKey type id)
  | _, _ => none

/-- The unread count of a conversation, nothing counting as zero. -/
def unreadCount (conversation : Value) : Nat :=
  ((conversation.get? "unreadCount").bind Value.nat?).getD 0

/-- Stores one conversation and adds its unread count to a total that stops at its largest value. -/
def storeConversation (state : Container × Nat) (conversation : Value) : Container × Nat :=
  match conversationKey? conversation with
  | some key =>
      (state.1.insert key conversation, min maxUnread (state.2 + min maxUnread (unreadCount conversation)))
  | none => state

/-- Stores conversations and totals their unread counts. -/
def storeConversations (data : AppData) (list : List Value) : AppData × Nat :=
  let stored := list.foldl storeConversation (data.conversations, 0)
  ({ data with conversations := stored.1 }, stored.2)

/-- Puts a message into the list of a receiver, or removes it. -/
def applyMessage (key mode : String) (messages : Container) (entry : Value) : Container :=
  if mode = "removed" then
    match entryId? entry with
    | some id => (messages.removeFrom key id).1
    | none => messages
  else messages.upsertIn key entry

/-- Forgets a receiver with its conversation and messages. -/
def removeReceiver (data : AppData) (key : String) : AppData :=
  { data with
    receivers := data.receivers.erase key
    conversations := data.conversations.erase key
    messages := data.messages.erase key }

end AppData

end RelayClient.Replica
