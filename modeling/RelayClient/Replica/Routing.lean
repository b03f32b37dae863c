import RelayClient.Envelope.Outcome
import RelayClient.Replica.Data
import RelayClient.StepGate

/-!
# Routing of messages

Each pair of type and subject a device sends has a route into the replicated data.
Three responses complete the steps that a session waits for; conversations wait
for the receivers they refer to. What concerns the rest of the session leaves
as notices, in the order it arises. A message without a route has no effect.
-/

namespace RelayClient

open Pack (Value)
open Replica (AppData Container receiverKey)

/-- A routine that waits for steps. -/
inductive Continuation where
  /-- Conversations that came before the receivers. -/
  | storeConversations (list : List Value)
  /-- The start with this number, which is over once all steps are complete. -/
  | finishStart (number : Nat)

/-- What handling a message tells the session. -/
inductive Notice where
  | unread (count : Nat)
  | disconnected (reason : DisconnectReason)
  | startFinished (number : Nat)

/-- Replicated data and the gate of its initial steps. -/
structure Replica where
  data : AppData := {}
  gate : StepGate Continuation := {}
  deriving Inhabited

namespace Replica

/-- The result of handling a message. -/
structure Handling where
  replica : Replica
  outcome : Outcome
  notices : List Notice := []

theorem length_register {ρ : Type} (gate : StepGate ρ) (step : InitStep) :
    (gate.register step).2.length + (gate.register step).1.queue.length = gate.queue.length := by
  unfold StepGate.register
  split
  · simp
  · simp only [List.partition_eq_filter_filter, List.length_map]
    induction gate.queue with
    | nil => rfl
    | cons waiting rest ih =>
        cases hit : (gate.completed.insert step).covers waiting.required <;> simp [hit] <;> omega

/-- Runs released routines. What a routine releases in turn runs before the next. -/
def release (replica : Replica) (notices : List Notice) : List Continuation → Replica × List Notice
  | [] => (replica, notices)
  | .storeConversations list :: rest =>
      let stored := replica.data.storeConversations list
      release ⟨stored.1, (replica.gate.register .conversations).1⟩ (notices ++ [.unread stored.2])
        ((replica.gate.register .conversations).2 ++ rest)
  | .finishStart number :: rest => release replica (notices ++ [.startFinished number]) rest
termination_by work => work.length + replica.gate.queue.length
decreasing_by
  · have := length_register replica.gate .conversations
    simp only [List.length_append, List.length_cons]
    omega
  · simp

def completeStep (replica : Replica) (step : InitStep) : Replica × List Notice :=
  let registered := replica.gate.register step
  release { replica with gate := registered.1 } [] registered.2

/-- Runs a routine once the steps it needs are complete. -/
def runAfter (replica : Replica) (required : List InitStep) (routine : Continuation) : Replica × List Notice :=
  let queued := replica.gate.runAfter required routine
  release { replica with gate := queued.1 } [] queued.2

def impliedType? : SubType → Option String
  | .contact => some "contact"
  | .group => some "group"
  | .distributionList => some "distributionList"
  | _ => none

def receiverKey? (message : Message) : Option String :=
  match (message.argText? "type").or (impliedType? message.subject), message.argText? "id" with
  | some type, some id => some (receiverKey type id)
  | _, _ => none

/-- A message that was taken, with changed data. -/
def handledWith (replica : Replica) (data : AppData) : Handling :=
  { replica := { replica with data }, outcome := .handled }

/-- A message that was taken without effect. -/
def handled (replica : Replica) : Handling :=
  { replica, outcome := .handled }

/-- A message without a route. -/
def unhandled (replica : Replica) : Handling :=
  { replica, outcome := .unhandled }

/-- A message that was taken and completed something. -/
def handledNoting (result : Replica × List Notice) : Handling :=
  { replica := result.1, outcome := .handled, notices := result.2 }

def setDevice (data : AppData) (key : String) : Option Value → AppData
  | some value => { data with device := data.device.insert key value }
  | none => data

/-- Applies a message that carries a receiver, or removes it. -/
def applyReceiver (data : AppData) (message : Message) : AppData :=
  match receiverKey? message with
  | none => data
  | some key =>
      if message.argText? "mode" = some "removed" then { data with receivers := data.receivers.erase key }
      else
        match message.data with
        | some receiver => { data with receivers := data.receivers.insert key receiver }
        | none => data

/-- Whether a message does not report a failure. -/
def succeeded (message : Message) : Bool :=
  (message.argBool? "success").getD true

def dataOrNil (message : Message) : Value :=
  message.data.getD .nil

/-- The reason a device gives for ending the session. A reason this client has
no name for counts as an error. -/
def disconnectReason? (message : Message) : Option DisconnectReason :=
  (message.data.bind fun data => data.get? "reason").map fun reason =>
    (reason.text?.bind DisconnectReason.ofName?).getD .sessionError

def onResponse (replica : Replica) (message : Message) : Handling :=
  match message.subject with
  | .clientInfo =>
      handledNoting (completeStep
        { replica with data := setDevice replica.data clientInfoKey message.data } .clientInfo)
  | .profile => replica.handledWith (setDevice replica.data profileKey message.data)
  | .receivers =>
      let data := match message.data with
        | some value => replica.data.storeReceivers value
        | none => replica.data
      handledNoting (completeStep { replica with data } .receivers)
  | .conversations =>
      let list := (message.data.bind Value.list?).getD []
      handledNoting (replica.runAfter [.receivers] (.storeConversations list))
  | .messages =>
      match receiverKey? message with
      | none => { replica, outcome := .reply (.rejected "invalidReceiver") }
      | some key =>
          match message.data with
          | some (.list list) =>
              replica.handledWith { replica.data with messages := replica.data.messages.extend key list }
          | _ => replica.handled
  | .avatar =>
      let data := match receiverKey? message, message.data with
        | some key, some avatar => { replica.data with avatars := replica.data.avatars.insert key avatar }
        | _, _ => replica.data
      { replica := { replica with data }, outcome := .reply (.ok (dataOrNil message)) }
  | .thumbnail | .blob | .contactDetail =>
      if message.argBool? "success" = some false then replica.handled
      else { replica, outcome := .reply (.ok (dataOrNil message)) }
  | .batteryStatus =>
      match message.data with
      | some value => replica.handledWith (replica.data.setBattery value)
      | none => replica.handled
  | .read | .keyPersisted | .ack | .groupSync => replica.handled
  | _ => replica.unhandled

/-- Whether typing data says that someone is typing. -/
def isTyping (message : Message) : Bool :=
  (((message.data.bind fun data => data.get? "isTyping").bind Value.bool?)).getD false

def onUpdate (replica : Replica) (message : Message) : Handling :=
  match message.subject with
  | .receiver | .contact | .group | .distributionList =>
      replica.handledWith (applyReceiver replica.data message)
  | .conversation =>
      match receiverKey? message with
      | none => replica.handled
      | some key =>
          if message.argText? "mode" = some "removed" then
            replica.handledWith { replica.data with conversations := replica.data.conversations.erase key }
          else
            match message.data with
            | some conversation =>
                replica.handledWith
                  { replica.data with conversations := replica.data.conversations.insert key conversation }
            | none => replica.handled
  | .message =>
      match receiverKey? message with
      | none => replica.handled
      | some key =>
          let mode := (message.argText? "mode").getD "new"
          match message.data with
          | some (.list list) =>
              replica.handledWith
                { replica.data with messages := list.foldl (AppData.applyMessage key mode) replica.data.messages }
          | some entry =>
              replica.handledWith
                { replica.data with messages := AppData.applyMessage key mode replica.data.messages entry }
          | none => replica.handled
  | .typing =>
      match message.argText? "id" with
      | some id =>
          replica.handledWith
            { replica.data with
              typing := if isTyping message then replica.data.typing.insert id (.bool true)
                else replica.data.typing.erase id }
      | none => replica.handled
  | .avatar =>
      match receiverKey? message, message.data with
      | some key, some avatar =>
          replica.handledWith { replica.data with avatars := replica.data.avatars.insert key avatar }
      | some key, none => replica.handledWith { replica.data with avatars := replica.data.avatars.erase key }
      | none, _ => replica.handled
  | .profile => replica.handledWith (setDevice replica.data profileKey message.data)
  | .batteryStatus =>
      match message.data with
      | some value => replica.handledWith (replica.data.setBattery value)
      | none => replica.handled
  | .connectionDisconnect =>
      { replica, outcome := .handled, notices := (disconnectReason? message).toList.map .disconnected }
  | .alert => replica.handledWith (replica.data.addAlert (dataOrNil message))
  | .read | .keyPersisted | .groupSync | .ack => replica.handled
  | _ => replica.unhandled

/-- Routes the answer to a creation. -/
def onCreate (replica : Replica) (message : Message) : Handling :=
  match message.subject with
  | .textMessage | .fileMessage => replica.handled
  | .contact | .group | .distributionList =>
      if succeeded message then replica.handledWith (applyReceiver replica.data message) else replica.handled
  | _ => replica.unhandled

/-- Routes the answer to a deletion. -/
def onDelete (replica : Replica) (message : Message) : Handling :=
  match message.subject with
  | .message =>
      match succeeded message, receiverKey? message, message.arg? "messageId" with
      | true, some key, some id =>
          replica.handledWith { replica.data with messages := (replica.data.messages.removeFrom key id).1 }
      | _, _, _ => replica.handled
  | .group | .distributionList | .contact =>
      match succeeded message, receiverKey? message with
      | true, some key => replica.handledWith (replica.data.removeReceiver key)
      | _, _ => replica.handled
  | .cleanReceiver =>
      match succeeded message, receiverKey? message with
      | true, some key => replica.handledWith { replica.data with messages := replica.data.messages.erase key }
      | _, _ => replica.handled
  | _ => replica.unhandled

def handle (replica : Replica) (message : Message) : Handling :=
  match message.kind with
  | .response => replica.onResponse message
  | .update => replica.onUpdate message
  | .create => replica.onCreate message
  | .delete => replica.onDelete message
  | .request => replica.unhandled

end Replica

end RelayClient
