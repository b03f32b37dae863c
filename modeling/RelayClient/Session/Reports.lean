import RelayClient.Session.Lifecycle

/-!
# Reports of the transport

What a transport reports moves the session on: the handshake leads to a task, the
task to a channel, and the open channel to the first requests for data. Events
that wait are handled together, changes of the signaling last.
-/

namespace RelayClient

open Pack (Value)

namespace Session

/-- The session is ready: the start that waits for it succeeds. -/
def becomeReady (session : Session) : Session :=
  let session := session.setBuildup .done
  let startup := session.link.startup
  let session := { session with link := { session.link with startup := none, startupDone := true } }
  match startup with
  | some startup => session.settleStartup startup (.ok ())
  | none => session

/-- Takes up what handling a message leaves for the session. -/
def takeNotice (session : Session) : Notice → Session
  | .unread count => { session with status := { session.status with unread := count } }
  | .disconnected reason => session.spawn (.stopForPeer reason true)
  | .startFinished _ => session.becomeReady

def handleMessage (session : Session) (message : Message) : Session × Outcome :=
  let handling := session.replica.handle message
  (handling.notices.foldl takeNotice { session with replica := handling.replica }, handling.outcome)

/-- Takes a frame from the channel. -/
def receiveFrame (session : Session) (frame : Bytes) : Session :=
  let (messenger, session) := session.messenger.receive handleMessage session frame
  { session with messenger }

/-- The name and version this client gives. -/
def userAgent : String := "webrelay/0.1.0"

/-- The requests that are sent once the channel is open. -/
def firstRequests : List Message :=
  [⟨.request, .clientInfo, some (.ofList [("userAgent", .text userAgent)]), none⟩,
    .plain .request .profile,
    .plain .request .receivers,
    .plain .request .conversations,
    .plain .request .batteryStatus]

/-- Sends messages, whether or not the ones before were refused. -/
def postAll (session : Session) (messages : List Message) : Session :=
  messages.foldl (fun current message => (current.postMessage message).1) session

/-- The channel is open: it is attached, and once all steps are complete the session is ready. -/
def openChannel (session : Session) : Session :=
  match session.link.channel with
  | none => session
  | some channel =>
      let attached := { session with
        messenger := session.messenger.attach channel
        opened := session.opened + 1
        replica := if session.link.resetFields then { session.replica with data := {} } else session.replica }
      let loading := attached.setBuildup .loading
      let (replica, notices) := loading.replica.runAfter InitStep.all (.finishStart session.opened)
      (notices.foldl takeNotice { loading with replica }).postAll firstRequests

def askChannel (session : Session) : Session × Option (Except Failure Channel) :=
  match session.link.task, session.link.transport, session.link.peer with
  | some .direct, _, some peer =>
      let (session, result) := session.ask .openChannel (.openChannel peer Channel.label)
      (session, some (result.map fun _ => ⟨peer, .direct⟩))
  | some .relayed, some transport, _ =>
      let (session, result) := session.ask .relayedChannel (.relayedChannel transport)
      (session, some (result.map fun _ => ⟨transport, .relayed⟩))
  | _, _, _ => (session, none)

/-- The task takes over. A relayed channel is open at once. -/
def takeOver (session : Session) : Session :=
  let task := session.link.task
  match (session.note .initNotifications).askChannel with
  | (session, none) => session
  | (session, some (.error failure)) => session.failStartup failure
  | (session, some (.ok channel)) =>
      let session := { session with link := { session.link with channel := some channel } }
      if task = some .relayed then (session.reportTask .connected).openChannel else session

/-- Makes a direct connection and hands the signaling over to it. -/
def connectDirectly (session : Session) (transport : Nat) : Session × Except Failure Unit :=
  match session.ask .createPeer (.createPeer transport) with
  | (session, .error failure) => (session, .error failure)
  | (session, .ok _) =>
      { session with link := { session.link with peer := some transport } }.ask .handover (.handover transport)

/-- The handshake is done and a task was chosen. -/
def chooseTask (session : Session) (task : CarrierTask) : Session :=
  let session := { session with link := { session.link with task := some task } }
  match session.link.transport, task with
  | none, _ => session
  | some transport, .direct =>
      match session.connectDirectly transport with
      | (session, .error failure) => session.failStartup failure
      | (session, .ok _) => session
  | some _, .relayed => session.takeOver

/-- The device asks outside the channel to end the session. -/
def takeApplication (session : Session) (message : Value) : Session :=
  if (message.get? "type").bind Value.text? = some "disconnect" then
    let forget := ((message.get? "forget").bind Value.bool?).getD false
    session.spawn (.stopForPeer (if forget then .sessionDeleted else .sessionStopped) false)
  else session

/-- Moves the buildup on with the signaling, until the session is ready. -/
def followSignaling (session : Session) (state : SignalingState) : Session :=
  match state, session.status.buildup with
  | .new, .new | .wsConnecting, .new | .serverHandshake, .new => session.setBuildup .connecting
  | .peerHandshake, .new | .peerHandshake, .connecting => session.setBuildup .waiting
  | .closing, _ => if session.link.task.isNone then session.setBuildup .closed else session
  | .closed, _ =>
      if session.link.task.isNone then
        (session.setBuildup .closed).failStartup (.handshake "signaling closed before the handshake finished")
      else session
  | _, _ => session

def takeSignaling (session : Session) (state : SignalingState) : Session :=
  (if session.link.startupDone then session else session.followSignaling state).reportSignaling state

def handleEvent (session : Session) : TransportEvent → Session
  | .newResponder => if session.link.startupDone then session else session.setBuildup .peerHandshake
  | .signaling state => session.takeSignaling state
  | .taskReady task => session.chooseTask task
  | .handover => if session.link.task = some .direct then session.takeOver else session
  | .taskState state => session.reportTask state
  | .peerDisconnected =>
      if session.link.task = some .relayed then session.reportTask .reconnecting else session
  | .application message => session.takeApplication message
  | .connectionError reason => session.failStartup (.handshake reason)
  | .connectionClosed _ =>
      if session.link.task = some .relayed then session.reportTask .disconnected else session
  | .channelOpen => session.openChannel
  | .channelFrame frame => session.receiveFrame frame
  | .channelError _ | .channelClosed => session

def isSignaling : TransportEvent → Bool
  | .signaling _ => true
  | _ => false

/-- Handles events that waited together, changes of the signaling last. -/
def handleBatch (session : Session) (events : List TransportEvent) : Session :=
  (events.filter (!isSignaling ·) ++ events.filter isSignaling).foldl handleEvent session

/-- Queues events for the pump of a transport, and tells how many it took. -/
def report (session : Session) (transport : Nat) (events : List TransportEvent) : Session × Nat :=
  match session.link.pump with
  | some pump =>
      if pump.transport = transport then
        ({ session with link := { session.link with pump := some ⟨transport, pump.events ++ events⟩ } }.spawn
          (.pump transport), events.length)
      else (session, 0)
  | none => (session, 0)

/-- Handles the events that wait, if the pump still runs. -/
def runPump (session : Session) (transport : Nat) : Session :=
  match session.link.pump with
  | some pump =>
      if pump.transport = transport then
        { session with link := { session.link with pump := some ⟨transport, []⟩ } }.handleBatch pump.events
      else session
  | none => session

end Session

end RelayClient
