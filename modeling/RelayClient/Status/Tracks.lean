/-!
# Reported states

Two tracks are reported from below: the state of the signaling, and after the
handshake the state of the task that carries the messages. A name that no state
has is kept as it came. Both are summed up in a global state.
-/

namespace RelayClient

inductive SignalingState where
  | new
  | wsConnecting
  | serverHandshake
  | peerHandshake
  | task
  | closing
  | closed
  /-- A state this client does not know. -/
  | unknown (name : String)
  deriving DecidableEq, Inhabited

namespace SignalingState

def known : List SignalingState :=
  [.new, .wsConnecting, .serverHandshake, .peerHandshake, .task, .closing, .closed]

def name : SignalingState → String
  | .new => "new"
  | .wsConnecting => "ws-connecting"
  | .serverHandshake => "server-handshake"
  | .peerHandshake => "peer-handshake"
  | .task => "task"
  | .closing => "closing"
  | .closed => "closed"
  | .unknown name => name

def ofName (name : String) : SignalingState :=
  (known.find? fun state => state.name == name).getD (.unknown name)

def isKnown : SignalingState → Bool
  | .unknown _ => false
  | _ => true

end SignalingState

/-- The state of the task that carries messages after the handshake. -/
inductive TaskState where
  | new
  | connecting
  | reconnecting
  | connected
  | disconnected
  /-- A state this client does not know. -/
  | unknown (name : String)
  deriving DecidableEq, Inhabited

namespace TaskState

def known : List TaskState :=
  [.new, .connecting, .reconnecting, .connected, .disconnected]

def name : TaskState → String
  | .new => "new"
  | .connecting => "connecting"
  | .reconnecting => "reconnecting"
  | .connected => "connected"
  | .disconnected => "disconnected"
  | .unknown name => name

def ofName (name : String) : TaskState :=
  (known.find? fun state => state.name == name).getD (.unknown name)

def isKnown : TaskState → Bool
  | .unknown _ => false
  | _ => true

end TaskState

/-- The summary of both tracks. -/
inductive GlobalState where
  | ok
  | warning
  | error
  deriving DecidableEq, Inhabited

def GlobalState.name : GlobalState → String
  | .ok => "ok"
  | .warning => "warning"
  | .error => "error"

/-- What a state of the signaling is summed up as, when it is known. -/
def SignalingState.summary? : SignalingState → Option GlobalState
  | .new | .wsConnecting | .serverHandshake | .peerHandshake | .task => some .warning
  | .closing | .closed => some .error
  | .unknown _ => none

/-- What a state of the task is summed up as, when it is known. -/
def TaskState.summary? : TaskState → Option GlobalState
  | .new | .connecting | .reconnecting => some .warning
  | .connected => some .ok
  | .disconnected => some .error
  | .unknown _ => none

end RelayClient
