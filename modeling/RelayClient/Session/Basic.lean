import RelayClient.Credential.KeyStore
import RelayClient.Exchange.Messenger
import RelayClient.Replica.Routing
import RelayClient.Session.Surroundings
import RelayClient.Signaling

/-!
# Sessions

A session holds the link to the device, what the device has told so far, the
trusted keys, and the tasks that are ready to run. Tasks run one at a time, each
until it has to wait. What a session does outside itself is kept as a list of
effects, oldest first. Times are in milliseconds.
-/

namespace RelayClient

open Cipher (Key)

/-- What is drawn by chance, by the number of the draw. -/
structure Chance where
  /-- The secret keys of new key pairs. -/
  key : Nat → Key
  /-- The salt and nonce of a record. -/
  sealing : Nat → Draw

/-- How a link is set up. -/
structure InitParams where
  /-- The key pair to use; a new one is made when there is none. -/
  pair : Option KeyPair := none
  /-- The key that the device is known to have. -/
  trustedPeer : Option Key := none
  /-- Replicated data is forgotten once the channel is open. -/
  resetFields : Bool := true

/-- A running event pump: its transport and the events that wait. -/
structure Pump where
  transport : Nat
  events : List TransportEvent := []

/-- The state of one attempt to connect. -/
structure Link where
  pair : Option KeyPair := none
  trustedPeer : Option Key := none
  transport : Option Nat := none
  /-- The transport a direct connection was made on. -/
  peer : Option Nat := none
  channel : Option Channel := none
  task : Option CarrierTask := none
  /-- The start that waits for the session to be ready. -/
  startup : Option Nat := none
  startupDone : Bool := false
  resetFields : Bool := false
  pump : Option Pump := none

/-- How long recovery waits. -/
structure RecoveryTimes where
  /-- How long the first restart may take to show progress. -/
  phaseOne : Nat := 20000
  /-- How long the second restart may take. -/
  phaseTwo : Nat := 40000
  /-- The pause before a relayed session restarts. -/
  restartDelay : Nat := 500

inductive RecoveryPhase where
  | idle
  | phaseOne
  | phaseTwo
  | failed
  deriving DecidableEq, Inhabited

def RecoveryPhase.name : RecoveryPhase → String
  | .idle => "idle"
  | .phaseOne => "phase1"
  | .phaseTwo => "phase2"
  | .failed => "failed"

/-- A timer of recovery: the attempt that armed it and when it is due. -/
structure RecoveryTimer where
  attempt : Nat
  due : Nat

/-- How far a restart has come. -/
inductive RestartStage where
  | spawned
  /-- The session is taken down. The direct connection closes and the pause ends by a time. -/
  | paused (due : Nat)
  | resuming
  /-- The session was started and the restart waits for that start. -/
  | starting (startup : Nat)
  | ended
  deriving DecidableEq

structure Restart where
  attempt : Nat
  params : InitParams
  delay : Nat
  stage : RestartStage := .spawned

/-- What watches over a session and restarts it when the connection is lost. -/
structure Recovery where
  times : RecoveryTimes := {}
  phase : RecoveryPhase := .idle
  timer : Option RecoveryTimer := none
  restart : Option Restart := none
  /-- Restarts begun so far. -/
  attempts : Nat := 0
  /-- What carried the last good connection. -/
  carrier : Option CarrierTask := none
  /-- The keys of the last good connection. -/
  keys : Option ResumeKeys := none

/-- A task that is ready to run. -/
inductive Task where
  /-- Handle the events that wait. -/
  | pump (transport : Nat)
  | push (publicKey : Key)
  /-- Stop, as the device ended the session; the frontend may have to be told. -/
  | stopForPeer (reason : DisconnectReason) (tell : Bool)
  /-- The timer of an attempt is due. -/
  | expire (attempt : Nat)
  | restart (attempt : Nat)

structure Session where
  signaling : Signaling := {}
  /-- There is no frontend to show anything. -/
  headless : Bool := false
  chance : Chance
  keysDrawn : Nat := 0
  sealingsDrawn : Nat := 0
  surroundings : Surroundings := {}
  now : Nat := 0
  status : Status := {}
  replica : Replica := {}
  messenger : Messenger Channel
  keys : KeyStore
  push : PushService
  link : Link := {}
  /-- Transports created so far. -/
  transports : Nat := 0
  /-- What each start came to, once it is known. -/
  startups : List (Option (Except Failure Unit)) := []
  /-- Channels opened so far. -/
  opened : Nat := 0
  recovery : Option Recovery := none
  ready : List Task := []
  effects : List Effect := []

namespace Session

/-- Notes an effect. Without a frontend nothing is shown. -/
def note (session : Session) (effect : Effect) : Session :=
  if session.headless && effect.isShown then session
  else { session with effects := session.effects ++ [effect] }

/-- Makes a task ready. -/
def spawn (session : Session) (task : Task) : Session :=
  { session with ready := session.ready ++ [task] }

/-- Notes an effect that may be refused. -/
def ask (session : Session) (call : OutsideCall) (effect : Effect) : Session × Except Failure Unit :=
  (session.note effect,
    match session.surroundings.failure? call with
    | some failure => .error failure
    | none => .ok ())

/-- The key of the device: the one it proved to hold, or the one it is known to have. -/
def peerKey (session : Session) : Option Key :=
  (session.link.transport.bind fun _ => session.surroundings.peerKey).or session.link.trustedPeer

/-- The keys that a later session can resume with. -/
def resumeKeys (session : Session) : Option ResumeKeys :=
  session.link.pair.map fun pair => ⟨pair, session.peerKey⟩

/-- Settles a start, and wakes the restart that waits for it. -/
def settleStartup (session : Session) (startup : Nat) (result : Except Failure Unit) : Session :=
  let settled := { session with startups := session.startups.set startup (some result) }
  match settled.recovery.bind (·.restart) with
  | some restart =>
      if restart.stage = .starting startup then settled.spawn (.restart restart.attempt) else settled
  | none => settled

/-- Fails the start that waits for the session to be ready. -/
def failStartup (session : Session) (failure : Failure) : Session :=
  match session.link.startupDone, session.link.startup with
  | false, some startup =>
      { session with link := { session.link with startup := none } }.settleStartup startup (.error failure)
  | _, _ => session

end Session

end RelayClient
