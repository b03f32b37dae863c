import RelayClient.Session.Recovery
import RelayClient.Session.StopOptions

/-!
# Life of a session

A session is set up with a new transport, started, and stopped. A stop tells the
device, returns to the initial status, forgets what it should, and closes the
channel, the signaling and the direct connection, in this order.
-/

namespace RelayClient

open Pack (Value)

namespace Session

/-- The key pair of a set-up: the one given, or a new one. -/
def pairFor (session : Session) (params : InitParams) : Session × KeyPair :=
  match params.pair with
  | some pair => (session, pair)
  | none =>
      ({ session with keysDrawn := session.keysDrawn + 1 },
        .ofSecret (session.chance.key session.keysDrawn))

/-- Sets up a new attempt to connect. Without a transport the former attempt stays. -/
def init (session : Session) (params : InitParams) : Session × Except Failure Unit :=
  let (session, pair) := (session.resetStatus false).pairFor params
  let initiation : Initiation :=
    { host := session.signaling.resolveHost pair.publicKey
      port := session.signaling.port
      serverKey := session.signaling.serverKey
      pair
      trustedPeer := params.trustedPeer }
  match session.ask .create (.create initiation) with
  | (session, .error failure) => (session, .error failure)
  | (session, .ok _) =>
      let transport := session.transports
      ({ session with
          replica := { session.replica with gate := {} }
          transports := transport + 1
          link := { session.link with
            pair := some pair
            trustedPeer := params.trustedPeer
            transport := some transport
            peer := none
            channel := none
            task := none
            startupDone := false
            resetFields := params.resetFields
            pump := some ⟨transport, []⟩ } }, .ok ())

/-- Enters a start in the list, waiting; a start before it that still waits is stopped. -/
def enterStartup (session : Session) : Session × Nat :=
  let startup := session.startups.length
  let former := session.link.startup
  let entered := { session with
    startups := session.startups ++ [none]
    link := { session.link with startup := some startup, startupDone := false } }
  (match former with
    | some former => entered.settleStartup former (.error .stopped)
    | none => entered, startup)

/-- Fails a start that could not even connect. -/
def refuseStartup (session : Session) (startup : Nat) (failure : Failure) : Session :=
  { session with link := { session.link with startup := none } }.settleStartup startup (.error failure)

/-- Connects. The session is ready once the start with the returned number is settled. -/
def start (session : Session) : Session × Nat :=
  let (session, startup) := session.enterStartup
  match session.link.transport, session.link.pair with
  | some transport, some pair =>
      match session.ask .connect (.connect transport) with
      | (session, .error failure) => (session.refuseStartup startup failure, startup)
      | (session, .ok _) =>
          if session.push.token.isSome then (session.spawn (.push pair.publicKey), startup)
          else if session.keys.hasTrustedKey then (session.setBuildup .manualStart, startup)
          else (session, startup)
  | _, _ => (session.refuseStartup startup (.internal "session not initialised"), startup)

/-- Sends a message over the attached channel. -/
def postMessage (session : Session) (message : Message) : Session × Except Failure Unit :=
  match session.messenger.post (session.surroundings.failure? .send) with
  | .ok channel => (session.note (.send channel message), .ok ())
  | .error failure => (session, .error failure)

/-- The message outside the channel that ends a session. -/
def farewell (forget : Bool) : Value :=
  .record [("type", .text "disconnect"), ("forget", .bool forget)]

def tellPeer (session : Session) (options : StopOptions) (transport : Option Nat) : Session :=
  let (session, _) := session.postMessage
    ⟨.update, .connectionDisconnect, none, some options.effectiveReason.data⟩
  match transport with
  | some transport => session.note (.application transport (farewell options.deletes))
  | none => session

/-- Notes an effect on something that may not be there. -/
def noteFor {α : Type} (session : Session) (effect : α → Effect) : Option α → Session
  | some thing => session.note (effect thing)
  | none => session

def closeLink (session : Session) (link : Link) : Session :=
  ((session.noteFor .closeChannel link.channel).noteFor .disconnect link.transport).noteFor .closePeer link.peer

def forget (session : Session) (options : StopOptions) : Session :=
  { session with
    keys := if options.deletes then session.keys.clear else session.keys
    replica := if options.clearsData then { session.replica with data := {} } else session.replica
    push := if options.dropsPush then session.push.reset else session.push }

/-- Takes a session down: all of a stop up to the closed direct connection. -/
def takeDown (session : Session) (options : StopOptions) : Session :=
  let link := session.link
  let session := { session with
    link := { link with
      transport := none
      peer := none
      channel := none
      task := none
      startup := none
      startupDone := false
      pump := none } }
  let session := if options.byUs && session.status.task = .connected then session.tellPeer options link.transport
    else session
  let session := (session.resetStatus true).forget options
  let session := match link.startup with
    | some startup => session.settleStartup startup (.error .stopped)
    | none => session
  let session := { session with messenger := session.messenger.detach.clear.1 }
  session.closeLink link

/-- Stops a session. The frontend returns to the pairing screen once all is closed. -/
def stop (session : Session) (options : StopOptions) : Session :=
  let session := session.takeDown options
  if options.redirect then session.note (.navigate none) else session

end Session

end RelayClient
