import RelayClient.Envelope.Message
import RelayClient.Failure
import RelayClient.KeyPair
import RelayClient.Push
import RelayClient.Status.Basic

/-!
# Surroundings of a session

A session works on things it does not implement itself: transports that shake
hands with the device, direct connections to it, the channels of both, a push
relay and a frontend. This module holds the events they report, how they answer,
and the effects a session has on them.
-/

namespace RelayClient

open Cipher (Key)
open Pack (Value)

/-- What carries the messages after the handshake. -/
inductive CarrierTask where
  /-- A direct connection, which the signaling hands over to. -/
  | direct
  /-- The signaling server goes on relaying. -/
  | relayed
  deriving DecidableEq, Inhabited

namespace CarrierTask

def name : CarrierTask → String
  | .direct => "webrtc"
  | .relayed => "relayed"

def ofName? (name : String) : Option CarrierTask :=
  [direct, relayed].find? fun task => task.name == name

end CarrierTask

/-- A secure channel: the transport it belongs to and what carries it. -/
structure Channel where
  transport : Nat
  carrier : CarrierTask
  deriving DecidableEq, Inhabited

def Channel.label : String := "webrelay"

inductive TransportEvent where
  | newResponder
  | signaling (state : SignalingState)
  /-- The handshake is done and a task was chosen. -/
  | taskReady (task : CarrierTask)
  /-- The signaling moved onto the direct connection. -/
  | handover
  | taskState (state : TaskState)
  /-- The device left the relay and may come back. -/
  | peerDisconnected
  /-- A message outside the channel. -/
  | application (message : Value)
  | connectionError (reason : String)
  | connectionClosed (code : Nat)
  | channelOpen
  | channelFrame (frame : Bytes)
  | channelError (reason : String)
  | channelClosed

/-- What a session asks of its surroundings and may be refused. -/
inductive OutsideCall where
  | create
  | connect
  | createPeer
  | handover
  | openChannel
  | relayedChannel
  | send
  | application
  | closePeer
  deriving DecidableEq, Inhabited

namespace OutsideCall

def all : List OutsideCall :=
  [.create, .connect, .createPeer, .handover, .openChannel, .relayedChannel, .send, .application, .closePeer]

def name : OutsideCall → String
  | .create => "create"
  | .connect => "connect"
  | .createPeer => "create_peer"
  | .handover => "handover"
  | .openChannel => "open_channel"
  | .relayedChannel => "relayed_channel"
  | .send => "send"
  | .application => "application"
  | .closePeer => "close_peer"

def ofName? (name : String) : Option OutsideCall :=
  all.find? fun call => call.name == name

end OutsideCall

/-- How the surroundings answer. -/
structure Surroundings where
  refusal : OutsideCall → Option String := fun _ => none
  /-- The key the device proved to hold in the handshake. -/
  peerKey : Option Key := none
  push : PushAnswer := .accepts
  /-- How many milliseconds a direct connection takes to close, unless it closes at once. -/
  closing : Option Nat := none

def Surroundings.failure? (surroundings : Surroundings) (call : OutsideCall) : Option Failure :=
  (surroundings.refusal call).map .transport

def Surroundings.refuse (surroundings : Surroundings) (call : OutsideCall) (detail : Option String) :
    Surroundings :=
  { surroundings with refusal := fun other => if other = call then detail else surroundings.refusal other }

/-- What a transport is created with. -/
structure Initiation where
  host : String
  port : Nat
  serverKey : Option Key
  pair : KeyPair
  trustedPeer : Option Key

/-- The keys of a session, which a later one can resume with. -/
structure ResumeKeys where
  pair : KeyPair
  peer : Option Key

/-- What a session does to its surroundings, and what it tells its observers. -/
inductive Effect where
  | create (initiation : Initiation)
  | connect (transport : Nat)
  | disconnect (transport : Nat)
  | createPeer (transport : Nat)
  | handover (transport : Nat)
  | openChannel (transport : Nat) (label : String)
  | relayedChannel (transport : Nat)
  | closePeer (transport : Nat)
  | closeChannel (channel : Channel)
  | application (transport : Nat) (message : Value)
  | send (channel : Channel) (message : Message)
  /-- The frontend returns to the pairing screen. -/
  | navigate (keys : Option ResumeKeys)
  | initNotifications
  /-- The frontend learns why the device ended the session. -/
  | peerDisconnected (reason : DisconnectReason)
  | push (request : PushRequest)
  | status (event : StatusEvent)

/-- Whether an effect concerns the frontend. -/
def Effect.isShown : Effect → Bool
  | .navigate _ | .initNotifications | .peerDisconnected _ => true
  | _ => false

end RelayClient
