import RelayClient.Cipher.SealedBox
import RelayClient.Cipher.Sha256
import RelayClient.Credential.PushToken
import RelayClient.Failure
import RelayClient.Text.Hex

/-!
# Wake-up pushes

Before it connects, the client asks a push relay to wake the device. A push is
sent only while a token is held, and not sooner than a fixed interval after the
one before it. Times are in milliseconds.
-/

namespace RelayClient

open Cipher (Key)

/-- One wake-up request: the digest of the client's public key, the device's
token and the version of the protocol. -/
structure PushRequest where
  session : String
  token : PushToken
  version : Nat
  deriving DecidableEq

namespace PushRequest

def ofKey (publicKey : Key) (token : PushToken) (version : Nat) : PushRequest :=
  ⟨Text.Hex.encode (Cipher.Sha256.digest publicKey.bytes), token, version⟩

/-- The characters before and after the first semicolon, when there is one. -/
def splitSemicolon (chars : List Char) : List Char × Option (List Char) :=
  match chars.dropWhile (· != ';') with
  | [] => (chars, none)
  | _ :: rest => (chars.takeWhile (· != ';'), some rest)

def optionalField (name : String) : Option (List Char) → List (String × String)
  | some value => [(name, String.ofList value)]
  | none => []

/-- The fields that carry the token. One push system packs an endpoint and a
bundle into its tokens. -/
def tokenFields (token : PushToken) : List (String × String) :=
  match token.system with
  | .apns =>
      let first := splitSemicolon token.text.toList
      let second := first.2.map splitSemicolon
      ("token", String.ofList first.1) ::
        (optionalField "endpoint" (second.map (·.1)) ++ optionalField "bundleid" (second.bind (·.2)))
  | .gcm | .hms => [("token", token.text)]

/-- The form fields of a request, in the order they are posted. -/
def formFields (request : PushRequest) : List (String × String) :=
  ("type", request.token.system.name) :: ("session", request.session) ::
    ("version", toString request.version) :: tokenFields request.token

end PushRequest

inductive PushAnswer where
  | accepts
  | refuses
  | fails (detail : String)
  deriving DecidableEq, Inhabited

/-- What a sent push comes to. -/
def PushAnswer.result : PushAnswer → Except Failure Bool
  | .accepts => .ok true
  | .refuses => .ok false
  | .fails detail => .error (.push detail)

/-- The token that is held and the time of the last push. -/
structure PushService where
  version : Nat
  token : Option PushToken := none
  lastSent : Option Nat := none
  deriving DecidableEq, Inhabited

namespace PushService

/-- Pushes that would be closer together are skipped. -/
def minInterval : Nat := 2000

def hold (service : PushService) (token : PushToken) : PushService :=
  { service with token := some token }

/-- Forgets the token and the last push. -/
def reset (service : PushService) : PushService :=
  { service with token := none, lastSent := none }

/-- Whether the last push is too recent for another. -/
def isTooSoon (service : PushService) (now : Nat) : Bool :=
  match service.lastSent with
  | some last => now - last < minInterval
  | none => false

/-- Starts a push, unless no token is held or the last one is too recent. -/
def send (service : PushService) (publicKey : Key) (now : Nat) : PushService × Option PushRequest :=
  match service.token with
  | none => (service, none)
  | some token =>
      if service.isTooSoon now then (service, none)
      else ({ service with lastSent := some now }, some (.ofKey publicKey token service.version))

end PushService

end RelayClient
