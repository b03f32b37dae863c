import RelayClient.Cipher.SealedBox
import RelayClient.Text.Hex

/-!
# Signaling server

Client and device find each other through a signaling server. Unless its host is
fixed, the first byte of the client's public key selects one of several hosts.
-/

namespace RelayClient

open Cipher (Key)

/-- Where the signaling server is found. -/
structure Signaling where
  /-- A fixed host, in place of one that is derived from the public key. -/
  host : Option String := none
  hostStart : String := "relay-"
  hostEnd : String := ".webrelay.example"
  port : Nat := 443
  serverKey : Option Key := none

/-- The host for a public key: the fixed one, or the first byte of the key between two texts. -/
def Signaling.resolveHost (signaling : Signaling) (publicKey : Key) : String :=
  match signaling.host with
  | some host => host
  | none => signaling.hostStart ++ Text.Hex.encode (publicKey.bytes.take 1) ++ signaling.hostEnd

end RelayClient
