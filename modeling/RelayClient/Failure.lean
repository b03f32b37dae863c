/-!
# Failures

Why an operation of the client did not succeed, the text shown for it, and
whether the same operation may succeed later.
-/

namespace RelayClient

/-- The cause of a failed operation. -/
inductive Failure where
  | storage (detail : String)
  | crypto (detail : String)
  /-- A wrong password or a damaged record, without further detail. -/
  | decryptionFailed
  | transport (detail : String)
  | protocol (detail : String)
  /-- The device answered a request with a refusal. -/
  | rejected (detail : String)
  | timeout (detail : String)
  | handshake (detail : String)
  | stopped
  | push (detail : String)
  | config (detail : String)
  | internal (detail : String)
  deriving DecidableEq, Inhabited

namespace Failure

/-- The text shown for a failure. -/
def message : Failure → String
  | .storage detail => "Storage error: " ++ detail
  | .crypto detail => "Crypto error: " ++ detail
  | .decryptionFailed => "Decryption failed"
  | .transport detail => "Transport error: " ++ detail
  | .protocol detail => "Protocol error: " ++ detail
  | .rejected detail => "Request rejected: " ++ detail
  | .timeout detail => "Request timed out: " ++ detail
  | .handshake detail => "Handshake failed: " ++ detail
  | .stopped => "Session stopped"
  | .push detail => "Push error: " ++ detail
  | .config detail => "Configuration error: " ++ detail
  | .internal detail => "Internal error: " ++ detail

/-- The kinds of failures with the failures they are kinds of, for a given detail. -/
def kinds : List (String × (String → Failure)) :=
  [("Storage", .storage), ("Crypto", .crypto), ("DecryptionFailed", fun _ => .decryptionFailed),
    ("Transport", .transport), ("Protocol", .protocol), ("Rejected", .rejected), ("Timeout", .timeout),
    ("Handshake", .handshake), ("Stopped", fun _ => .stopped), ("Push", .push), ("Config", .config),
    ("Internal", .internal)]

def ofKind? (kind detail : String) : Option Failure :=
  (kinds.find? (·.1 == kind)).map fun entry => entry.2 detail

def kind : Failure → String
  | .storage _ => "Storage"
  | .crypto _ => "Crypto"
  | .decryptionFailed => "DecryptionFailed"
  | .transport _ => "Transport"
  | .protocol _ => "Protocol"
  | .rejected _ => "Rejected"
  | .timeout _ => "Timeout"
  | .handshake _ => "Handshake"
  | .stopped => "Stopped"
  | .push _ => "Push"
  | .config _ => "Config"
  | .internal _ => "Internal"

/-- Whether the same operation may succeed when it is tried again. -/
def isTransient : Failure → Bool
  | .transport _ | .timeout _ | .handshake _ | .push _ => true
  | _ => false

end Failure

end RelayClient
