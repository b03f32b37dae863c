import RelayClient.Cipher.Curve25519
import RelayClient.Text.Hex
import RelayClient.Text.Quoted

/-!
# Key pairs

The long-term identity of a client: a secret key and its public key. Two pairs
are the same when their public keys are.
-/

namespace RelayClient

open Cipher (Key)

structure KeyPair where
  secret : Key
  publicKey : Key
  deriving DecidableEq

namespace KeyPair

def ofSecret (secret : Key) : KeyPair :=
  ⟨secret, Cipher.Curve25519.publicKey secret⟩

def same (first second : KeyPair) : Bool :=
  first.publicKey == second.publicKey

def publicText (pair : KeyPair) : String :=
  Text.Hex.encode pair.publicKey.bytes

def summary (pair : KeyPair) : String :=
  "KeyPair \x7b public: " ++ Text.quoted pair.publicText ++ ", .. \x7d"

end KeyPair

end RelayClient
