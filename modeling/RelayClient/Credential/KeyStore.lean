import RelayClient.Credential.PushToken
import RelayClient.Credential.Record
import RelayClient.Storage.Basic

/-!
# Trusted key store

The store keeps one credential: the client's secret key, the device's public key
and an optional push token, sealed under a password. A deprecated record is
written anew the first time it is opened. What a write draws by chance, and the
time that its timed run takes, are arguments of the write.
-/

namespace RelayClient

open Cipher (Key Nonce Sized SealedBox.close SealedBox.open?)

/-- What a credential holds. -/
structure TrustedKey where
  secret : Key
  peer : Key
  token : Option PushToken

namespace TrustedKey

def plaintext (trusted : TrustedKey) : Bytes :=
  trusted.secret.bytes ++ (trusted.peer.bytes ++
    (match trusted.token with
      | some token => Text.utf8 token.encode
      | none => []))

/-- The credential of a plaintext, when it is long enough. A token that is not UTF-8 is dropped. -/
def ofPlaintext? (plaintext : Bytes) : Option TrustedKey :=
  match Sized.ofBytes? 32 (plaintext.take 32), Sized.ofBytes? 32 ((plaintext.drop 32).take 32) with
  | some secret, some peer => some ⟨secret, peer, (Text.ofUtf8? (plaintext.drop 64)).bind PushToken.decode?⟩
  | _, _ => none

def systemTitle : PushSystem → String
  | .gcm => "Gcm"
  | .apns => "Apns"
  | .hms => "Hms"

def summary (trusted : TrustedKey) : String :=
  "TrustedKeyData \x7b own_secret_key: \"<redacted>\", peer_public_key: " ++
    Text.quoted (Text.Hex.encode trusted.peer.bytes) ++ ", push_token: " ++
    (match trusted.token with
      | some token => "Some(" ++ systemTitle token.system ++ ")"
      | none => "None") ++ " \x7d"

end TrustedKey

/-- What a write draws by chance, and the nanoseconds its timed run takes. -/
structure Draw where
  salt : Sized WorkFactor.saltLength
  nonce : Nonce
  elapsed : Nat
  deriving Inhabited

/-- A store over some storage, with a target time for derivations in nanoseconds
and the password of the session. -/
structure KeyStore where
  storage : Storage
  target : Nat
  password : Option String := none

namespace KeyStore

/-- The storage keys of the record and of the flag for sessions started unattended. -/
def recordKey : String := "trusted"
def autoKey : String := "autoSession"

/-- The value of the flag when it is set. -/
def autoValue : String := "auto"

/-- A shorter text is no record. -/
def minRecordLength : Nat := 96

/-- Whether a stored text can be a record, by its length and the colon both formats have. -/
def isPlausible (raw : String) : Bool :=
  minRecordLength < raw.utf8ByteSize && raw.toList.contains ':'

/-- Whether a plausible record is stored. -/
def hasTrustedKey (store : KeyStore) : Bool :=
  match store.storage.get recordKey with
  | .ok (some raw) => isPlausible raw
  | _ => false

def isAutoSession (store : KeyStore) : Bool :=
  match store.storage.get autoKey with
  | .ok (some flag) => flag == autoValue
  | _ => false

/-- The record of a credential, at a cost given by its logarithm. -/
def sealRecord (trusted : TrustedKey) (password : String) (draw : Draw) (logN : Nat) : Except Failure KeyRecord :=
  let work := WorkFactor.standard (UInt8.ofNat logN)
  match work.deriveKey password draw.salt.bytes with
  | .error failure => .error failure
  | .ok key => .ok (.ofParts draw.nonce.bytes draw.salt.bytes work
      (SealedBox.close key draw.nonce trusted.plaintext))

/-- Sets or removes the flag for sessions started unattended. -/
def writeAuto (storage : Storage) (auto : Bool) : Storage × Except Failure Unit :=
  if auto then storage.set autoKey autoValue else storage.remove autoKey

/-- Writes a credential over any other, at the cost that was picked for it, if one was. -/
def storeAt (keys : KeyStore) (cost : Except Failure Nat) (trusted : TrustedKey) (password : String) (auto : Bool)
    (draw : Draw) : KeyStore × Except Failure Unit :=
  match cost.bind (sealRecord trusted password draw) with
  | .error failure => (keys, .error failure)
  | .ok record =>
      match keys.storage.set recordKey record.render with
      | (storage, .error failure) => ({ keys with storage }, .error failure)
      | (storage, .ok _) =>
          let (storage, result) := writeAuto storage auto
          ({ keys with storage }, result)

/-- Writes a credential over any other, at the cost that the timed run lets expect. -/
def store (keys : KeyStore) (trusted : TrustedKey) (password : String) (auto : Bool) (draw : Draw) :
    KeyStore × Except Failure Unit :=
  keys.storeAt (WorkFactor.extrapolate draw.elapsed WorkFactor.benchmarkLogN keys.target) trusted password auto draw

def openCurrent (raw password : String) : Except Failure TrustedKey :=
  match (DecodedRecord.decode raw).1 with
  | none => .error .decryptionFailed
  | some record =>
      match record.work.deriveKey password record.salt with
      | .error _ => .error .decryptionFailed
      | .ok key =>
          match (SealedBox.open? key record.nonce record.encrypted).bind TrustedKey.ofPlaintext? with
          | some trusted => .ok trusted
          | none => .error .decryptionFailed

/-- Opens a deprecated record, whose plaintext starts with the client's public key. -/
def openDeprecated (nonce ciphertext password : String) : Except Failure TrustedKey :=
  match Text.Hex.decode? nonce, Text.Hex.decode? ciphertext with
  | some nonce, some ciphertext =>
      match (Cipher.SealedBox.Deprecated.open? (deprecatedKey password) nonce ciphertext).bind
          (fun plaintext => TrustedKey.ofPlaintext? (plaintext.drop 32)) with
      | some trusted => .ok trusted
      | none => .error .decryptionFailed
  | _, _ => .error .decryptionFailed

/-- Opens the stored record in the current format. -/
def retrieveCurrent (keys : KeyStore) (password : String) : Except Failure TrustedKey :=
  match keys.storage.get recordKey with
  | .error failure => .error failure
  | .ok none => .error .decryptionFailed
  | .ok (some raw) => openCurrent raw password

/-- Opens the stored credential, if there is one, where memory suffices. A deprecated record is
written anew. -/
def retrieve (keys : KeyStore) (password : String) (draw : Draw) :
    KeyStore × Except Failure (Option TrustedKey) :=
  match keys.storage.get recordKey with
  | .error failure => (keys, .error failure)
  | .ok none => (keys, .ok none)
  | .ok (some raw) =>
      match StoredFormat.classify raw with
      | .current _ => (keys, (keys.retrieveCurrent password).map some)
      | .deprecated nonce ciphertext =>
          match openDeprecated nonce ciphertext password with
          | .error failure => (keys, .error failure)
          | .ok trusted =>
              match keys.store trusted password keys.isAutoSession draw with
              | (after, .error failure) => (after, .error failure)
              | (after, .ok _) => (after, (after.retrieveCurrent password).map some)

/-- The costs at which a read derives keys: that of the record, or those of the timed run and of the
record that is written in place of a deprecated one, which is then read at the same cost. -/
def costs (keys : KeyStore) (password : String) (draw : Draw) : List WorkFactor :=
  match keys.storage.get recordKey with
  | .ok (some raw) =>
      match StoredFormat.classify raw with
      | .current _ => ((DecodedRecord.decode raw).1.map (·.work)).toList
      | .deprecated nonce ciphertext =>
          match openDeprecated nonce ciphertext password with
          | .error _ => []
          | .ok _ =>
              match WorkFactor.extrapolate draw.elapsed WorkFactor.benchmarkLogN keys.target with
              | .error _ => [.benchmark]
              | .ok logN => [.benchmark, .standard (UInt8.ofNat logN)]
  | _ => []

/-- Opens the stored credential with no more memory than there is. There is no result when a
derivation ends the program, which happens before anything is written. -/
def retrieveWithin (memory : Memory) (keys : KeyStore) (password : String) (draw : Draw) :
    KeyStore × Option (Except Failure (Option TrustedKey)) :=
  if (keys.costs password draw).any memory.isExhaustedBy then (keys, none)
  else
    let (after, result) := keys.retrieve password draw
    (after, some result)

/-- Keeps a password for the session. -/
def setPassword (keys : KeyStore) (password : String) : KeyStore :=
  { keys with password := some password }

/-- Forgets the credential, the flag and the password. What storage refuses to remove stays. -/
def clear (keys : KeyStore) : KeyStore :=
  { keys with
    storage := ((keys.storage.remove recordKey).1.remove autoKey).1
    password := none }

end KeyStore

end RelayClient
