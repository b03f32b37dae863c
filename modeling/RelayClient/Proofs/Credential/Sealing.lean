import RelayClient.Credential.KeyStore
import RelayClient.Proofs.Cipher.SealedBox
import RelayClient.Proofs.Credential.RoundTrip

/-!
# Sealed credentials open

A credential that was sealed under a password opens under it: the token is read
back behind its tag, the plaintext splits into its parts, and the record keeps
all that the key is derived from.
-/

namespace RelayClient

open Cipher (Key Sized)

/-- A token is read back from its written form, whatever its text. -/
theorem PushToken.decode?_encode (token : PushToken) : decode? token.encode = some token := by
  rw [decode?, encode, String.toList_ofList, delimiter, ofChars?, PushSystem.ofTag?_tag]
  dsimp only
  rw [String.ofList_toList]

theorem Cipher.Sized.ofBytes?_bytes {count : Nat} (sized : Sized count) :
    Sized.ofBytes? count sized.bytes = some sized :=
  dif_pos sized.length_eq

namespace TrustedKey

def tokenBytes (trusted : TrustedKey) : Bytes :=
  match trusted.token with
  | some token => Text.utf8 token.encode
  | none => []

theorem decode?_tokenBytes (trusted : TrustedKey) :
    (Text.ofUtf8? trusted.tokenBytes).bind PushToken.decode? = trusted.token := by
  unfold tokenBytes
  cases trusted.token with
  | some token => exact (congrArg (Option.bind · PushToken.decode?) (Text.ofUtf8?_utf8 _)).trans token.decode?_encode
  | none => exact congrArg (Option.bind · PushToken.decode?) (Text.ofUtf8?_utf8 "")

/-- Two keys and any further bytes are read as a credential with the token of these bytes. -/
theorem ofPlaintext?_append (secret peer : Key) (token : Bytes) :
    ofPlaintext? (secret.bytes ++ (peer.bytes ++ token)) =
      some ⟨secret, peer, (Text.ofUtf8? token).bind PushToken.decode?⟩ := by
  have rest : (secret.bytes ++ (peer.bytes ++ token)).drop 32 = peer.bytes ++ token := List.drop_left' secret.length_eq
  have last : (secret.bytes ++ (peer.bytes ++ token)).drop 64 = token := by
    rw [← List.drop_drop (i := 32) (j := 32), rest, List.drop_left' peer.length_eq]
  rw [ofPlaintext?, rest, last, List.take_left' secret.length_eq, List.take_left' peer.length_eq, Sized.ofBytes?_bytes,
    Sized.ofBytes?_bytes]

/-- The plaintext of a credential holds the credential. -/
theorem ofPlaintext?_plaintext (trusted : TrustedKey) : ofPlaintext? trusted.plaintext = some trusted := by
  have read := ofPlaintext?_append trusted.secret trusted.peer trusted.tokenBytes
  rw [decode?_tokenBytes] at read
  exact read

end TrustedKey

namespace KeyStore

variable {trusted : TrustedKey} {password : String} {draw : Draw} {logN : Nat}

theorem openCurrent_render {record : KeyRecord} (positive : 1 ≤ logN) (small : logN < 64)
    (wrote : sealRecord trusted password draw logN = .ok record) : openCurrent record.render password = .ok trusted := by
  have log : (UInt8.ofNat logN).toNat = logN := Nat.mod_eq_of_lt (by omega)
  unfold sealRecord at wrote
  dsimp only at wrote
  split at wrote
  · cases wrote
  · next key derived =>
      cases wrote
      have cost : (WorkFactor.standard (UInt8.ofNat logN)).logN.toNat = logN := log
      have decoded := DecodedRecord.decode_render draw.nonce.bytes draw.salt.bytes
        (Cipher.SealedBox.close key draw.nonce trusted.plaintext) (cost.symm ▸ positive)
        (cost.symm ▸ Nat.le_of_lt_succ small)
      rw [openCurrent, decoded]
      dsimp only
      rw [derived]
      dsimp only
      rw [Cipher.SealedBox.open?_close, Option.bind_some, TrustedKey.ofPlaintext?_plaintext]

/-- A record can be sealed at every cost within the bounds. -/
theorem exists_sealRecord_eq (least : WorkFactor.minLogN ≤ logN) (most : logN ≤ WorkFactor.maxLogN) :
    ∃ record, sealRecord trusted password draw logN = .ok record := by
  have bounded : (WorkFactor.standard (UInt8.ofNat logN)).isUsable = true ∧
      ¬ WorkFactor.maxBuffer < (WorkFactor.standard (UInt8.ofNat logN)).tableLength := by
    have all : ∀ n : Fin 7, (WorkFactor.standard (UInt8.ofNat (14 + n.val))).isUsable = true ∧
        ¬ WorkFactor.maxBuffer < (WorkFactor.standard (UInt8.ofNat (14 + n.val))).tableLength := by decide
    have found := all ⟨logN - 14, by unfold WorkFactor.maxLogN at most; omega⟩
    rwa [show 14 + (logN - 14) = logN from Nat.add_sub_cancel' least] at found
  unfold sealRecord WorkFactor.deriveKey
  simp [bounded]

end KeyStore

end RelayClient
