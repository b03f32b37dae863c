import RelayClient.Cipher.ChaCha20
import RelayClient.Cipher.Salsa20
import RelayClient.Cipher.Poly1305

/-!
# Sealed boxes

A sealed box hides a plaintext under a key and a nonce and shows when it was
changed. The current layout ends in the tag; the deprecated one starts with it.
A box opens when its nonce has 24 bytes, it is long enough for a tag, and the
tag is that of its ciphertext.
-/

namespace RelayClient.Cipher

/-- Bytes of a known count. -/
structure Sized (count : Nat) where
  bytes : Bytes
  length_eq : bytes.length = count
  deriving DecidableEq

/-- Bytes of a known count, when there are that many. -/
def Sized.ofBytes? (count : Nat) (bytes : Bytes) : Option (Sized count) :=
  if h : bytes.length = count then some ⟨bytes, h⟩ else none

/-- The first bytes of a string, filled up with zeros to a known count. -/
def Sized.fit (count : Nat) (bytes : Bytes) : Sized count :=
  ⟨(bytes ++ List.replicate count 0).take count, by simp⟩

instance (count : Nat) : Inhabited (Sized count) := ⟨⟨List.replicate count 0, List.length_replicate⟩⟩

abbrev Key := Sized 32

def nonceLength : Nat := 24

abbrev Nonce := Sized nonceLength

namespace SealedBox

/-- Adds a key stream to bytes; adding it again takes it away. -/
def mask (stream bytes : Bytes) : Bytes :=
  Bytes.xor bytes stream

/-- Zeros that fill the last block of sixteen bytes. -/
def padding (length : Nat) : Bytes :=
  List.replicate ((16 - length % 16) % 16) 0

def tag (key nonce ciphertext : Bytes) : Bytes :=
  Poly1305.tag ((ChaCha20.longStream key nonce 0 1).take 32)
    (ciphertext ++ padding ciphertext.length ++ Bytes.littleEndian 8 0 ++
      Bytes.littleEndian 8 ciphertext.length)

/-- The key stream of a plaintext in the current layout. -/
def stream (key nonce : Bytes) (length : Nat) : Bytes :=
  ChaCha20.longStream key nonce 1 (length / 64 + 1)

/-- Seals a plaintext, with the tag at the end. -/
def close (key : Key) (nonce : Nonce) (plaintext : Bytes) : Bytes :=
  let ciphertext := mask (stream key.bytes nonce.bytes plaintext.length) plaintext
  ciphertext ++ tag key.bytes nonce.bytes ciphertext

/-- Opens a box whose tag is at the end. -/
def open? (key : Key) (nonce sealed : Bytes) : Option Bytes :=
  if nonce.length ≠ nonceLength ∨ sealed.length < Poly1305.tagLength then none
  else
    let length := sealed.length - Poly1305.tagLength
    let ciphertext := sealed.take length
    if sealed.drop length = tag key.bytes nonce ciphertext then
      some (mask (stream key.bytes nonce length) ciphertext)
    else none

namespace Deprecated

def tag (key nonce ciphertext : Bytes) : Bytes :=
  Poly1305.tag ((Salsa20.longStream key nonce 1).take 32) ciphertext

/-- The key stream of a plaintext in the deprecated layout, which starts where the tag's key ends. -/
def stream (key nonce : Bytes) (length : Nat) : Bytes :=
  (Salsa20.longStream key nonce ((length + 32) / 64 + 1)).drop 32

/-- Seals a plaintext, with the tag at the start. -/
def close (key : Key) (nonce : Nonce) (plaintext : Bytes) : Bytes :=
  let ciphertext := mask (stream key.bytes nonce.bytes plaintext.length) plaintext
  tag key.bytes nonce.bytes ciphertext ++ ciphertext

/-- Opens a box whose tag is at the start. -/
def open? (key : Key) (nonce sealed : Bytes) : Option Bytes :=
  if nonce.length ≠ nonceLength ∨ sealed.length < Poly1305.tagLength then none
  else
    let ciphertext := sealed.drop Poly1305.tagLength
    if sealed.take Poly1305.tagLength = tag key.bytes nonce ciphertext then
      some (mask (stream key.bytes nonce ciphertext.length) ciphertext)
    else none

end Deprecated

end SealedBox

end RelayClient.Cipher
