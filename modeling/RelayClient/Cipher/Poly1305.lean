import RelayClient.Bytes

/-!
# Poly1305

A message is a polynomial whose coefficients are its blocks of sixteen bytes,
each with a one above it. Its value at a point of the key, modulo 2 to the 130th
less five, plus the rest of the key, is the tag.
-/

namespace RelayClient.Cipher.Poly1305

def modulus : Nat := 2 ^ 130 - 5

def tagLength : Nat := 16

/-- Splits a message into blocks of sixteen bytes, the last one possibly shorter. -/
def blocks (message : Bytes) : List Bytes :=
  (List.range ((message.length + 15) / 16)).map fun block => (message.drop (16 * block)).take 16

def evaluate (point : Nat) (message : Bytes) : Nat :=
  (blocks message).foldl (fun value block =>
    (value + Bytes.ofLittleEndian block + 256 ^ block.length) * point % modulus) 0

def tag (key message : Bytes) : Bytes :=
  let point := Bytes.ofLittleEndian (key.take 16) &&& 0x0ffffffc0ffffffc0ffffffc0fffffff
  Bytes.littleEndian tagLength (evaluate point message + Bytes.ofLittleEndian (key.drop 16))

theorem length_tag (key message : Bytes) : (tag key message).length = tagLength :=
  Bytes.length_littleEndian _ _

end RelayClient.Cipher.Poly1305
