import RelayClient.Cipher.SealedBox

/-!
# Public keys

A public key is a multiple of a fixed point of a curve, taken by its one
coordinate modulo 2 to the 255th less nineteen. The multiple is the secret key
with its lowest three bits and its highest bit cleared and the next set.
-/

namespace RelayClient.Cipher.Curve25519

def modulus : Nat := 2 ^ 255 - 19

/-- A power modulo the modulus, with the exponent below 2 to the `bits`. -/
def power (base exponent : Nat) : (bits : Nat) → Nat
  | 0 => 1
  | bits + 1 =>
      let half := power base (exponent / 2) bits
      let square := half * half % modulus
      if exponent % 2 = 1 then square * base % modulus else square

/-- Two neighbouring multiples of a point, each as a quotient. -/
structure Ladder where
  lowTop : Nat
  lowBottom : Nat
  highTop : Nat
  highBottom : Nat

/-- The multiples exchanged. -/
def Ladder.swap (ladder : Ladder) : Ladder :=
  ⟨ladder.highTop, ladder.highBottom, ladder.lowTop, ladder.lowBottom⟩

/-- Doubles the lower multiple and adds both into the upper one. -/
def Ladder.advance (base : Nat) (ladder : Ladder) : Ladder :=
  let sum := ladder.lowTop + ladder.lowBottom
  let sumSquare := sum * sum % modulus
  let difference := ladder.lowTop + modulus - ladder.lowBottom
  let differenceSquare := difference * difference % modulus
  let gap := (sumSquare + modulus - differenceSquare) % modulus
  let cross := (ladder.highTop + modulus - ladder.highBottom) * sum % modulus
  let other := (ladder.highTop + ladder.highBottom) * difference % modulus
  let total := cross + other
  let spread := cross + modulus - other
  ⟨sumSquare * differenceSquare % modulus, gap * (sumSquare + 121665 * gap) % modulus,
    total * total % modulus, base * (spread * spread % modulus) % modulus⟩

/-- Takes one bit of the multiplier. -/
def Ladder.step (base : Nat) (ladder : Ladder) (bit : Bool) : Ladder :=
  if bit then (ladder.swap.advance base).swap else ladder.advance base

def multiplier (secret : Bytes) : Nat :=
  let value := Bytes.ofLittleEndian secret
  (value % 2 ^ 254) / 8 * 8 + 2 ^ 254

def multiply (scalar point : Nat) : Nat :=
  let bits := (List.range 255).map fun place => scalar.testBit (254 - place)
  let ladder := bits.foldl (Ladder.step point) ⟨1, 0, point, 1⟩
  ladder.lowTop * power ladder.lowBottom (modulus - 2) 255 % modulus

/-- The coordinate of the fixed point. -/
def basePoint : Nat := 9

def publicKey (secret : Key) : Key :=
  ⟨Bytes.littleEndian 32 (multiply (multiplier secret.bytes) basePoint), Bytes.length_littleEndian _ _⟩

end RelayClient.Cipher.Curve25519
