import RelayClient.Text.Hex

/-!
# What hexadecimal digits spell

Characters spell a byte string when they are pairs of digits, one pair for each byte, the high half first and
each digit of either case. Just these can be read, and they are read as what they spell.
-/

namespace RelayClient.Text.Hex

/-- What holds of the first 256 numbers as bytes holds of every byte. -/
theorem forall_byte {p : UInt8 → Prop} (holds : ∀ n : Fin 256, p (UInt8.ofNat n.val)) (byte : UInt8) : p byte := by
  have found := holds ⟨byte.toNat, byte.toNat_lt⟩
  rwa [UInt8.ofNat_toNat] at found

/-- The digits of a byte have the values of its halves, and these make up the byte. -/
theorem digit_pair (byte : UInt8) :
    (digitValue? (digit (byte >>> 4)) = some (byte >>> 4) ∧ digitValue? (digit (byte &&& 15)) = some (byte &&& 15)) ∧
      (byte >>> 4) <<< 4 ||| byte &&& 15 = byte := by
  revert byte
  exact forall_byte (by decide +kernel)

/-- Digits lie among the first characters of all. -/
theorem lt_of_isSome {c : Char} (digit : (digitValue? c).isSome = true) : 48 ≤ c.toNat ∧ c.toNat < 103 := by
  unfold digitValue? at digit
  split at digit
  · next range => exact ⟨range.1, Nat.lt_of_le_of_lt range.2 (by decide)⟩
  split at digit
  · next range => exact ⟨Nat.le_trans (by decide) range.1, Nat.lt_of_le_of_lt range.2 (by decide)⟩
  split at digit
  · next range => exact ⟨Nat.le_trans (by decide) range.1, Nat.lt_of_le_of_lt range.2 (by decide)⟩
  · cases digit

theorem ofDigits_digits (position : Nat) (bytes : Bytes) : ofDigits position (digits bytes) = .ok bytes := by
  induction bytes generalizing position with
  | nil => rfl
  | cons byte rest ih =>
      obtain ⟨⟨high, low⟩, whole⟩ := digit_pair byte
      rw [digits, ofDigits, high, low]
      dsimp only
      rw [ih (position + 2)]
      dsimp only
      rw [whole]

/-- The digits of either case in the order of their values. -/
def lowerDigits : List Char :=
  ['0', '1', '2', '3', '4', '5', '6', '7', '8', '9', 'a', 'b', 'c', 'd', 'e', 'f']

def upperDigits : List Char :=
  ['0', '1', '2', '3', '4', '5', '6', '7', '8', '9', 'A', 'B', 'C', 'D', 'E', 'F']

/-- A character is the digit of a value. -/
def IsDigitOf (c : Char) (value : Nat) : Prop :=
  lowerDigits[value]? = some c ∨ upperDigits[value]? = some c

instance (c : Char) (value : Nat) : Decidable (IsDigitOf c value) :=
  inferInstanceAs (Decidable (_ ∨ _))

/-- Characters are the pairs of digits of a byte string. -/
inductive Spells : List Char → Bytes → Prop where
  | nil : Spells [] []
  | byte {high low : Char} {upper lower : Nat} {chars : List Char} {bytes : Bytes} (highIs : IsDigitOf high upper)
      (lowIs : IsDigitOf low lower) (later : Spells chars bytes) :
      Spells (high :: low :: chars) (UInt8.ofNat (16 * upper + lower) :: bytes)

variable {c : Char} {value : Nat}

theorem IsDigitOf.lt (digit : IsDigitOf c value) : value < 16 := by
  rcases digit with found | found
  · exact (List.getElem?_eq_some_iff.mp found).1
  · exact (List.getElem?_eq_some_iff.mp found).1

theorem digitValue?_of_isDigitOf (digit : IsDigitOf c value) : digitValue? c = some (UInt8.ofNat value) := by
  have all : ∀ n : Fin 16, digitValue? lowerDigits[n] = some (UInt8.ofNat n) ∧
      digitValue? upperDigits[n] = some (UInt8.ofNat n) := by decide
  have both := all ⟨value, digit.lt⟩
  rcases digit with found | found
  · obtain ⟨_, rfl⟩ := List.getElem?_eq_some_iff.mp found
    exact both.1
  · obtain ⟨_, rfl⟩ := List.getElem?_eq_some_iff.mp found
    exact both.2

theorem isDigitOf_of_digitValue? {byte : UInt8} (read : digitValue? c = some byte) : IsDigitOf c byte.toNat := by
  have all : ∀ n : Fin 128, ∀ byte ∈ digitValue? (Char.ofNat n), IsDigitOf (Char.ofNat n) byte.toNat := by
    decide +kernel
  have small := (lt_of_isSome (by rw [read, Option.isSome_some])).2
  have found := all ⟨c.toNat, Nat.lt_trans small (by decide)⟩
  rw [Char.ofNat_toNat] at found
  exact found byte read

/-- The halves of a byte, put together by place value. -/
theorem join_halves {upper lower : Nat} (high : upper < 16) (low : lower < 16) :
    UInt8.ofNat upper <<< 4 ||| UInt8.ofNat lower = UInt8.ofNat (16 * upper + lower) := by
  have all : ∀ m n : Fin 16, UInt8.ofNat m.val <<< 4 ||| UInt8.ofNat n.val = UInt8.ofNat (16 * m.val + n.val) := by
    decide +kernel
  exact all ⟨upper, high⟩ ⟨lower, low⟩

theorem Spells.ofDigits {chars : List Char} {bytes : Bytes} (spells : Spells chars bytes) (position : Nat) :
    ofDigits position chars = .ok bytes := by
  induction spells generalizing position with
  | nil => rfl
  | byte highIs lowIs later ih =>
      rw [Hex.ofDigits, digitValue?_of_isDigitOf highIs, digitValue?_of_isDigitOf lowIs]
      dsimp only
      rw [ih]
      dsimp only
      rw [join_halves highIs.lt lowIs.lt]

theorem spells_of_ofDigits {position : Nat} {chars : List Char} {bytes : Bytes}
    (read : ofDigits position chars = .ok bytes) : Spells chars bytes := by
  induction position, chars using ofDigits.induct generalizing bytes with
  | case1 position =>
      cases read
      exact .nil
  | case2 position c => cases read
  | case3 position high low rest missing =>
      rw [ofDigits, missing] at read
      cases read
  | case4 position high low rest upper missing found =>
      rw [ofDigits, found, missing] at read
      cases read
  | case5 position high low rest upper lower other found later further ih =>
      rw [ofDigits, found, other] at read
      dsimp only at read
      rw [further] at read
      cases read
      have highIs := isDigitOf_of_digitValue? found
      have lowIs := isDigitOf_of_digitValue? other
      have joined := join_halves highIs.lt lowIs.lt
      rw [UInt8.ofNat_toNat, UInt8.ofNat_toNat] at joined
      rw [joined]
      exact .byte highIs lowIs (ih further)
  | case6 position high low rest upper lower other found problem failed =>
      rw [ofDigits, found, other] at read
      dsimp only at read
      rw [failed] at read
      cases read

theorem Spells.isSome_of_mem {chars : List Char} {bytes : Bytes} (spells : Spells chars bytes) :
    ∀ c ∈ chars, (digitValue? c).isSome = true := by
  induction spells with
  | nil => exact List.forall_mem_nil _
  | byte highIs lowIs later ih =>
      intro c mem
      rcases List.mem_cons.mp mem with rfl | mem
      · rw [digitValue?_of_isDigitOf highIs, Option.isSome_some]
      rcases List.mem_cons.mp mem with rfl | mem
      · rw [digitValue?_of_isDigitOf lowIs, Option.isSome_some]
      · exact ih c mem

theorem Spells.length {chars : List Char} {bytes : Bytes} (spells : Spells chars bytes) :
    chars.length = 2 * bytes.length := by
  induction spells with
  | nil => rfl
  | byte highIs lowIs later ih => rw [List.length_cons, List.length_cons, ih, List.length_cons, Nat.mul_succ]

end RelayClient.Text.Hex
