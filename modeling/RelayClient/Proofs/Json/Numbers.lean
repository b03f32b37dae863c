import RelayClient.Json.Number
import RelayClient.Json.Syntax

/-!
# Natural numbers in JSON read back

A natural number is written in decimal, without a leading zero, and read up to
the first character that cannot belong to a number. It is read back to itself
where it fits 64 bits.
-/

namespace RelayClient.Json

/-- What follows a number does not go on with it. -/
def EndsNumber (rest : List Char) : Prop :=
  ∀ c, rest.head? = some c → c.isDigit = false ∧ c ≠ '.' ∧ c ≠ 'e' ∧ c ≠ 'E'

variable {rest digits : List Char}

theorem EndsNumber.cons {c : Char} (stop : c.isDigit = false ∧ c ≠ '.' ∧ c ≠ 'e' ∧ c ≠ 'E') (rest : List Char) :
    EndsNumber (c :: rest) := by
  intro other same
  cases same
  exact stop

theorem isDigit_of_mem_toDigits {n : Nat} {c : Char} (mem : c ∈ Nat.toDigits 10 n) : c.isDigit = true :=
  Nat.isDigit_of_mem_toDigits (by decide) (by decide) mem

/-- Only zero is written with a leading zero, and as nothing else. -/
theorem toDigits_eq_zero_cons {n : Nat} {more : List Char} (leads : Nat.toDigits 10 n = '0' :: more) : more = [] := by
  induction n using Nat.base_induction 10 (by decide) generalizing more with
  | single m small =>
      rw [Nat.toDigits_of_lt_base small] at leads
      exact (List.cons.inj leads).2.symm
  | digit m k small positive ih =>
      rw [← Nat.toDigits_append_toDigits (by decide) positive small] at leads
      cases found : Nat.toDigits 10 m with
      | nil => exact absurd found Nat.toDigits_ne_nil
      | cons first others =>
          rw [found, List.cons_append] at leads
          obtain ⟨rfl, -⟩ := List.cons.inj leads
          have alone := ih found
          subst alone
          -- A number whose only digit is zero is zero.
          have value := Nat.ofDigitChars_ten_toDigits (n := m)
          rw [found] at value
          exact absurd value.symm (Nat.pos_iff_ne_zero.mp positive)

theorem takeDigits_append (all : ∀ c ∈ digits, c.isDigit = true) (ends : EndsNumber rest) :
    takeDigits (digits ++ rest) = (digits, rest) := by
  have stop : rest.takeWhile Char.isDigit = [] ∧ rest.dropWhile Char.isDigit = rest := by
    cases rest with
    | nil => exact ⟨rfl, rfl⟩
    | cons c more => simp [(ends c rfl).1]
  rw [takeDigits, List.takeWhile_append_of_pos all, List.dropWhile_append_of_pos all, stop.1, stop.2, List.append_nil]

theorem readWhole_toDigits (n : Nat) (ends : EndsNumber rest) :
    readWhole (Nat.toDigits 10 n ++ rest) = some (Nat.toDigits 10 n, rest) := by
  rw [readWhole, takeDigits_append (fun c mem => isDigit_of_mem_toDigits mem) ends]
  split
  · next same => exact absurd (Prod.mk.inj same).1 Nat.toDigits_ne_nil
  · next same => rw [(Prod.mk.inj same).1, (Prod.mk.inj same).2]
  · next alone same => exact (alone (toDigits_eq_zero_cons (Prod.mk.inj same).1)).elim
  · next same => rw [(Prod.mk.inj same).1, (Prod.mk.inj same).2]

theorem readFraction_of_ends (ends : EndsNumber rest) : readFraction rest = some ([], rest) := by
  unfold readFraction
  split
  · exact absurd rfl (ends '.' rfl).2.1
  · rfl

theorem readExponent_of_ends (ends : EndsNumber rest) : readExponent rest = some ([], rest) := by
  cases rest with
  | nil => rfl
  | cons c more =>
      obtain ⟨_, _, lower, upper⟩ := ends c rfl
      rw [readExponent, if_neg fun mark => mark.elim lower upper]

/-- A number that is written is read up to what follows it. -/
theorem readNumber_toDigits (n : Nat) (ends : EndsNumber rest) :
    readNumber (Nat.toDigits 10 n ++ rest) = some (Nat.toDigits 10 n, rest) := by
  simp only [readNumber, readWhole_toDigits n ends, readFraction_of_ends ends, readExponent_of_ends ends,
    List.append_nil]

namespace Number

/-- Digits whose number fits 64 bits are all leading digits. -/
theorem takeWhole_eq (digits : List Char) (leading : Nat) (fits : Nat.ofDigitChars 10 digits leading < 2 ^ 64) :
    takeWhole leading digits = (Nat.ofDigitChars 10 digits leading, 0) := by
  induction digits generalizing leading with
  | nil => rfl
  | cons digit rest ih =>
      rw [Nat.ofDigitChars_cons] at fits ⊢
      have grows : 10 * leading + digitValue digit ≤ Nat.ofDigitChars 10 rest (10 * leading + digitValue digit) := by
        rw [Nat.ofDigitChars_eq_ofDigitChars_zero]
        exact Nat.le_trans (Nat.le_mul_of_pos_left _ (Nat.pow_pos (by decide))) (Nat.le_add_right _ _)
      have small : Number.fits leading digit = true := decide_eq_true (Nat.lt_of_le_of_lt grows fits)
      rw [takeWhole, if_pos small]
      exact ih _ fits

theorem ofChars_toDigits (n : Nat) : Literal.ofChars (Nat.toDigits 10 n) = ⟨false, Nat.toDigits 10 n, [], none⟩ := by
  have all : ∀ c ∈ Nat.toDigits 10 n, c.isDigit = true := fun c mem => isDigit_of_mem_toDigits mem
  have unsigned : ((Nat.toDigits 10 n).head? == some '-') = false := by
    cases found : Nat.toDigits 10 n with
    | nil => rfl
    | cons first more =>
        have digit : first.isDigit = true := all first (by rw [found]; exact .head _)
        refine beq_eq_false_iff_ne.mpr fun same => ?_
        cases same
        cases digit
  have none : EndsNumber [] := nofun
  have parts := takeDigits_append all none
  rw [List.append_nil] at parts
  obtain ⟨taken, dropped⟩ := Prod.mk.inj parts
  simp [Literal.ofChars, unsigned, taken, dropped]

/-- The decimal digits of a number that fits 64 bits are read as that number. -/
theorem ofLiteral?_toDigits {n : Nat} (fits : n < 2 ^ 64) :
    ofLiteral? (Nat.toDigits 10 n) = some (.natural n) := by
  have value : Nat.ofDigitChars 10 (Nat.toDigits 10 n) 0 = n := Nat.ofDigitChars_ten_toDigits
  have whole := takeWhole_eq (Nat.toDigits 10 n) 0 (by rw [value]; exact fits)
  rw [value] at whole
  simp [ofLiteral?, ofChars_toDigits, whole, ofWhole]

end Number

end RelayClient.Json
