import RelayClient.Pack.Value

/-!
# Values that frames compare equal

The comparison of frames is symmetric and transitive. It is not reflexive, since a number
that is not a number differs from itself, so a value is the same as itself only where it
is the same as any value at all.
-/

namespace RelayClient.Pack

section Numbers

variable {α : Type} [BEq α] [LawfulBEq α] {isNaN isZero : α → Bool} {first second third : α}

/-- Numbers agree when the first is a number and both are identical or both are a zero. -/
def agree (isNaN isZero : α → Bool) (first second : α) : Bool :=
  !isNaN first && (first == second || isZero first && isZero second)

theorem agree_symm (number : ∀ bits, isZero bits = true → isNaN bits = false)
    (same : agree isNaN isZero first second = true) : agree isNaN isZero second first = true := by
  simp only [agree, Bool.and_eq_true, Bool.or_eq_true, Bool.not_eq_true', beq_iff_eq] at same ⊢
  obtain ⟨real, rfl | ⟨zero, zeroToo⟩⟩ := same
  · exact ⟨real, .inl rfl⟩
  · exact ⟨number _ zeroToo, .inr ⟨zeroToo, zero⟩⟩

theorem agree_trans (same : agree isNaN isZero first second = true) (sameToo : agree isNaN isZero second third = true) :
    agree isNaN isZero first third = true := by
  simp only [agree, Bool.and_eq_true, Bool.or_eq_true, Bool.not_eq_true', beq_iff_eq] at same sameToo ⊢
  obtain ⟨real, rfl | ⟨zero, zeroToo⟩⟩ := same
  · exact sameToo
  · refine ⟨real, .inr ⟨zero, ?_⟩⟩
    obtain ⟨-, rfl | ⟨-, zeroThird⟩⟩ := sameToo
    · exact zeroToo
    · exact zeroThird

end Numbers

theorem singleSame_eq (first second : UInt32) :
    singleSame first second = agree singleIsNaN (fun bits => (bits &&& 0x7fffffff) == 0) first second := rfl

theorem doubleSame_eq (first second : UInt64) :
    doubleSame first second = agree doubleIsNaN (fun bits => (bits &&& 0x7fffffffffffffff) == 0) first second := rfl

/-- A zero of either sign is a number. -/
theorem singleIsNaN_of_zero (bits : UInt32) (zero : ((bits &&& 0x7fffffff) == 0) = true) : singleIsNaN bits = false := by
  rw [singleIsNaN, beq_iff_eq.mp zero]
  rfl

theorem doubleIsNaN_of_zero (bits : UInt64) (zero : ((bits &&& 0x7fffffffffffffff) == 0) = true) :
    doubleIsNaN bits = false := by
  rw [doubleIsNaN, beq_iff_eq.mp zero]
  rfl

namespace Value

mutual

theorem same_symm {first second : Value} (same : first.same second = true) : second.same first = true := by
  cases first <;> cases second <;> try cases same
  case nil.nil => rfl
  case bool.bool | int.int | text.text | brokenText.brokenText | binary.binary =>
    rw [Value.same, beq_iff_eq] at same ⊢
    exact same.symm
  case single.single => exact agree_symm singleIsNaN_of_zero same
  case double.double => exact agree_symm doubleIsNaN_of_zero same
  case list.list => exact sameItems_symm same
  case map.map => exact sameEntries_symm same
  case ext.ext =>
    rw [Value.same, Bool.and_eq_true, beq_iff_eq, beq_iff_eq] at same ⊢
    exact ⟨same.1.symm, same.2.symm⟩

theorem sameItems_symm {first second : List Value} (same : sameItems first second = true) :
    sameItems second first = true := by
  cases first with
  | nil =>
      cases second with
      | nil => rfl
      | cons other others => cases same
  | cons item rest =>
      cases second with
      | nil => cases same
      | cons other others =>
          rw [sameItems, Bool.and_eq_true] at same ⊢
          exact ⟨same_symm same.1, sameItems_symm same.2⟩

theorem sameEntries_symm {first second : List (Value × Value)} (same : sameEntries first second = true) :
    sameEntries second first = true := by
  cases first with
  | nil =>
      cases second with
      | nil => rfl
      | cons other others => cases same
  | cons entry rest =>
      cases second with
      | nil => cases same
      | cons other others =>
          rw [sameEntries, Bool.and_eq_true, Bool.and_eq_true] at same ⊢
          exact ⟨⟨same_symm same.1.1, same_symm same.1.2⟩, sameEntries_symm same.2⟩

end

mutual

theorem same_trans {first second third : Value} (same : first.same second = true)
    (sameToo : second.same third = true) : first.same third = true := by
  cases first <;> cases second <;> try cases same
  case nil.nil => exact sameToo
  case bool.bool | int.int | text.text | brokenText.brokenText | binary.binary =>
    rw [Value.same, beq_iff_eq] at same
    rw [same]
    exact sameToo
  case ext.ext =>
    rw [Value.same, Bool.and_eq_true, beq_iff_eq, beq_iff_eq] at same
    rw [same.1, same.2]
    exact sameToo
  all_goals cases third <;> try cases sameToo
  case single.single.single =>
    rw [Value.same, singleSame_eq] at same sameToo ⊢
    exact agree_trans same sameToo
  case double.double.double =>
    rw [Value.same, doubleSame_eq] at same sameToo ⊢
    exact agree_trans same sameToo
  case list.list.list => exact sameItems_trans same sameToo
  case map.map.map => exact sameEntries_trans same sameToo
termination_by structural first

theorem sameItems_trans {first second third : List Value} (same : sameItems first second = true)
    (sameToo : sameItems second third = true) : sameItems first third = true := by
  cases first with
  | nil =>
      cases second with
      | nil => exact sameToo
      | cons other others => cases same
  | cons item rest =>
      cases second with
      | nil => cases same
      | cons other others =>
          cases third with
          | nil => cases sameToo
          | cons last final =>
              rw [sameItems, Bool.and_eq_true] at same sameToo ⊢
              exact ⟨same_trans same.1 sameToo.1, sameItems_trans same.2 sameToo.2⟩
termination_by structural first

theorem sameEntries_trans {first second third : List (Value × Value)} (same : sameEntries first second = true)
    (sameToo : sameEntries second third = true) : sameEntries first third = true := by
  cases first with
  | nil =>
      cases second with
      | nil => exact sameToo
      | cons other others => cases same
  | cons entry rest =>
      obtain ⟨key, value⟩ := entry
      cases second with
      | nil => cases same
      | cons other others =>
          cases third with
          | nil => cases sameToo
          | cons last final =>
              rw [sameEntries, Bool.and_eq_true, Bool.and_eq_true] at same sameToo ⊢
              exact ⟨⟨same_trans same.1.1 sameToo.1.1, same_trans same.1.2 sameToo.1.2⟩,
                sameEntries_trans same.2 sameToo.2⟩
termination_by structural first

end

end Value

end RelayClient.Pack
