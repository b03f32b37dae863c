import RelayClient.Proofs.Cipher.SealedBox

/-!
# Boxes open to what was closed

In both layouts opening undoes closing, and opens nothing else: a box opens to a
plaintext exactly where closing the plaintext writes that box. So under one key and
nonce no two boxes open to the same plaintext, and of all tags that a body may have
one opens it.
-/

namespace RelayClient.Cipher

theorem Sized.ext {count : Nat} {first second : Sized count} (same : first.bytes = second.bytes) : first = second := by
  cases first
  cases second
  cases same
  rfl

namespace SealedBox

/-- A box opens to a plaintext exactly where closing the plaintext writes it. -/
structure IsExact (openBox : Bytes → Bytes → Option Bytes) (closeBox : Nonce → Bytes → Bytes) : Prop where
  opens_iff (nonce : Nonce) (plaintext sealed : Bytes) :
    openBox nonce.bytes sealed = some plaintext ↔ sealed = closeBox nonce plaintext
  /-- A nonce of another length opens nothing, and what is shorter than a tag does not open. -/
  refuses (nonce sealed : Bytes) (unfit : nonce.length ≠ nonceLength ∨ sealed.length < Poly1305.tagLength) :
    openBox nonce sealed = none
  /-- What opens was closed over what it opens to. -/
  written (nonce sealed plaintext : Bytes) (opened : openBox nonce sealed = some plaintext) :
    ∃ drawn : Nonce, nonce = drawn.bytes ∧ sealed = closeBox drawn plaintext
  /-- Boxes that open to the same are the same. -/
  unique (nonce first second plaintext : Bytes) (opened : openBox nonce first = some plaintext)
    (openedToo : openBox nonce second = some plaintext) : first = second

section Laws

variable {openBox : Bytes → Bytes → Option Bytes} {closeBox : Nonce → Bytes → Bytes}

/-- So it is where closed boxes open, what opens was closed, and each box has room for a tag. -/
theorem isExact_of_inverse (opens : ∀ nonce plaintext, openBox nonce.bytes (closeBox nonce plaintext) = some plaintext)
    (written : ∀ nonce sealed plaintext, openBox nonce sealed = some plaintext →
      ∃ drawn : Nonce, nonce = drawn.bytes ∧ sealed = closeBox drawn plaintext)
    (long : ∀ nonce plaintext, Poly1305.tagLength ≤ (closeBox nonce plaintext).length) : IsExact openBox closeBox := by
  constructor
  case opens_iff =>
    intro nonce plaintext sealed
    constructor
    · intro opened
      obtain ⟨drawn, same, rfl⟩ := written nonce.bytes sealed plaintext opened
      rw [Sized.ext same]
    · rintro rfl
      exact opens nonce plaintext
  case refuses =>
    intro nonce sealed unfit
    cases opened : openBox nonce sealed with
    | none => rfl
    | some plaintext =>
        obtain ⟨drawn, rfl, rfl⟩ := written nonce sealed plaintext opened
        rcases unfit with misfit | short
        · exact absurd drawn.length_eq misfit
        · exact absurd (long drawn plaintext) (Nat.not_le.mpr short)
  case written => exact written
  case unique =>
    intro nonce first second plaintext opened openedToo
    obtain ⟨drawn, same, rfl⟩ := written nonce first plaintext opened
    obtain ⟨again, sameToo, rfl⟩ := written nonce second plaintext openedToo
    rw [Sized.ext (same.symm.trans sameToo)]

end Laws

theorem isExact (key : Key) : IsExact (open? key) (close key) := by
  refine isExact_of_inverse (open?_close key) (fun _ _ _ => exists_close_of_open?) fun nonce plaintext => ?_
  rw [length_close]
  exact Nat.le_add_left _ _

/-- A body opens under its own tag alone, and the tag stands behind it. -/
theorem isSome_open?_append_iff (key : Key) (nonce : Nonce) (body : Bytes) {mark : Bytes}
    (sized : mark.length = Poly1305.tagLength) :
    (open? key nonce.bytes (body ++ mark)).isSome ↔ mark = tag key.bytes nonce.bytes body := by
  rw [open?_append key nonce body sized]
  split
  · next tagged => exact iff_of_true rfl tagged
  · next other => exact iff_of_false Bool.false_ne_true other

namespace Deprecated

theorem isExact (key : Key) : IsExact (open? key) (close key) := by
  refine isExact_of_inverse (open?_close key) (fun _ _ _ => exists_close_of_open?) fun nonce plaintext => ?_
  rw [length_close]
  exact Nat.le_add_right _ _

/-- A body opens under its own tag alone, and the tag stands before it. -/
theorem isSome_open?_append_iff (key : Key) (nonce : Nonce) (body : Bytes) {mark : Bytes}
    (sized : mark.length = Poly1305.tagLength) :
    (open? key nonce.bytes (mark ++ body)).isSome ↔ mark = tag key.bytes nonce.bytes body := by
  rw [open?_append key nonce body sized]
  split
  · next tagged => exact iff_of_true rfl tagged
  · next other => exact iff_of_false Bool.false_ne_true other

end Deprecated

/-- How boxes are closed and opened under a key. -/
structure ClosesExactly (key : Key) : Prop where
  current : IsExact (open? key) (close key)
  deprecated : IsExact (Deprecated.open? key) (Deprecated.close key)
  tagLast : ∀ (nonce : Nonce) (body mark : Bytes), mark.length = Poly1305.tagLength →
    ((open? key nonce.bytes (body ++ mark)).isSome ↔ mark = tag key.bytes nonce.bytes body)
  tagFirst : ∀ (nonce : Nonce) (body mark : Bytes), mark.length = Poly1305.tagLength →
    ((Deprecated.open? key nonce.bytes (mark ++ body)).isSome ↔ mark = Deprecated.tag key.bytes nonce.bytes body)

/-- Under every key closing and opening undo each other, whatever the layout. -/
theorem closesExactly (key : Key) : ClosesExactly key where
  current := isExact key
  deprecated := Deprecated.isExact key
  tagLast nonce body _ sized := isSome_open?_append_iff key nonce body sized
  tagFirst nonce body _ sized := Deprecated.isSome_open?_append_iff key nonce body sized

end SealedBox

end RelayClient.Cipher
