import RelayClient.Cipher.SealedBox

/-!
# Sealed boxes open

A box that was closed under a key and a nonce opens under them to its plaintext:
the key stream is as long as the plaintext, so adding it twice leaves nothing of
it, and the tag stands where opening looks for it.
-/

namespace RelayClient.Cipher

/-- A key stream is as long as its blocks together. -/
theorem length_flatMap_blocks {block : Nat → Bytes} (sizes : ∀ counter, (block counter).length = 64) (blocks : Nat) :
    ((List.range blocks).flatMap block).length = 64 * blocks := by
  rw [List.length_flatMap, List.map_congr_left fun counter _ => sizes counter, List.map_const', List.length_range,
    List.sum_replicate_nat, Nat.mul_comm]

theorem ChaCha20.length_longStream (key nonce : Bytes) (counter blocks : Nat) :
    (longStream key nonce counter blocks).length = 64 * blocks :=
  length_flatMap_blocks (fun _ => length_streamBlock _ _ _) blocks

theorem Salsa20.length_longStream (key nonce : Bytes) (blocks : Nat) :
    (longStream key nonce blocks).length = 64 * blocks :=
  length_flatMap_blocks (fun _ => length_streamBlock _ _ _) blocks

namespace SealedBox

theorem length_le_stream (key nonce : Bytes) (length : Nat) : length ≤ (stream key nonce length).length := by
  rw [stream, ChaCha20.length_longStream]
  omega

theorem length_mask {stream bytes : Bytes} (covers : bytes.length ≤ stream.length) :
    (mask stream bytes).length = bytes.length := by
  rw [mask, Bytes.xor, List.length_zipWith, Nat.min_eq_left covers]

/-- A key stream that is added twice is gone. -/
theorem mask_mask {stream bytes : Bytes} (covers : bytes.length ≤ stream.length) :
    mask stream (mask stream bytes) = bytes := by
  induction bytes generalizing stream with
  | nil => simp [mask, Bytes.xor]
  | cons byte rest ih =>
      cases stream with
      | nil => simp at covers
      | cons key keys =>
          have back : byte ^^^ key ^^^ key = byte := by
            rw [UInt8.xor_assoc, UInt8.xor_self, UInt8.xor_zero]
          have later : mask keys (mask keys rest) = rest := ih (Nat.le_of_succ_le_succ covers)
          simp only [mask, Bytes.xor, List.zipWith_cons_cons, back] at later ⊢
          rw [later]

theorem length_tag (key nonce ciphertext : Bytes) : (tag key nonce ciphertext).length = Poly1305.tagLength :=
  Poly1305.length_tag _ _

/-- Opening takes the last bytes for the tag. -/
theorem open?_append (key : Key) (nonce : Nonce) (body : Bytes) {mark : Bytes}
    (sized : mark.length = Poly1305.tagLength) : open? key nonce.bytes (body ++ mark) =
      if mark = tag key.bytes nonce.bytes body then some (mask (stream key.bytes nonce.bytes body.length) body)
      else none := by
  have long : ¬ (nonce.bytes.length ≠ nonceLength ∨ (body ++ mark).length < Poly1305.tagLength) := by
    rw [List.length_append, sized, nonce.length_eq]
    omega
  have front : (body ++ mark).length - Poly1305.tagLength = body.length := by
    rw [List.length_append, sized, Nat.add_sub_cancel]
  rw [open?, if_neg long]
  dsimp only
  rw [front, List.drop_left, List.take_left]

theorem open?_close (key : Key) (nonce : Nonce) (plaintext : Bytes) :
    open? key nonce.bytes (close key nonce plaintext) = some plaintext := by
  have covers := length_le_stream key.bytes nonce.bytes plaintext.length
  rw [close, open?_append key nonce _ (length_tag _ _ _), if_pos rfl, length_mask covers, mask_mask covers]

/-- A sealed box is longer than its plaintext by the tag. -/
theorem length_close (key : Key) (nonce : Nonce) (plaintext : Bytes) :
    (close key nonce plaintext).length = plaintext.length + 16 := by
  rw [close, List.length_append, length_mask (length_le_stream key.bytes nonce.bytes plaintext.length)]
  exact congrArg (plaintext.length + ·) (length_tag _ _ _)

/-- A box that opens was closed over what it opens to, under a nonce of the right length. -/
theorem exists_close_of_open? {key : Key} {nonce sealed plaintext : Bytes}
    (opened : open? key nonce sealed = some plaintext) :
    ∃ drawn : Nonce, nonce = drawn.bytes ∧ sealed = close key drawn plaintext := by
  unfold open? at opened
  split at opened
  · cases opened
  · next long =>
      obtain ⟨sized, -⟩ := not_or.mp long
      have fits : nonce.length = nonceLength := Decidable.not_not.mp sized
      have within : sealed.length - Poly1305.tagLength ≤ sealed.length := Nat.sub_le _ _
      generalize sealed.length - Poly1305.tagLength = length at opened within
      dsimp only at opened
      split at opened
      · next tagged =>
          cases opened
          have body : (sealed.take length).length = length := List.length_take_of_le within
          have covers : (sealed.take length).length ≤ (stream key.bytes nonce length).length := by
            rw [body]
            exact length_le_stream key.bytes nonce length
          refine ⟨⟨nonce, fits⟩, rfl, ?_⟩
          rw [close, length_mask covers, body, mask_mask covers, ← tagged, List.take_append_drop]
      · cases opened

namespace Deprecated

theorem length_le_stream (key nonce : Bytes) (length : Nat) : length ≤ (stream key nonce length).length := by
  rw [stream, List.length_drop, Salsa20.length_longStream]
  omega

theorem length_tag (key nonce ciphertext : Bytes) : (tag key nonce ciphertext).length = Poly1305.tagLength :=
  Poly1305.length_tag _ _

/-- Opening takes the first bytes for the tag. -/
theorem open?_append (key : Key) (nonce : Nonce) (body : Bytes) {mark : Bytes}
    (sized : mark.length = Poly1305.tagLength) : open? key nonce.bytes (mark ++ body) =
      if mark = tag key.bytes nonce.bytes body then some (mask (stream key.bytes nonce.bytes body.length) body)
      else none := by
  have long : ¬ (nonce.bytes.length ≠ nonceLength ∨ (mark ++ body).length < Poly1305.tagLength) := by
    rw [List.length_append, sized, nonce.length_eq]
    omega
  rw [open?, if_neg long]
  dsimp only
  rw [List.drop_left' sized, List.take_left' sized]

theorem open?_close (key : Key) (nonce : Nonce) (plaintext : Bytes) :
    open? key nonce.bytes (close key nonce plaintext) = some plaintext := by
  have covers := length_le_stream key.bytes nonce.bytes plaintext.length
  rw [close, open?_append key nonce _ (length_tag _ _ _), if_pos rfl, length_mask covers, mask_mask covers]

theorem exists_close_of_open? {key : Key} {nonce sealed plaintext : Bytes}
    (opened : open? key nonce sealed = some plaintext) :
    ∃ drawn : Nonce, nonce = drawn.bytes ∧ sealed = close key drawn plaintext := by
  unfold open? at opened
  split at opened
  · cases opened
  · next long =>
      obtain ⟨sized, -⟩ := not_or.mp long
      have fits : nonce.length = nonceLength := Decidable.not_not.mp sized
      dsimp only at opened
      split at opened
      · next tagged =>
          cases opened
          have covers := length_le_stream key.bytes nonce (sealed.drop Poly1305.tagLength).length
          refine ⟨⟨nonce, fits⟩, rfl, ?_⟩
          rw [close, length_mask covers, mask_mask covers, ← tagged, List.take_append_drop]
      · cases opened

theorem length_close (key : Key) (nonce : Nonce) (plaintext : Bytes) :
    (close key nonce plaintext).length = 16 + plaintext.length := by
  rw [close, List.length_append, length_mask (length_le_stream key.bytes nonce.bytes plaintext.length)]
  exact congrArg (· + plaintext.length) (length_tag _ _ _)

/-- A sealed box is never empty, for it has a tag. -/
theorem close_ne_nil (key : Key) (nonce : Nonce) (plaintext : Bytes) : close key nonce plaintext ≠ [] := by
  intro empty
  have long := length_close key nonce plaintext
  rw [empty, List.length_nil] at long
  omega

end Deprecated

end SealedBox

end RelayClient.Cipher
