import RelayClient.Proofs.Text.Spelling
import RelayClient.Text.Utf8

/-!
# Hexadecimal text read back

Text is read byte by byte. A digit is one byte of it, so the digits are read as they stand, and each byte string
is read back from its digits.
-/

namespace RelayClient.Text

theorem utf8_ofList (chars : List Char) : utf8 (String.ofList chars) = chars.flatMap String.utf8EncodeChar := by
  rw [utf8, String.toByteArray_ofList, List.utf8Encode, List.data_toByteArray]

theorem utf8EncodeChar_of_lt {c : Char} (single : c.toNat < 128) :
    String.utf8EncodeChar c = [UInt8.ofNat c.toNat] := by
  have small : c.val.toNat ≤ 0x7f := Nat.le_of_lt_succ single
  rw [String.utf8EncodeChar, if_pos small]
  rfl

theorem length_le_length_encoded (chars : List Char) : chars.length ≤ (chars.flatMap String.utf8EncodeChar).length := by
  induction chars with
  | nil => exact Nat.le_refl _
  | cons c rest ih =>
      have some := c.utf8Size_pos
      rw [List.flatMap_cons, List.length_append, String.length_utf8EncodeChar, List.length_cons]
      omega

/-- A text has a byte at least for each of its characters. -/
theorem length_le_utf8ByteSize (text : String) : text.toList.length ≤ text.utf8ByteSize := by
  have size : (utf8 text).length = text.utf8ByteSize := rfl
  have spelled := utf8_ofList text.toList
  rw [String.ofList_toList] at spelled
  rw [← size, spelled]
  exact length_le_length_encoded text.toList

namespace Hex

/-- Characters of one byte each are the units of their text. -/
theorem units_ofList {chars : List Char} (single : ∀ c ∈ chars, c.toNat < 128) :
    (String.ofList chars).toUTF8.data.toList.map (fun byte => Char.ofNat byte.toNat) = chars := by
  have spelled : (String.ofList chars).toUTF8.data.toList = chars.flatMap String.utf8EncodeChar := utf8_ofList chars
  rw [spelled]
  induction chars with
  | nil => rfl
  | cons c rest ih =>
      have first : c.toNat < 128 := single c (.head _)
      have small : c.toNat % 2 ^ 8 = c.toNat := Nat.mod_eq_of_lt (by omega)
      have later := ih (fun d mem => single d (.tail _ mem)) (utf8_ofList rest)
      rw [List.flatMap_cons, utf8EncodeChar_of_lt first, List.map_append, later, List.map_singleton,
        UInt8.toNat_ofNat', small, Char.ofNat_toNat]
      rfl

/-- A text of digits is read as its digits are. -/
theorem decode_ofList {chars : List Char} {bytes : Bytes} (read : ofDigits 0 chars = .ok bytes) :
    decode (String.ofList chars) = .ok bytes := by
  have spells := spells_of_ofDigits read
  have single : ∀ c ∈ chars, c.toNat < 128 := fun c mem =>
    Nat.lt_of_lt_of_le (lt_of_isSome (spells.isSome_of_mem c mem)).2 (by decide)
  have even : chars.length % 2 = 0 := by
    rw [spells.length, Nat.mul_mod_right]
  unfold decode
  rw [units_ofList single]
  dsimp only
  rw [if_pos even, read]

/-- A byte string is read back from its digits. -/
theorem decode_encode (bytes : Bytes) : decode (encode bytes) = .ok bytes :=
  decode_ofList (ofDigits_digits 0 bytes)

/-- A character none of whose bytes is high is one byte. -/
theorem length_utf8EncodeChar_of_low {c : Char} (low : ∀ byte ∈ String.utf8EncodeChar c, byte.toNat < 128) :
    (String.utf8EncodeChar c).length = 1 := by
  unfold String.utf8EncodeChar at low ⊢
  dsimp only at low ⊢
  split
  · rfl
  · next wide =>
      rw [if_neg wide] at low
      -- The first byte of several is high, however many there are.
      split at low
      · have first := low _ (.head _)
        rw [UInt8.toNat_ofNat'] at first
        omega
      split at low
      · have first := low _ (.head _)
        rw [UInt8.toNat_ofNat'] at first
        omega
      · have first := low _ (.head _)
        rw [UInt8.toNat_ofNat'] at first
        omega

theorem lt_of_low {c : Char} (low : ∀ byte ∈ String.utf8EncodeChar c, byte.toNat < 128) : c.toNat < 128 := by
  have one := length_utf8EncodeChar_of_low low
  rw [String.length_utf8EncodeChar] at one
  exact Nat.lt_succ_of_le (Char.utf8Size_eq_one_iff.mp one)

/-- A text that spells a byte string consists of digits alone, so that its characters are read as they stand. -/
theorem ofDigits_of_decode {text : String} {bytes : Bytes} (read : decode text = .ok bytes) :
    ofDigits 0 text.toList = .ok bytes := by
  unfold decode at read
  dsimp only at read
  split at read
  · have digits := (spells_of_ofDigits read).isSome_of_mem
    have spelled : text.toUTF8.data.toList = text.toList.flatMap String.utf8EncodeChar := by
      rw [← utf8_ofList, String.ofList_toList]
      rfl
    have low : ∀ byte ∈ text.toList.flatMap String.utf8EncodeChar, byte.toNat < 128 := by
      intro byte mem
      rw [← spelled] at mem
      have small := (lt_of_isSome (digits _ (List.mem_map_of_mem mem))).2
      have valid : byte.toNat.isValidChar := .inl (Nat.lt_trans byte.toNat_lt (by decide))
      have same : (Char.ofNat byte.toNat).toNat = byte.toNat := by
        rw [Char.ofNat, dif_pos valid]
        rfl
      omega
    have single : ∀ c ∈ text.toList, c.toNat < 128 := fun c mem =>
      lt_of_low fun byte inside => low byte (List.mem_flatMap.mpr ⟨c, mem, inside⟩)
    have units := units_ofList single
    rw [String.ofList_toList] at units
    rwa [units] at read
  · cases read

/-- A text that spells a byte string has two characters for each byte. -/
theorem length_of_decode {text : String} {bytes : Bytes} (read : decode text = .ok bytes) :
    text.toList.length = 2 * bytes.length :=
  (spells_of_ofDigits (ofDigits_of_decode read)).length

/-- Read is just what spells a byte string. -/
theorem decode_eq_ok_iff_spells {text : String} {bytes : Bytes} : decode text = .ok bytes ↔ Spells text.toList bytes := by
  constructor
  · intro read
    exact spells_of_ofDigits (ofDigits_of_decode read)
  · intro spells
    rw [← decode_ofList (spells.ofDigits 0), String.ofList_toList]

end Hex

end RelayClient.Text
