import RelayClient.Pack.Head

/-!
# Heads read back

Every head that is written is read back, whatever follows it, as long as the
length it tells fits 32 bits. Each form has a marker of its own, and the number
after the marker is wide enough for what it tells.
-/

namespace RelayClient.Pack.Head

def length? : Head → Option Nat
  | .text n | .binary n | .list n | .map n | .ext n => some n
  | _ => none

/-- The length of what follows fits the widest form. -/
def Fits (head : Head) : Prop :=
  ∀ n, head.length? = some n → n < 2 ^ 32

variable (rest : Bytes)

theorem number_bigEndian (count value : Nat) :
    number count (Bytes.bigEndian count value ++ rest) = .ok (value % 256 ^ count, rest) := by
  have parts := Bytes.split?_append (Bytes.bigEndian count value) rest
  rw [Bytes.length_bigEndian] at parts
  rw [number, parts]
  exact congrArg (fun n => Except.ok (n, rest)) (Bytes.ofBigEndian_bigEndian count value)

/-- A marker that announces a number reads the number written after it. -/
theorem read_sized {marker : UInt8} {count value : Nat} {head : Nat → Head}
    (announces : ∀ bytes, readAfter marker bytes = withNumber count head bytes) (small : value < 256 ^ count) :
    read (sized marker count value ++ rest) = .ok (head value, rest) := by
  have numbered := number_bigEndian rest count value
  rw [Nat.mod_eq_of_lt small] at numbered
  rw [sized, List.cons_append, read, announces, withNumber, numbered]

theorem toNat_marker {n : Nat} (small : n < 256) : (UInt8.ofNat n).toNat = n :=
  Nat.mod_eq_of_lt small

theorem clamp_value (number : Integer) : Integer.clamp number.value = number := by
  obtain ⟨value, lower, upper⟩ := number
  rw [Integer.clamp, dif_neg (Int.not_lt.mpr lower), dif_neg (Int.not_le.mpr upper)]

theorem unsigned_toNat {number : Integer} (natural : 0 ≤ number.value) :
    unsigned number.value.toNat = .int number := by
  rw [unsigned, Int.toNat_of_nonneg natural, clamp_value]

/-- Two's complement over a width gives a negative number back. -/
theorem signed_toNat {number : Integer} {width : Nat} {half : Int} (halved : (2 : Int) ^ width = 2 * half)
    (exact : (2 : Nat) ^ (width - 1) = half.toNat) (negative : number.value < 0) (fits : -half ≤ number.value) :
    signed width (2 ^ width + number.value).toNat = .int number := by
  have large : ¬ (2 ^ width + number.value).toNat < 2 ^ (width - 1) := by
    rw [exact, halved]
    omega
  have back : ((2 ^ width + number.value).toNat : Int) - 2 ^ width = number.value := by
    rw [halved]
    omega
  rw [signed, if_neg large, back, clamp_value]

theorem read_unsigned {marker : UInt8} {count : Nat} {number : Integer}
    (announces : ∀ bytes, readAfter marker bytes = withNumber count unsigned bytes) (natural : 0 ≤ number.value)
    (small : number.value.toNat < 256 ^ count) :
    read (sized marker count number.value.toNat ++ rest) = .ok (.int number, rest) := by
  rw [read_sized rest announces small, unsigned_toNat natural]

theorem read_signed {marker : UInt8} {count width : Nat} {half : Int} {number : Integer}
    (announces : ∀ bytes, readAfter marker bytes = withNumber count (signed width) bytes)
    (halved : (2 : Int) ^ width = 2 * half) (exact : (2 : Nat) ^ (width - 1) = half.toNat)
    (negative : number.value < 0) (fits : -half ≤ number.value)
    (small : (2 ^ width + number.value).toNat < 256 ^ count) :
    read (sized marker count (2 ^ width + number.value).toNat ++ rest) = .ok (.int number, rest) := by
  rw [read_sized rest announces small, signed_toNat halved exact negative fits]

/-- A marker that stands for a small unsigned integer. -/
theorem readAfter_fixedNat {n : Nat} (small : n < 0x80) :
    readAfter (UInt8.ofNat n) rest = .ok (unsigned n, rest) := by
  simp [readAfter, toNat_marker (by omega : n < 256), small]

theorem readAfter_fixedMap {n : Nat} (small : n < 16) :
    readAfter (UInt8.ofNat (0x80 + n)) rest = .ok (.map n, rest) := by
  have low : ¬ 0x80 + n < 0x80 := by omega
  have high : 0x80 + n < 0x90 := by omega
  simp only [readAfter, toNat_marker (by omega : 0x80 + n < 256), if_neg low, if_pos high]
  rw [Nat.add_sub_cancel_left]

theorem readAfter_fixedList {n : Nat} (small : n < 16) :
    readAfter (UInt8.ofNat (0x90 + n)) rest = .ok (.list n, rest) := by
  have low : ¬ 0x90 + n < 0x80 := by omega
  have next : ¬ 0x90 + n < 0x90 := by omega
  have high : 0x90 + n < 0xa0 := by omega
  simp only [readAfter, toNat_marker (by omega : 0x90 + n < 256), if_neg low, if_neg next, if_pos high]
  rw [Nat.add_sub_cancel_left]

theorem readAfter_fixedText {n : Nat} (small : n < 32) :
    readAfter (UInt8.ofNat (0xa0 + n)) rest = .ok (.text n, rest) := by
  have low : ¬ 0xa0 + n < 0x80 := by omega
  have next : ¬ 0xa0 + n < 0x90 := by omega
  have third : ¬ 0xa0 + n < 0xa0 := by omega
  have high : 0xa0 + n < 0xc0 := by omega
  simp only [readAfter, toNat_marker (by omega : 0xa0 + n < 256), if_neg low, if_neg next, if_neg third,
    if_pos high]
  rw [Nat.add_sub_cancel_left]

/-- A marker that stands for a small negative integer. -/
theorem readAfter_fixedNegative {n : Nat} (large : 0xe0 ≤ n) (small : n < 256) :
    readAfter (UInt8.ofNat n) rest = .ok (signed 8 n, rest) := by
  have first : ¬ n < 0x80 := by omega
  have second : ¬ n < 0x90 := by omega
  have third : ¬ n < 0xa0 := by omega
  have fourth : ¬ n < 0xc0 := by omega
  simp only [readAfter, toNat_marker small, if_neg first, if_neg second, if_neg third, if_neg fourth, if_pos large]

theorem read_writeInteger (number : Integer) :
    read (writeInteger number.value ++ rest) = .ok (.int number, rest) := by
  have lower := number.lower
  have upper := number.upper
  unfold writeInteger
  split
  · next natural =>
      dsimp only
      split
      · next small => exact (readAfter_fixedNat rest small).trans (by rw [unsigned_toNat natural])
      split
      · next small => exact read_unsigned rest (fun _ => rfl) natural small
      split
      · next small => exact read_unsigned rest (fun _ => rfl) natural small
      split
      · next small => exact read_unsigned rest (fun _ => rfl) natural small
      exact read_unsigned rest (fun _ => rfl) natural (by omega)
  · next negative =>
      have below : number.value < 0 := Int.not_le.mp negative
      split
      · next fits =>
          have back : signed 8 (2 ^ 8 + number.value).toNat = .int number :=
            signed_toNat rfl rfl below (by omega : -(2 ^ 7) ≤ number.value)
          refine (readAfter_fixedNegative rest ?_ ?_).trans (by rw [← back]; rfl) <;> omega
      split
      · next fits => exact read_signed rest (fun _ => rfl) rfl rfl below fits (by omega)
      split
      · next fits => exact read_signed rest (fun _ => rfl) rfl rfl below fits (by omega)
      split
      · next fits => exact read_signed rest (fun _ => rfl) rfl rfl below fits (by omega)
      exact read_signed rest (fun _ => rfl) rfl rfl below lower (by omega)

theorem read_writeText {n : Nat} (fits : n < 2 ^ 32) : read (write (.text n) ++ rest) = .ok (.text n, rest) := by
  simp only [write]
  split
  · next small => exact readAfter_fixedText rest small
  split
  · next small => exact read_sized rest (fun _ => rfl) small
  split
  · next small => exact read_sized rest (fun _ => rfl) small
  exact read_sized rest (fun _ => rfl) fits

theorem read_writeBinary {n : Nat} (fits : n < 2 ^ 32) :
    read (write (.binary n) ++ rest) = .ok (.binary n, rest) := by
  simp only [write]
  split
  · next small => exact read_sized rest (fun _ => rfl) small
  split
  · next small => exact read_sized rest (fun _ => rfl) small
  exact read_sized rest (fun _ => rfl) fits

theorem read_writeList {n : Nat} (fits : n < 2 ^ 32) : read (write (.list n) ++ rest) = .ok (.list n, rest) := by
  simp only [write]
  split
  · next small => exact readAfter_fixedList rest small
  split
  · next small => exact read_sized rest (fun _ => rfl) small
  exact read_sized rest (fun _ => rfl) fits

theorem read_writeMap {n : Nat} (fits : n < 2 ^ 32) : read (write (.map n) ++ rest) = .ok (.map n, rest) := by
  simp only [write]
  split
  · next small => exact readAfter_fixedMap rest small
  split
  · next small => exact read_sized rest (fun _ => rfl) small
  exact read_sized rest (fun _ => rfl) fits

/-- Five lengths of an extension have a marker of their own. -/
theorem read_writeExt {n : Nat} (fits : n < 2 ^ 32) : read (write (.ext n) ++ rest) = .ok (.ext n, rest) := by
  simp only [write]
  split
  · next one => cases one; rfl
  split
  · next two => cases two; rfl
  split
  · next four => cases four; rfl
  split
  · next eight => cases eight; rfl
  split
  · next sixteen => cases sixteen; rfl
  split
  · next small => exact read_sized rest (fun _ => rfl) small
  split
  · next small => exact read_sized rest (fun _ => rfl) small
  exact read_sized rest (fun _ => rfl) fits

/-- A head that was written is read back, and what follows it is left over. -/
theorem read_write (head : Head) (fits : head.Fits) : read (head.write ++ rest) = .ok (head, rest) := by
  cases head with
  | nil => rfl
  | bool flag => cases flag <;> rfl
  | int number => exact read_writeInteger rest number
  | single bits =>
      have announces (bytes : Bytes) :
          readAfter 0xca bytes = withNumber 4 (fun n => .single (UInt32.ofNat n)) bytes := rfl
      have read := read_sized rest announces bits.toNat_lt
      rwa [UInt32.ofNat_toNat] at read
  | double bits =>
      have announces (bytes : Bytes) :
          readAfter 0xcb bytes = withNumber 8 (fun n => .double (UInt64.ofNat n)) bytes := rfl
      have read := read_sized rest announces bits.toNat_lt
      rwa [UInt64.ofNat_toNat] at read
  | text n => exact read_writeText rest (fits n rfl)
  | binary n => exact read_writeBinary rest (fits n rfl)
  | list n => exact read_writeList rest (fits n rfl)
  | map n => exact read_writeMap rest (fits n rfl)
  | ext n => exact read_writeExt rest (fits n rfl)

end RelayClient.Pack.Head
