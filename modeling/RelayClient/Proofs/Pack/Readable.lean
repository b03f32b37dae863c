import RelayClient.Proofs.Pack.Values

/-!
# What a reader can have read

Whatever a reader takes from arbitrary bytes stays within the budget of levels it
was given, and every length in it fits the 32 bits of the head that told it. So
all that was read can be written, and read again within the same budget.
-/

namespace RelayClient

namespace Bytes

theorem foldl_ofBigEndian_lt (bytes : Bytes) {start count : Nat} (small : start < 256 ^ count) :
    bytes.foldl (fun value byte => value * 256 + byte.toNat) start < 256 ^ (count + bytes.length) := by
  induction bytes generalizing start count with
  | nil => exact small
  | cons byte rest ih =>
      have shifted : start * 256 + byte.toNat < 256 ^ (count + 1) := by
        have last := byte.toNat_lt
        rw [Nat.pow_succ]
        omega
      have grown := ih shifted
      rwa [Nat.add_assoc, Nat.add_comm 1 rest.length] at grown

theorem ofBigEndian_lt (bytes : Bytes) : ofBigEndian bytes < 256 ^ bytes.length := by
  have bound := foldl_ofBigEndian_lt bytes (by decide : 0 < 256 ^ 0)
  rwa [Nat.zero_add] at bound

theorem length_of_split? {count : Nat} {bytes front rest : Bytes} (split : split? count bytes = some (front, rest)) :
    front.length = count := by
  unfold split? at split
  split at split
  · next enough =>
      cases split
      exact List.length_take_of_le enough
  · cases split

end Bytes

namespace Pack

/-! ## Heads -/

namespace Head

theorem fits_of_scalar {head : Head} (scalar : head.length? = none) : head.Fits := by
  intro n tells
  rw [scalar] at tells
  cases tells

/-- A number that was read is small enough for the bytes it stood in. -/
theorem lt_of_number {count value : Nat} {bytes rest : Bytes} (read : number count bytes = .ok (value, rest)) :
    value < 256 ^ count := by
  unfold number at read
  split at read
  · next digits remaining split =>
      cases read
      rw [← Bytes.length_of_split? split]
      exact Bytes.ofBigEndian_lt digits
  · cases read

theorem fits_of_withNumber {count : Nat} {head : Nat → Head} {found : Head} {bytes rest : Bytes}
    (each : ∀ n, n < 256 ^ count → (head n).Fits) (read : withNumber count head bytes = .ok (found, rest)) :
    found.Fits := by
  unfold withNumber at read
  split at read
  · next value remaining numbered =>
      cases read
      exact each value (lt_of_number numbered)
  · cases read

/-- A marker tells a length that fits, or announces a number of at most 32 bits that tells it. -/
theorem fits_of_readAfter {marker : UInt8} {bytes rest : Bytes} {head : Head}
    (read : readAfter marker bytes = .ok (head, rest)) : head.Fits := by
  have one : 256 ^ 1 ≤ 2 ^ 32 := by decide
  have two : 256 ^ 2 ≤ 2 ^ 32 := by decide
  have four : 256 ^ 4 ≤ 2 ^ 32 := by decide
  have small := marker.toNat_lt
  unfold readAfter at read
  dsimp only at read
  split at read
  · cases read
    exact fits_of_scalar rfl
  split at read
  · cases read
    exact fits_of_length rfl (by omega)
  split at read
  · cases read
    exact fits_of_length rfl (by omega)
  split at read
  · cases read
    exact fits_of_length rfl (by omega)
  split at read
  · cases read
    exact fits_of_scalar rfl
  -- what is left are the markers of one value each, most of them with a number behind
  split at read
  all_goals first
    | exact fits_of_withNumber (fun n small => fits_of_scalar rfl) read
    | exact fits_of_withNumber (fun n small => fits_of_length rfl (Nat.lt_of_lt_of_le small (by assumption))) read
    | cases read; exact fits_of_scalar rfl
    | cases read; exact fits_of_length rfl (by decide)

theorem fits_of_read {bytes rest : Bytes} {head : Head} (read : Head.read bytes = .ok (head, rest)) : head.Fits := by
  cases bytes with
  | nil => cases read
  | cons marker bytes => exact fits_of_readAfter read

end Head

/-! ## Values -/

namespace Value

/-- What a reader with a budget of levels can have read. -/
structure Readable (budget : Nat) (value : Value) : Prop where
  fits : value.Fits
  levels : value.levels ≤ budget

theorem fitItems_iff (items : List Value) : FitItems items ↔ ∀ item ∈ items, item.Fits := by
  induction items with
  | nil => simp [FitItems]
  | cons item rest ih => simp [FitItems, ih]

theorem fitEntries_iff (entries : List (Value × Value)) :
    FitEntries entries ↔ ∀ entry ∈ entries, entry.1.Fits ∧ entry.2.Fits := by
  induction entries with
  | nil => simp [FitEntries]
  | cons entry rest ih => simp only [FitEntries, ih, List.forall_mem_cons]

theorem itemLevels_le_iff (items : List Value) (budget : Nat) :
    itemLevels items ≤ budget ↔ ∀ item ∈ items, item.levels ≤ budget := by
  induction items with
  | nil => simp [itemLevels]
  | cons item rest ih => simp only [itemLevels, Nat.max_le, ih, List.forall_mem_cons]

theorem entryLevels_le_iff (entries : List (Value × Value)) (budget : Nat) :
    entryLevels entries ≤ budget ↔ ∀ entry ∈ entries, entry.1.levels ≤ budget ∧ entry.2.levels ≤ budget := by
  induction entries with
  | nil => simp [entryLevels]
  | cons entry rest ih => simp only [entryLevels, Nat.max_le, ih, List.forall_mem_cons]

theorem readable_list_iff (items : List Value) (budget : Nat) :
    (Value.list items).Readable (budget + 2) ↔
      items.length < 2 ^ 32 ∧ ∀ item ∈ items, item.Readable budget := by
  constructor
  · rintro ⟨⟨short, fits⟩, levels⟩
    rw [Value.levels, Nat.add_le_add_iff_right, itemLevels_le_iff] at levels
    exact ⟨short, fun item mem => ⟨(fitItems_iff items).mp fits item mem, levels item mem⟩⟩
  · rintro ⟨short, each⟩
    refine ⟨⟨short, (fitItems_iff items).mpr fun item mem => (each item mem).fits⟩, ?_⟩
    rw [Value.levels, Nat.add_le_add_iff_right, itemLevels_le_iff]
    exact fun item mem => (each item mem).levels

theorem readable_map_iff (entries : List (Value × Value)) (budget : Nat) :
    (Value.map entries).Readable (budget + 2) ↔
      entries.length < 2 ^ 32 ∧ ∀ entry ∈ entries, entry.1.Readable budget ∧ entry.2.Readable budget := by
  constructor
  · rintro ⟨⟨short, fits⟩, levels⟩
    rw [Value.levels, Nat.add_le_add_iff_right, entryLevels_le_iff] at levels
    rw [fitEntries_iff] at fits
    refine ⟨short, fun entry mem => ⟨⟨(fits entry mem).1, (levels entry mem).1⟩, ?_⟩⟩
    exact ⟨(fits entry mem).2, (levels entry mem).2⟩
  · rintro ⟨short, each⟩
    refine ⟨⟨short, (fitEntries_iff entries).mpr fun entry mem => ?_⟩, ?_⟩
    · exact ⟨(each entry mem).1.fits, (each entry mem).2.fits⟩
    · rw [Value.levels, Nat.add_le_add_iff_right, entryLevels_le_iff]
      exact fun entry mem => ⟨(each entry mem).1.levels, (each entry mem).2.levels⟩

end Value

theorem length_of_takeContent {length : Nat} {bytes content rest : Bytes}
    (taken : takeContent length bytes = .ok (content, rest)) : content.length = length := by
  unfold takeContent at taken
  split at taken
  · next parts split =>
      cases taken
      exact Bytes.length_of_split? split
  · cases taken

theorem exists_of_map_eq_ok {ε α β : Type} {read : Except ε α} {wrap : α → β} {result : β}
    (mapped : read.map wrap = .ok result) : ∃ found, read = .ok found ∧ wrap found = result := by
  cases read with
  | error problem => cases mapped
  | ok found =>
      cases mapped
      exact ⟨found, rfl, rfl⟩

/-- Bytes that were told as text give text or keep their bytes, and cost no more than text. -/
theorem readable_ofTextBytes {bytes : Bytes} {budget : Nat} (short : bytes.length < 2 ^ 32) (enough : 3 ≤ budget) :
    (Value.ofTextBytes bytes).Readable budget := by
  unfold Value.ofTextBytes
  split
  · next content spelled =>
      refine ⟨?_, enough⟩
      rw [Value.Fits, Text.utf8_of_ofUtf8? spelled]
      exact short
  · exact ⟨short, by rw [Value.levels]; omega⟩

theorem readable_of_readExtension {budget length : Nat} {bytes rest : Bytes} {value : Value}
    (short : length < 2 ^ 32) (read : readExtension budget length bytes = .ok (value, rest)) :
    value.Readable (budget + 2) := by
  cases bytes with
  | nil => cases read
  | cons tag bytes =>
      cases budget with
      | zero => cases read
      | succ budget =>
          obtain ⟨⟨content, remaining⟩, taken, same⟩ := exists_of_map_eq_ok read
          cases same
          refine ⟨?_, by rw [Value.levels]; omega⟩
          rw [Value.Fits, length_of_takeContent taken]
          exact short

/-- The content after a head costs the level of its head and what the reader checked before it. -/
theorem readable_of_readFlat {budget : Nat} {head : Head} {bytes rest : Bytes} {value : Value} (fits : head.Fits)
    (read : readFlat budget head bytes = .ok (value, rest)) : value.Readable (budget + 1) := by
  cases head with
  | nil | bool flag | int number | single bits | double bits =>
      cases read
      exact ⟨trivial, by rw [Value.levels]; omega⟩
  | text length =>
      simp only [readFlat] at read
      split at read
      · cases read
      · next enough =>
          obtain ⟨⟨content, remaining⟩, taken, same⟩ := exists_of_map_eq_ok read
          cases same
          refine readable_ofTextBytes ?_ (by omega)
          rw [length_of_takeContent taken]
          exact fits length rfl
  | binary length =>
      simp only [readFlat] at read
      split at read
      · cases read
      · next enough =>
          obtain ⟨⟨content, remaining⟩, taken, same⟩ := exists_of_map_eq_ok read
          cases same
          refine ⟨?_, by rw [Value.levels]; omega⟩
          rw [Value.Fits, length_of_takeContent taken]
          exact fits length rfl
  | ext length =>
      cases budget with
      | zero => cases read
      | succ left => exact readable_of_readExtension (fits length rfl) read
  | list length => cases read
  | map length => cases read

/-- What a reader finds one after the other is what it finds each time. -/
theorem forall_of_readMany {α : Type} {one : Bytes → Except ReadError (α × Bytes)} {property : α → Prop}
    (each : ∀ {bytes rest value}, one bytes = .ok (value, rest) → property value) {count : Nat}
    {bytes rest : Bytes} {values : List α} (read : readMany one count bytes = .ok (values, rest)) :
    values.length = count ∧ ∀ value ∈ values, property value := by
  induction count generalizing bytes values with
  | zero =>
      cases read
      exact ⟨rfl, nofun⟩
  | succ count ih =>
      unfold readMany at read
      split at read
      · cases read
      · next first middle head =>
          split at read
          · cases read
          · next others remaining tail =>
              cases read
              obtain ⟨length, rest⟩ := ih tail
              exact ⟨congrArg Nat.succ length, List.forall_mem_cons.mpr ⟨each head, rest⟩⟩

theorem both_of_readPair {one : Bytes → Except ReadError (Value × Bytes)} {property : Value → Prop}
    (each : ∀ {bytes rest value}, one bytes = .ok (value, rest) → property value) {bytes rest : Bytes}
    {entry : Value × Value} (read : readPair one bytes = .ok (entry, rest)) :
    property entry.1 ∧ property entry.2 := by
  unfold readPair at read
  split at read
  · cases read
  · next key middle head =>
      split at read
      · cases read
      · next value remaining tail =>
          cases read
          exact ⟨each head, each tail⟩

/-- What was read within a budget is readable within it. The recursion spends two levels at each list and map. -/
theorem readable_of_read : (budget : Nat) → {bytes rest : Bytes} → {value : Value} →
    Value.read budget bytes = .ok (value, rest) → value.Readable budget
  | 0, _, _, _, read => nomatch read
  | 1, bytes, rest, value, read => by
      unfold Value.read at read
      split at read
      · cases read
      · next head remaining start => exact readable_of_readFlat (Head.fits_of_read start) read
  | budget + 2, bytes, rest, value, read => by
      unfold Value.read at read
      split at read
      · cases read
      · next length remaining start =>
          obtain ⟨⟨items, left⟩, many, same⟩ := exists_of_map_eq_ok read
          cases same
          obtain ⟨counted, each⟩ := forall_of_readMany (readable_of_read budget) many
          refine (Value.readable_list_iff items budget).mpr ⟨?_, each⟩
          rw [counted]
          exact Head.fits_of_read start length rfl
      · next length remaining start =>
          obtain ⟨⟨entries, left⟩, many, same⟩ := exists_of_map_eq_ok read
          cases same
          obtain ⟨counted, each⟩ := forall_of_readMany (both_of_readPair (readable_of_read budget)) many
          refine (Value.readable_map_iff entries budget).mpr ⟨?_, each⟩
          rw [counted]
          exact Head.fits_of_read start length rfl
      · next head remaining start => exact readable_of_readFlat (Head.fits_of_read start) read

theorem readable_of_decode {frame : Bytes} {value : Value} (read : Value.decode frame = .ok value) :
    value.Readable Value.depthLimit := by
  obtain ⟨⟨found, rest⟩, taken, same⟩ := exists_of_map_eq_ok read
  cases same
  exact readable_of_read Value.depthLimit taken

/-! ## Writing what was read -/

namespace Value

theorem length_writtenItems (items : List Value) : (writtenItems items).length = items.length := by
  induction items with
  | nil => rfl
  | cons item rest ih => rw [writtenItems, List.length_cons, ih, List.length_cons]

theorem length_writtenEntries (entries : List (Value × Value)) :
    (writtenEntries entries).length = entries.length := by
  induction entries with
  | nil => rfl
  | cons entry rest ih => rw [writtenEntries, List.length_cons, ih, List.length_cons]

mutual

/-- A value and what it comes back as are written the same. -/
theorem encode_written : (value : Value) → value.written.encode = value.encode
  | .nil | .bool _ | .int _ | .single _ | .double _ | .text _ | .binary _ | .ext _ _ => rfl
  | .brokenText _ => by rw [written, encode, encode]
  | .list items => by rw [written, encode, encode, length_writtenItems, encodeItems_written items]
  | .map entries => by rw [written, encode, encode, length_writtenEntries, encodeEntries_written entries]

theorem encodeItems_written : (items : List Value) → encodeItems (writtenItems items) = encodeItems items
  | [] => rfl
  | item :: rest => by
      rw [writtenItems, encodeItems, encodeItems, encode_written item, encodeItems_written rest]

theorem encodeEntries_written :
    (entries : List (Value × Value)) → encodeEntries (writtenEntries entries) = encodeEntries entries
  | [] => rfl
  | (key, value) :: rest => by
      rw [writtenEntries, encodeEntries, encodeEntries, encode_written key, encode_written value,
        encodeEntries_written rest]

end

end Value

end Pack

end RelayClient
