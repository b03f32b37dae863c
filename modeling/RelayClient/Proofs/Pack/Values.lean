import RelayClient.Pack.Reader
import RelayClient.Pack.Writer
import RelayClient.Proofs.Pack.Heads

/-!
# Values read back

A value that is written and read again comes back, within the budget of levels
that it costs and whatever follows it. Only text that is not UTF-8 comes back as
something else: it was written as binary.
-/

namespace RelayClient.Pack

namespace Value

mutual

def levels : Value → Nat
  | .nil | .bool _ | .int _ | .single _ | .double _ => 1
  | .text _ | .ext _ _ => 3
  | .brokenText _ | .binary _ => 2
  | .list items => itemLevels items + 2
  | .map entries => entryLevels entries + 2

def itemLevels : List Value → Nat
  | [] => 0
  | item :: rest => max item.levels (itemLevels rest)

def entryLevels : List (Value × Value) → Nat
  | [] => 0
  | (key, value) :: rest => max (max key.levels value.levels) (entryLevels rest)

end

mutual

/-- A value as it is written: text that is not UTF-8 goes out as binary. -/
def written : Value → Value
  | .brokenText bytes => .binary bytes
  | .list items => .list (writtenItems items)
  | .map entries => .map (writtenEntries entries)
  | value => value

def writtenItems : List Value → List Value
  | [] => []
  | item :: rest => item.written :: writtenItems rest

def writtenEntries : List (Value × Value) → List (Value × Value)
  | [] => []
  | (key, value) :: rest => (key.written, value.written) :: writtenEntries rest

end

mutual

/-- All text inside is UTF-8. -/
def Whole : Value → Prop
  | .brokenText _ => False
  | .list items => WholeItems items
  | .map entries => WholeEntries entries
  | _ => True

def WholeItems : List Value → Prop
  | [] => True
  | item :: rest => item.Whole ∧ WholeItems rest

def WholeEntries : List (Value × Value) → Prop
  | [] => True
  | (key, value) :: rest => (key.Whole ∧ value.Whole) ∧ WholeEntries rest

end

mutual

/-- All lengths inside fit 32 bits. -/
def Fits : Value → Prop
  | .text content => (Text.utf8 content).length < 2 ^ 32
  | .brokenText bytes | .binary bytes | .ext _ bytes => bytes.length < 2 ^ 32
  | .list items => items.length < 2 ^ 32 ∧ FitItems items
  | .map entries => entries.length < 2 ^ 32 ∧ FitEntries entries
  | _ => True

def FitItems : List Value → Prop
  | [] => True
  | item :: rest => item.Fits ∧ FitItems rest

def FitEntries : List (Value × Value) → Prop
  | [] => True
  | (key, value) :: rest => (key.Fits ∧ value.Fits) ∧ FitEntries rest

end

mutual

def decideWhole : (value : Value) → Decidable value.Whole
  | .nil | .bool _ | .int _ | .single _ | .double _ | .text _ | .binary _ | .ext _ _ =>
      inferInstanceAs (Decidable True)
  | .brokenText _ => inferInstanceAs (Decidable False)
  | .list items => decideWholeItems items
  | .map entries => decideWholeEntries entries

def decideWholeItems : (items : List Value) → Decidable (WholeItems items)
  | [] => inferInstanceAs (Decidable True)
  | item :: rest => @instDecidableAnd _ _ (decideWhole item) (decideWholeItems rest)

def decideWholeEntries : (entries : List (Value × Value)) → Decidable (WholeEntries entries)
  | [] => inferInstanceAs (Decidable True)
  | (key, value) :: rest =>
      @instDecidableAnd _ _ (@instDecidableAnd _ _ (decideWhole key) (decideWhole value)) (decideWholeEntries rest)

end

mutual

def decideFits : (value : Value) → Decidable value.Fits
  | .nil | .bool _ | .int _ | .single _ | .double _ => inferInstanceAs (Decidable True)
  | .text content => Nat.decLt (Text.utf8 content).length (2 ^ 32)
  | .brokenText bytes | .binary bytes | .ext _ bytes => Nat.decLt bytes.length (2 ^ 32)
  | .list items => @instDecidableAnd _ _ (Nat.decLt items.length (2 ^ 32)) (decideFitItems items)
  | .map entries => @instDecidableAnd _ _ (Nat.decLt entries.length (2 ^ 32)) (decideFitEntries entries)

def decideFitItems : (items : List Value) → Decidable (FitItems items)
  | [] => inferInstanceAs (Decidable True)
  | item :: rest => @instDecidableAnd _ _ (decideFits item) (decideFitItems rest)

def decideFitEntries : (entries : List (Value × Value)) → Decidable (FitEntries entries)
  | [] => inferInstanceAs (Decidable True)
  | (key, value) :: rest =>
      @instDecidableAnd _ _ (@instDecidableAnd _ _ (decideFits key) (decideFits value)) (decideFitEntries rest)

end

instance (value : Value) : Decidable value.Whole := decideWhole value

instance (value : Value) : Decidable value.Fits := decideFits value

mutual

/-- Exactly the values whose text is all UTF-8 are written as they are. -/
theorem written_eq_self_iff : (value : Value) → (value.written = value ↔ value.Whole)
  | .nil | .bool _ | .int _ | .single _ | .double _ | .text _ | .binary _ | .ext _ _ => by simp [written, Whole]
  | .brokenText bytes => by simp [written, Whole]
  | .list items => by simp [written, Whole, writtenItems_eq_self_iff items]
  | .map entries => by simp [written, Whole, writtenEntries_eq_self_iff entries]

theorem writtenItems_eq_self_iff : (items : List Value) → (writtenItems items = items ↔ WholeItems items)
  | [] => by simp [writtenItems, WholeItems]
  | item :: rest => by
      simp [writtenItems, WholeItems, written_eq_self_iff item, writtenItems_eq_self_iff rest]

theorem writtenEntries_eq_self_iff :
    (entries : List (Value × Value)) → (writtenEntries entries = entries ↔ WholeEntries entries)
  | [] => by simp [writtenEntries, WholeEntries]
  | (key, value) :: rest => by
      simp [writtenEntries, WholeEntries, written_eq_self_iff key, written_eq_self_iff value,
        writtenEntries_eq_self_iff rest]

end

end Value

theorem takeContent_append (content rest : Bytes) :
    takeContent content.length (content ++ rest) = .ok (content, rest) := by
  rw [takeContent, Bytes.split?_append]

/-- A value that is no list and no map is its head and a flat content. -/
theorem read_write_flat (budget : Nat) (head : Head) (bytes : Bytes) (fits : head.Fits)
    (flat : ∀ n, head ≠ .list n ∧ head ≠ .map n) :
    Value.read (budget + 1) (head.write ++ bytes) = readFlat budget head bytes := by
  have start := Head.read_write bytes head fits
  cases budget with
  | zero => rw [Value.read, start]
  | succ budget =>
      rw [Value.read, start]
      cases head with
      | list n => exact absurd rfl (flat n).1
      | map n => exact absurd rfl (flat n).2
      | _ => rfl

/-- What reading comes to within a budget: the value, or the depth error. -/
def afford {α : Type} (levels budget : Nat) (value : α) (rest : Bytes) : Except ReadError (α × Bytes) :=
  if levels ≤ budget then .ok (value, rest) else .error .tooDeep

theorem afford_map {α β : Type} (levels budget : Nat) (value : α) (rest : Bytes) (wrap : α → β) :
    (afford levels budget value rest).map (fun parts => (wrap parts.1, parts.2)) =
      afford (levels + 2) (budget + 2) (wrap value) rest := by
  unfold afford
  by_cases enough : levels ≤ budget
  · rw [if_pos enough, if_pos (by omega)]
    rfl
  · rw [if_neg enough, if_neg (by omega)]
    rfl

/-- Reading twice within a budget costs the dearer of both. -/
theorem afford_both {α : Type} (first second budget : Nat) (value : α) (rest : Bytes) :
    (if first ≤ budget then afford second budget value rest else .error .tooDeep) =
      afford (max first second) budget value rest := by
  unfold afford
  by_cases enough : first ≤ budget
  · by_cases paid : second ≤ budget
    · rw [if_pos enough, if_pos paid, if_pos (Nat.max_le.mpr ⟨enough, paid⟩)]
    · rw [if_pos enough, if_neg paid, if_neg fun both => paid (Nat.max_le.mp both).2]
  · rw [if_neg enough, if_neg fun both => enough (Nat.max_le.mp both).1]

theorem fits_of_length {head : Head} {n : Nat} (tells : head.length? = some n) (small : n < 2 ^ 32) : head.Fits := by
  intro m same
  rw [tells] at same
  cases same
  exact small

theorem read_encode_text (content : String) (fits : (Text.utf8 content).length < 2 ^ 32) (budget : Nat) (rest : Bytes) :
    Value.read budget ((Value.text content).encode ++ rest) = afford 3 budget (.text content) rest := by
  cases budget with
  | zero => rfl
  | succ budget =>
      rw [Value.encode, List.append_assoc, read_write_flat _ _ _ (fits_of_length rfl fits) (by simp), readFlat,
        takeContent_append, afford]
      by_cases enough : budget < 2
      · rw [if_pos enough, if_neg (by omega)]
      · rw [if_neg enough, if_pos (by omega)]
        exact congrArg (fun value => Except.ok (value, rest)) (by rw [Value.ofTextBytes, Text.ofUtf8?_utf8])

theorem read_write_binary (content : Bytes) (fits : content.length < 2 ^ 32) (budget : Nat) (rest : Bytes) :
    Value.read budget (Head.write (.binary content.length) ++ content ++ rest) =
      afford 2 budget (.binary content) rest := by
  cases budget with
  | zero => rfl
  | succ budget =>
      rw [List.append_assoc, read_write_flat _ _ _ (fits_of_length rfl fits) (by simp), readFlat,
        takeContent_append, afford]
      by_cases enough : budget < 1
      · rw [if_pos enough, if_neg (by omega)]
      · rw [if_neg enough, if_pos (by omega)]
        rfl

theorem read_encode_ext (tag : Int8) (content : Bytes) (fits : content.length < 2 ^ 32) (budget : Nat) (rest : Bytes) :
    Value.read budget ((Value.ext tag content).encode ++ rest) = afford 3 budget (.ext tag content) rest := by
  cases budget with
  | zero => rfl
  | succ budget =>
      rw [Value.encode, List.append_assoc, read_write_flat _ _ _ (fits_of_length rfl fits) (by simp)]
      match budget with
      | 0 => rfl
      | 1 => rfl
      | budget + 2 =>
          have taken := takeContent_append content rest
          simp only [readFlat, List.cons_append, readExtension, taken]
          exact (if_pos (by omega)).symm

/-- A value that is its head alone costs one level. -/
theorem read_encode_scalar {value : Value} (head : Head) (scalar : head.length? = none)
    (written : value.encode = head.write) (content : ∀ budget rest, readFlat budget head rest = .ok (value, rest))
    (budget : Nat) (rest : Bytes) : Value.read budget (value.encode ++ rest) = afford 1 budget value rest := by
  have fits : head.Fits := fun n same => by
    rw [scalar] at same
    cases same
  have flat : ∀ n, head ≠ .list n ∧ head ≠ .map n := by
    intro n
    constructor
    · rintro rfl
      cases scalar
    · rintro rfl
      cases scalar
  cases budget with
  | zero => rfl
  | succ budget =>
      rw [written, read_write_flat _ _ _ fits flat, content, afford, if_pos (by omega)]

/-- Things that are read one after the other cost as much as the dearest of them. -/
theorem readMany_cons {α : Type} {one : Bytes → Except ReadError (α × Bytes)} {bytes middle rest : Bytes}
    {count first others budget : Nat} {value : α} {values : List α} (head : one bytes = afford first budget value middle)
    (tail : readMany one count middle = afford others budget values rest) :
    readMany one (count + 1) bytes = afford (max first others) budget (value :: values) rest := by
  rw [readMany, head, ← afford_both, afford]
  by_cases enough : first ≤ budget
  · rw [if_pos enough, if_pos enough]
    dsimp only
    rw [tail, afford, afford]
    by_cases paid : others ≤ budget
    · rw [if_pos paid, if_pos paid]
    · rw [if_neg paid, if_neg paid]
  · rw [if_neg enough, if_neg enough]

theorem readPair_eq {one : Bytes → Except ReadError (Value × Bytes)} {bytes middle rest : Bytes}
    {first second budget : Nat} {key value : Value} (head : one bytes = afford first budget key middle)
    (tail : one middle = afford second budget value rest) :
    readPair one bytes = afford (max first second) budget (key, value) rest := by
  rw [readPair, head, ← afford_both, afford]
  by_cases enough : first ≤ budget
  · rw [if_pos enough, if_pos enough]
    dsimp only
    rw [tail, afford, afford]
    by_cases paid : second ≤ budget
    · rw [if_pos paid, if_pos paid]
    · rw [if_neg paid, if_neg paid]
  · rw [if_neg enough, if_neg enough]

theorem read_encode_list {items written : List Value} {levels : Nat} (small : items.length < 2 ^ 32) (rest : Bytes)
    (reads : ∀ budget, readMany (Value.read budget) items.length (Value.encodeItems items ++ rest) =
      afford levels budget written rest) (budget : Nat) :
    Value.read budget ((Value.list items).encode ++ rest) = afford (levels + 2) budget (.list written) rest := by
  have start := Head.read_write (Value.encodeItems items ++ rest) (.list items.length) (fits_of_length rfl small)
  rw [Value.encode, List.append_assoc]
  match budget with
  | 0 => rfl
  | 1 =>
      rw [Value.read, start, afford, if_neg (by omega)]
      rfl
  | budget + 2 =>
      rw [Value.read, start]
      dsimp only
      rw [reads, afford_map]

theorem read_encode_map {entries written : List (Value × Value)} {levels : Nat} (small : entries.length < 2 ^ 32)
    (rest : Bytes) (reads : ∀ budget, readMany (readPair (Value.read budget)) entries.length
      (Value.encodeEntries entries ++ rest) = afford levels budget written rest) (budget : Nat) :
    Value.read budget ((Value.map entries).encode ++ rest) = afford (levels + 2) budget (.map written) rest := by
  have start := Head.read_write (Value.encodeEntries entries ++ rest) (.map entries.length) (fits_of_length rfl small)
  rw [Value.encode, List.append_assoc]
  match budget with
  | 0 => rfl
  | 1 =>
      rw [Value.read, start, afford, if_neg (by omega)]
      rfl
  | budget + 2 =>
      rw [Value.read, start]
      dsimp only
      rw [reads, afford_map]

mutual

/-- Reading what was written gives the value as it was written, whenever the budget pays for its levels. -/
theorem read_encode : (value : Value) → value.Fits → (budget : Nat) → (rest : Bytes) →
    Value.read budget (value.encode ++ rest) = afford value.levels budget value.written rest
  | .nil, _, budget, rest => read_encode_scalar .nil rfl rfl (fun _ _ => rfl) budget rest
  | .bool flag, _, budget, rest => read_encode_scalar (.bool flag) rfl rfl (fun _ _ => rfl) budget rest
  | .int number, _, budget, rest => read_encode_scalar (.int number) rfl rfl (fun _ _ => rfl) budget rest
  | .single bits, _, budget, rest => read_encode_scalar (.single bits) rfl rfl (fun _ _ => rfl) budget rest
  | .double bits, _, budget, rest => read_encode_scalar (.double bits) rfl rfl (fun _ _ => rfl) budget rest
  | .text content, fits, budget, rest => read_encode_text content fits budget rest
  | .brokenText content, fits, budget, rest => read_write_binary content fits budget rest
  | .binary content, fits, budget, rest => read_write_binary content fits budget rest
  | .ext tag content, fits, budget, rest => read_encode_ext tag content fits budget rest
  | .list items, fits, budget, rest =>
      read_encode_list fits.1 rest (fun budget => readMany_encodeItems items fits.2 budget rest) budget
  | .map entries, fits, budget, rest =>
      read_encode_map fits.1 rest (fun budget => readMany_encodeEntries entries fits.2 budget rest) budget

theorem readMany_encodeItems : (items : List Value) → Value.FitItems items → (budget : Nat) → (rest : Bytes) →
    readMany (Value.read budget) items.length (Value.encodeItems items ++ rest) =
      afford (Value.itemLevels items) budget (Value.writtenItems items) rest
  | [], _, budget, rest => (if_pos (Nat.zero_le budget)).symm
  | item :: others, fits, budget, rest => by
      rw [Value.encodeItems, List.append_assoc]
      exact readMany_cons (read_encode item fits.1 budget _) (readMany_encodeItems others fits.2 budget rest)

theorem readMany_encodeEntries : (entries : List (Value × Value)) → Value.FitEntries entries → (budget : Nat) →
    (rest : Bytes) → readMany (readPair (Value.read budget)) entries.length (Value.encodeEntries entries ++ rest) =
      afford (Value.entryLevels entries) budget (Value.writtenEntries entries) rest
  | [], _, budget, rest => (if_pos (Nat.zero_le budget)).symm
  | (key, value) :: others, fits, budget, rest => by
      rw [Value.encodeEntries, List.append_assoc, List.append_assoc]
      exact readMany_cons (readPair_eq (read_encode key fits.1.1 budget _) (read_encode value fits.1.2 budget _))
        (readMany_encodeEntries others fits.2 budget rest)

end

end RelayClient.Pack
