import RelayClient.Proofs.Pack.Readable

/-!
# Fronts of packed values

What a reader finds in some bytes it finds as well when more bytes follow, and leaves those
over. Only where it runs out of bytes do the bytes that follow matter. So a written value
that is cut off, at whatever byte, makes its reader run out: no value is written as the
front of another.
-/

namespace RelayClient

theorem Bytes.split?_append_of_some {count : Nat} {bytes front rest : Bytes}
    (split : split? count bytes = some (front, rest)) (more : Bytes) :
    split? count (bytes ++ more) = some (front, rest ++ more) := by
  unfold split? at split ⊢
  split at split
  · next enough =>
      cases split
      have still : count ≤ (bytes ++ more).length := by
        rw [List.length_append]
        exact Nat.le_add_right_of_le enough
      rw [if_pos still, List.take_append_of_le_length enough, List.drop_append_of_le_length enough]
  · cases split

namespace Pack

variable {α β : Type}

/-- A reader stopped for want of bytes. -/
def RanOut (result : Except ReadError α) : Prop :=
  result = .error .noMarker ∨ result = .error .cutShort

theorem RanOut.bind {result : Except ReadError α} (short : RanOut result) (next : α → Except ReadError β) :
    RanOut (result.bind next) := by
  rcases short with rfl | rfl
  · exact .inl rfl
  · exact .inr rfl

/-- A result with more bytes left over. -/
def leaving (more : Bytes) (result : Except ReadError (α × Bytes)) : Except ReadError (α × Bytes) :=
  result.map fun parts => (parts.1, parts.2 ++ more)

/-- A reader that finds the same whatever follows, unless it runs out of bytes. -/
def IsSteady (one : Bytes → Except ReadError (α × Bytes)) : Prop :=
  ∀ bytes more, RanOut (one bytes) ∨ one (bytes ++ more) = leaving more (one bytes)

namespace IsSteady

theorem found (value : α) : IsSteady fun bytes => .ok (value, bytes) :=
  fun _ _ => .inr rfl

theorem refused (problem : ReadError) : IsSteady fun _ => (.error problem : Except ReadError (α × Bytes)) :=
  fun _ _ => .inr rfl

/-- Readers that go on where the one before stopped are steady together. -/
theorem bind {one : Bytes → Except ReadError (α × Bytes)} {next : α → Bytes → Except ReadError (β × Bytes)}
    {both : Bytes → Except ReadError (β × Bytes)} (first : IsSteady one) (second : ∀ value, IsSteady (next value))
    (chained : ∀ bytes, both bytes = (one bytes).bind fun parts => next parts.1 parts.2) : IsSteady both := by
  intro bytes more
  rw [chained, chained]
  rcases first bytes more with short | same
  · exact .inl (short.bind _)
  · rw [same]
    cases one bytes with
    | error problem => exact .inr rfl
    | ok parts => exact second parts.1 parts.2 more

theorem map {one : Bytes → Except ReadError (α × Bytes)} (steady : IsSteady one) (wrap : α → β) :
    IsSteady fun bytes => (one bytes).map fun parts => (wrap parts.1, parts.2) :=
  steady.bind (fun value => found (wrap value)) fun bytes => by cases one bytes <;> rfl

end IsSteady

theorem isSteady_takeContent (length : Nat) : IsSteady (takeContent length) := by
  intro bytes more
  unfold takeContent
  cases split : Bytes.split? length bytes with
  | none => exact .inl (.inr rfl)
  | some parts =>
      rw [Bytes.split?_append_of_some split more]
      exact .inr rfl

/-! ## Heads -/

namespace Head

theorem isSteady_number (count : Nat) : IsSteady (number count) := by
  refine (isSteady_takeContent count).bind (fun digits => .found (Bytes.ofBigEndian digits)) fun bytes => ?_
  unfold number takeContent
  cases Bytes.split? count bytes <;> rfl

theorem isSteady_withNumber (count : Nat) (head : Nat → Head) : IsSteady (withNumber count head) := by
  refine (isSteady_number count).bind (fun value => .found (head value)) fun bytes => ?_
  unfold withNumber
  cases number count bytes <;> rfl

/-- Each marker tells its head, or how many bytes tell it. -/
theorem isSteady_readAfter (marker : UInt8) : IsSteady (readAfter marker) := by
  intro bytes more
  unfold readAfter
  generalize marker.toNat = low
  dsimp only
  split
  · exact .inr rfl
  split
  · exact .inr rfl
  split
  · exact .inr rfl
  split
  · exact .inr rfl
  split
  · exact .inr rfl
  split
  all_goals first
    | exact .inr rfl
    | exact isSteady_withNumber _ _ bytes more

theorem isSteady_read : IsSteady Head.read := by
  intro bytes more
  cases bytes with
  | nil => exact .inl (.inl rfl)
  | cons marker rest => exact isSteady_readAfter marker rest more

end Head

/-! ## Values -/

theorem isSteady_readExtension (budget length : Nat) : IsSteady (readExtension budget length) := by
  intro bytes more
  cases bytes with
  | nil => exact .inl (.inr rfl)
  | cons tag rest =>
      cases budget with
      | zero => exact .inr rfl
      | succ budget => exact (isSteady_takeContent length).map (Value.ext tag.toInt8) rest more

theorem isSteady_readFlat (budget : Nat) (head : Head) : IsSteady (readFlat budget head) := by
  cases head with
  | nil | bool flag | int number | single bits | double bits => exact .found _
  | list length | map length => exact .refused _
  | text length =>
      unfold readFlat
      by_cases poor : budget < 2
      · simp only [if_pos poor]
        exact .refused _
      · simp only [if_neg poor]
        exact (isSteady_takeContent length).map _
  | binary length =>
      unfold readFlat
      by_cases poor : budget < 1
      · simp only [if_pos poor]
        exact .refused _
      · simp only [if_neg poor]
        exact (isSteady_takeContent length).map _
  | ext length =>
      cases budget with
      | zero => exact .refused _
      | succ budget => exact isSteady_readExtension budget length

theorem isSteady_readMany {one : Bytes → Except ReadError (α × Bytes)} (steady : IsSteady one) (count : Nat) :
    IsSteady (readMany one count) := by
  induction count with
  | zero => exact .found []
  | succ count ih =>
      refine steady.bind (fun first => ih.map (first :: ·)) fun bytes => ?_
      rw [readMany]
      cases one bytes with
      | error problem => rfl
      | ok parts =>
          dsimp only [Except.bind]
          cases readMany one count parts.2 <;> rfl

theorem isSteady_readPair {one : Bytes → Except ReadError (Value × Bytes)} (steady : IsSteady one) :
    IsSteady (readPair one) := by
  refine steady.bind (fun key => steady.map (Prod.mk key)) fun bytes => ?_
  unfold readPair
  cases one bytes with
  | error problem => rfl
  | ok parts =>
      dsimp only [Except.bind]
      cases one parts.2 <;> rfl

/-- Reads the content after a head; the values of a list or map have a budget of their own. -/
def readContent (budget : Nat) : Head → Bytes → Except ReadError (Value × Bytes)
  | .list length => fun rest => (readMany (Value.read budget) length rest).map fun parts => (.list parts.1, parts.2)
  | .map length => fun rest =>
      (readMany (readPair (Value.read budget)) length rest).map fun parts => (.map parts.1, parts.2)
  | head => readFlat (budget + 1) head

theorem read_eq_bind (budget : Nat) (bytes : Bytes) :
    Value.read (budget + 2) bytes = (Head.read bytes).bind fun parts => readContent budget parts.1 parts.2 := by
  rw [Value.read]
  cases Head.read bytes with
  | error problem => rfl
  | ok parts =>
      obtain ⟨head, rest⟩ := parts
      cases head <;> rfl

theorem isSteady_readContent {budget : Nat} (inner : IsSteady (Value.read budget)) (head : Head) :
    IsSteady (readContent budget head) := by
  unfold readContent
  split
  · next length => exact (isSteady_readMany inner length).map Value.list
  · next length => exact (isSteady_readMany (isSteady_readPair inner) length).map Value.map
  · exact isSteady_readFlat (budget + 1) head

/-- Whatever the budget, the recursion of the reader spends two levels of it at each list and map. -/
theorem isSteady_read : (budget : Nat) → IsSteady (Value.read budget)
  | 0 => .refused .tooDeep
  | 1 => by
      refine Head.isSteady_read.bind (isSteady_readFlat 0) fun bytes => ?_
      rw [Value.read]
      cases Head.read bytes <;> rfl
  | budget + 2 => Head.isSteady_read.bind (isSteady_readContent (isSteady_read budget)) (read_eq_bind budget)

/-- A reader runs out of bytes in a written value that was cut off, whenever its budget would pay for the whole. -/
theorem ranOut_of_cut {value : Value} {budget : Nat} (readable : value.Readable budget) {cut missing : Bytes}
    (whole : value.encode = cut ++ missing) (lacks : missing ≠ []) : RanOut (Value.read budget cut) := by
  rcases isSteady_read budget cut missing with short | same
  · exact short
  · have back := read_encode value readable.fits budget []
    rw [List.append_nil, whole, same, afford, if_pos readable.levels] at back
    obtain ⟨found, -, left⟩ := exists_of_map_eq_ok back
    have none : found.2 ++ missing = [] := congrArg Prod.snd left
    exact absurd (List.append_eq_nil_iff.mp none).2 lacks

end Pack

end RelayClient
