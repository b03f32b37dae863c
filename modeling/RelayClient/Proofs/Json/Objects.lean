import RelayClient.Proofs.Json.Numbers
import RelayClient.Proofs.Json.Strings

/-!
# Objects in JSON read back

An object is written as its members in order, each a key and a value, without
blanks. It is read back member by member where each value is.
-/

namespace RelayClient.Json

/-- A member of an object: its key, the characters of its value and what these are read as. -/
structure Member where
  key : String
  chars : List Char
  tree : Tree

namespace Member

def ofText (key text : String) : Member :=
  ⟨key, quote text, .string (piecesOf text)⟩

/-- A member whose value is a natural number. -/
def ofNat (key : String) (n : Nat) : Member :=
  ⟨key, Nat.toDigits 10 n, .number (Nat.toDigits 10 n)⟩

def write (member : Member) : List Char :=
  quote member.key ++ ':' :: member.chars

/-- Members with a comma between them. -/
def writeAll : List Member → List Char
  | [] => []
  | [member] => member.write
  | member :: rest => member.write ++ ',' :: writeAll rest

def entry (member : Member) : List Piece × Tree :=
  (piecesOf member.key, member.tree)

end Member

/-- A reader of values reads the value of a member, whatever ends it. -/
def Reads (one : List Char → Option (Tree × List Char)) (member : Member) : Prop :=
  ∀ rest, EndsNumber rest → one (member.chars ++ rest) = some (member.tree, rest)

theorem skipSpace_quote (text : String) (rest : List Char) : skipSpace (quote text ++ rest) = quote text ++ rest := by
  rw [quote_append]
  rfl

theorem read_text (fuel : Nat) (key text : String) : Reads (Tree.read (fuel + 1)) (.ofText key text) := by
  intro rest _
  rw [Member.ofText, Tree.read, skipSpace_quote, quote_append, Tree.readFrom, readPieces_quoted]
  rfl

theorem readFrom_digit {one : List Char → Option (Tree × List Char)} (fuel : Nat) {digit : Char} (rest : List Char)
    (decimal : digit.isDigit = true) : Tree.readFrom one fuel (digit :: rest) =
      (readNumber (digit :: rest)).map fun found => (.number found.1, found.2) := by
  rw [Tree.readFrom.eq_def]
  split <;> first | rfl | (next same => cases same; cases decimal)

theorem read_nat (fuel : Nat) (key : String) (n : Nat) : Reads (Tree.read (fuel + 1)) (.ofNat key n) := by
  intro rest ends
  have number := readNumber_toDigits n ends
  rw [Member.ofNat, Tree.read]
  cases found : Nat.toDigits 10 n with
  | nil => exact absurd found Nat.toDigits_ne_nil
  | cons first more =>
      have digit : first.isDigit = true := isDigit_of_mem_toDigits (by rw [found]; exact .head _)
      have solid : skipSpace (first :: (more ++ rest)) = first :: (more ++ rest) := by
        refine List.dropWhile_cons_of_neg fun space => ?_
        simp only [isSpace, Bool.or_eq_true, beq_iff_eq] at space
        rcases space with ((rfl | rfl) | rfl) | rfl <;> cases digit
      rw [found] at number
      dsimp only
      rw [List.cons_append, solid, readFrom_digit _ _ digit, ← List.cons_append, number]
      rfl

variable {one : List Char → Option (Tree × List Char)}

theorem readEntry_write {member : Member} (reads : Reads one member) {rest : List Char} (ends : EndsNumber rest) :
    readEntry one (member.write ++ rest) = some (member.entry, rest) := by
  have colon (chars : List Char) : skipSpace (':' :: chars) = ':' :: chars := rfl
  rw [Member.write, List.append_assoc, readEntry, skipSpace_quote, quote_append]
  simp only [readPieces_quoted, List.cons_append, colon, reads rest ends]
  rfl

theorem endsNumber_comma (rest : List Char) : EndsNumber (',' :: rest) :=
  .cons (by decide) rest

theorem endsNumber_brace (rest : List Char) : EndsNumber ('\x7d' :: rest) :=
  .cons (by decide) rest

/-- Members are read up to the closing brace. -/
theorem readEntries_writeAll {members : List Member} (some : members ≠ [])
    (reads : ∀ member ∈ members, Reads one member) {fuel : Nat} (enough : members.length ≤ fuel) (rest : List Char) :
    readEntries one fuel (Member.writeAll members ++ '\x7d' :: rest) =
      .some (members.map Member.entry, rest) := by
  induction members generalizing fuel with
  | nil => exact absurd rfl some
  | cons member others ih =>
      obtain ⟨fuel, rfl⟩ : ∃ left, fuel = left + 1 := ⟨fuel - 1, by simp only [List.length_cons] at enough; omega⟩
      have here := reads member (.head _)
      cases others with
      | nil =>
          rw [Member.writeAll, readEntries, readEntry_write here (endsNumber_brace rest)]
          rfl
      | cons next more =>
          have later := ih (by simp) (fun other mem => reads other (.tail _ mem)) (Nat.le_of_succ_le_succ enough)
          rw [Member.writeAll, List.append_assoc, List.cons_append, readEntries,
            readEntry_write here (endsNumber_comma _)]
          have comma (chars : List Char) : skipSpace (',' :: chars) = ',' :: chars := rfl
          simp only [comma, later, Option.map_some, List.map_cons]
          simp

theorem length_le_writeAll (members : List Member) : members.length ≤ (Member.writeAll members).length := by
  induction members with
  | nil => exact Nat.le_refl 0
  | cons member others ih =>
      cases others with
      | nil =>
          rw [Member.writeAll, Member.write, List.length_append, List.length_cons]
          exact Nat.le_trans (Nat.le_add_left 1 _) (Nat.le_add_left _ _)
      | cons next more =>
          simp only [Member.writeAll, List.length_append, List.length_cons] at ih ⊢
          omega

theorem exists_writeAll_eq {members : List Member} (some : members ≠ []) :
    ∃ key more, Member.writeAll members = quote key ++ more := by
  match members with
  | [] => exact absurd rfl some
  | [member] => exact ⟨member.key, _, rfl⟩
  | member :: next :: more => exact ⟨member.key, _, List.append_assoc _ _ _⟩

/-- After an opening brace and a quote comes a member. -/
theorem readFrom_brace_quote (fuel : Nat) (key : String) (rest : List Char) :
    Tree.readFrom one fuel ('\x7b' :: (quote key ++ rest)) =
      (readEntries one fuel (quote key ++ rest)).map fun found => (.object found.1, found.2) := by
  rw [Tree.readFrom, skipSpace_quote, quote_append]
  rfl

/-- A text that writes an object is read as that object. -/
theorem parse?_object {members : List Member} (some : members ≠ [])
    (reads : ∀ fuel, ∀ member ∈ members, Reads (Tree.read (fuel + 1)) member) {text : String}
    (written : text.toList = '\x7b' :: (Member.writeAll members ++ ['\x7d'])) :
    Tree.parse? text = .some (.object (members.map Member.entry)) := by
  have long := length_le_writeAll members
  have length : text.toList.length = (Member.writeAll members).length + 1 + 1 := by
    rw [written, List.length_cons, List.length_append, List.length_singleton]
  have entries := readEntries_writeAll some (reads ((Member.writeAll members).length + 1))
    (Nat.le_trans long (Nat.le_add_right _ 3)) []
  obtain ⟨key, more, starts⟩ := exists_writeAll_eq some
  have brace (chars : List Char) : skipSpace ('\x7b' :: chars) = '\x7b' :: chars := rfl
  rw [starts, List.append_assoc] at entries written
  rw [Tree.parse?, length, written, Tree.read, brace, readFrom_brace_quote, starts, entries]
  rfl

end RelayClient.Json
