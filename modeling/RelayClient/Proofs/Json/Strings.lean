import RelayClient.Json.Syntax

/-!
# Strings in JSON read back

A text that is written as a string is read as its characters, with a few control
characters as escaped units, and both stand for the text.
-/

namespace RelayClient.Json

def pieceOf (c : Char) : Piece :=
  if c.toNat < 32 ∧ (escape c).length = 6 then .unit c.toNat else .char c

def piecesOf (text : String) : List Piece :=
  text.toList.map pieceOf

theorem hexValue?_hexDigit {value : Nat} (small : value < 16) : hexValue? (hexDigit value) = some value := by
  have all : ∀ n : Fin 16, hexValue? (hexDigit n.val) = some n.val := by decide
  exact all ⟨value, small⟩

/-- Four digits spell a control character. -/
theorem readUnit_control {c : Char} (control : c.toNat < 32) :
    readUnit ['0', '0', hexDigit (c.toNat / 16), hexDigit (c.toNat % 16)] = some (c.toNat, []) := by
  have zero : hexValue? '0' = some 0 := by decide
  have whole : 4096 * 0 + 256 * 0 + 16 * (c.toNat / 16) + c.toNat % 16 = c.toNat := by omega
  rw [readUnit, zero, hexValue?_hexDigit (by omega), hexValue?_hexDigit (Nat.mod_lt _ (by decide))]
  dsimp only
  rw [whole]

theorem readPieces_escape (c : Char) (rest : List Char) :
    readPieces (escape c ++ rest) = (readPieces rest).map fun found => (pieceOf c :: found.1, found.2) := by
  unfold pieceOf escape
  split
  · next same => subst same; rfl
  split
  · next same => subst same; rfl
  split
  · next same => subst same; rfl
  split
  · next same => subst same; rfl
  split
  · next same => subst same; rfl
  split
  · next same => subst same; rfl
  split
  · next same => subst same; rfl
  split
  · next control =>
      rw [if_pos ⟨control, rfl⟩]
      simp only [List.cons_append, List.nil_append, readPieces, readUnit_control control]
  · next quote backslash _ _ _ _ _ visible =>
      rw [if_neg fun control => visible control.1, List.singleton_append, readPieces.eq_def]
      split
      · next same => cases same
      · next same => cases same; exact absurd rfl quote
      · next same => cases same; exact absurd rfl backslash
      · next same => cases same; exact absurd rfl backslash
      · next same =>
          cases same
          rw [if_neg (by simp [visible, backslash])]

theorem readPieces_quoted (chars rest : List Char) :
    readPieces (chars.flatMap escape ++ '"' :: rest) = some (chars.map pieceOf, rest) := by
  induction chars with
  | nil => rw [List.flatMap_nil, List.nil_append, readPieces]; rfl
  | cons c chars ih => rw [List.flatMap_cons, List.append_assoc, readPieces_escape, ih]; rfl

theorem piecesText?_map (chars : List Char) : piecesText? (chars.map pieceOf) = some chars := by
  induction chars with
  | nil => rfl
  | cons c rest ih =>
      rw [List.map_cons, pieceOf]
      split
      · next control =>
          have high : Text.isHighSurrogate c.toNat = false := by
            simp only [Text.isHighSurrogate, Bool.and_eq_false_iff, decide_eq_false_iff_not]
            omega
          have low : Text.isLowSurrogate c.toNat = false := by
            simp only [Text.isLowSurrogate, Bool.and_eq_false_iff, decide_eq_false_iff_not]
            omega
          rw [piecesText?.eq_def]
          simp [high, low, ih, Char.ofNat_toNat]
      · simp [piecesText?, ih]

theorem text?_piecesOf (text : String) : text? (piecesOf text) = some text := by
  rw [text?, piecesOf, piecesText?_map, Option.map_some, String.ofList_toList]

theorem quote_append (text : String) (rest : List Char) :
    quote text ++ rest = '"' :: (text.toList.flatMap escape ++ '"' :: rest) := by
  rw [quote, List.append_assoc, List.singleton_append, List.cons_append]

end RelayClient.Json
