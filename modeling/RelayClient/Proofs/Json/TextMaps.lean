import Mathlib.Data.List.DropRight
import RelayClient.Json.TextMap
import RelayClient.Proofs.Dictionary
import RelayClient.Proofs.Json.Objects

/-!
# Maps of texts read back

A map that is written over several lines is read as the same map, whatever
characters its keys and values hold. The blanks between the tokens carry nothing.
-/

namespace RelayClient.Json

/-- What the line of an entry is read as. -/
def textTree (entry : String × String) : List Piece × Tree :=
  (piecesOf entry.1, .string (piecesOf entry.2))

theorem textEntry?_textTree (entry : String × String) : textEntry? (textTree entry) = some entry := by
  simp only [ textEntry?, textTree, text?_piecesOf, Option.map_some]

theorem mapM_textTree (entries : List (String × String)) :
    (entries.map textTree).mapM textEntry? = some entries := by
  induction entries with
  | nil => rfl
  | cons entry rest ih => rw [List.map_cons, List.mapM_cons, textEntry?_textTree, ih]; rfl

theorem readEntry_textLine (fuel : Nat) (entry : String × String) (rest : List Char) :
    readEntry (Tree.read (fuel + 1)) (textLine entry ++ rest) = some (textTree entry, rest) := by
  have blanks (chars : List Char) : skipSpace ('\n' :: ' ' :: ' ' :: chars) = skipSpace chars := rfl
  have blank (chars : List Char) : skipSpace (' ' :: chars) = skipSpace chars := rfl
  have colon (chars : List Char) : skipSpace (':' :: chars) = ':' :: chars := rfl
  have value : Tree.read (fuel + 1) (' ' :: (quote entry.2 ++ rest)) = some (.string (piecesOf entry.2), rest) := by
    rw [Tree.read, blank, skipSpace_quote, quote_append, Tree.readFrom, readPieces_quoted]
    rfl
  have line : textLine entry ++ rest =
      '\n' :: ' ' :: ' ' :: (quote entry.1 ++ ':' :: ' ' :: (quote entry.2 ++ rest)) := by
    simp [textLine]
  rw [line, readEntry, blanks, skipSpace_quote, quote_append]
  simp only [readPieces_quoted, colon, value]
  rfl

/-- Lines are read up to the closing brace on a line of its own. -/
theorem readEntries_textLines {entries : List (String × String)} (some : entries ≠ []) (deep : Nat) {fuel : Nat}
    (enough : entries.length ≤ fuel) (rest : List Char) :
    readEntries (Tree.read (deep + 1)) fuel (textLines entries ++ '\n' :: '\x7d' :: rest) =
      .some (entries.map textTree, rest) := by
  induction entries generalizing fuel with
  | nil => exact absurd rfl some
  | cons entry others ih =>
      obtain ⟨fuel, rfl⟩ : ∃ left, fuel = left + 1 := ⟨fuel - 1, by simp only [List.length_cons] at enough; omega⟩
      cases others with
      | nil =>
          rw [textLines, readEntries, readEntry_textLine]
          rfl
      | cons next more =>
          have later := ih (by simp) (Nat.le_of_succ_le_succ enough)
          have comma (chars : List Char) : skipSpace (',' :: chars) = ',' :: chars := rfl
          rw [textLines, List.append_assoc, List.cons_append, readEntries, readEntry_textLine]
          · simp only [comma, later, Option.map_some, List.map_cons]
          · simp

theorem length_le_textLines (entries : List (String × String)) : entries.length ≤ (textLines entries).length := by
  induction entries with
  | nil => exact Nat.le_refl 0
  | cons entry others ih =>
      have line : 1 ≤ (textLine entry).length := by
        rw [textLine, List.length_append, List.length_cons]
        omega
      cases others with
      | nil => exact line
      | cons next more =>
          simp only [textLines, List.length_append, List.length_cons] at ih ⊢
          omega

theorem readEntries_skipSpace (one : List Char → Option (Tree × List Char)) (fuel : Nat) (input : List Char) :
    readEntries one fuel (skipSpace input) = readEntries one fuel input := by
  have entry : readEntry one (skipSpace input) = readEntry one input := by
    rw [readEntry, readEntry, skipSpace, skipSpace, List.dropWhile_idempotent]
  cases fuel with
  | zero => rfl
  | succ fuel => rw [readEntries, readEntries, entry]

/-- Lines start with blanks and a quote, so that the object they stand in is not empty. -/
theorem skipSpace_textLines {entries : List (String × String)} (some : entries ≠ []) (rest : List Char) :
    ∃ more, skipSpace (textLines entries ++ rest) = '"' :: more := by
  have starts (entry : String × String) (rest : List Char) :
      ∃ more, skipSpace (textLine entry ++ rest) = '"' :: more := ⟨_, rfl⟩
  cases entries with
  | nil => exact absurd rfl some
  | cons entry others =>
      cases others with
      | nil => exact starts entry rest
      | cons next more =>
          rw [textLines, List.append_assoc]
          · exact starts entry _
          · simp

/-- After an opening brace and a line come entries. -/
theorem readFrom_brace_lines (one : List Char → Option (Tree × List Char)) (fuel : Nat)
    {entries : List (String × String)} (some : entries ≠ []) (rest : List Char) :
    Tree.readFrom one fuel ('\x7b' :: (textLines entries ++ rest)) =
      (readEntries one fuel (textLines entries ++ rest)).map fun found => (.object found.1, found.2) := by
  obtain ⟨more, starts⟩ := skipSpace_textLines some rest
  rw [Tree.readFrom, ← readEntries_skipSpace, starts]
  rfl

/-- A text that writes a map that is not empty is read as an object. -/
theorem parse?_textLines {entries : List (String × String)} (some : entries ≠ []) {text : String}
    (written : text.toList = '\x7b' :: (textLines entries ++ ['\n', '\x7d'])) :
    Tree.parse? text = .some (.object (entries.map textTree)) := by
  have long := length_le_textLines entries
  have length : text.toList.length = (textLines entries).length + 1 + 1 + 1 := by
    rw [written, List.length_cons, List.length_append]
    rfl
  have read := readEntries_textLines some ((textLines entries).length + 1 + 1)
    (Nat.le_trans long (Nat.le_add_right _ 4)) []
  have brace (chars : List Char) : skipSpace ('\x7b' :: chars) = '\x7b' :: chars := rfl
  rw [Tree.parse?, length, written, Tree.read, brace, readFrom_brace_lines _ _ some, read]
  rfl

/-- A written map is read as it was. -/
theorem readTextMap?_writeTextMap (map : Dictionary String) : readTextMap? (writeTextMap map) = some map := by
  have built := Dictionary.ofList_entries map
  rw [readTextMap?]
  cases full : map.entries with
  | nil =>
      have text : writeTextMap map = "\x7b\x7d" := by rw [writeTextMap, textMapChars, Dictionary.isEmpty, full]; rfl
      have parsed : Tree.parse? "\x7b\x7d" = some (.object []) := rfl
      rw [full] at built
      rw [text, parsed, ← built]
      rfl
  | cons entry rest =>
      have text : (writeTextMap map).toList = '\x7b' :: (textLines map.entries ++ ['\n', '\x7d']) := by
        rw [writeTextMap, textMapChars, Dictionary.isEmpty, full, String.toList_ofList]
        rfl
      have parsed := parse?_textLines (by rw [full]; exact List.cons_ne_nil _ _) text
      rw [parsed]
      dsimp only
      rw [mapM_textTree, Option.map_some, built]

end RelayClient.Json
