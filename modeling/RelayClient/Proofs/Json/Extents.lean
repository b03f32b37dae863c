import RelayClient.Json.Value

/-!
# How much of a text is read

A reader takes characters from the front of its input and leaves the rest as it stands. Each piece of a
string takes at least one of them, and each entry of an object has its colon among them. So no string of
an object is longer than the text of the object.
-/

namespace RelayClient

namespace Json

variable {input rest : List Char}

/-- What is behind a character of an end is an end. -/
theorem suffix_of_cons {c : Char} (ends : c :: rest <:+ input) : rest <:+ input :=
  (List.suffix_cons c rest).trans ends

theorem skipSpace_suffix (input : List Char) : skipSpace input <:+ input :=
  List.dropWhile_suffix isSpace

theorem takeDigits_suffix {digits : List Char} (taken : takeDigits input = (digits, rest)) : rest <:+ input := by
  cases taken
  exact List.dropWhile_suffix Char.isDigit

/-- A string is read up to its closing quote, and has no more pieces than characters before it. -/
theorem readPieces_extent {pieces : List Piece} (read : readPieces input = some (pieces, rest)) :
    rest <:+ input ∧ pieces.length < input.length := by
  induction input using readPieces.induct generalizing pieces with
  | case1 => cases read
  | case2 rest =>
      cases read
      exact ⟨List.suffix_cons _ _, Nat.succ_pos _⟩
  | case3 a b c d later failed =>
      rw [readPieces, failed] at read
      cases read
  | case4 a b c d later value others found ih =>
      rw [readPieces, found] at read
      obtain ⟨⟨more, left⟩, readLater, same⟩ := Option.map_eq_some_iff.mp read
      cases same
      obtain ⟨ends, shorter⟩ := ih readLater
      refine ⟨ends.trans (List.suffix_append ['\\', 'u', a, b, c, d] later), ?_⟩
      simp only [List.length_cons]
      omega
  | case5 letter later other failed =>
      rw [readPieces, failed] at read
      · cases read
      · exact other
  | case6 letter later other c found ih =>
      rw [readPieces, found] at read
      · obtain ⟨⟨more, left⟩, readLater, same⟩ := Option.map_eq_some_iff.mp read
        cases same
        obtain ⟨ends, shorter⟩ := ih readLater
        refine ⟨ends.trans (List.suffix_append ['\\', letter] later), ?_⟩
        simp only [List.length_cons]
        omega
      · exact other
  | case7 c later noQuote noUnit noEscape refused =>
      rw [readPieces, if_pos refused] at read
      · cases read
      all_goals assumption
  | case8 c later noQuote noUnit noEscape accepted ih =>
      rw [readPieces, if_neg accepted] at read
      · obtain ⟨⟨more, left⟩, readLater, same⟩ := Option.map_eq_some_iff.mp read
        cases same
        obtain ⟨ends, shorter⟩ := ih readLater
        refine ⟨ends.trans (List.suffix_cons c later), ?_⟩
        simp only [List.length_cons]
        omega
      all_goals assumption

theorem readWhole_suffix {digits : List Char} (read : readWhole input = some (digits, rest)) : rest <:+ input := by
  unfold readWhole at read
  split at read
  · cases read
  · next taken => cases read; exact takeDigits_suffix taken
  · cases read
  · next taken => cases read; exact takeDigits_suffix taken

theorem readFraction_suffix {digits : List Char} (read : readFraction input = some (digits, rest)) : rest <:+ input := by
  unfold readFraction at read
  split at read
  · split at read
    · cases read
    · next taken => cases read; exact (takeDigits_suffix taken).trans (List.suffix_cons _ _)
  · cases read
    exact List.suffix_rfl

theorem readSign_suffix (input : List Char) : (readSign input).2 <:+ input := by
  unfold readSign
  split
  · exact List.suffix_cons _ _
  · exact List.suffix_cons _ _
  · exact List.suffix_rfl

theorem readExponent_suffix {marks : List Char} (read : readExponent input = some (marks, rest)) : rest <:+ input := by
  unfold readExponent at read
  split at read
  · cases read
    exact List.suffix_rfl
  · next mark later =>
      split at read
      · dsimp only at read
        split at read
        · cases read
        · next taken =>
            cases read
            exact ((takeDigits_suffix taken).trans (readSign_suffix later)).trans (List.suffix_cons _ _)
      · cases read
        exact List.suffix_rfl

theorem readNumber_suffix {literal : List Char} (read : readNumber input = some (literal, rest)) : rest <:+ input := by
  unfold readNumber at read
  split at read
  · cases read
  next whole =>
  split at read
  · cases read
  next fraction =>
  split at read
  · cases read
  next exponent =>
  cases read
  exact ((readExponent_suffix exponent).trans (readFraction_suffix fraction)).trans (readWhole_suffix whole)

/-- The count of pieces of a string. -/
def Tree.pieceCount : Tree → Nat
  | .string pieces => pieces.length
  | _ => 0

/-- What is read leaves an end of the input, and a string has no more pieces than the input has characters. -/
def IsExtent (input : List Char) (tree : Tree) (rest : List Char) : Prop :=
  rest <:+ input ∧ tree.pieceCount ≤ input.length

theorem IsExtent.of_suffix {longer : List Char} {tree : Tree} (extent : IsExtent input tree rest)
    (ends : input <:+ longer) : IsExtent longer tree rest :=
  ⟨extent.1.trans ends, Nat.le_trans extent.2 ends.length_le⟩

/-- A reader of values reads extents. -/
def ReadsExtents (one : List Char → Option (Tree × List Char)) : Prop :=
  ∀ input tree rest, one input = some (tree, rest) → IsExtent input tree rest

variable {one : List Char → Option (Tree × List Char)} {fuel : Nat}

theorem ReadsExtents.readItems (extents : ReadsExtents one) {items : List Tree}
    (read : readItems one fuel input = some (items, rest)) : rest <:+ input := by
  induction fuel generalizing input items with
  | zero => cases read
  | succ fuel ih =>
      rw [Json.readItems] at read
      split at read
      · cases read
      next first left readFirst =>
      have ends := (skipSpace_suffix left).trans (extents _ _ _ readFirst).1
      split at read
      · next closed =>
          cases read
          rw [closed] at ends
          exact suffix_of_cons ends
      · next comma =>
          obtain ⟨⟨more, after⟩, readLater, same⟩ := Option.map_eq_some_iff.mp read
          cases same
          rw [comma] at ends
          exact (ih readLater).trans (suffix_of_cons ends)
      · cases read

theorem ReadsExtents.readEntry (extents : ReadsExtents one) {entry : List Piece × Tree}
    (read : readEntry one input = some (entry, rest)) : IsExtent input entry.2 rest ∧ ':' ∈ input := by
  rw [Json.readEntry] at read
  split at read
  · next opened =>
      have ends := skipSpace_suffix input
      rw [opened] at ends
      split at read
      · cases read
      next key left readKey =>
      have past := (skipSpace_suffix left).trans ((readPieces_extent readKey).1.trans (suffix_of_cons ends))
      split at read
      · next colon =>
          obtain ⟨⟨value, after⟩, readValue, same⟩ := Option.map_eq_some_iff.mp read
          cases same
          rw [colon] at past
          exact ⟨(extents _ _ _ readValue).of_suffix (suffix_of_cons past), past.subset (.head _)⟩
      · cases read
  · cases read

theorem ReadsExtents.readEntries (extents : ReadsExtents one) {entries : List (List Piece × Tree)}
    (read : readEntries one fuel input = some (entries, rest)) :
    rest <:+ input ∧ (∀ entry ∈ entries, entry.2.pieceCount ≤ input.length) ∧ ':' ∈ input := by
  induction fuel generalizing input entries with
  | zero => cases read
  | succ fuel ih =>
      rw [Json.readEntries] at read
      split at read
      · cases read
      next first left readFirst =>
      obtain ⟨⟨endsFirst, fits⟩, colon⟩ := extents.readEntry readFirst
      have ends := (skipSpace_suffix left).trans endsFirst
      split at read
      · next closed =>
          cases read
          rw [closed] at ends
          refine ⟨suffix_of_cons ends, fun entry mem => ?_, colon⟩
          cases List.mem_singleton.mp mem
          exact fits
      · next comma =>
          obtain ⟨⟨more, after⟩, readLater, same⟩ := Option.map_eq_some_iff.mp read
          cases same
          rw [comma] at ends
          have past := suffix_of_cons ends
          obtain ⟨endsLater, fitLater, -⟩ := ih readLater
          refine ⟨endsLater.trans past, fun entry mem => ?_, colon⟩
          rcases List.mem_cons.mp mem with rfl | mem
          · exact fits
          · exact Nat.le_trans (fitLater entry mem) past.length_le
      · cases read

/-- What reading a value says of its text: how long the strings of an object are, and that entries need a colon. -/
structure Spells (input : List Char) (tree : Tree) (rest : List Char) : Prop where
  extent : IsExtent input tree rest
  strings : ∀ entries, tree = .object entries → ∀ entry ∈ entries, entry.2.pieceCount ≤ input.length
  colon : ∀ entries, tree = .object entries → entries ≠ [] → ':' ∈ input

theorem Spells.of_flat {tree : Tree} (ends : rest <:+ input) (fits : tree.pieceCount ≤ input.length)
    (flat : ∀ entries, tree ≠ .object entries) : Spells input tree rest where
  extent := ⟨ends, fits⟩
  strings entries same := absurd same (flat entries)
  colon entries same := absurd same (flat entries)

theorem ReadsExtents.readFrom (extents : ReadsExtents one) {tree : Tree}
    (read : Tree.readFrom one fuel input = some (tree, rest)) : Spells input tree rest := by
  unfold Tree.readFrom at read
  split at read
  · cases read
    exact .of_flat (List.suffix_append ['n', 'u', 'l', 'l'] rest) (Nat.zero_le _) nofun
  · cases read
    exact .of_flat (List.suffix_append ['t', 'r', 'u', 'e'] rest) (Nat.zero_le _) nofun
  · cases read
    exact .of_flat (List.suffix_append ['f', 'a', 'l', 's', 'e'] rest) (Nat.zero_le _) nofun
  · obtain ⟨⟨pieces, after⟩, readInside, same⟩ := Option.map_eq_some_iff.mp read
    cases same
    obtain ⟨ends, fits⟩ := readPieces_extent readInside
    exact .of_flat (ends.trans (List.suffix_cons _ _)) (Nat.le_succ_of_le (Nat.le_of_lt fits)) nofun
  · obtain ⟨⟨literal, after⟩, readInside, same⟩ := Option.map_eq_some_iff.mp read
    cases same
    exact .of_flat ((readNumber_suffix readInside).trans (List.suffix_cons _ _)) (Nat.zero_le _) nofun
  · next inside =>
      have within := (skipSpace_suffix inside).trans (List.suffix_cons '[' inside)
      split at read
      · next closed =>
          cases read
          rw [closed] at within
          exact .of_flat (suffix_of_cons within) (Nat.zero_le _) nofun
      · obtain ⟨⟨items, after⟩, readInside, same⟩ := Option.map_eq_some_iff.mp read
        cases same
        exact .of_flat ((extents.readItems readInside).trans within) (Nat.zero_le _) nofun
  · next inside =>
      have within := (skipSpace_suffix inside).trans (List.suffix_cons '\x7b' inside)
      split at read
      · next closed =>
          cases read
          rw [closed] at within
          refine ⟨⟨suffix_of_cons within, Nat.zero_le _⟩, ?_, ?_⟩
          · rintro entries same entry mem
            cases same
            cases mem
          · rintro entries same some
            cases same
            exact absurd rfl some
      · obtain ⟨⟨found, after⟩, readInside, same⟩ := Option.map_eq_some_iff.mp read
        cases same
        obtain ⟨ends, fits, colon⟩ := extents.readEntries readInside
        refine ⟨⟨ends.trans within, Nat.zero_le _⟩, ?_, ?_⟩
        · rintro entries same entry mem
          cases same
          exact Nat.le_trans (fits entry mem) within.length_le
        · rintro entries same some
          exact within.subset colon
  · obtain ⟨⟨literal, after⟩, readInside, same⟩ := Option.map_eq_some_iff.mp read
    cases same
    exact .of_flat (readNumber_suffix readInside) (Nat.zero_le _) nofun

theorem Spells.of_suffix {longer : List Char} {tree : Tree} (spells : Spells input tree rest) (ends : input <:+ longer) :
    Spells longer tree rest where
  extent := spells.extent.of_suffix ends
  strings entries same entry mem := Nat.le_trans (spells.strings entries same entry mem) ends.length_le
  colon entries same some := ends.subset (spells.colon entries same some)

/-- Whatever is read as a value, its text spells it. -/
theorem spells_of_read {fuel : Nat} {tree : Tree} (read : Tree.read fuel input = some (tree, rest)) :
    Spells input tree rest := by
  induction fuel generalizing input tree rest with
  | zero => cases read
  | succ fuel ih =>
      have extents : ReadsExtents (Tree.read fuel) := fun _ _ _ readInside => (ih readInside).extent
      rw [Tree.read] at read
      exact (extents.readFrom read).of_suffix (skipSpace_suffix input)

/-- The strings of an object are no longer than its text, which has a colon if there is an entry. -/
theorem object_of_parse? {text : String} {entries : List (List Piece × Tree)}
    (parsed : Tree.parse? text = some (.object entries)) :
    (∀ entry ∈ entries, entry.2.pieceCount ≤ text.toList.length) ∧ (entries ≠ [] → ':' ∈ text.toList) := by
  unfold Tree.parse? at parsed
  split at parsed
  · next tree left read =>
      split at parsed
      · cases parsed
        have spells := spells_of_read read
        exact ⟨spells.strings entries rfl, spells.colon entries rfl⟩
      · cases parsed
  · cases parsed

/-- A string has no more characters than pieces. -/
theorem length_of_piecesText? {pieces : List Piece} {chars : List Char} (joined : piecesText? pieces = some chars) :
    chars.length ≤ pieces.length := by
  induction pieces using piecesText?.induct generalizing chars with
  | case1 =>
      cases joined
      exact Nat.le_refl _
  | case2 c rest ih =>
      rw [piecesText?] at joined
      obtain ⟨later, joinedLater, rfl⟩ := Option.map_eq_some_iff.mp joined
      exact Nat.succ_le_succ (ih joinedLater)
  | case3 high first low rest second ih =>
      rw [piecesText?, if_pos first, if_pos second] at joined
      obtain ⟨later, joinedLater, rfl⟩ := Option.map_eq_some_iff.mp joined
      exact Nat.succ_le_succ (Nat.le_succ_of_le (ih joinedLater))
  | case4 high first low rest second =>
      rw [piecesText?, if_pos first, if_neg second] at joined
      cases joined
  | case5 high rest first alone =>
      rw [piecesText?, if_pos first] at joined
      · cases joined
      · exact alone
  | case6 high rest first second =>
      unfold piecesText? at joined
      rw [if_neg first, if_pos second] at joined
      cases joined
  | case7 high rest first second ih =>
      unfold piecesText? at joined
      rw [if_neg first, if_neg second] at joined
      obtain ⟨later, joinedLater, rfl⟩ := Option.map_eq_some_iff.mp joined
      exact Nat.succ_le_succ (ih joinedLater)

end Json

namespace JsonValue

open Json (Tree Piece text?)

variable {levels : Nat} {key text : String}

theorem length_of_ofTree? {tree : Tree} (valued : ofTree? levels tree = some (.string text)) :
    text.toList.length ≤ tree.pieceCount := by
  cases tree with
  | null | bool => cases valued
  | number literal =>
      obtain ⟨number, -, same⟩ := Option.map_eq_some_iff.mp valued
      cases same
  | string pieces =>
      obtain ⟨joined, pieced, same⟩ := Option.map_eq_some_iff.mp valued
      cases same
      obtain ⟨chars, spelled, rfl⟩ := Option.map_eq_some_iff.mp pieced
      rw [String.toList_ofList]
      exact Json.length_of_piecesText? spelled
  | array items =>
      cases levels with
      | zero => cases valued
      | succ left =>
          obtain ⟨values, -, same⟩ := Option.map_eq_some_iff.mp valued
          cases same
  | object entries =>
      cases levels with
      | zero => cases valued
      | succ left =>
          obtain ⟨values, -, same⟩ := Option.map_eq_some_iff.mp valued
          cases same

/-- A value that is found was found before, or comes from one of the trees. -/
theorem find?_of_ofEntries? {before after : List (String × JsonValue)} {entries : List (List Piece × Tree)}
    (taken : ofEntries? levels before entries = some after) {value : JsonValue}
    (found : Dictionary.find? key after = some value) :
    Dictionary.find? key before = some value ∨ ∃ entry ∈ entries, ofTree? levels entry.2 = some value := by
  induction entries generalizing before with
  | nil =>
      cases taken
      exact .inl found
  | cons entry rest ih =>
      obtain ⟨pieces, tree⟩ := entry
      rw [ofEntries?] at taken
      split at taken
      · next name first named valued =>
          rcases ih taken with earlier | ⟨entry, mem, later⟩
          · rw [Dictionary.find?_place] at earlier
            split at earlier
            · cases earlier
              exact .inr ⟨_, .head _, valued⟩
            · exact .inl earlier
          · exact .inr ⟨entry, .tail _ mem, later⟩
      · cases taken

/-- Only an object is valued as one, by its entries. -/
theorem exists_entries_of_ofTree? {levels : Nat} {tree : Tree} {values : List (String × JsonValue)}
    (valued : ofTree? (levels + 1) tree = some (.object values)) :
    ∃ entries, tree = .object entries ∧ ofEntries? levels [] entries = some values := by
  cases tree with
  | null | bool => cases valued
  | number | string | array =>
      obtain ⟨_, -, same⟩ := Option.map_eq_some_iff.mp valued
      cases same
  | object entries =>
      obtain ⟨taken, entered, same⟩ := Option.map_eq_some_iff.mp valued
      cases same
      exact ⟨entries, rfl, entered⟩

/-- A string under a key of a text is no longer than the text, which has a colon. -/
theorem length_of_get? {raw : String} {json : JsonValue} (parsed : parse? raw = some json)
    (found : json.get? key = some (.string text)) : text.toList.length ≤ raw.toList.length ∧ ':' ∈ raw.toList := by
  obtain ⟨tree, read, valued⟩ := Option.bind_eq_some_iff.mp parsed
  cases json with
  | null | bool | number | string | array => cases found
  | object values =>
      obtain ⟨entries, rfl, entered⟩ := exists_entries_of_ofTree? valued
      obtain ⟨fits, colon⟩ := Json.object_of_parse? read
      rcases find?_of_ofEntries? entered found with nothing | ⟨entry, mem, source⟩
      · cases nothing
      · exact ⟨Nat.le_trans (length_of_ofTree? source) (fits entry mem), colon (List.ne_nil_of_mem mem)⟩

end JsonValue

end RelayClient
