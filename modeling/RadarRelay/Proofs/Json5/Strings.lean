import RadarRelay.Proofs.Json5.Numerals

/-!
# Strings and words that have been written

Every character of a text is found again behind the escape that it was written with.
The two separators of Unicode are the exception: they are written as they are, and a
string literal may not hold them.
-/

namespace RadarRelay.Json5

open RadarRelay.Number RadarRelay.Document

/-- The line and paragraph separators, which end a line as a line feed does. -/
def isSeparator (character : Char) : Bool :=
  character == '\u2028' || character == '\u2029'

/-- Whether a text holds a separator. -/
def hasSeparator (text : String) : Bool :=
  text.toList.any isSeparator

/-- An escape of four digits is scanned as the unit of its digits. -/
theorem scanString_escape {code : Nat} (small : code < 0x20) (pieces : List Piece)
    (rest : List Char) :
    scanString '"' .plain pieces
        ('\\' :: 'u' :: '0' :: '0' :: Text.hexDigit (code / 16) :: Text.hexDigit (code % 16) :: rest) =
      scanString '"' .plain (.unit code :: pieces) rest := by
  have high := hexValue?_hexDigit (by omega : code / 16 < 16)
  have low := hexValue?_hexDigit (by omega : code % 16 < 16)
  have zero : Json.hexValue? '0' = some 0 := rfl
  have number : hexNumber? ['0', '0', Text.hexDigit (code / 16), Text.hexDigit (code % 16)] =
      some code := by
    simp [hexNumber?, zero, high, low]
    omega
  simp [scanString, isLineEnd, zero, high, low, number]

/-- What is written for a character is scanned as a piece that spells the character. -/
theorem exists_piece {character : Char} (plain : isSeparator character = false) :
    ∃ piece,
      (∀ pieces rest, scanString '"' .plain pieces (Json.printChar character ++ rest) =
        scanString '"' .plain (piece :: pieces) rest) ∧
      ∀ rest, spell (piece :: rest) = (spell rest).map (character :: ·) := by
  unfold Json.printChar
  split
  · rename_i same
    subst same
    exact ⟨.character ['"'] '"', fun _ _ => rfl, fun _ => rfl⟩
  split
  · rename_i same
    subst same
    exact ⟨.character ['\\'] '\\', fun _ _ => rfl, fun _ => rfl⟩
  split
  · rename_i same
    exact ⟨.character ['b'] character, fun _ _ => same ▸ rfl, fun _ => rfl⟩
  split
  · rename_i same
    exact ⟨.character ['f'] character, fun _ _ => same ▸ rfl, fun _ => rfl⟩
  split
  · rename_i same
    exact ⟨.character ['n'] character, fun _ _ => same ▸ rfl, fun _ => rfl⟩
  split
  · rename_i same
    exact ⟨.character ['r'] character, fun _ _ => same ▸ rfl, fun _ => rfl⟩
  split
  · rename_i same
    exact ⟨.character ['t'] character, fun _ _ => same ▸ rfl, fun _ => rfl⟩
  split
  · rename_i small
    refine ⟨.unit character.toNat, fun pieces rest => scanString_escape small pieces rest,
      fun rest => ?_⟩
    have single : Json.isTrailSurrogate character.toNat = false ∧
        Json.isLeadSurrogate character.toNat = false := by
      simp only [Json.isTrailSurrogate, Json.isLeadSurrogate, Bool.and_eq_false_iff,
        decide_eq_false_iff_not]
      omega
    rw [spell.eq_def]
    simp [single]
  · rename_i quote backslash _ _ feed carriage _ _
    refine ⟨.character [character] character, fun pieces rest => ?_, fun _ => rfl⟩
    have inside : isLineEnd character = false := by
      unfold isSeparator at plain
      unfold isLineEnd
      rw [Bool.or_assoc, plain]
      simp [feed, carriage]
    simp [scanString, quote, backslash, inside]

/-- What is written for a text without separators is scanned up to the closing quote, as pieces
that spell the text. -/
theorem exists_pieces {content : List Char} (plain : content.any isSeparator = false) :
    ∃ found,
      (∀ pieces rest,
        scanString '"' .plain pieces (content.flatMap Json.printChar ++ '"' :: rest) =
          (some (pieces.reverse ++ found), rest)) ∧
      spell found = .ok content := by
  induction content with
  | nil =>
      refine ⟨[], fun pieces rest => ?_, rfl⟩
      simp [scanString]
  | cons character content ih =>
      rw [List.any_cons, Bool.or_eq_false_iff] at plain
      obtain ⟨piece, scanned, spelled⟩ := exists_piece plain.1
      obtain ⟨found, scannedRest, spelledRest⟩ := ih plain.2
      refine ⟨piece :: found, fun pieces rest => ?_, ?_⟩
      · rw [List.flatMap_cons, List.append_assoc, scanned, scannedRest, List.reverse_cons,
          List.append_assoc, List.singleton_append]
      · rw [spelled, spelledRest]
        rfl

/-- A separator ends the scan of a literal without a result. -/
theorem scanString_separator {content : List Char} (separated : content.any isSeparator = true)
    (pieces : List Piece) (rest : List Char) :
    (scanString '"' .plain pieces (content.flatMap Json.printChar ++ rest)).1 = none := by
  induction content generalizing pieces with
  | nil => cases separated
  | cons character content ih =>
      rw [List.flatMap_cons, List.append_assoc]
      cases first : isSeparator character with
      | true =>
          rw [isSeparator, Bool.or_eq_true, beq_iff_eq, beq_iff_eq] at first
          rcases first with rfl | rfl <;> rfl
      | false =>
          rw [List.any_cons, first, Bool.false_or] at separated
          obtain ⟨piece, scanned, -⟩ := exists_piece first
          rw [scanned]
          exact ih separated _

/-- Whether the content of a string literal begins with a character of several bytes. -/
def openingOf (text : String) : Opening :=
  .before (text.toList.flatMap Json.printChar ++ ['"'])

theorem opening_before (text : String) (rest : List Char) :
    Opening.before (text.toList.flatMap Json.printChar ++ '"' :: rest) = openingOf text := by
  unfold openingOf
  cases text.toList.flatMap Json.printChar <;> rfl

/-- The token of what is written for a text. -/
def stringToken (text : String) : Token :=
  if hasSeparator text then .bad true .expectedValue else .string (openingOf text) (.ok text)

/-- A text is written as one token, unless a separator breaks it off. -/
theorem exists_tokens_printString (text : String) (rest : List Char) :
    ∃ tail, tokens (Json.printString text ++ rest) = stringToken text :: tokens tail ∧
      (hasSeparator text = false → tail = rest) := by
  have written : Json.printString text ++ rest =
      '"' :: (text.toList.flatMap Json.printChar ++ '"' :: rest) := by
    simp [Json.printString]
  have started : isBlank '"' = false := rfl
  have noSlash : '"' ≠ '/' := by decide
  rw [written, tokens, started, if_neg Bool.false_ne_true, if_neg noSlash]
  refine ⟨_, congrArg (· :: _) ?_, fun plain => ?_⟩
  · unfold scanToken stringToken
    simp only [Token.punctuation?, opening_before]
    cases separated : hasSeparator text with
    | true =>
        rw [hasSeparator] at separated
        rw [scanString_separator separated]
        rfl
    | false =>
        rw [hasSeparator] at separated
        obtain ⟨found, scanned, spelled⟩ := exists_pieces separated
        rw [scanned]
        simp [spelling, spelled]
  · rw [hasSeparator] at plain
    obtain ⟨found, scanned, -⟩ := exists_pieces plain
    simp [scanToken, Token.punctuation?, scanned]

/-! ## Words -/

/-- Letters that can only be part of a word. -/
def isWordLetter (character : Char) : Bool :=
  Text.isIdentifierStart character && !isDigit character && !isBlank character &&
    !(['[', ']', '\x7b', '\x7d', ',', ':', '"', '\'', '+', '-', '.', '\\', '/'].contains character)

/-- The pieces of a word that is written without escapes. -/
def plainPieces (word : List Char) : List Piece :=
  word.map fun character => .character [character] character

/-- A text that no word goes on into. -/
def EndsWord (rest : List Char) : Prop :=
  ∀ character ∈ rest.head?, Text.isIdentifierPart character = false ∧ character ≠ '\\'

/-- The blanks of JSON and what may follow a value belong to no word. -/
theorem endsWord_of_mem {rest : List Char}
    (ended : ∀ character ∈ rest.head?,
      character ∈ [',', ']', '\x7d', ' ', '\n', '\t', '\r']) :
    EndsWord rest := by
  intro character first
  have member := ended character first
  simp only [List.mem_cons, List.not_mem_nil, or_false] at member
  -- One character at a time: the kernel goes through the tables of identifiers for each.
  rcases member with rfl | rfl | rfl | rfl | rfl | rfl | rfl <;> decide +kernel

theorem endsWord_of_delimited {rest : List Char} (delimited : Delimited rest) : EndsWord rest :=
  endsWord_of_mem (delimited.head (by simp) (by simp) (by simp))

/-- A word is scanned up to its end. -/
theorem scanIdentifier_word {word rest : List Char} (letters : word.all isWordLetter = true)
    (ended : EndsWord rest) (started : Bool) (given : started = true ∨ word ≠ [])
    (pieces : List Piece) :
    scanIdentifier started pieces (word ++ rest) = (pieces.reverse ++ plainPieces word, rest) := by
  induction word generalizing started pieces with
  | nil =>
      obtain rfl := given.resolve_right (· rfl)
      cases rest with
      | nil => simp [scanIdentifier, plainPieces]
      | cons character rest => simp [scanIdentifier, ended character rfl, plainPieces]
  | cons character word ih =>
      rw [List.all_cons, Bool.and_eq_true] at letters
      obtain ⟨letter, letters⟩ := letters
      simp only [isWordLetter, Bool.and_eq_true, Bool.not_eq_true', List.contains_eq_mem,
        decide_eq_false_iff_not] at letter
      have noEscape : character ≠ '\\' := by
        rintro rfl
        simp at letter
      have next : (if started = true then Text.isIdentifierPart character
          else Text.isIdentifierStart character) = true := by
        cases started with
        | true => exact Text.isIdentifierPart_of_isIdentifierStart letter.1.1.1
        | false => exact letter.1.1.1
      rw [List.cons_append, scanIdentifier, if_pos next, ih letters true (.inl rfl)]
      · simp [plainPieces]
      · exact fun _ _ _ _ _ same => absurd same noEscape

/-- A word of letters is one token. -/
theorem scanToken_word (first : Char) (letters : List Char) {rest : List Char}
    (word : (first :: letters).all isWordLetter = true) (ended : EndsWord rest) :
    scanToken first (letters ++ rest) =
      (wordToken (first :: letters) (plainPieces (first :: letters)), rest) := by
  have scanned := scanIdentifier_word word ended false (.inr (List.cons_ne_nil _ _)) []
  rw [List.all_cons, Bool.and_eq_true] at word
  obtain ⟨letter, -⟩ := word
  simp only [isWordLetter, Bool.and_eq_true, Bool.not_eq_true', List.contains_eq_mem,
    decide_eq_false_iff_not, List.mem_cons, not_or] at letter
  obtain ⟨⟨⟨-, noDigit⟩, -⟩, marks⟩ := letter
  have noToken : Token.punctuation? (letters ++ rest) first = none :=
    Token.punctuation?_eq_none (by simp [marks]) _
  have length : (letters ++ rest).length + 1 - rest.length = (first :: letters).length := by
    simp
    omega
  rw [List.reverse_nil, List.nil_append, List.cons_append] at scanned
  unfold scanToken
  simp only [noToken, marks, noDigit, scanned, length]
  rw [← List.cons_append, List.take_left]
  simp

theorem tokens_word (first : Char) (letters : List Char) {rest : List Char}
    (word : (first :: letters).all isWordLetter = true) (delimited : Delimited rest) :
    tokens (first :: (letters ++ rest)) =
      wordToken (first :: letters) (plainPieces (first :: letters)) :: tokens rest := by
  have token := scanToken_word first letters word (endsWord_of_delimited delimited)
  rw [List.all_cons, Bool.and_eq_true] at word
  obtain ⟨letter, -⟩ := word
  simp only [isWordLetter, Bool.and_eq_true, Bool.not_eq_true', List.contains_eq_mem,
    decide_eq_false_iff_not, List.mem_cons, not_or] at letter
  obtain ⟨⟨-, started⟩, marks⟩ := letter
  have noSlash : first ≠ '/' := by simp [marks]
  rw [tokens, started, if_neg Bool.false_ne_true, if_neg noSlash, token]

/-- The constants are words. -/
theorem all_isWordLetter : ∀ word ∈ [['n', 'u', 'l', 'l'], ['t', 'r', 'u', 'e'],
    ['f', 'a', 'l', 's', 'e']], word.all isWordLetter = true := by
  decide +kernel

theorem tokens_null {rest : List Char} (delimited : Delimited rest) :
    tokens ('n' :: 'u' :: 'l' :: 'l' :: rest) = .constant .null (.ok "null") :: tokens rest :=
  tokens_word 'n' ['u', 'l', 'l'] (all_isWordLetter _ (by simp)) delimited

theorem tokens_true {rest : List Char} (delimited : Delimited rest) :
    tokens ('t' :: 'r' :: 'u' :: 'e' :: rest) =
      .constant (.bool true) (.ok "true") :: tokens rest :=
  tokens_word 't' ['r', 'u', 'e'] (all_isWordLetter _ (by simp)) delimited

theorem tokens_false {rest : List Char} (delimited : Delimited rest) :
    tokens ('f' :: 'a' :: 'l' :: 's' :: 'e' :: rest) =
      .constant (.bool false) (.ok "false") :: tokens rest :=
  tokens_word 'f' ['a', 'l', 's', 'e'] (all_isWordLetter _ (by simp)) delimited

end RadarRelay.Json5
