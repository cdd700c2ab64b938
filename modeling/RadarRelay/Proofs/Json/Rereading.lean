import RadarRelay.Proofs.Json.Numerals

/-!
# Reading what was written

The text of a free-form value is JSON. It is read as the same value, if its numbers are exact,
its fields are in order and it nests no deeper than documents may. A deeper value is refused.
-/

namespace RadarRelay.Json

open RadarRelay.Number RadarRelay.Document

/-! ## Strings -/

/-- An escape of four digits is scanned as the character of its digits. -/
theorem scanString_escape {character : Char} (small : character.toNat < 0x20) (content : List Char)
    (rest : List Char) :
    scanString .plain content
        ('\\' :: 'u' :: '0' :: '0' :: Text.hexDigit (character.toNat / 16) ::
          Text.hexDigit (character.toNat % 16) :: rest) =
      scanString .plain (character :: content) rest := by
  have high := hexValue?_hexDigit (by omega : character.toNat / 16 < 16)
  have low := hexValue?_hexDigit (by omega : character.toNat % 16 < 16)
  have zero : hexValue? '0' = some 0 := rfl
  have code : character.toNat / 16 * 16 + character.toNat % 16 = character.toNat := by omega
  have single : isTrailSurrogate character.toNat = false ∧
      isLeadSurrogate character.toNat = false := by
    simp only [isTrailSurrogate, isLeadSurrogate, Bool.and_eq_false_iff, decide_eq_false_iff_not]
    omega
  simp [scanString, zero, high, low, code, unit16, single]

/-- What is written for a character is scanned as the character. -/
theorem scanString_printChar (character : Char) (content rest : List Char) :
    scanString .plain content (printChar character ++ rest) =
      scanString .plain (character :: content) rest := by
  unfold printChar
  split
  · rename_i same
    rw [same]
    rfl
  split
  · rename_i same
    rw [same]
    rfl
  split
  · rename_i same
    rw [same]
    rfl
  split
  · rename_i same
    rw [same]
    rfl
  split
  · rename_i same
    rw [same]
    rfl
  split
  · rename_i same
    rw [same]
    rfl
  split
  · rename_i same
    rw [same]
    rfl
  split
  · rename_i small
    exact scanString_escape small content rest
  · rename_i quote backslash _ _ _ _ _ large
    simp [scanString, quote, backslash, large]

/-- What is written for a text is scanned up to the closing quote. -/
theorem scanString_print (written content rest : List Char) :
    scanString .plain content (written.flatMap printChar ++ '"' :: rest) =
      (.ok (String.ofList (content.reverse ++ written)), rest) := by
  induction written generalizing content with
  | nil => simp [scanString]
  | cons character written ih =>
      rw [List.flatMap_cons, List.append_assoc, scanString_printChar, ih, List.reverse_cons,
        List.append_assoc, List.singleton_append]

theorem tokens_printString (text : String) (rest : List Char) :
    tokens (printString text ++ rest) =
      .string (.before (text.toList.flatMap printChar ++ ['"'])) (.ok text) :: tokens rest := by
  have given : printString text ++ rest =
      '"' :: (text.toList.flatMap printChar ++ '"' :: rest) := by
    simp [printString]
  have opening : Opening.before (text.toList.flatMap printChar ++ '"' :: rest) =
      .before (text.toList.flatMap printChar ++ ['"']) := by
    cases text.toList.flatMap printChar <;> rfl
  rw [given, tokens]
  simp [isBlank, scanToken, Token.punctuation?, scanString_print, opening]

/-! ## Tokens of values -/

theorem tokens_punctuation (character : Char) {token : Token} {rest : List Char}
    (found : Token.punctuation? rest character = some token) :
    tokens (character :: rest) = token :: tokens rest := by
  have started : isBlank character = false := by
    unfold Token.punctuation? at found
    split at found <;> first | rfl | cases found
  rw [tokens, started]
  simp [scanToken, found]

/-- What is found again in the text of a value: exact numbers, and fields in order. -/
def Exact : Json → Prop :=
  Proper Number.Exact

/-- The outline of what is written for a number. -/
def outlineOfNumber (value : Number) : Outline :=
  .number (.ofNumber value)

variable {plain : Json → Prop}

/-- Everything that is written for a value is found again when its numbers are exact. -/
theorem rereads_of_numbers (numbers : ∀ {value : Number}, plain (.number value) → value.Exact)
    (names : ∀ {fields : List (String × Json)}, plain (.object fields) →
      ∀ field ∈ fields, plain (.string field.1)) :
    Rereads tokens outlineOfNumber plain where
  nil := tokens.eq_1
  punctuation := tokens_punctuation
  string rest _ := tokens_printString _ rest
  null {rest} _ := by
    refine ⟨.constant .null (.ok ""), ?_, fun _ _ => rfl⟩
    show tokens ('n' :: 'u' :: 'l' :: 'l' :: rest) = _
    rw [tokens]
    rfl
  bool value {rest} _ := by
    cases value with
    | true =>
        refine ⟨.constant (.bool true) (.ok ""), ?_, fun _ _ => rfl⟩
        show tokens ('t' :: 'r' :: 'u' :: 'e' :: rest) = _
        rw [tokens]
        rfl
    | false =>
        refine ⟨.constant (.bool false) (.ok ""), ?_, fun _ _ => rfl⟩
        show tokens ('f' :: 'a' :: 'l' :: 's' :: 'e' :: rest) = _
        rw [tokens]
        rfl
  number {value rest} given delimited := by
    obtain ⟨text, negative, tidy, written, value⟩ := (numbers given).exists_text
    refine ⟨.number (.ofNumber _), ?_, fun _ _ => rfl⟩
    rw [print, written]
    exact tokens_signed tidy negative delimited (value rest)
  names := names

/-- Everything that is written for an exact value is found again. -/
theorem rereads : Rereads tokens outlineOfNumber Exact :=
  rereads_of_numbers (fun exact => exact) fun _ _ _ => trivial

theorem bears_iff {depth : Nat} : rules.Bears depth ↔ depth ≤ 127 := by
  simp [Rules.Bears, rules]

/-- The draft of what is written for a value, unless it nests too deep. -/
theorem goes_draft (reads : Rereads tokens outlineOfNumber plain) {value : Json}
    (every : value.Every plain) :
    rules.Goes value.depth (draft value.text) ⟨written outlineOfNumber value, none⟩ := by
  have built := reads.goes_build rules every
  rwa [draft, text, String.toList_ofList]

/-- The outline of what is written for an exact value denotes the value. -/
theorem Exact.denoted {value : Json} (exact : value.Exact) : Denoted outlineOfNumber value := by
  cases value with
  | number number =>
      cases number with
      | whole value => rfl
      | real value =>
          obtain ⟨negative, rfl⟩ := exists_eq_zero exact
          cases negative <;> rfl
  | object fields => exact exact
  | _ => trivial

/-- The text of an exact value is read as the value, unless it nests too deep. -/
theorem read_text {value : Json} (exact : value.Every Exact) :
    read value.text =
      if value.depth ≤ 127 then .ok value else .error (.syntactic .nestingTooDeep) := by
  have drafted := goes_draft rereads exact
  have denoted := toJson_written (exact.mono fun _ => Exact.denoted)
  unfold read
  split
  · rename_i shallow
    simp only [drafted.1 (bears_iff.2 shallow), denoted]
  · rename_i deep
    simp only [drafted.2 (mt bears_iff.1 deep)]

end RadarRelay.Json
