import RadarRelay.Proofs.Json5.Strings

/-!
# Reading what was written

The text of a free-form value is JSON5, up to the separators in its strings and names.
Without any, reading the text gives the outline of the value, in which only the openings
of strings depend on the text. With one, the text is not grammatical: the literal breaks
off there, and nothing that could follow mends it.
-/

namespace RadarRelay.Json5

open RadarRelay.Number RadarRelay.Document

/-! ## Separators and outlines of values -/

mutual

/-- Whether a string or a name in a value holds a separator. -/
def separated : Json → Bool
  | .null | .bool _ | .number _ => false
  | .string content => hasSeparator content
  | .array items => separatedItems items
  | .object fields => separatedFields fields

@[inherit_doc separated]
def separatedItems : List Json → Bool
  | [] => false
  | item :: items => separated item || separatedItems items

@[inherit_doc separated]
def separatedFields : List (String × Json) → Bool
  | [] => false
  | (name, value) :: fields => hasSeparator name || separated value || separatedFields fields

end

/-- The outline of what is written for a number. -/
def outlineOfNumber : Json.Number → Outline
  | .whole value => .number (numeral (Json.Number.whole value).print)
  | .real value => if value.isFinite then .number (numeral (Json.Number.real value).print) else .null

mutual

/-- The outline of what is written for a value. -/
def outlineOf : Json → Outline
  | .null => .null
  | .bool value => .bool value
  | .number value => outlineOfNumber value
  | .string content => .string (openingOf content) (.ok content)
  | .array items => .array .narrow (outlineOfItems items)
  | .object fields => .object .narrow (outlineOfFields fields)

@[inherit_doc outlineOf]
def outlineOfItems : List Json → List Outline
  | [] => []
  | item :: items => outlineOf item :: outlineOfItems items

@[inherit_doc outlineOf]
def outlineOfFields : List (String × Json) → List (Spelling × Outline)
  | [] => []
  | (name, value) :: fields => (.ok name, outlineOf value) :: outlineOfFields fields

end

mutual

/-- It is the outline of the value with these numbers. -/
theorem outlineOf_eq_written (value : Json) : outlineOf value = written outlineOfNumber value := by
  cases value with
  | array items => rw [outlineOf, written, outlineOfItems_eq_writtenItems items]
  | object fields => rw [outlineOf, written, outlineOfFields_eq_writtenFields fields]
  | _ => rfl

theorem outlineOfItems_eq_writtenItems (items : List Json) :
    outlineOfItems items = writtenItems outlineOfNumber items := by
  cases items with
  | nil => rfl
  | cons item items =>
      rw [outlineOfItems, writtenItems, outlineOf_eq_written item,
        outlineOfItems_eq_writtenItems items]

theorem outlineOfFields_eq_writtenFields (fields : List (String × Json)) :
    outlineOfFields fields = writtenFields outlineOfNumber fields := by
  cases fields with
  | nil => rfl
  | cons field fields =>
      obtain ⟨name, value⟩ := field
      rw [outlineOfFields, writtenFields, outlineOf_eq_written value,
        outlineOfFields_eq_writtenFields fields]

end

/-! ## Tokens -/

theorem tokens_punctuation (character : Char) {token : Token} {rest : List Char}
    (found : Token.punctuation? rest character = some token) :
    tokens (character :: rest) = token :: tokens rest := by
  have started : isBlank character = false ∧ character ≠ '/' := by
    unfold Token.punctuation? at found
    split at found <;> first | decide | cases found
  rw [tokens, started.1, if_neg Bool.false_ne_true, if_neg started.2]
  simp [scanToken, found]

/-- A number is a literal with its outline, or the word for nothing. -/
theorem outlineOfNumber_cases (number : Json.Number) :
    (∃ (text : DecimalText) (negative : Bool), text.Tidy ∧ number.print = text.signed negative ∧
      outlineOfNumber number = .number (numeral number.print)) ∨
    number.print = ['n', 'u', 'l', 'l'] ∧ outlineOfNumber number = .null := by
  cases number with
  | whole value =>
      exact .inl ⟨_, _, DecimalText.tidy_ofNat value.natAbs, toList_intText value, rfl⟩
  | real value =>
      cases value with
      | nan | infinite => exact .inr ⟨rfl, rfl⟩
      | finite negative magnitude =>
          obtain ⟨text, tidy, -, written, -⟩ := Style.exists_text_document negative magnitude
          exact .inl ⟨text, negative, tidy, written, rfl⟩

theorem separatedItems_eq_false_iff {items : List Json} :
    separatedItems items = false ↔ ∀ item ∈ items, separated item = false := by
  induction items with
  | nil => simp [separatedItems]
  | cons item items ih => simp [separatedItems, ih]

theorem separatedFields_eq_false_iff {fields : List (String × Json)} :
    separatedFields fields = false ↔
      ∀ field ∈ fields, hasSeparator field.1 = false ∧ separated field.2 = false := by
  induction fields with
  | nil => simp [separatedFields]
  | cons field fields ih => simp [separatedFields, ih]

/-- Everything that is written for a value without separators is found again. -/
theorem rereads : Rereads tokens outlineOfNumber fun part => separated part = false where
  nil := by
    rw [tokens]
  punctuation := tokens_punctuation
  string {text} rest plain := by
    obtain ⟨tail, written, same⟩ := exists_tokens_printString text rest
    rw [separated] at plain
    rw [written, same plain, stringToken, plain]
    rfl
  null delimited := ⟨_, tokens_null delimited, fun _ _ => rfl⟩
  bool value {rest} delimited := by
    cases value with
    | true => exact ⟨_, tokens_true delimited, fun _ _ => rfl⟩
    | false => exact ⟨_, tokens_false delimited, fun _ _ => rfl⟩
  number {value rest} _ delimited := by
    rw [Json.print]
    rcases outlineOfNumber_cases value with ⟨text, negative, tidy, written, outline⟩ |
      ⟨written, outline⟩
    · refine ⟨.number (numeral (text.signed negative)), ?_, fun _ _ => ?_⟩
      · rw [written, tokens_signed tidy negative delimited]
      · rw [outline, written]
        rfl
    · refine ⟨.constant .null (.ok "null"), ?_, fun _ _ => ?_⟩
      · rw [written]
        exact tokens_null delimited
      · rw [outline]
        rfl
  names plain field member := (separatedFields_eq_false_iff.1 plain field member).1

/-- No part of a value without separators has one. -/
theorem every_separated {value : Json} (plain : separated value = false) :
    value.Every fun part => separated part = false := by
  intro part inside
  induction inside with
  | self => exact plain
  | item _ member ih => exact ih (separatedItems_eq_false_iff.1 plain _ member)
  | field _ member ih => exact ih (separatedFields_eq_false_iff.1 plain _ member).2

theorem bears (depth : Nat) : rules.Bears depth := nofun

/-- What is written for a value without separators fills its place with its outline. -/
theorem run_print (value : Json) (plain : separated value = false) (path : Path)
    {rest : List Char} (delimited : Delimited rest) :
    rules.run (.place path) (tokens (value.print ++ rest)) =
      rules.run (.fill path (outlineOf value)) (tokens rest) := by
  rw [outlineOf_eq_written]
  exact (rereads.goes_print value (every_separated plain) path (bears _) delimited).1 (bears _)

/-- What is written for a value does not begin with the end of an array. -/
theorem exists_tokens_print (value : Json) {rest : List Char} (delimited : Delimited rest) :
    ∃ token more, tokens (value.print ++ rest) = token :: more ∧ isArrayEnd token = false := by
  cases plain : separated value with
  | false => exact rereads.exists_tokens_print (every_separated plain) delimited
  | true =>
      cases value with
      | null | bool | number => cases plain
      | string content =>
          obtain ⟨tail, written, -⟩ := exists_tokens_printString content rest
          refine ⟨_, _, written, ?_⟩
          unfold stringToken
          split <;> rfl
      | array items => cases items <;> exact ⟨_, _, tokens_punctuation '[' rfl, rfl⟩
      | object fields => cases fields <;> exact ⟨_, _, tokens_punctuation '\x7b' rfl, rfl⟩

/-! ## Separators are faults -/

/-- A token that is not completed has no place anywhere. -/
theorem fault_bad (state : State) (inString : Bool) (fault : SyntaxFault) (more : List Token) :
    (rules.run state (.bad inString fault :: more)).fault?.isSome = true := by
  cases state with
  | firstName | nextName => cases inString <;> rfl
  | _ => rfl

theorem fault_printString {content : String} (separator : hasSeparator content = true)
    (state : State) (rest : List Char) :
    (rules.run state (tokens (Json.printString content ++ rest))).fault?.isSome = true := by
  obtain ⟨tail, written, -⟩ := exists_tokens_printString content rest
  rw [written, stringToken, separator]
  exact fault_bad state true _ _

mutual

/-- A separator in a value is a fault of its text. -/
theorem fault_print (value : Json) (separator : separated value = true) (path : Path)
    (rest : List Char) :
    (rules.run (.place path) (tokens (value.print ++ rest))).fault?.isSome = true := by
  cases value with
  | null | bool | number => cases separator
  | string content => exact fault_printString separator _ rest
  | array items =>
      cases items with
      | nil => cases separator
      | cons item items =>
          have following := delimited_printItems items rest
          obtain ⟨token, more, written, value⟩ := exists_tokens_print item following
          rw [print_array_append, tokens_punctuation '[' rfl]
          show (rules.run (.firstItem _ path) _).fault?.isSome = true
          rw [written, (Rules.run_item value _ [] _ _).1, ← written]
          cases first : separated item with
          | true => exact fault_print item first _ _
          | false =>
              rw [separated, separatedItems, first] at separator
              rw [run_print item first _ following]
              exact fault_printItems items separator _ _ path rest
  | object fields =>
      cases fields with
      | nil => cases separator
      | cons field fields =>
          obtain ⟨name, value⟩ := field
          have following := delimited_printFields fields rest
          rw [print_object_append, tokens_punctuation '\x7b' rfl]
          show (rules.run (.firstName _ path) _).fault?.isSome = true
          cases named : hasSeparator name with
          | true => exact fault_printString named _ _
          | false =>
          rw [(rereads.run_name named _ [] path _).1]
          cases first : separated value with
          | true => exact fault_print value first _ _
          | false =>
              rw [separated, separatedFields, named, first] at separator
              rw [run_print value first _ following]
              exact fault_printFields fields separator _ _ path rest

/-- So is one in the remaining items of an array. -/
theorem fault_printItems (items : List Json) (separator : separatedItems items = true)
    (opening : Opening) (before : List Outline) (path : Path) (rest : List Char) :
    (rules.run (.afterItem opening before path)
      (tokens (Json.printItems items ++ rest))).fault?.isSome = true := by
  cases items with
  | nil => cases separator
  | cons item items =>
      have following := delimited_printItems items rest
      obtain ⟨token, more, written, value⟩ := exists_tokens_print item following
      rw [printItems_append, tokens_punctuation ',' rfl]
      show (rules.run (.nextItem opening before path) _).fault?.isSome = true
      rw [written, (Rules.run_item value _ _ _ _).2, ← written]
      cases first : separated item with
      | true => exact fault_print item first _ _
      | false =>
          rw [separatedItems, first] at separator
          rw [run_print item first _ following]
          exact fault_printItems items separator _ _ path rest

/-- So is one in the remaining fields of an object. -/
theorem fault_printFields (fields : List (String × Json)) (separator : separatedFields fields = true)
    (opening : Opening) (before : List (Spelling × Outline)) (path : Path) (rest : List Char) :
    (rules.run (.afterField opening before path)
      (tokens (Json.printFields fields ++ rest))).fault?.isSome = true := by
  cases fields with
  | nil => cases separator
  | cons field fields =>
      obtain ⟨name, value⟩ := field
      have following := delimited_printFields fields rest
      rw [printFields_append, tokens_punctuation ',' rfl]
      show (rules.run (.nextName opening before path) _).fault?.isSome = true
      cases named : hasSeparator name with
      | true => exact fault_printString named _ _
      | false =>
      rw [(rereads.run_name named opening before path _).2]
      cases first : separated value with
      | true => exact fault_print value first _ _
      | false =>
          rw [separatedFields, named, first] at separator
          rw [run_print value first _ following]
          exact fault_printFields fields separator _ _ path rest

end

/-- The text of a value has its outline, unless a separator makes it ungrammatical. -/
theorem read?_text (value : Json) :
    read? value.text = if separated value then none else some (outlineOf value) := by
  have given : value.text.toList = value.print ++ [] := by
    rw [Json.text, String.toList_ofList, List.append_nil]
  unfold read? Rules.build
  rw [given]
  cases separator : separated value with
  | true =>
      have fault := fault_print value separator .top []
      rw [← Option.not_isNone, Bool.not_eq_true'] at fault
      simp only [fault]
      rfl
  | false =>
      have built := run_print value separator .top delimited_nil
      have complete : rules.run (.fill .top (outlineOf value)) (tokens []) =
          ⟨outlineOf value, none⟩ := by
        rw [tokens]
        rfl
      rw [built, complete]
      rfl

end RadarRelay.Json5
