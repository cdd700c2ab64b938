import RadarRelay.Document.Builder
import RadarRelay.Json.Printer
import RadarRelay.Proofs.Json.Parts
import RadarRelay.Proofs.Number.Written

/-!
# Building what was written

The text of a free-form value is cut into tokens in much the same way by every format that can
hold it: brackets, commas and colons are tokens by themselves, and so is each literal. From
these tokens the outline of the value is built again, unless the value nests deeper than
documents may. Then the first bracket too many is the fault.
-/

namespace RadarRelay.Document

open RadarRelay.Number

/-! ## Outlines of values -/

section Written

variable (numbers : Json.Number → Outline)

mutual

/-- The outline of what is written for a value, when numbers have the outlines that are given. -/
def written : Json → Outline
  | .null => .null
  | .bool value => .bool value
  | .number value => numbers value
  | .string content =>
      .string (.before (content.toList.flatMap Json.printChar ++ ['"'])) (.ok content)
  | .array items => .array .narrow (writtenItems items)
  | .object fields => .object .narrow (writtenFields fields)

@[inherit_doc written]
def writtenItems : List Json → List Outline
  | [] => []
  | item :: items => written item :: writtenItems items

@[inherit_doc written]
def writtenFields : List (String × Json) → List (Spelling × Outline)
  | [] => []
  | (name, value) :: fields => (.ok name, written value) :: writtenFields fields

end

theorem writtenItems_eq_map (items : List Json) :
    writtenItems numbers items = items.map (written numbers) := by
  induction items with
  | nil => rfl
  | cons item items ih => rw [writtenItems, ih, List.map_cons]

theorem writtenFields_eq_map (fields : List (String × Json)) :
    writtenFields numbers fields =
      fields.map fun field => (.ok field.1, written numbers field.2) := by
  induction fields with
  | nil => rfl
  | cons field fields ih => rw [writtenFields, ih, List.map_cons]

end Written

/-! ## Texts of values -/

section Texts

variable (name : String) (value : Json) (items : List Json) (fields : List (String × Json))
  (rest : List Char)

theorem print_array_append : (Json.array (value :: items)).print ++ rest =
    '[' :: (value.print ++ (Json.printItems items ++ rest)) := by
  simp [Json.print]

theorem printItems_append : Json.printItems (value :: items) ++ rest =
    ',' :: (value.print ++ (Json.printItems items ++ rest)) := by
  simp [Json.printItems]

theorem print_object_append : (Json.object ((name, value) :: fields)).print ++ rest =
    '\x7b' :: (Json.printString name ++
      ':' :: (value.print ++ (Json.printFields fields ++ rest))) := by
  simp [Json.print]

theorem printFields_append : Json.printFields ((name, value) :: fields) ++ rest =
    ',' :: (Json.printString name ++
      ':' :: (value.print ++ (Json.printFields fields ++ rest))) := by
  simp [Json.printFields]

end Texts

theorem delimited_printItems (items : List Json) (rest : List Char) :
    Delimited (Json.printItems items ++ rest) := by
  cases items with
  | nil =>
      rintro character ⟨⟩
      exact .inr (.inl rfl)
  | cons item items =>
      rintro character ⟨⟩
      exact .inl rfl

theorem delimited_printFields (fields : List (String × Json)) (rest : List Char) :
    Delimited (Json.printFields fields ++ rest) := by
  cases fields with
  | nil =>
      rintro character ⟨⟩
      exact .inr (.inr rfl)
  | cons field fields =>
      rintro character ⟨⟩
      exact .inl rfl

/-- A number is a literal or the word for nothing. -/
theorem print_number_cases (number : Json.Number) :
    (∃ (text : DecimalText) (negative : Bool), text.Tidy ∧ number.print = text.signed negative) ∨
    number.print = ['n', 'u', 'l', 'l'] := by
  cases number with
  | whole value => exact .inl ⟨_, _, DecimalText.tidy_ofNat value.natAbs, toList_intText value⟩
  | real value =>
      cases value with
      | nan | infinite => exact .inr rfl
      | finite negative magnitude =>
          obtain ⟨text, tidy, -, written, -⟩ := Style.exists_text_document negative magnitude
          exact .inl ⟨text, negative, tidy, written⟩

/-- What is written for a value begins with a character of one byte. -/
theorem print_cons (value : Json) : ∃ first more, value.print = first :: more ∧
    first.toNat < 0x80 := by
  cases value with
  | null => exact ⟨_, _, rfl, by decide⟩
  | bool value => cases value <;> exact ⟨_, _, rfl, by decide⟩
  | number value =>
      rw [Json.print]
      rcases print_number_cases value with ⟨text, negative, tidy, written⟩ | written
      · rw [written]
        cases negative with
        | true => exact ⟨_, _, rfl, by decide⟩
        | false =>
            obtain ⟨first, more, written, digit⟩ := text.exists_digit_characters tidy
            exact ⟨first, more, written,
              @forall_isDigit (fun character => character.toNat < 0x80) (by decide) first digit⟩
      · exact ⟨_, _, written, by decide⟩
  | string content => exact ⟨_, _, rfl, by decide⟩
  | array items => cases items <;> exact ⟨_, _, rfl, by decide⟩
  | object fields => cases fields <;> exact ⟨_, _, rfl, by decide⟩

theorem before_print (value : Json) (rest : List Char) :
    Opening.before (value.print ++ rest) = .narrow := by
  obtain ⟨first, more, written, narrow⟩ := print_cons value
  rw [written]
  exact if_pos narrow

/-! ## Tokens of values -/

/-- A digit that is written is read. -/
theorem hexValue?_hexDigit {digit : Nat} (small : digit < 16) :
    Json.hexValue? (Text.hexDigit digit) = some digit := by
  revert digit
  decide

/-- Only six characters are tokens by themselves. -/
theorem Token.punctuation?_eq_none {character : Char}
    (other : character ∉ ['[', ']', '\x7b', '\x7d', ',', ':']) (rest : List Char) :
    Token.punctuation? rest character = none := by
  unfold Token.punctuation?
  split <;> simp_all

/-- A token that stands for a whole value. -/
def Token.Fills (token : Token) (outline : Outline) : Prop :=
  ∀ (rules : Rules) (path : Path), rules.startValue path token = .ok (.fill path outline)

/-- How a format cuts what is written for values into tokens: values that are plain are found
again. -/
structure Rereads (tokens : List Char → List Token) (numbers : Json.Number → Outline)
    (plain : Json → Prop) : Prop where
  nil : tokens [] = []
  punctuation : ∀ (character : Char) {token : Token} {rest : List Char},
    Token.punctuation? rest character = some token →
      tokens (character :: rest) = token :: tokens rest
  string : ∀ {text : String} (rest : List Char), plain (.string text) →
    tokens (Json.printString text ++ rest) =
      .string (.before (text.toList.flatMap Json.printChar ++ ['"'])) (.ok text) :: tokens rest
  null : ∀ {rest : List Char}, Delimited rest →
    ∃ token, tokens (Json.null.print ++ rest) = token :: tokens rest ∧ token.Fills .null
  bool : ∀ (value : Bool) {rest : List Char}, Delimited rest →
    ∃ token, tokens ((Json.bool value).print ++ rest) = token :: tokens rest ∧
      token.Fills (.bool value)
  number : ∀ {value : Json.Number} {rest : List Char}, plain (.number value) → Delimited rest →
    ∃ token, tokens ((Json.number value).print ++ rest) = token :: tokens rest ∧
      token.Fills (numbers value)
  /-- The names in a plain object are plain. -/
  names : ∀ {fields : List (String × Json)}, plain (.object fields) →
    ∀ field ∈ fields, plain (.string field.1)

/-- The end of an array. -/
def isArrayEnd : Token → Bool
  | .closeArray => true
  | _ => false

theorem Token.Fills.not_isArrayEnd {token : Token} {outline : Outline}
    (fills : token.Fills outline) : isArrayEnd token = false := by
  cases token with
  | closeArray => cases fills ⟨false, false, none⟩ .top
  | _ => rfl

namespace Rules

/-- Whether a value may stand in so many containers. -/
def Bears (rules : Rules) (depth : Nat) : Prop :=
  ∀ limit ∈ rules.deepest, depth ≤ limit

variable {rules : Rules}

theorem Bears.of_le {depth other : Nat} (bears : rules.Bears depth) (less : other ≤ depth) :
    rules.Bears other :=
  fun limit given => Nat.le_trans less (bears limit given)

theorem mayOpen_iff {path : Path} : rules.mayOpen path = true ↔ rules.Bears (path.depth + 1) := by
  unfold mayOpen Bears
  cases rules.deepest with
  | none => exact iff_of_true rfl nofun
  | some limit =>
      constructor
      · intro less
        rintro _ ⟨⟩
        exact of_decide_eq_true less
      · intro within
        exact decide_eq_true (within limit rfl)

/-- An item is read like any value, unless the array ends there. -/
theorem run_item {token : Token} (value : isArrayEnd token = false) (opening : Opening)
    (items : List Outline) (outer : Path) (more : List Token) :
    rules.run (.firstItem opening outer) (token :: more) =
        rules.run (.place (.item opening [] outer)) (token :: more) ∧
      rules.run (.nextItem opening items outer) (token :: more) =
        rules.run (.place (.item opening items outer)) (token :: more) := by
  cases token with
  | closeArray => cases value
  | _ => exact ⟨rfl, rfl⟩

/-! ## Runs -/

/-- A run that goes on as another one, where values may stand in so many containers; otherwise it
finds them nested too deep. -/
def Goes (rules : Rules) (depth : Nat) (draft next : Draft) : Prop :=
  (rules.Bears depth → draft = next) ∧
    (¬rules.Bears depth → draft.fault? = some .nestingTooDeep)

theorem Goes.of_eq {depth : Nat} {draft next : Draft} (same : draft = next)
    (bears : rules.Bears depth) : rules.Goes depth draft next :=
  ⟨fun _ => same, fun deep => absurd bears deep⟩

/-- What follows has to be known only where the first part is not too deep. -/
theorem Goes.seq {first second : Nat} {draft between next : Draft}
    (front : rules.Goes first draft between)
    (back : rules.Bears first → rules.Goes second between next) :
    rules.Goes (max first second) draft next := by
  constructor
  · intro bears
    have inFront := bears.of_le (Nat.le_max_left first second)
    rw [front.1 inFront, (back inFront).1 (bears.of_le (Nat.le_max_right ..))]
  · intro deep
    by_cases inFront : rules.Bears first
    · rw [front.1 inFront]
      exact (back inFront).2 fun bears =>
        deep fun limit given => Nat.max_le.2 ⟨inFront limit given, bears limit given⟩
    · exact front.2 inFront

theorem Goes.of_depth {first second : Nat} {draft next : Draft} (goes : rules.Goes first draft next)
    (same : first = second) : rules.Goes second draft next :=
  same ▸ goes

theorem goes_openArray (rules : Rules) (opening : Opening) (path : Path) (more : List Token) :
    rules.Goes (path.depth + 1) (rules.run (.place path) (.openArray opening :: more))
      (rules.run (.firstItem opening path) more) := by
  constructor
  · intro bears
    simp [run, step, startValue, mayOpen_iff.2 bears]
  · intro deep
    rw [← mayOpen_iff, Bool.not_eq_true] at deep
    simp [run, step, startValue, deep]

theorem goes_openObject (rules : Rules) (opening : Opening) (path : Path) (more : List Token) :
    rules.Goes (path.depth + 1) (rules.run (.place path) (.openObject opening :: more))
      (rules.run (.firstName opening path) more) := by
  constructor
  · intro bears
    simp [run, step, startValue, mayOpen_iff.2 bears]
  · intro deep
    rw [← mayOpen_iff, Bool.not_eq_true] at deep
    simp [run, step, startValue, deep]

theorem run_fills {token : Token} {outline : Outline} (fills : token.Fills outline) (path : Path)
    (more : List Token) :
    rules.run (.place path) (token :: more) = rules.run (.fill path outline) more := by
  simp [run, step, fills rules path]

end Rules

namespace Rereads

open Rules

variable {tokens : List Char → List Token} {numbers : Json.Number → Outline}
  {plain : Json → Prop} (reads : Rereads tokens numbers plain) {rules : Rules}

include reads

/-- What is written for a value does not begin with the end of an array. -/
theorem exists_tokens_print {value : Json} (every : value.Every plain) {rest : List Char}
    (delimited : Delimited rest) :
    ∃ token more, tokens (value.print ++ rest) = token :: more ∧ isArrayEnd token = false := by
  cases value with
  | null =>
      obtain ⟨token, cut, fills⟩ := reads.null delimited
      exact ⟨token, _, cut, fills.not_isArrayEnd⟩
  | bool value =>
      obtain ⟨token, cut, fills⟩ := reads.bool value delimited
      exact ⟨token, _, cut, fills.not_isArrayEnd⟩
  | number value =>
      obtain ⟨token, cut, fills⟩ := reads.number every.here delimited
      exact ⟨token, _, cut, fills.not_isArrayEnd⟩
  | string content => exact ⟨_, _, reads.string rest every.here, rfl⟩
  | array items =>
      cases items with
      | nil => exact ⟨_, _, reads.punctuation '[' rfl, rfl⟩
      | cons item items => exact ⟨_, _, reads.punctuation '[' rfl, rfl⟩
  | object fields =>
      cases fields with
      | nil => exact ⟨_, _, reads.punctuation '\x7b' rfl, rfl⟩
      | cons field fields => exact ⟨_, _, reads.punctuation '\x7b' rfl, rfl⟩

/-- The first item of an array and an item behind a comma are read like any value. -/
theorem run_item {value : Json} (every : value.Every plain) {rest : List Char}
    (delimited : Delimited rest) (opening : Opening) (items : List Outline) (outer : Path) :
    rules.run (.firstItem opening outer) (tokens (value.print ++ rest)) =
        rules.run (.place (.item opening [] outer)) (tokens (value.print ++ rest)) ∧
      rules.run (.nextItem opening items outer) (tokens (value.print ++ rest)) =
        rules.run (.place (.item opening items outer)) (tokens (value.print ++ rest)) := by
  obtain ⟨token, more, cut, value⟩ := reads.exists_tokens_print every delimited
  rw [cut]
  exact Rules.run_item value opening items outer more

/-- A name, and the colon behind it. -/
theorem run_name {name : String} (given : plain (.string name)) (opening : Opening)
    (fields : List (Spelling × Outline)) (outer : Path) (rest : List Char) :
    rules.run (.firstName opening outer) (tokens (Json.printString name ++ ':' :: rest)) =
        rules.run (.place (.member opening [] (.ok name) outer)) (tokens rest) ∧
      rules.run (.nextName opening fields outer) (tokens (Json.printString name ++ ':' :: rest)) =
        rules.run (.place (.member opening fields (.ok name) outer)) (tokens rest) := by
  rw [reads.string _ given, reads.punctuation ':' rfl]
  exact ⟨rfl, rfl⟩

mutual

/-- What is written for a value fills its place with its outline. -/
theorem goes_print (value : Json) (every : value.Every plain) (path : Path)
    (inside : rules.Bears path.depth) {rest : List Char} (delimited : Delimited rest) :
    rules.Goes (path.depth + value.depth) (rules.run (.place path) (tokens (value.print ++ rest)))
      (rules.run (.fill path (written numbers value)) (tokens rest)) := by
  cases value with
  | null =>
      obtain ⟨token, cut, fills⟩ := reads.null delimited
      rw [cut, run_fills fills]
      exact .of_eq rfl inside
  | bool value =>
      obtain ⟨token, cut, fills⟩ := reads.bool value delimited
      rw [cut, run_fills fills]
      exact .of_eq rfl inside
  | number value =>
      obtain ⟨token, cut, fills⟩ := reads.number every.here delimited
      rw [cut, run_fills fills]
      exact .of_eq rfl inside
  | string content =>
      rw [Json.print, reads.string rest every.here]
      exact .of_eq rfl inside
  | array items =>
      obtain ⟨-, every⟩ := Json.every_array.1 every
      cases items with
      | nil =>
          show rules.Goes _ (rules.run _ (tokens ('[' :: ']' :: rest))) _
          rw [reads.punctuation '[' rfl, reads.punctuation ']' rfl]
          exact goes_openArray rules .narrow path (.closeArray :: tokens rest)
      | cons item items =>
          obtain ⟨first, others⟩ := List.forall_mem_cons.1 every
          have following := delimited_printItems items rest
          have opened := goes_openArray rules .narrow path
            (tokens (item.print ++ (Json.printItems items ++ rest)))
          rw [(reads.run_item first following .narrow [] path).1] at opened
          have whole := opened.seq fun bears =>
            (goes_print item first (.item .narrow [] path) bears following).seq fun _ =>
              goes_printItems items others .narrow [written numbers item] path bears rest
          rw [print_array_append, reads.punctuation '[' rfl, before_print]
          exact whole.of_depth (by simp only [Path.depth, Json.depth, Json.depthOfItems]; omega)
  | object fields =>
      obtain ⟨named, every⟩ := Json.every_object.1 every
      cases fields with
      | nil =>
          show rules.Goes _ (rules.run _ (tokens ('\x7b' :: '\x7d' :: rest))) _
          rw [reads.punctuation '\x7b' rfl,
            reads.punctuation '\x7d' rfl]
          exact goes_openObject rules .narrow path (.closeObject :: tokens rest)
      | cons field fields =>
          obtain ⟨name, value⟩ := field
          obtain ⟨first, others⟩ := List.forall_mem_cons.1 every
          obtain ⟨given, names⟩ := List.forall_mem_cons.1 (reads.names named)
          have following := delimited_printFields fields rest
          have opened := goes_openObject rules .narrow path
            (tokens (Json.printString name ++
              ':' :: (value.print ++ (Json.printFields fields ++ rest))))
          rw [(reads.run_name given .narrow [] path _).1] at opened
          have whole := opened.seq fun bears =>
            (goes_print value first (.member .narrow [] (.ok name) path) bears
              following).seq fun _ =>
              goes_printFields fields names others .narrow [(.ok name, written numbers value)] path
                bears rest
          rw [print_object_append, reads.punctuation '\x7b' rfl]
          exact whole.of_depth (by simp only [Path.depth, Json.depth, Json.depthOfFields]; omega)

/-- The remaining items complete their array. -/
theorem goes_printItems (items : List Json) (every : ∀ item ∈ items, item.Every plain)
    (opening : Opening) (before : List Outline) (path : Path)
    (inside : rules.Bears (path.depth + 1)) (rest : List Char) :
    rules.Goes (path.depth + 1 + Json.depthOfItems items)
      (rules.run (.afterItem opening before path) (tokens (Json.printItems items ++ rest)))
      (rules.run (.fill path (.array opening (before.reverse ++ writtenItems numbers items)))
        (tokens rest)) := by
  cases items with
  | nil =>
      show rules.Goes _ (rules.run _ (tokens (']' :: rest))) _
      rw [reads.punctuation ']' rfl, writtenItems, List.append_nil]
      exact .of_eq rfl inside
  | cons item items =>
      obtain ⟨first, others⟩ := List.forall_mem_cons.1 every
      have following := delimited_printItems items rest
      have whole := (goes_print item first (.item opening before path) inside following).seq
        fun _ => goes_printItems items others opening (written numbers item :: before) path inside
          rest
      rw [printItems_append, reads.punctuation ',' rfl]
      show rules.Goes _ (rules.run (.nextItem opening before path) _) _
      rw [(reads.run_item first following opening before path).2, writtenItems]
      rw [List.reverse_cons, List.append_assoc] at whole
      exact whole.of_depth (by simp only [Path.depth, Json.depthOfItems]; omega)

/-- The remaining fields complete their object. -/
theorem goes_printFields (fields : List (String × Json))
    (names : ∀ field ∈ fields, plain (.string field.1))
    (every : ∀ field ∈ fields, field.2.Every plain) (opening : Opening)
    (before : List (Spelling × Outline)) (path : Path) (inside : rules.Bears (path.depth + 1))
    (rest : List Char) :
    rules.Goes (path.depth + 1 + Json.depthOfFields fields)
      (rules.run (.afterField opening before path) (tokens (Json.printFields fields ++ rest)))
      (rules.run (.fill path (.object opening (before.reverse ++ writtenFields numbers fields)))
        (tokens rest)) := by
  cases fields with
  | nil =>
      show rules.Goes _ (rules.run _ (tokens ('\x7d' :: rest))) _
      rw [reads.punctuation '\x7d' rfl, writtenFields, List.append_nil]
      exact .of_eq rfl inside
  | cons field fields =>
      obtain ⟨name, value⟩ := field
      obtain ⟨given, names⟩ := List.forall_mem_cons.1 names
      obtain ⟨first, others⟩ := List.forall_mem_cons.1 every
      have following := delimited_printFields fields rest
      have whole := (goes_print value first (.member opening before (.ok name) path) inside
        following).seq fun _ => goes_printFields fields names others opening
          ((.ok name, written numbers value) :: before) path inside rest
      rw [printFields_append, reads.punctuation ',' rfl]
      show rules.Goes _ (rules.run (.nextName opening before path) _) _
      rw [(reads.run_name given opening before path _).2, writtenFields]
      rw [List.reverse_cons, List.append_assoc] at whole
      exact whole.of_depth (by simp only [Path.depth, Json.depthOfFields]; omega)

end

/-- A text of a value is built into the outline of the value, unless it nests too deep. -/
theorem goes_build (rules : Rules) {value : Json} (every : value.Every plain) :
    rules.Goes value.depth (rules.build (tokens value.print)) ⟨written numbers value, none⟩ := by
  have top : rules.Bears Path.top.depth := fun _ _ => Nat.zero_le _
  have whole := reads.goes_print value every .top top delimited_nil
  rw [List.append_nil, reads.nil] at whole
  exact whole.of_depth (Nat.zero_add _)

end Rereads

/-! ## Values of outlines -/

/-- What an outline needs in order to denote the value that was written: its numbers are those of
the value, and the fields are in order. -/
def Denoted (numbers : Json.Number → Outline) : Json → Prop
  | .number value => (numbers value).toJson = .ok (.number value)
  | .object fields => Json.Ordered fields
  | _ => True

section Denoted

variable {numbers : Json.Number → Outline}

mutual

/-- The outline of what is written for a value denotes the value. -/
theorem toJson_written {value : Json} (every : value.Every (Denoted numbers)) :
    (written numbers value).toJson = .ok value := by
  cases value with
  | null => rfl
  | bool value => rfl
  | string content => rfl
  | number value => exact every.here
  | array items =>
      rw [written, Outline.toJson, itemsToJson_writtenItems (Json.every_array.1 every).2]
      rfl
  | object fields =>
      obtain ⟨ordered, every⟩ := Json.every_object.1 every
      rw [written, Outline.toJson, fieldsToJson_writtenFields every]
      exact congrArg Except.ok (Json.ofFields_of_ordered ordered)

theorem itemsToJson_writtenItems {items : List Json}
    (every : ∀ item ∈ items, item.Every (Denoted numbers)) :
    Outline.itemsToJson (writtenItems numbers items) = .ok items := by
  cases items with
  | nil => rfl
  | cons item items =>
      obtain ⟨first, others⟩ := List.forall_mem_cons.1 every
      rw [writtenItems, Outline.itemsToJson, toJson_written first, itemsToJson_writtenItems others]
      rfl

theorem fieldsToJson_writtenFields {fields : List (String × Json)}
    (every : ∀ field ∈ fields, field.2.Every (Denoted numbers)) :
    Outline.fieldsToJson (writtenFields numbers fields) = .ok fields := by
  cases fields with
  | nil => rfl
  | cons field fields =>
      obtain ⟨name, value⟩ := field
      obtain ⟨first, others⟩ := List.forall_mem_cons.1 every
      rw [writtenFields, Outline.fieldsToJson, toJson_written first,
        fieldsToJson_writtenFields others]
      rfl

end

end Denoted

end RadarRelay.Document
