import Mathlib.Data.List.Basic
import RadarRelay.Filter.Evaluation
import RadarRelay.Proofs.Filter.Paths

/-!
# Source identifiers as they are written

Pairs of keys and values are written between commas, with a colon in each. Blanks may
stand around keys and values, and pieces that are no pairs may stand anywhere. Whoever
asks a filter for a key gets the first value that was written for it.
-/

namespace RadarRelay

namespace Text

/-- Nothing but blanks. -/
def Blank (text : String) : Prop :=
  ∀ character ∈ text.toList, isBlank character = true

/-- A text without blanks at its ends. -/
structure Bare (text : String) : Prop where
  start : ∀ character ∈ text.toList.head?, isBlank character = false
  finish : ∀ character ∈ text.toList.getLast?, isBlank character = false

instance (text : String) : Decidable (Blank text) :=
  List.decidableBAll _ _

instance (text : String) : Decidable (Bare text) :=
  have : Decidable (∀ character ∈ text.toList.head?, isBlank character = false) :=
    Option.decidableForallMem _
  have : Decidable (∀ character ∈ text.toList.getLast?, isBlank character = false) :=
    Option.decidableForallMem _
  decidable_of_iff (_ ∧ _) ⟨fun both => ⟨both.1, both.2⟩, fun bare => ⟨bare.start, bare.finish⟩⟩

theorem blank_empty : Blank "" :=
  nofun

/-- Blanks in front of a text are removed, up to its first character. -/
theorem trimStart_append {blanks : String} (blank : Blank blanks) {text : List Char}
    (start : ∀ character ∈ text.head?, isBlank character = false) :
    trimStart (blanks.toList ++ text) = text := by
  rw [trimStart, List.dropWhile_append_of_pos blank]
  cases text with
  | nil => rfl
  | cons character rest => exact trimStart_cons_of_not_blank rest (start character rfl)

/-- Blanks behind a text are removed, down to its last character. -/
theorem trimEnd_append {blanks : String} (blank : Blank blanks) {text : List Char}
    (finish : ∀ character ∈ text.getLast?, isBlank character = false) :
    trimEnd (text ++ blanks.toList) = text := by
  have blankReversed : ∀ character ∈ blanks.toList.reverse, isBlank character = true :=
    fun character member => blank character (List.mem_reverse.1 member)
  rw [trimEnd, List.reverse_append, List.dropWhile_append_of_pos blankReversed]
  rcases List.eq_nil_or_concat' text with rfl | ⟨front, character, rfl⟩
  · rfl
  · exact trimEnd_append_of_not_blank front (finish character (by simp))

theorem trimChars_of_blank {blanks : String} (blank : Blank blanks) :
    trimChars blanks.toList = [] := by
  have nothing : ∀ character ∈ ([] : List Char).head?, isBlank character = false := nofun
  have removed := trimStart_append blank nothing
  rw [List.append_nil] at removed
  rw [trimChars, removed, trimEnd_nil]

/-- What stands between blanks is left when they are removed. -/
theorem trimChars_padded {before text after : String} (blankBefore : Blank before)
    (bare : Bare text) (blankAfter : Blank after) :
    trimChars (before.toList ++ (text.toList ++ after.toList)) = text.toList := by
  -- Without a text the blanks on both sides are one run of blanks.
  by_cases empty : text.toList = []
  · have blank : Blank (before ++ after) := by
      rw [Blank, String.toList_append]
      exact List.forall_mem_append.2 ⟨blankBefore, blankAfter⟩
    have removed := trimChars_of_blank blank
    rw [String.toList_append] at removed
    rw [empty, List.nil_append, removed]
  · have start : ∀ character ∈ (text.toList ++ after.toList).head?, isBlank character = false := by
      rw [List.head?_append_of_ne_nil _ empty]
      exact bare.start
    rw [trimChars, trimStart_append blankBefore start, trimEnd_append blankAfter bare.finish]

/-- The first separator is the one behind a text without separators. -/
theorem splitFirst_append {separator : Char} {front : List Char} (apart : separator ∉ front)
    (back : List Char) : splitFirst separator (front ++ separator :: back) = (front, some back) := by
  induction front with
  | nil => simp [splitFirst]
  | cons character front ih =>
      rw [List.mem_cons, not_or] at apart
      simp [splitFirst, Ne.symm apart.1, ih apart.2]

theorem splitFirst_of_notMem {separator : Char} {text : List Char} (apart : separator ∉ text) :
    splitFirst separator text = (text, none) := by
  induction text with
  | nil => rfl
  | cons character rest ih =>
      rw [List.mem_cons, not_or] at apart
      simp [splitFirst, Ne.symm apart.1, ih apart.2]

/-- A text without separators is its own only piece. -/
theorem split_of_notMem {separator : Char} {text : List Char} (apart : separator ∉ text) :
    split separator text = [text] := by
  induction text with
  | nil => rfl
  | cons character rest ih =>
      rw [List.mem_cons, not_or] at apart
      simp [split, Ne.symm apart.1, ih apart.2]

/-- Pieces without separators are found again when they have been joined. -/
theorem split_join {separator : Char} {pieces : List (List Char)} (given : pieces ≠ [])
    (apart : ∀ piece ∈ pieces, separator ∉ piece) :
    split separator (join separator pieces) = pieces := by
  induction pieces with
  | nil => contradiction
  | cons piece pieces ih =>
      obtain ⟨first, others⟩ := List.forall_mem_cons.1 apart
      cases pieces with
      | nil => exact split_of_notMem first
      | cons next pieces =>
          rw [join, split_append, split_of_notMem first, ih (List.cons_ne_nil _ _) others]
          · rfl
          · exact List.cons_ne_nil _ _

/-- Joining texts is joining their characters. -/
theorem toList_joinWith (separator : Char) (texts : List String) :
    (joinWith (String.singleton separator) texts).toList =
      join separator (texts.map String.toList) := by
  rw [joinWith, String.toList_intercalate, String.toList_singleton]
  induction texts with
  | nil => rfl
  | cons text texts ih =>
      cases texts with
      | nil => simp [join]
      | cons next texts =>
          rw [List.map_cons, List.map_cons, join, ← List.map_cons, ← ih]
          · simp [List.intercalate_cons_of_ne_nil]
          · exact List.cons_ne_nil _ _

/-- Behind the last separator stands what has none. -/
theorem lastPiece_append (separator : Char) (front : String) {back : String}
    (apart : separator ∉ back.toList) :
    lastPiece separator (front ++ String.singleton separator ++ back) = back := by
  rw [lastPiece, pieces, String.toList_append, String.toList_append, String.toList_singleton,
    List.append_assoc, List.singleton_append, split_append, split_of_notMem apart, List.map_append,
    List.map_singleton, List.getLastD_concat, String.ofList_toList]

end Text

open RadarRelay.Text

namespace Source

/-- A key that can be written: it is neither empty nor holds a comma or a colon. -/
structure Key (key : String) : Prop where
  given : key ≠ ""
  noComma : ',' ∉ key.toList
  noColon : ':' ∉ key.toList
  bare : Bare key

/-- A value that can be written. It may hold colons, and may be empty. -/
structure Content (value : String) : Prop where
  noComma : ',' ∉ value.toList
  bare : Bare value

instance (key : String) : Decidable (Key key) :=
  decidable_of_iff (key ≠ "" ∧ ',' ∉ key.toList ∧ ':' ∉ key.toList ∧ Bare key)
    ⟨fun all => ⟨all.1, all.2.1, all.2.2.1, all.2.2.2⟩,
      fun isKey => ⟨isKey.given, isKey.noComma, isKey.noColon, isKey.bare⟩⟩

instance (value : String) : Decidable (Content value) :=
  decidable_of_iff (',' ∉ value.toList ∧ Bare value)
    ⟨fun both => ⟨both.1, both.2⟩, fun content => ⟨content.noComma, content.bare⟩⟩

/-- The pairs in one text: `NOD:sehem,RAD:SE41`. -/
def write (entries : List (String × String)) : String :=
  joinWith "," (entries.map fun entry => entry.1 ++ ":" ++ entry.2)

/-- Pieces between commas that spell pairs in their order. Blanks may stand around keys and values.
Pieces without a colon and pieces with a blank key are not counted. -/
inductive Spelled : List (String × String) → List String → Prop where
  | nil : Spelled [] []
  | pair {key value beforeKey afterKey beforeValue afterValue : String}
      {entries : List (String × String)} {pieces : List String} :
      Blank beforeKey → Blank afterKey → Blank beforeValue → Blank afterValue →
      Spelled entries pieces →
      Spelled ((key, value) :: entries)
        ((beforeKey ++ key ++ afterKey ++ ":" ++ (beforeValue ++ value ++ afterValue)) :: pieces)
  | withoutColon {piece : String} {entries : List (String × String)} {pieces : List String} :
      ',' ∉ piece.toList → ':' ∉ piece.toList → Spelled entries pieces →
      Spelled entries (piece :: pieces)
  | withoutKey {blanks rest : String} {entries : List (String × String)} {pieces : List String} :
      Blank blanks → ',' ∉ rest.toList → Spelled entries pieces →
      Spelled entries ((blanks ++ ":" ++ rest) :: pieces)

/-- A text in which pairs are written. -/
def Written (entries : List (String × String)) (text : String) : Prop :=
  ∃ pieces, Spelled entries pieces ∧ text = joinWith "," pieces

/-- What entries give for a key: the first value, in a list of its own, or nothing. -/
inductive Gives (key : String) : List (String × String) → List String → Prop where
  | first {before after : List (String × String)} {value : String} :
      (∀ entry ∈ before, entry.1 ≠ key) →
      Gives key (before ++ (key, value) :: after) [value]
  | missing {entries : List (String × String)} :
      (∀ entry ∈ entries, entry.1 ≠ key) → Gives key entries []

theorem gives_lookup (key : String) (entries : List (String × String)) :
    Gives key entries (entries.lookup key).toList := by
  cases found : entries.lookup key with
  | none =>
      rw [List.lookup_eq_none_iff] at found
      exact .missing fun entry member same => by simpa [same] using found entry member
  | some value =>
      obtain ⟨before, after, rfl, others⟩ := List.lookup_eq_some_iff.1 found
      exact .first fun entry member same => by simpa [same] using others entry member

/-- Entries give one thing only for a key. -/
theorem Gives.eq_lookup {key : String} {entries : List (String × String)} {values : List String}
    (gives : Gives key entries values) : values = (entries.lookup key).toList := by
  cases gives with
  | first others =>
      rw [List.lookup_eq_some_iff.2 ⟨_, _, rfl, fun entry member => ?_⟩]
      · rfl
      · exact bne_iff_ne.2 (others entry member).symm
  | missing others =>
      rw [List.lookup_eq_none_iff.2 fun entry member => bne_iff_ne.2 (others entry member).symm]
      rfl

/-- In the plain text of pairs they are written. -/
theorem written_write (entries : List (String × String)) : Written entries (write entries) := by
  refine ⟨_, ?_, rfl⟩
  induction entries with
  | nil => exact .nil
  | cons entry entries ih =>
      have plain := @Spelled.pair entry.1 entry.2 "" "" "" "" _ _ blank_empty blank_empty
        blank_empty blank_empty ih
      simpa using plain

/-- Blanks are no separators. -/
theorem notMem_of_blank {blanks : String} (blank : Blank blanks) {separator : Char}
    (visible : isBlank separator = false) : separator ∉ blanks.toList := by
  intro member
  rw [blank separator member] at visible
  cases visible

/-- A piece with a pair is read as that pair. -/
theorem readEntry_pair {key value beforeKey afterKey beforeValue afterValue : String}
    (isKey : Key key) (isContent : Content value) (blankBeforeKey : Blank beforeKey)
    (blankAfterKey : Blank afterKey) (blankBeforeValue : Blank beforeValue)
    (blankAfterValue : Blank afterValue) :
    readEntry? (beforeKey ++ key ++ afterKey ++ ":" ++
      (beforeValue ++ value ++ afterValue)).toList = some (key, value) := by
  have colon : isBlank ':' = false := by decide
  have apart : ':' ∉ beforeKey.toList ++ (key.toList ++ afterKey.toList) := by
    simp only [List.mem_append, not_or]
    exact ⟨notMem_of_blank blankBeforeKey colon, isKey.noColon, notMem_of_blank blankAfterKey colon⟩
  have shape : (beforeKey ++ key ++ afterKey ++ ":" ++
      (beforeValue ++ value ++ afterValue)).toList =
      (beforeKey.toList ++ (key.toList ++ afterKey.toList)) ++
        ':' :: (beforeValue.toList ++ (value.toList ++ afterValue.toList)) := by
    simp
  rw [shape, readEntry?, splitFirst_append apart]
  dsimp only
  rw [trimChars_padded blankBeforeKey isKey.bare blankAfterKey,
    trimChars_padded blankBeforeValue isContent.bare blankAfterValue, String.ofList_toList,
    String.ofList_toList, if_neg isKey.given]

theorem readEntry_withoutColon {piece : String} (apart : ':' ∉ piece.toList) :
    readEntry? piece.toList = none := by
  rw [ readEntry?, splitFirst_of_notMem apart]

theorem readEntry_withoutKey {blanks : String} (blank : Blank blanks) (rest : String) :
    readEntry? (blanks ++ ":" ++ rest).toList = none := by
  have shape : (blanks ++ ":" ++ rest).toList = blanks.toList ++ ':' :: rest.toList := by simp
  rw [shape, readEntry?, splitFirst_append (notMem_of_blank blank (by decide))]
  dsimp only
  rw [trimChars_of_blank blank]
  rfl

/-- Entries whose keys and values can be written. -/
def Writable (entries : List (String × String)) : Prop :=
  ∀ entry ∈ entries, Key entry.1 ∧ Content entry.2

instance (entries : List (String × String)) : Decidable (Writable entries) :=
  List.decidableBAll _ _

namespace Spelled

variable {entries : List (String × String)} {pieces : List String}

/-- Commas stand only between pieces. -/
theorem noComma (spelled : Spelled entries pieces) (writable : Writable entries) :
    ∀ piece ∈ pieces.map String.toList, ',' ∉ piece := by
  have comma : isBlank ',' = false := by decide
  induction spelled with
  | nil => exact nofun
  | pair blankBeforeKey blankAfterKey blankBeforeValue blankAfterValue _ ih =>
      obtain ⟨⟨isKey, isContent⟩, writable⟩ := List.forall_mem_cons.1 writable
      refine List.forall_mem_cons.2 ⟨?_, ih writable⟩
      simp [notMem_of_blank blankBeforeKey comma, notMem_of_blank blankAfterKey comma,
        notMem_of_blank blankBeforeValue comma, notMem_of_blank blankAfterValue comma,
        isKey.noComma, isContent.noComma]
  | withoutColon apart _ _ ih => exact List.forall_mem_cons.2 ⟨apart, ih writable⟩
  | withoutKey blank apart _ ih =>
      refine List.forall_mem_cons.2 ⟨?_, ih writable⟩
      simp [notMem_of_blank blank comma, apart]

/-- Piece by piece the pairs are read that were written. -/
theorem filterMap_readEntry (spelled : Spelled entries pieces) (writable : Writable entries) :
    (pieces.map String.toList).filterMap readEntry? = entries := by
  induction spelled with
  | nil => rfl
  | pair blankBeforeKey blankAfterKey blankBeforeValue blankAfterValue _ ih =>
      obtain ⟨⟨isKey, isContent⟩, writable⟩ := List.forall_mem_cons.1 writable
      rw [List.map_cons, List.filterMap_cons_some (readEntry_pair isKey isContent blankBeforeKey
        blankAfterKey blankBeforeValue blankAfterValue), ih writable]
  | withoutColon _ apart _ ih =>
      rw [List.map_cons, List.filterMap_cons_none (readEntry_withoutColon apart), ih writable]
  | withoutKey blank _ _ ih =>
      rw [List.map_cons, List.filterMap_cons_none (readEntry_withoutKey blank _), ih writable]

/-- A source identifier is read as the pairs that are written in it. -/
theorem read_joinWith (spelled : Spelled entries pieces) (writable : Writable entries) :
    Source.read (joinWith "," pieces) = ⟨entries⟩ := by
  have joined : (joinWith "," pieces).toList = join ',' (pieces.map String.toList) :=
    toList_joinWith ',' pieces
  rw [Source.read, joined]
  -- Without any piece the text is empty, which is one piece without a colon.
  by_cases given : pieces = []
  · subst given
    cases spelled
    rfl
  · rw [split_join (by simpa using given) (spelled.noComma writable),
      spelled.filterMap_readEntry writable]

end Spelled

/-- A source identifier has for a key what its pairs give. -/
theorem gives_read {entries : List (String × String)} {text : String} (written : Written entries text)
    (writable : Writable entries) (key : String) :
    Gives key entries ((Source.read text).get? key).toList := by
  obtain ⟨pieces, spelled, rfl⟩ := written
  rw [spelled.read_joinWith writable]
  exact gives_lookup key entries

end Source

namespace Selector

/-- Three names ask for a key: one for the source identifier in the file, two for that in the source
database. -/
theorem ofName_source {key : String} (apart : ':' ∉ key.toList) :
    ofName ("what/source:" ++ key) = writtenSource key ∧
      ofName ("_bdb/source:" ++ key) = knownSource key ∧
      ofName ("_baltrad/source:" ++ key) = knownSource key := by
  have last (front : String) := lastPiece_append ':' front apart
  refine ⟨?_, ?_, ?_⟩
  · rw [ofName, if_pos (by simp [startsWithAny])]
    exact congrArg writtenSource (last "what/source")
  · rw [ofName, if_neg (by simp [startsWithAny]), if_pos (by simp [startsWithAny])]
    exact congrArg knownSource (last "_bdb/source")
  · rw [ofName, if_neg (by simp [startsWithAny]), if_pos (by simp [startsWithAny])]
    exact congrArg knownSource (last "_baltrad/source")

end Selector

namespace Metadata

theorem attributeValue_string (metadata : Metadata) (name : String) :
    metadata.attributeValue name .string = .list ((metadata.select name).map .text) := by
  simp [attributeValue, Value.coerce, Value.read]

end Metadata

namespace Expression

/-- Pairs that are written as a source identifier come back under their keys: the first value of
each, and nothing for other keys. Blanks around keys and values change nothing, and neither do
pieces in between that are no pairs. -/
theorem evaluate_source_key {entries : List (String × String)} (writable : Source.Writable entries)
    {key : String} (apart : ':' ∉ key.toList) :
    Source.Written entries (Source.write entries) ∧
      ∀ text, Source.Written entries text →
        ∃ values, Source.Gives key entries values ∧
          ∀ metadata : Metadata,
            (metadata.find? "/what/source" = some text →
              (attr ("what/source:" ++ key) .string).evaluate metadata =
                .ok (.list (values.map .text))) ∧
            (metadata.resolvedSource = text →
              (attr ("_bdb/source:" ++ key) .string).evaluate metadata =
                  .ok (.list (values.map .text)) ∧
                (attr ("_baltrad/source:" ++ key) .string).evaluate metadata =
                  .ok (.list (values.map .text))) := by
  refine ⟨Source.written_write entries, fun text written => ?_⟩
  refine ⟨_, Source.gives_read written writable key, ?_⟩
  obtain ⟨inFile, inDatabase, inDatabaseToo⟩ := Selector.ofName_source apart
  intro metadata
  constructor
  · intro found
    rw [evaluate, Metadata.attributeValue_string, Metadata.select, inFile, Selector.select,
      Metadata.writtenSource, found, Option.getD_some]
  · rintro rfl
    rw [evaluate, evaluate, Metadata.attributeValue_string, Metadata.attributeValue_string,
      Metadata.select, Metadata.select, inDatabase, inDatabaseToo]
    exact ⟨rfl, rfl⟩

/-- A key that is given twice, a value with a colon, blanks of two kinds, and pieces that are no
pairs. -/
theorem evaluate_source_key_of_repeated :
    let entries := [("NOD", "sehem"), ("RAD", "SE:41"), ("NOD", "sella")]
    let text := " NOD\u00a0: sehem,garbage,\t:x,RAD:SE:41,,NOD:sella"
    let metadata : Metadata :=
      { Metadata.empty with attributes := [⟨"/what/source", text⟩], resolvedSource := text }
    Source.Writable entries ∧ ':' ∉ "NOD".toList ∧ ':' ∉ "WMO".toList ∧
      Source.Written entries text ∧
      (attr "what/source:NOD" .string).evaluate metadata = .ok (.list [.text "sehem"]) ∧
      (attr "_bdb/source:WMO" .string).evaluate metadata = .ok (.list []) := by
  intro entries text metadata
  have writable : Source.Writable entries := by decide
  have apart : ':' ∉ "NOD".toList := by decide
  have apartOther : ':' ∉ "WMO".toList := by decide
  have written : Source.Written entries text := by
    have blank : Blank " " ∧ Blank "\u00a0" ∧ Blank "\t" := by decide
    have none := blank_empty
    have last := @Source.Spelled.pair "NOD" "sella" "" "" "" "" _ _ none none none none .nil
    have gap := @Source.Spelled.withoutColon "" _ _ (by decide) (by decide) last
    have colons := @Source.Spelled.pair "RAD" "SE:41" "" "" "" "" _ _ none none none none gap
    have nameless := @Source.Spelled.withoutKey "\t" "x" _ _ blank.2.2 (by decide) colons
    have bare := @Source.Spelled.withoutColon "garbage" _ _ (by decide) (by decide) nameless
    have first := @Source.Spelled.pair "NOD" "sehem" " " "\u00a0" " " "" _ _ blank.1 blank.2.1
      blank.1 none bare
    exact ⟨_, first, by decide⟩
  obtain ⟨values, gives, found⟩ := (evaluate_source_key writable apart).2 text written
  obtain ⟨others, givesNone, foundNone⟩ := (evaluate_source_key writable apartOther).2 text written
  obtain rfl := gives.eq_lookup
  obtain rfl := givesNone.eq_lookup
  exact ⟨writable, apart, apartOther, written, (found metadata).1 rfl, ((foundNone metadata).2 rfl).1⟩

end Expression

end RadarRelay
