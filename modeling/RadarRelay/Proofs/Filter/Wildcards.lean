import Mathlib.Data.List.Count
import RadarRelay.Filter.Evaluation

/-!
# What wildcard patterns describe

A pattern is a list of parts: a star is a run of characters and every other
character stands for itself. A text matches when some front of it is as the parts
describe. Looking for each piece at its first occurrence finds such a front
whenever there is one. A pattern can also be written as a regular expression, with
stars as `.*` and escapes before characters that would mean something else; read
again, it has the parts of the pattern. As `.` there, a run stays on its line.
-/

namespace RadarRelay

namespace Wildcard

open RadarRelay.Text

/-! ## Parts -/

/-- A part of a pattern. -/
inductive Part where
  | exactly (character : Char)
  | run
  deriving DecidableEq, Repr

/-- The parts of a pattern. -/
def parts (pattern : List Char) : List Part :=
  pattern.map fun character => if character = '*' then .run else .exactly character

theorem parts_cons (character : Char) (pattern : List Char) :
    parts (character :: pattern) =
      (if character = '*' then .run else .exactly character) :: parts pattern := rfl

/-- A text is as described, character by character; `free` says which characters runs are made
of. -/
inductive Describes (free : Char → Prop) : List Part → List Char → Prop
  | nil : Describes free [] []
  | exactly (character : Char) {parts : List Part} {text : List Char}
      (rest : Describes free parts text) :
      Describes free (.exactly character :: parts) (character :: text)
  | run (front : List Char) {parts : List Part} {text : List Char}
      (ranOver : ∀ character ∈ front, free character) (rest : Describes free parts text) :
      Describes free (.run :: parts) (front ++ text)

/-- Which other characters runs could be made of does not matter. -/
theorem Describes.of_free {free other : Char → Prop} {described : List Part} {text : List Char}
    (describes : Describes free described text)
    (allowed : ∀ character ∈ text, other character) : Describes other described text := by
  induction describes with
  | nil => exact .nil
  | exactly character rest ih =>
      exact .exactly character (ih (List.forall_mem_cons.mp allowed).2)
  | run front ranOver rest ih =>
      obtain ⟨run, left⟩ := List.forall_mem_append.mp allowed
      exact .run front run (ih left)

/-- Some front of a text is as described. -/
def Begins (free : Char → Prop) (parts : List Part) (text : List Char) : Prop :=
  ∃ front, front <+: text ∧ Describes free parts front

variable {free : Char → Prop} {described : List Part} {text : List Char}

@[simp] theorem begins_nil : Begins free [] text :=
  ⟨[], text.nil_prefix, .nil⟩

theorem begins_exactly (character : Char) :
    Begins free (.exactly character :: described) text ↔
      ∃ rest, text = character :: rest ∧ Begins free described rest := by
  constructor
  · rintro ⟨_, ⟨rest, rfl⟩, describes⟩
    cases describes with
    | @exactly _ _ front describes =>
        exact ⟨front ++ rest, rfl, front, front.prefix_append rest, describes⟩
  · rintro ⟨rest, rfl, front, begins, describes⟩
    exact ⟨character :: front, List.cons_prefix_cons.mpr ⟨rfl, begins⟩,
      .exactly character describes⟩

theorem begins_run :
    Begins free (.run :: described) text ↔
      ∃ front rest, text = front ++ rest ∧ (∀ character ∈ front, free character) ∧
        Begins free described rest := by
  constructor
  · rintro ⟨_, ⟨rest, rfl⟩, describes⟩
    cases describes with
    | @run front _ later ranOver describes =>
        exact ⟨front, later ++ rest, List.append_assoc .., ranOver, later,
          later.prefix_append rest, describes⟩
  · rintro ⟨front, rest, rfl, ranOver, later, begins, describes⟩
    exact ⟨front ++ later, (List.prefix_append_right_inj front).mpr begins,
      .run front ranOver describes⟩

theorem begins_piece (piece : List Char) :
    Begins free (piece.map .exactly ++ described) text ↔
      ∃ rest, text = piece ++ rest ∧ Begins free described rest := by
  induction piece generalizing text with
  | nil => simp
  | cons character piece ih => simp [begins_exactly, ih]

/-- The parts behind the first piece of a pattern. -/
def starred (pieces : List (List Char)) : List Part :=
  pieces.flatMap fun piece => .run :: piece.map .exactly

theorem starred_cons (piece : List Char) (pieces : List (List Char)) :
    starred (piece :: pieces) = .run :: (piece.map .exactly ++ starred pieces) := rfl

/-- The pieces of a pattern are what stands between its runs. -/
theorem parts_of_split {pattern first : List Char} {pieces : List (List Char)}
    (cut : split '*' pattern = first :: pieces) :
    parts pattern = first.map .exactly ++ starred pieces := by
  induction pattern generalizing first pieces with
  | nil =>
      cases cut
      rfl
  | cons character pattern ih =>
      rw [split] at cut
      split at cut
      · rename_i star
        obtain ⟨rfl, rfl⟩ := List.cons.inj cut
        obtain ⟨piece, others, rest⟩ := List.exists_cons_of_ne_nil (split_ne_nil '*' pattern)
        simp [parts_cons, star, ih rest, rest, starred]
      · rename_i plain
        split at cut
        · rename_i none
          exact absurd none (split_ne_nil '*' pattern)
        · rename_i piece others rest
          obtain ⟨rfl, rfl⟩ := List.cons.inj cut
          simp [parts_cons, plain, ih rest]

/-! ## First occurrences -/

/-- Characters of one line. -/
def Inline (character : Char) : Prop :=
  character ≠ '\n'

/-- The first occurrence of a piece lies behind a run. -/
theorem of_afterFirst? {piece text rest : List Char} (found : afterFirst? piece text = some rest) :
    ∃ front, text = front ++ piece ++ rest ∧ ∀ character ∈ front, Inline character := by
  induction text with
  | nil => exact ⟨[], afterPiece?_eq_some_iff.mp found, nofun⟩
  | cons character text ih =>
      rw [afterFirst?] at found
      split at found
      · rename_i here
        cases found
        exact ⟨[], afterPiece?_eq_some_iff.mp here, nofun⟩
      · split at found
        · cases found
        · rename_i inline
          obtain ⟨front, rfl, ranOver⟩ := ih found
          exact ⟨character :: front, rfl, List.forall_mem_cons.mpr ⟨inline, ranOver⟩⟩

/-- Between the ends of two occurrences of a piece there is as little of a line break as between
their beginnings. -/
theorem inline_of_shifted {piece front gap : List Char} (shifted : piece ++ gap = front ++ piece)
    (ranOver : ∀ character ∈ front, Inline character) : ∀ character ∈ gap, Inline character := by
  have breaks := congrArg (List.count '\n') shifted
  rw [List.count_append, List.count_append, Nat.add_comm, Nat.add_right_cancel_iff] at breaks
  have none : List.count '\n' front = 0 :=
    List.count_eq_zero.mpr fun listed => ranOver '\n' listed rfl
  rintro character listed rfl
  exact List.count_eq_zero.mp (breaks.trans none) listed

/-- Where a piece occurs behind a run, its first occurrence is found, and a run leads from there to
what follows the other one. -/
theorem exists_afterFirst? {front : List Char} (piece rest : List Char)
    (ranOver : ∀ character ∈ front, Inline character) :
    ∃ gap, afterFirst? piece (front ++ piece ++ rest) = some (gap ++ rest) ∧
      ∀ character ∈ gap, Inline character := by
  induction front with
  | nil =>
      refine ⟨[], ?_, nofun⟩
      have here : afterPiece? piece (piece ++ rest) = some rest := afterPiece?_eq_some_iff.mpr rfl
      rw [List.nil_append, List.nil_append]
      generalize piece ++ rest = text at here ⊢
      cases text with
      | nil => exact here
      | cons character text => rw [afterFirst?, here]
  | cons character front ih =>
      rw [List.forall_mem_cons] at ranOver
      rw [List.cons_append, List.cons_append, afterFirst?]
      split
      · rename_i earlier found
        -- An earlier occurrence: both end with the same text, so only the gap is in question.
        have same := afterPiece?_eq_some_iff.mp found
        rw [← List.cons_append, ← List.cons_append, eq_comm, List.append_eq_append_iff] at same
        rcases same with ⟨gap, shifted, rfl⟩ | ⟨missing, short, -⟩
        · exact ⟨gap, rfl, inline_of_shifted shifted.symm (List.forall_mem_cons.mpr ranOver)⟩
        · have lengths := congrArg List.length short
          simp only [List.length_append, List.length_cons] at lengths
          omega
      · rw [if_neg ranOver.1]
        exact ih ranOver.2

/-- A run that starts earlier on the same line ends where it did. -/
theorem begins_starred_append {pieces : List (List Char)} {gap rest : List Char}
    (between : ∀ character ∈ gap, Inline character)
    (begins : Begins Inline (starred pieces) rest) :
    Begins Inline (starred pieces) (gap ++ rest) := by
  cases pieces with
  | nil => exact begins_nil
  | cons piece pieces =>
      rw [starred_cons, begins_run] at begins ⊢
      obtain ⟨front, later, rfl, ranOver, begins⟩ := begins
      exact ⟨gap ++ front, later, (List.append_assoc ..).symm,
        List.forall_mem_append.mpr ⟨between, ranOver⟩, begins⟩

/-- Taking first occurrences finds all pieces whenever they can be found. -/
theorem findPieces_iff (pieces : List (List Char)) (text : List Char) :
    findPieces pieces text = true ↔ Begins Inline (starred pieces) text := by
  induction pieces generalizing text with
  | nil => simp [findPieces, starred]
  | cons piece pieces ih =>
      rw [starred_cons, begins_run, findPieces]
      constructor
      · intro found
        split at found
        · rename_i rest first
          obtain ⟨front, rfl, ranOver⟩ := of_afterFirst? first
          exact ⟨front, piece ++ rest, List.append_assoc .., ranOver,
            (begins_piece piece).mpr ⟨rest, rfl, (ih rest).mp found⟩⟩
        · cases found
      · rintro ⟨front, _, rfl, ranOver, begins⟩
        obtain ⟨rest, rfl, onward⟩ := (begins_piece piece).mp begins
        obtain ⟨gap, first, between⟩ := exists_afterFirst? piece rest ranOver
        rw [← List.append_assoc, first]
        exact (ih _).mpr (begins_starred_append between onward)

/-- A text matches a pattern when some front of it is as the pattern describes. -/
theorem matchesStart_iff (pattern text : List Char) :
    matchesStart pattern text = true ↔ Begins Inline (parts pattern) text := by
  obtain ⟨first, pieces, cut⟩ := List.exists_cons_of_ne_nil (split_ne_nil '*' pattern)
  rw [parts_of_split cut, begins_piece, matchesStart, cut]
  dsimp only
  constructor
  · intro found
    split at found
    · rename_i rest here
      exact ⟨rest, afterPiece?_eq_some_iff.mp here, (findPieces_iff pieces rest).mp found⟩
    · cases found
  · rintro ⟨rest, rfl, begins⟩
    rw [afterPiece?_eq_some_iff.mpr rfl]
    exact (findPieces_iff pieces rest).mpr begins

/-! ## Patterns as regular expressions -/

/-- Characters that mean something in a regular expression unless they are escaped. -/
def special (character : Char) : Bool :=
  character ∈ ['\\', '.', '+', '*', '?', '(', ')', '|', '[', ']', '\x7b', '\x7d', '^', '$', '#',
    '&', '-', '~']

/-- A piece as a regular expression. -/
def escape (piece : List Char) : List Char :=
  piece.flatMap fun character => if special character then ['\\', character] else [character]

/-- A pattern as a regular expression that is anchored at the start. -/
def expression (pattern : List Char) : List Char :=
  '^' :: ['.', '*'].intercalate ((split '*' pattern).map escape)

/-- Reads runs, escaped characters, and characters that need no escape. -/
def readParts? : List Char → Option (List Part)
  | [] => some []
  | '.' :: '*' :: rest => (readParts? rest).map (.run :: ·)
  | '\\' :: character :: rest =>
      if special character then (readParts? rest).map (.exactly character :: ·) else none
  | character :: rest =>
      if special character then none else (readParts? rest).map (.exactly character :: ·)

/-- The parts of a regular expression that is anchored at the start. -/
def readExpression? : List Char → Option (List Part)
  | '^' :: rest => readParts? rest
  | _ => none

theorem readParts?_of_plain {character : Char} (plain : special character = false)
    (rest : List Char) :
    readParts? (character :: rest) = (readParts? rest).map (.exactly character :: ·) := by
  have notDot : character ≠ '.' := fun same => absurd (same ▸ plain) (by decide)
  have notEscape : character ≠ '\\' := fun same => absurd (same ▸ plain) (by decide)
  simp [readParts?, notDot, notEscape, plain]

theorem readParts?_escape (piece rest : List Char) :
    readParts? (escape piece ++ rest) = (readParts? rest).map (piece.map .exactly ++ ·) := by
  induction piece with
  | nil => simp [escape]
  | cons character piece ih =>
      cases meaning : special character with
      | true =>
          have escaped : escape (character :: piece) = '\\' :: character :: escape piece := by
            simp [escape, meaning]
          simp [escaped, readParts?, meaning, ih, Function.comp_def]
      | false =>
          have unescaped : escape (character :: piece) = character :: escape piece := by
            simp [escape, meaning]
          simp [unescaped, readParts?_of_plain meaning, ih, Function.comp_def]

theorem readParts?_joined (first : List Char) (pieces : List (List Char)) :
    readParts? (['.', '*'].intercalate ((first :: pieces).map escape)) =
      some (first.map .exactly ++ starred pieces) := by
  induction pieces generalizing first with
  | nil =>
      have alone := readParts?_escape first []
      simpa [readParts?, starred] using alone
  | cons piece pieces ih =>
      rw [List.map_cons, List.map_cons, List.intercalate_cons_cons, ← List.map_cons,
        List.append_assoc, readParts?_escape]
      simp only [List.cons_append, List.nil_append, readParts?, ih, Option.map_some, starred_cons]

/-- A pattern that was written as a regular expression is read again as it is. -/
theorem readExpression?_expression (pattern : List Char) :
    readExpression? (expression pattern) = some (parts pattern) := by
  obtain ⟨first, pieces, cut⟩ := List.exists_cons_of_ne_nil (split_ne_nil '*' pattern)
  rw [expression, readExpression?, cut, readParts?_joined, parts_of_split cut]

/-- Looking for pieces is searching by the regular expression of the pattern. -/
theorem matchesStart_iff_expression (pattern text : List Char) :
    matchesStart pattern text = true ↔
      ∃ described, readExpression? (expression pattern) = some described ∧
        Begins Inline described text := by
  simp [readExpression?_expression, matchesStart_iff]

/-! ## Lines -/

/-- On a single line runs can be of any characters. -/
theorem begins_inline_iff (described : List Part) {text : List Char}
    (line : ∀ character ∈ text, Inline character) :
    Begins Inline described text ↔ Begins (fun _ => True) described text := by
  refine exists_congr fun front => and_congr_right fun begins => ?_
  constructor
  · exact fun describes => describes.of_free fun _ _ => trivial
  · exact fun describes => describes.of_free fun character listed =>
      line character (begins.subset listed)

end Wildcard

/-! ## The operator -/

namespace Value

open Wildcard

/-- The right side begins with a pattern, and some text of the left side begins as it describes,
with runs of free characters. -/
def Resembles (free : Char → Prop) (left right : Value) : Prop :=
  ∃ pattern others content, right.scalars = text pattern :: others ∧
    text content ∈ left.scalars ∧ Begins free (parts pattern.toList) content.toList

theorem fits_iff (pattern : String) (value : Value) :
    fits pattern value = true ↔
      ∃ content, value = text content ∧ Begins Inline (parts pattern.toList) content.toList := by
  cases value <;> simp [fits, matchesStart_iff]

theorem isLike_iff (left right : Value) :
    isLike left right = true ↔ Resembles Inline left right := by
  rw [isLike]
  split
  · rename_i pattern others begun
    simp only [List.any_eq_true, fits_iff, Resembles, begun]
    constructor
    · rintro ⟨value, listed, content, rfl, begins⟩
      exact ⟨pattern, others, content, rfl, listed, begins⟩
    · rintro ⟨_, _, content, ⟨⟩, listed, begins⟩
      exact ⟨_, listed, content, rfl, begins⟩
  · rename_i none
    simp only [Bool.false_eq_true, false_iff]
    rintro ⟨pattern, others, content, begun, -⟩
    exact none pattern others begun

/-- The operator tells whether its left side resembles its right side, with runs that stay on their
line; on texts of one line, that is with any runs. -/
theorem apply_like (left right : Value) :
    ∃ verdict, apply .like [left, right] = .ok (bool verdict) ∧
      (verdict = true ↔ Resembles Inline left right) ∧
      ((∀ content, text content ∈ left.scalars → ∀ character ∈ content.toList, Inline character) →
        (verdict = true ↔ Resembles (fun _ => True) left right)) := by
  refine ⟨isLike left right, rfl, isLike_iff left right, fun lines => ?_⟩
  rw [isLike_iff, Resembles, Resembles]
  refine exists_congr fun pattern => exists_congr fun others => exists_congr fun content => ?_
  refine and_congr_right fun _ => and_congr_right fun listed => ?_
  exact begins_inline_iff _ (lines content listed)

/-- A dot and brackets stand for themselves, on both sides of a star. -/
theorem apply_like_of_one_line :
    apply .like [list [int 1, text "s.b-[x]."], text "s.*[x]"] = .ok (bool true) ∧
      Resembles (fun _ => True) (list [int 1, text "s.b-[x]."]) (text "s.*[x]") := by
  obtain ⟨verdict, applied, -, lines⟩ :=
    apply_like (list [int 1, text "s.b-[x]."]) (text "s.*[x]")
  have found : apply .like [list [int 1, text "s.b-[x]."], text "s.*[x]"] = .ok (bool true) := rfl
  cases found.symm.trans applied
  exact ⟨found, (lines (by simp [scalars, Inline])).mp rfl⟩

/-- No run leads over a line break. -/
theorem apply_like_of_line_break :
    apply .like [text "a\nb", text "a*b"] = .ok (bool false) ∧
      Resembles (fun _ => True) (text "a\nb") (text "a*b") := by
  refine ⟨rfl, "a*b", [], "a\nb", rfl, List.mem_singleton_self _, "a\nb".toList,
    List.prefix_refl _, ?_⟩
  exact .exactly 'a' (.run ['\n'] (fun _ _ => trivial) (.exactly 'b' .nil))

end Value

end RadarRelay
