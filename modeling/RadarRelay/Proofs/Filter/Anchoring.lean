import RadarRelay.Proofs.Filter.Wildcards

/-!
# How far a pattern binds a text

A pattern, however long, says how a text begins and nothing of how it goes on. Text added behind
one that matches does no harm, and neither does cutting off the end of a pattern. A star at the
end asks for nothing, and several stars in a row ask for no more than one: runs that follow one
another are one run of the same line.

All of this comes from one fact about descriptions: a text begins as two of them describe when
its front is as the first describes and what follows begins as the second describes.
-/

namespace RadarRelay

namespace Wildcard

variable {free : Char → Prop} {first second described : List Part} {text : List Char}

/-! ## Descriptions behind one another -/

/-- A front is described by the first parts, and what follows it begins as the others describe. -/
theorem begins_append :
    Begins free (first ++ second) text ↔
      ∃ front rest, text = front ++ rest ∧ Describes free first front ∧
        Begins free second rest := by
  induction first generalizing text with
  | nil =>
      constructor
      · exact fun begins => ⟨[], text, rfl, .nil, begins⟩
      · rintro ⟨_, rest, rfl, ⟨⟩, begins⟩
        exact begins
  | cons part first ih =>
      cases part with
      | exactly character =>
          rw [List.cons_append, begins_exactly]
          constructor
          · rintro ⟨_, rfl, begins⟩
            obtain ⟨front, rest, rfl, describes, begins⟩ := ih.mp begins
            exact ⟨character :: front, rest, rfl, .exactly character describes, begins⟩
          · rintro ⟨_, rest, rfl, describes, begins⟩
            cases describes with
            | @exactly _ _ front describes =>
                exact ⟨front ++ rest, rfl, ih.mpr ⟨front, rest, rfl, describes, begins⟩⟩
      | run =>
          rw [List.cons_append, begins_run]
          constructor
          · rintro ⟨run, _, rfl, ranOver, begins⟩
            obtain ⟨front, rest, rfl, describes, begins⟩ := ih.mp begins
            exact ⟨run ++ front, rest, (List.append_assoc ..).symm, .run run ranOver describes,
              begins⟩
          · rintro ⟨_, rest, rfl, describes, begins⟩
            cases describes with
            | @run run _ front ranOver describes =>
                exact ⟨run, front ++ rest, List.append_assoc .., ranOver,
                  ih.mpr ⟨front, rest, rfl, describes, begins⟩⟩

/-- What follows the front of a text does not matter. -/
theorem Begins.more (begins : Begins free described text) (more : List Char) :
    Begins free described (text ++ more) := by
  obtain ⟨front, begun, describes⟩ := begins
  exact ⟨front, begun.trans (text.prefix_append more), describes⟩

/-- A description may be cut off anywhere. -/
theorem Begins.of_append (begins : Begins free (first ++ second) text) :
    Begins free first text := by
  obtain ⟨front, rest, rfl, describes, -⟩ := begins_append.mp begins
  exact ⟨front, front.prefix_append rest, describes⟩

/-- Behind the same parts, descriptions that say the same may stand for each other. -/
theorem begins_append_congr {other : List Part}
    (same : ∀ rest, Begins free second rest ↔ Begins free other rest) :
    Begins free (first ++ second) text ↔ Begins free (first ++ other) text := by
  simp only [begins_append, same]

/-! ## Runs behind one another -/

/-- A run behind a run adds nothing to it. -/
theorem begins_run_run :
    Begins free (.run :: .run :: described) text ↔ Begins free (.run :: described) text := by
  rw [begins_run]
  constructor
  · rintro ⟨front, _, rfl, ranOver, begins⟩
    obtain ⟨later, rest, rfl, ranOn, begins⟩ := begins_run.mp begins
    exact begins_run.mpr ⟨front ++ later, rest, (List.append_assoc ..).symm,
      List.forall_mem_append.mpr ⟨ranOver, ranOn⟩, begins⟩
  · exact fun begins => ⟨[], text, rfl, nofun, begins⟩

/-- As many runs as there are behind a run add nothing to it. -/
theorem begins_runs (count : Nat) :
    Begins free (.run :: (List.replicate count .run ++ described)) text ↔
      Begins free (.run :: described) text := by
  induction count with
  | zero => exact Iff.rfl
  | succ count ih => rw [List.replicate_succ, List.cons_append, begins_run_run, ih]

/-- Runs need not reach over anything. -/
theorem describes_runs (count : Nat) : Describes free (List.replicate count .run) [] := by
  induction count with
  | zero => exact .nil
  | succ count ih => exact .run [] nofun ih

/-- Runs at the end of a description ask for nothing. -/
theorem begins_append_runs (count : Nat) :
    Begins free (described ++ List.replicate count .run) text ↔ Begins free described text := by
  constructor
  · exact Begins.of_append
  · rintro ⟨front, ⟨rest, rfl⟩, describes⟩
    exact begins_append.mpr ⟨front, rest, rfl, describes, [], rest.nil_prefix,
      describes_runs count⟩

/-! ## Patterns -/

/-- So many stars in a row. -/
def stars (count : Nat) : String :=
  String.ofList (List.replicate count '*')

theorem parts_append (front back : List Char) :
    parts (front ++ back) = parts front ++ parts back :=
  List.map_append

@[simp] theorem parts_stars (count : Nat) :
    parts (stars count).toList = List.replicate count .run := by
  simp [parts, stars]

theorem stars_one : stars 1 = "*" := rfl

variable {pattern further : List Char}

/-- A text that goes on matches the same patterns. -/
theorem matchesStart_more (matched : matchesStart pattern text = true) (more : List Char) :
    matchesStart pattern (text ++ more) = true :=
  (matchesStart_iff ..).mpr (((matchesStart_iff ..).mp matched).more more)

/-- The beginning of a pattern is matched where the pattern is. -/
theorem matchesStart_of_append (matched : matchesStart (pattern ++ further) text = true) :
    matchesStart pattern text = true := by
  rw [matchesStart_iff, parts_append] at matched
  exact (matchesStart_iff ..).mpr matched.of_append

/-- Stars at the end of a pattern do not count. -/
theorem matchesStart_append_stars (pattern text : List Char) (count : Nat) :
    matchesStart (pattern ++ (stars count).toList) text = matchesStart pattern text := by
  rw [Bool.eq_iff_iff, matchesStart_iff, matchesStart_iff, parts_append, parts_stars]
  exact begins_append_runs count

/-- Stars in a row count as one of them. -/
theorem matchesStart_stars (pattern further text : List Char) (count : Nat) :
    matchesStart (pattern ++ (stars (count + 1)).toList ++ further) text =
      matchesStart (pattern ++ (stars 1).toList ++ further) text := by
  rw [Bool.eq_iff_iff, matchesStart_iff, matchesStart_iff]
  simp only [parts_append, parts_stars, List.append_assoc]
  exact begins_append_congr fun rest => begins_runs count

end Wildcard

/-! ## The operator -/

namespace Value

open Wildcard

theorem isLike_text (content pattern : String) :
    isLike (text content) (text pattern) = matchesStart pattern.toList content.toList := by
  simp [isLike, scalars, fits]

/-- A pattern is matched by the texts of which some front is as it describes. So a matching text
may go on as it likes, stars at the end of a pattern do not count, several in a row count as one,
and a pattern is matched wherever it is the beginning of one that is. -/
theorem isLike_anchored (content more pattern further : String) (count : Nat) :
    (isLike (text content) (text pattern) = true ↔
        Begins Inline (parts pattern.toList) content.toList) ∧
      (isLike (text content) (text pattern) = true →
        isLike (text (content ++ more)) (text pattern) = true) ∧
      isLike (text content) (text (pattern ++ stars count)) =
        isLike (text content) (text pattern) ∧
      isLike (text content) (text (pattern ++ stars (count + 1) ++ further)) =
        isLike (text content) (text (pattern ++ "*" ++ further)) ∧
      (isLike (text content) (text (pattern ++ further)) = true →
        isLike (text content) (text pattern) = true) := by
  simp only [isLike_text, ← stars_one, String.toList_append]
  exact ⟨matchesStart_iff .., fun matched => matchesStart_more matched _,
    matchesStart_append_stars .., matchesStart_stars .., matchesStart_of_append⟩

/-- A text goes on behind a line break, and a pattern with stars goes on with another star. -/
theorem isLike_anchored_of_two_lines :
    isLike (text "se.baa") (text "s*.") = true ∧
      isLike (text ("se.baa" ++ "\nfi")) (text "s*.") = true ∧
      isLike (text "se.baa") (text ("s*." ++ stars 2)) = true ∧
      isLike (text "se.baa") (text ("s*." ++ "*a")) = true ∧
      isLike (text "se.baa") (text ("s*." ++ stars 3 ++ "*a")) = true := by
  have matched : isLike (text "se.baa") (text "s*.") = true := rfl
  have whole : isLike (text "se.baa") (text ("s*." ++ "*a")) = true := rfl
  have starred : isLike (text "se.baa") (text ("s*." ++ "*" ++ "*a")) = true := rfl
  obtain ⟨-, goesOn, ending, inRow, begun⟩ := isLike_anchored "se.baa" "\nfi" "s*." "*a" 2
  exact ⟨begun whole, goesOn matched, ending.trans matched, whole, inRow.trans starred⟩

end Value

end RadarRelay
