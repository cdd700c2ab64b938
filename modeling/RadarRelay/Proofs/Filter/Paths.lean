import RadarRelay.Proofs.Filter.Selection

/-!
# Names that are ends of paths

An ordinary name is compared with a path segment by segment from the end. On the
characters this says that the path is the name, or that it ends with a slash and the
name: no segment is matched in part, and empty segments count as any other. A name that
begins with a slash has an empty first segment, so it selects whole paths only, unless a
path itself has an empty segment inside.
-/

namespace RadarRelay

namespace Text

/-- At a separator the pieces of a text fall apart. -/
theorem split_append (separator : Char) (front back : List Char) :
    split separator (front ++ separator :: back) =
      split separator front ++ split separator back := by
  induction front with
  | nil => simp [split]
  | cons character front ih =>
      by_cases same : character = separator
      · simp [split, same, ih]
      · cases found : split separator front with
        | nil => exact absurd found (split_ne_nil separator front)
        | cons piece pieces => simp [split, same, ih, found]

/-- Pieces before and behind a place are joined with a separator between. -/
theorem join_append (separator : Char) {front back : List (List Char)} (frontGiven : front ≠ [])
    (backGiven : back ≠ []) :
    join separator (front ++ back) = join separator front ++ separator :: join separator back := by
  induction front with
  | nil => contradiction
  | cons piece front ih =>
      cases front with
      | nil =>
          cases back with
          | nil => contradiction
          | cons other back => simp [join]
      | cons other front =>
          have rest := ih (List.cons_ne_nil other front)
          simp only [List.cons_append] at rest
          simp [join, rest]

/-- The pieces of one text are the last pieces of another when the texts are the same, or the other
ends with the first behind a separator. -/
theorem split_suffix_iff (separator : Char) (name path : List Char) :
    split separator name <:+ split separator path ↔
      path = name ∨ (separator :: name) <:+ path := by
  constructor
  · intro ⟨pieces, whole⟩
    have joined := congrArg (join separator) whole
    rw [join_split] at joined
    cases pieces with
    | nil =>
        rw [List.nil_append, join_split] at joined
        exact .inl joined.symm
    | cons piece pieces =>
        rw [join_append separator (List.cons_ne_nil piece pieces) (split_ne_nil separator name),
          join_split] at joined
        exact .inr ⟨_, joined⟩
  · intro ends
    cases ends with
    | inl same => simp [same]
    | inr behind =>
        obtain ⟨front, whole⟩ := behind
        rw [← whole, split_append]
        exact List.suffix_append ..

end Text

open RadarRelay.Text

namespace Attribute

/-- The path is the name, or it ends with a slash and the name. -/
def EndsWith (entry : Attribute) (name : String) : Prop :=
  entry.path = name ∨ ('/' :: name.toList) <:+ entry.path.toList

instance (entry : Attribute) (name : String) : Decidable (entry.EndsWith name) :=
  inferInstanceAs (Decidable (_ ∨ _))

/-- A path in which no slash follows another does not end with a name that begins with one, behind
another slash. -/
theorem endsWith_iff_of_leading_slash {entry : Attribute} {name : String}
    (leading : ['/'] <+: name.toList) (single : ¬ ['/', '/'] <:+: entry.path.toList) :
    entry.EndsWith name ↔ entry.path = name := by
  constructor
  · intro ends
    cases ends with
    | inl same => exact same
    | inr behind =>
        have doubled : ['/', '/'] <+: '/' :: name.toList := List.cons_prefix_cons.2 ⟨rfl, leading⟩
        exact absurd (doubled.isInfix.trans behind.isInfix) single
  · exact .inl

end Attribute

namespace Metadata

/-- An ordinary name selects the attributes whose paths end with it, in their order. -/
theorem select_of_ordinary (metadata : Metadata) {name : String}
    (isOrdinary : Selector.ordinary name = true) :
    metadata.select name =
      (metadata.attributes.filter fun entry => entry.EndsWith name).map (·.value) := by
  have ends (entry : Attribute) :
      (split '/' name.toList).isSuffixOf (split '/' entry.path.toList) =
        decide (entry.EndsWith name) := by
    rw [Bool.eq_iff_iff, List.isSuffixOf_iff_suffix, split_suffix_iff, decide_eq_true_iff,
      Attribute.EndsWith, String.toList_inj]
  rw [select, Selector.ofName_of_ordinary isOrdinary, Selector.select]
  simp only [ends]

end Metadata

namespace Expression

/-- An ordinary name stands for the values of the attributes whose paths end with it, in order and
as often as they occur, each read as the type. With a slash in front it stands for the attributes of
exactly that path, as far as no path has two slashes in a row. -/
theorem evaluate_attr_of_ordinary (metadata : Metadata) {name : String}
    (isOrdinary : Selector.ordinary name = true) (type : ValueType) :
    (attr name type).evaluate metadata =
        .ok (.list ((metadata.attributes.filter fun entry => entry.EndsWith name).map
          fun entry => Value.coerce type (.text entry.value))) ∧
      (['/'] <+: name.toList → ∀ entry ∈ metadata.attributes,
        ¬ ['/', '/'] <:+: entry.path.toList → (entry.EndsWith name ↔ entry.path = name)) := by
  constructor
  · rw [evaluate, Metadata.attributeValue, metadata.select_of_ordinary isOrdinary]
    simp [Value.coerce, Function.comp_def]
  · intro leading entry _ single
    exact Attribute.endsWith_iff_of_leading_slash leading single

/-- Segments are matched whole, also empty ones, and a doubled slash lets a name that begins with a
slash end a longer path. -/
theorem evaluate_attr_of_ordinary_of_slashes :
    let metadata : Metadata :=
      { Metadata.empty with
        attributes :=
          [ ⟨"/how/what/gain", "1"⟩, ⟨"/somewhat/gain", "2"⟩, ⟨"what/gain", "3"⟩,
            ⟨"/how//what/gain", "4"⟩, ⟨"/what/gain", "4"⟩, ⟨"gain", "5"⟩, ⟨"what/gain/", "6"⟩ ] }
    Selector.ordinary "what/gain" = true ∧ Selector.ordinary "/what/gain" = true ∧
      (attr "what/gain" .string).evaluate metadata =
        .ok (.list [.text "1", .text "3", .text "4", .text "4"]) ∧
      (attr "/what/gain" .string).evaluate metadata = .ok (.list [.text "4", .text "4"]) ∧
      ['/'] <+: "/what/gain".toList ∧ ¬ ['/', '/'] <:+: "/how/what/gain".toList ∧
      ¬ (⟨"/how/what/gain", "1"⟩ : Attribute).EndsWith "/what/gain" := by
  intro metadata
  have relative : Selector.ordinary "what/gain" = true := by decide +kernel
  have absolute : Selector.ordinary "/what/gain" = true := by decide +kernel
  have leading : ['/'] <+: "/what/gain".toList := by decide +kernel
  have single : ¬ ['/', '/'] <:+: "/how/what/gain".toList := by decide +kernel
  have whole := (evaluate_attr_of_ordinary metadata absolute .string).2 leading
    ⟨"/how/what/gain", "1"⟩ (by simp [metadata]) single
  refine ⟨relative, absolute, ?_, ?_, leading, single, ?_⟩
  · rw [(evaluate_attr_of_ordinary metadata relative .string).1]
    rfl
  · rw [(evaluate_attr_of_ordinary metadata absolute .string).1]
    rfl
  · rw [whole]
    decide

end Expression

end RadarRelay
