import RadarRelay.Filter.Reader
import RadarRelay.Proofs.Filter.Parts
import RadarRelay.Proofs.Filter.Written
import RadarRelay.Proofs.Json.Accepted
import RadarRelay.Proofs.Json.Rereading

/-!
# Canonical texts of filters

The canonical text of a filter is the text of the object that stands for it. When the filter was
read from a text without floating-point numbers, its canonical text is read as the filter
again, up to the depth of documents. The object of the filter that accepts everything has a
field that may be left out when it is read, and that is one container more; so the canonical text
of a filter can be one level deeper than the text it came from, and it is refused when that
is a level too many.
-/

namespace RadarRelay.Filter

open RadarRelay.Number RadarRelay.Document
open RadarRelay.Json (Every Proper)

/-! ## Reading canonical texts -/

theorem ofText_eq_ok_iff {text : String} {filter : Filter} :
    ofText text = .ok filter ↔ ∃ value, Json.read text = .ok value ∧ Denotes value filter := by
  constructor
  · intro accepted
    obtain ⟨value, read, accepted⟩ := Except.of_bind_eq_ok accepted
    exact ⟨value, Except.of_mapError_eq_ok read, ofValue_eq_ok_iff.1 accepted⟩
  · intro ⟨value, read, denotes⟩
    rw [ofText, read]
    exact ofValue_eq_ok_iff.2 denotes

/-- The text of a value that stands for a filter is read as the filter, unless it nests too deep. -/
theorem Denotes.ofText_text {value : Json} {filter : Filter} (denotes : Denotes value filter)
    (exact : value.Every Json.Exact) :
    ofText value.text =
      if value.depth ≤ 127 then .ok filter else .error (.json true "recursion limit exceeded") := by
  rw [ofText, Json.read_text exact]
  split
  · exact ofValue_eq_ok_iff.2 denotes
  · rfl

theorem denotes_toJson (filter : Filter) : Denotes filter.toJson filter :=
  ofJson_eq_ok_iff.1 (ofJson_toJson filter)

/-- A part of a value is no floating-point number; the literal `-0` is one of a zero. -/
def Integral (part : Json) : Prop :=
  ∀ double, part = .number (.real double) → double.isZero = true

/-- Where no number of an accepted text is a floating-point number, the canonical text of the filter
is read as the filter, unless it nests too deep for a document. It is at most one level deeper
than the accepted text. -/
theorem ofText_canonical {text : String} {filter : Filter} {value : Json}
    (accepted : ofText text = .ok filter) (read : Json.read text = .ok value)
    (integral : value.Every Integral) :
    (ofText filter.toJson.text =
      if filter.toJson.depth ≤ 127 then .ok filter
      else .error (.json true "recursion limit exceeded")) ∧
    filter.toJson.depth ≤ value.depth + 1 := by
  obtain ⟨other, same, denotes⟩ := ofText_eq_ok_iff.1 accepted
  cases read.symm.trans same
  have exact : value.Every Json.Exact := by
    intro part inside
    have proper := Json.proper_of_read read part inside
    have whole := integral part inside
    cases part with
    | number number =>
        cases number with
        | whole value => exact proper
        | real value => exact whole value rfl
    | _ => exact proper
  exact ⟨(denotes_toJson filter).ofText_text (denotes.every_toJson exact), denotes.depth_toJson_le⟩

/-! ## Negations -/

/-- The filter that accepts everything, negated so many times. -/
def negated : Nat → Filter
  | 0 => always
  | count + 1 => not (negated count)

/-- A value that stands for it, without the field that may be left out. -/
def negatedValue : Nat → Json
  | 0 => .object [("filter_type", .string "always_filter")]
  | count + 1 => .object [("filter_type", .string "not_filter"), ("value", negatedValue count)]

theorem denotes_negated (count : Nat) : Denotes (negatedValue count) (negated count) := by
  induction count with
  | zero => exact .always rfl
  | succ count ih => exact .not rfl rfl ih

theorem every_negatedValue {fits : Json.Number → Prop} (count : Nat) :
    (negatedValue count).Every (Proper fits) := by
  induction count with
  | zero =>
      refine Json.every_object.2 ⟨Json.ordered_of_names ["filter_type"] rfl (by decide), ?_⟩
      simp [Proper]
  | succ count ih => exact every_content _ ih

theorem depth_negatedValue (count : Nat) : (negatedValue count).depth = count + 1 := by
  induction count with
  | zero => rfl
  | succ count ih => simp [negatedValue, Json.depth, Json.depthOfFields, ih]

theorem depth_toJson_negated (count : Nat) : (negated count).toJson.depth = count + 2 := by
  induction count with
  | zero => rfl
  | succ count ih => simp [negated, toJson, Json.depth, Json.depthOfFields, ih]

theorem integral_negatedValue (count : Nat) : (negatedValue count).Every Integral := by
  have none : (negatedValue count).Every (Proper fun _ => False) := every_negatedValue count
  intro part inside double same
  subst same
  exact (none _ inside).elim

/-- Three negations come back. -/
theorem ofText_canonical_of_negated :
    ofText (negatedValue 3).text = .ok (negated 3) ∧
      Json.read (negatedValue 3).text = .ok (negatedValue 3) ∧
      (negatedValue 3).Every Integral ∧
      ofText (negated 3).toJson.text = .ok (negated 3) := by
  have accepted : ofText (negatedValue 3).text = .ok (negated 3) :=
    ((denotes_negated 3).ofText_text (every_negatedValue 3)).trans (if_pos (by decide))
  have read : Json.read (negatedValue 3).text = .ok (negatedValue 3) :=
    (Json.read_text (every_negatedValue 3)).trans (if_pos (by decide))
  have integral := integral_negatedValue 3
  exact ⟨accepted, read, integral,
    (ofText_canonical accepted read integral).1.trans (if_pos (by decide))⟩

/-- As many negations as fit into a document do not. -/
theorem canonical_text_refused :
    ofText (negatedValue 126).text = .ok (negated 126) ∧
      (negatedValue 126).Every Integral ∧
      ofText (negated 126).toJson.text = .error (.json true "recursion limit exceeded") := by
  refine ⟨?accepted, integral_negatedValue 126, ?refused⟩
  case accepted =>
    have text := (denotes_negated 126).ofText_text (every_negatedValue 126)
    rw [depth_negatedValue] at text
    exact text
  case refused =>
    have parts : (negated 126).toJson.Every Json.Exact :=
      (denotes_negated 126).every_toJson (every_negatedValue 126)
    have text := (denotes_toJson (negated 126)).ofText_text parts
    rw [depth_toJson_negated] at text
    exact text

end RadarRelay.Filter
