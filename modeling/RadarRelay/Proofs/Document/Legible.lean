import RadarRelay.Proofs.Json5.Rereading
import RadarRelay.Proofs.Json5.Sound

/-!
# Values that can be read again

A free-form value that was read from a text has whole numbers of 64 bits, finite doubles
and fields in order. Of such a value the outline of its own text denotes the value.
-/

namespace RadarRelay

open RadarRelay.Number RadarRelay.Document

namespace Json

/-- A number that a text can hold. -/
def Number.Legible : Number → Prop
  | whole value => fitsInt64 value = true
  | real value => value.isFinite = true

mutual

/-- Numbers that a text can hold, and fields in order. -/
def Legible : Json → Prop
  | null | bool _ | string _ => True
  | number value => value.Legible
  | array items => LegibleItems items
  | object fields => Ordered fields ∧ LegibleFields fields

@[inherit_doc Legible]
def LegibleItems : List Json → Prop
  | [] => True
  | item :: items => item.Legible ∧ LegibleItems items

@[inherit_doc Legible]
def LegibleFields : List (String × Json) → Prop
  | [] => True
  | (_, value) :: fields => value.Legible ∧ LegibleFields fields

end

mutual

/-- A value is legible when each of its parts is. -/
theorem legible_iff (value : Json) : value.Legible ↔ value.Every (Proper Number.Legible) := by
  cases value with
  | null | bool | string => simp [Legible, Proper]
  | number value => simp [Legible, Proper]
  | array items =>
      rw [Legible, every_array, legibleItems_iff_every items]
      simp [Proper]
  | object fields =>
      rw [Legible, every_object, legibleFields_iff_every fields]
      simp [Proper]

theorem legibleItems_iff_every (items : List Json) :
    LegibleItems items ↔ ∀ item ∈ items, item.Every (Proper Number.Legible) := by
  cases items with
  | nil => simp [LegibleItems]
  | cons item items =>
      rw [LegibleItems, legible_iff item, legibleItems_iff_every items, List.forall_mem_cons]

theorem legibleFields_iff_every (fields : List (String × Json)) :
    LegibleFields fields ↔ ∀ field ∈ fields, field.2.Every (Proper Number.Legible) := by
  cases fields with
  | nil => simp [LegibleFields]
  | cons field fields =>
      obtain ⟨name, value⟩ := field
      rw [LegibleFields, legible_iff value, legibleFields_iff_every fields, List.forall_mem_cons]

end

theorem legibleItems_iff {items : List Json} :
    LegibleItems items ↔ ∀ item ∈ items, item.Legible := by
  simp only [legibleItems_iff_every, legible_iff]

/-- The object of legible fields is legible, in whatever order they come. -/
theorem legible_ofFields {fields : List (String × Json)} (legible : LegibleFields fields) :
    (ofFields fields).Legible :=
  (legible_iff _).2 (every_proper_ofFields ((legibleFields_iff_every fields).1 legible))

end Json

namespace Document.Outline

/-- What is read from a text as a free-form value is legible. -/
theorem legible_of_toJson {outline : Outline} {value : Json}
    (sound : outline.Sound Numeral.Sound) (read : outline.toJson = .ok value) : value.Legible := by
  refine (Json.legible_iff value).2 (every_of_toJson (fun {_ number} sound free literal => ?_) sound
    read)
  cases number with
  | whole value => exact sound value free
  | real value => exact literal

end Document.Outline

namespace Json5

open RadarRelay.Json (Legible Proper)

theorem denoted_of_proper {value : Json} (proper : Proper Json.Number.Legible value) :
    Denoted outlineOfNumber value := by
  cases value with
  | number number =>
      cases number with
      | whole value =>
          have free := freeValue_whole proper
          rw [Denoted, outlineOfNumber, Outline.toJson, numeral, free]
          rfl
      | real value =>
          have finite : value.isFinite = true := proper
          have free := freeValue_real finite
          rw [Denoted, outlineOfNumber, if_pos finite, Outline.toJson, numeral, free]
          show Except.ok (if value.isFinite then _ else _) = _
          rw [if_pos finite]
  | object fields => exact proper
  | _ => trivial

/-- A legible value is what the outline of its text denotes. -/
theorem toJson_outlineOf {value : Json} (legible : value.Legible) :
    (outlineOf value).toJson = .ok value := by
  rw [outlineOf_eq_written]
  exact toJson_written (((Json.legible_iff value).1 legible).mono fun _ => denoted_of_proper)

end Json5

end RadarRelay
