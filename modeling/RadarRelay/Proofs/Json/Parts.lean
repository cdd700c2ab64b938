import RadarRelay.Proofs.Json.Ordered

/-!
# Parts of free-form values

A value consists of itself, of its items and of what is in its fields, at any depth. What
holds of every part of a value holds of every part of its parts, and no part is deeper
than the whole.
-/

namespace RadarRelay.Json

/-- The parts of a value, itself included. -/
inductive Within : Json → Json → Prop
  | self (value : Json) : Within value value
  | item {part item : Json} {items : List Json} (inside : Within part item)
      (member : item ∈ items) : Within part (.array items)
  | field {part : Json} {field : String × Json} {fields : List (String × Json)}
      (inside : Within part field.2) (member : field ∈ fields) : Within part (.object fields)

theorem Within.trans {part middle value : Json} (first : part.Within middle)
    (second : middle.Within value) : part.Within value := by
  induction second with
  | self => exact first
  | item _ member ih => exact .item ih member
  | field _ member ih => exact .field ih member

theorem mem_of_lookup {name : String} {value : Json} {fields : List (String × Json)}
    (found : lookup name fields = some value) : (name, value) ∈ fields := by
  induction fields with
  | nil => cases found
  | cons field fields ih =>
      obtain ⟨otherName, other⟩ := field
      rw [lookup] at found
      split at found
      · rename_i same
        cases found
        exact same ▸ List.mem_cons_self ..
      · exact List.mem_cons_of_mem _ (ih found)

/-- Something that holds of every part of a value. -/
def Every (holds : Json → Prop) (value : Json) : Prop :=
  ∀ part : Json, part.Within value → holds part

namespace Every

variable {holds other : Json → Prop} {value part : Json}

theorem here (every : value.Every holds) : holds value :=
  every value (.self value)

theorem within (every : value.Every holds) (inside : part.Within value) : part.Every holds :=
  fun inner innermost => every inner (innermost.trans inside)

theorem mono (every : value.Every holds) (weaker : ∀ part, holds part → other part) :
    value.Every other :=
  fun part inside => weaker part (every part inside)

end Every

section Constructors

variable {holds : Json → Prop}

@[simp] theorem every_null : null.Every holds ↔ holds null := by
  constructor
  · exact Every.here
  · intro here part inside
    cases inside
    exact here

@[simp] theorem every_bool {value : Bool} : (bool value).Every holds ↔ holds (bool value) := by
  constructor
  · exact Every.here
  · intro here part inside
    cases inside
    exact here

@[simp] theorem every_number {value : Number} :
    (number value).Every holds ↔ holds (number value) := by
  constructor
  · exact Every.here
  · intro here part inside
    cases inside
    exact here

@[simp] theorem every_string {value : String} :
    (string value).Every holds ↔ holds (string value) := by
  constructor
  · exact Every.here
  · intro here part inside
    cases inside
    exact here

theorem every_array {items : List Json} :
    (array items).Every holds ↔ holds (array items) ∧ ∀ item ∈ items, item.Every holds := by
  constructor
  · intro every
    exact ⟨every.here, fun item member => every.within (.item (.self item) member)⟩
  · intro ⟨here, inner⟩ part inside
    cases inside with
    | self => exact here
    | item inside member => exact inner _ member part inside

theorem every_object {fields : List (String × Json)} :
    (object fields).Every holds ↔
      holds (object fields) ∧ ∀ field ∈ fields, field.2.Every holds := by
  constructor
  · intro every
    exact ⟨every.here, fun field member => every.within (.field (.self field.2) member)⟩
  · intro ⟨here, inner⟩ part inside
    cases inside with
    | self => exact here
    | field inside member => exact inner _ member part inside

end Constructors

/-! ## Numbers and fields -/

/-- What a part of a value has to be: a number that fits, or an object with its fields in order. -/
def Proper (fits : Number → Prop) : Json → Prop
  | number value => fits value
  | object fields => Ordered fields
  | _ => True

/-- The object of some fields is proper throughout when they are, in whatever order they come. -/
theorem every_proper_ofFields {fits : Number → Prop} {fields : List (String × Json)}
    (every : ∀ field ∈ fields, field.2.Every (Proper fits)) :
    (ofFields fields).Every (Proper fits) := by
  rw [ofFields_eq, every_object]
  refine ⟨ordered_placed fields ordered_nil, fun field member => ?_⟩
  rcases mem_placed member with inside | none
  · exact every field inside
  · cases none

/-! ## Depth -/

theorem depthOfItems_le_iff {items : List Json} {bound : Nat} :
    depthOfItems items ≤ bound ↔ ∀ item ∈ items, item.depth ≤ bound := by
  induction items with
  | nil => simp [depthOfItems]
  | cons item items ih => rw [depthOfItems, Nat.max_le, ih, List.forall_mem_cons]

theorem depthOfFields_le_iff {fields : List (String × Json)} {bound : Nat} :
    depthOfFields fields ≤ bound ↔ ∀ field ∈ fields, field.2.depth ≤ bound := by
  induction fields with
  | nil => simp [depthOfFields]
  | cons field fields ih => rw [depthOfFields, Nat.max_le, ih, List.forall_mem_cons]

theorem depth_lt_of_lookup {name : String} {value : Json} {fields : List (String × Json)}
    (found : lookup name fields = some value) : value.depth < (object fields).depth :=
  Nat.lt_succ_of_le (depthOfFields_le_iff.1 (Nat.le_refl _) _ (mem_of_lookup found))

end RadarRelay.Json
