import RadarRelay.Json.Value

/-!
# The order of fields

The fields of an object are in ascending order of their names. Fields that are so
already make the same object again, and fields of distinct names are only put in order.
-/

namespace RadarRelay.Json

/-- In ascending order of the names, each name once. -/
def Ordered (fields : List (String × Json)) : Prop :=
  fields.Pairwise fun left right => left.1 < right.1

theorem ordered_nil : Ordered [] := List.Pairwise.nil

/-- Only the names are in order, whatever the values. -/
theorem ordered_of_names {fields : List (String × Json)} (names : List String)
    (same : fields.map Prod.fst = names) (ascending : names.Pairwise (· < ·)) : Ordered fields :=
  List.pairwise_map.1 (same ▸ ascending)

/-- A field of a smaller name comes first. -/
theorem lt_of_not_lt {name otherName : String} (different : name ≠ otherName)
    (above : ¬name < otherName) : otherName < name := by
  by_cases below : otherName < name
  · exact below
  · exact absurd (String.le_antisymm (String.not_lt.1 below) (String.not_lt.1 above)) different

theorem mem_insertField {name : String} {value : Json} {fields : List (String × Json)}
    {field : String × Json} (member : field ∈ insertField name value fields) :
    field = (name, value) ∨ field ∈ fields := by
  induction fields with
  | nil => exact .inl (List.mem_singleton.1 member)
  | cons other rest ih =>
      obtain ⟨otherName, otherValue⟩ := other
      rw [insertField] at member
      split at member
      · exact (List.mem_cons.1 member).imp_right (List.mem_cons_of_mem _)
      split at member
      · exact List.mem_cons.1 member
      · rcases List.mem_cons.1 member with rfl | inside
        · exact .inr (List.mem_cons_self ..)
        · exact (ih inside).imp_right (List.mem_cons_of_mem _)

/-- Inserting a field keeps the order. -/
theorem Ordered.insertField {fields : List (String × Json)} (ordered : Ordered fields)
    (name : String) (value : Json) : Ordered (insertField name value fields) := by
  induction fields with
  | nil => exact List.pairwise_singleton ..
  | cons other rest ih =>
      obtain ⟨otherName, otherValue⟩ := other
      obtain ⟨first, others⟩ := List.pairwise_cons.1 ordered
      rw [Json.insertField]
      split
      · rename_i same
        exact List.pairwise_cons.2 ⟨same ▸ first, others⟩
      split
      · rename_i below
        refine List.pairwise_cons.2 ⟨fun field member => ?_, ordered⟩
        rcases List.mem_cons.1 member with rfl | inside
        · exact below
        · exact String.lt_trans below (first field inside)
      · rename_i different above
        refine List.pairwise_cons.2 ⟨fun field member => ?_, ih others⟩
        rcases mem_insertField member with rfl | inside
        · exact lt_of_not_lt different above
        · exact first field inside

/-- A name above all others goes to the end. -/
theorem insertField_of_above {fields : List (String × Json)} {name : String}
    (above : ∀ field ∈ fields, field.1 < name) (value : Json) :
    insertField name value fields = fields ++ [(name, value)] := by
  induction fields with
  | nil => rfl
  | cons other rest ih =>
      obtain ⟨otherName, otherValue⟩ := other
      have below : otherName < name := above _ (List.mem_cons_self ..)
      have different : name ≠ otherName := by
        rintro rfl
        exact String.lt_irrefl _ below
      rw [insertField, if_neg different, if_neg (String.lt_asymm below),
        ih fun field member => above field (List.mem_cons_of_mem _ member)]
      rfl

/-- A name that has not occurred adds a field. -/
theorem perm_insertField {fields : List (String × Json)} {name : String}
    (fresh : name ∉ fields.map Prod.fst) (value : Json) :
    (insertField name value fields).Perm ((name, value) :: fields) := by
  induction fields with
  | nil => exact .refl _
  | cons other rest ih =>
      obtain ⟨otherName, otherValue⟩ := other
      rw [List.map_cons, List.mem_cons, not_or] at fresh
      rw [insertField, if_neg fresh.1]
      split
      · exact .refl _
      · exact ((ih fresh.2).cons _).trans (.swap ..)

/-- The fields that are put in order one after the other. -/
def placed (fields placed : List (String × Json)) : List (String × Json) :=
  fields.foldl (fun placed (name, value) => insertField name value placed) placed

theorem ofFields_eq (fields : List (String × Json)) : ofFields fields = object (placed fields []) :=
  rfl

theorem ordered_placed (fields : List (String × Json)) {before : List (String × Json)}
    (ordered : Ordered before) : Ordered (placed fields before) := by
  induction fields generalizing before with
  | nil => exact ordered
  | cons field fields ih => exact ih (ordered.insertField field.1 field.2)

theorem mem_placed {fields before : List (String × Json)} {field : String × Json}
    (member : field ∈ placed fields before) : field ∈ fields ∨ field ∈ before := by
  induction fields generalizing before with
  | nil => exact .inr member
  | cons other fields ih =>
      rcases ih member with inside | inserted
      · exact .inl (List.mem_cons_of_mem _ inside)
      · rcases mem_insertField inserted with rfl | inside
        · exact .inl (List.mem_cons_self ..)
        · exact .inr inside

/-- Fields in order are placed where they are. -/
theorem placed_of_ordered {fields before : List (String × Json)}
    (ordered : Ordered (before ++ fields)) : placed fields before = before ++ fields := by
  induction fields generalizing before with
  | nil => exact (List.append_nil _).symm
  | cons field fields ih =>
      obtain ⟨-, -, between⟩ := List.pairwise_append.1 ordered
      have above : ∀ other ∈ before, other.1 < field.1 :=
        fun other member => between other member field (List.mem_cons_self ..)
      show placed fields (insertField field.1 field.2 before) = _
      rw [insertField_of_above above, ih (by simpa using ordered)]
      simp

/-- Fields in order make the object that they are the fields of. -/
theorem ofFields_of_ordered {fields : List (String × Json)} (ordered : Ordered fields) :
    ofFields fields = object fields := by
  have inPlace : placed fields [] = [] ++ fields := placed_of_ordered ordered
  rw [ofFields_eq, inPlace, List.nil_append]

theorem perm_placed {fields before : List (String × Json)}
    (distinct : ((fields ++ before).map Prod.fst).Nodup) :
    (placed fields before).Perm (fields ++ before) := by
  induction fields generalizing before with
  | nil => exact .refl _
  | cons field fields ih =>
      have fresh : field.1 ∉ before.map Prod.fst := by
        rw [List.cons_append, List.map_cons, List.nodup_cons, List.map_append, List.mem_append,
          not_or] at distinct
        exact distinct.1.2
      have moved : (fields ++ insertField field.1 field.2 before).Perm
          (field :: (fields ++ before)) :=
        ((perm_insertField fresh field.2).append_left fields).trans List.perm_middle
      exact (ih ((moved.map Prod.fst).nodup_iff.2 distinct)).trans moved

end RadarRelay.Json
