import Mathlib.Data.List.Forall2
import RadarRelay.Filter.Tree
import RadarRelay.Proofs.Document.Outcome

/-!
# The grammar of filters

`Denotes` says which values stand for which filters: one rule for each kind of node, in
which fields that a rule does not mention may be anything. Reading accepts the values
that stand for a filter and gives that filter; every other value, however deep its fault
lies, is an error of the configuration.
-/

namespace RadarRelay

namespace Json

/-- The value of a field is smaller than the object. -/
theorem sizeOf_lookup {name : String} {fields : List (String × Json)} {value : Json}
    (found : lookup name fields = some value) : sizeOf value < sizeOf (object fields) := by
  induction fields with
  | nil => simp [lookup] at found
  | cons field fields ih =>
      obtain ⟨otherName, other⟩ := field
      rw [lookup] at found
      split at found
      · cases found
        simp
        omega
      · have smaller := ih found
        simp at smaller ⊢
        omega

theorem sizeOf_item {items : List Json} {item : Json} (member : item ∈ items) :
    sizeOf item < sizeOf (array items) := by
  have smaller := List.sizeOf_lt_of_mem member
  simp
  omega

end Json

namespace Filter

/-- The type that the fields of an object say it has. -/
def Typed (fields : List (String × Json)) (type : String) : Prop :=
  Json.lookup "filter_type" fields = some (.string type)

/-- Which value stands for which filter. -/
inductive Denotes : Json → Filter → Prop where
  | always {fields : List (String × Json)} (typed : Typed fields "always_filter") :
      Denotes (.object fields) always
  | test {fields : List (String × Json)} {name typeName : String} {operator : Operator}
      {literal : Json} (typed : Typed fields "attribute_filter")
      (named : Json.lookup "name" fields = some (.string name))
      (operation : Json.lookup "operation" fields = some (.string operator.symbol))
      (valueType : Json.lookup "value_type" fields = some (.string typeName))
      (value : Json.lookup "value" fields = some literal) :
      Denotes (.object fields) (test name operator (.ofName typeName) literal)
  | and {fields : List (String × Json)} {items : List Json} {children : List Filter}
      (typed : Typed fields "and_filter") (value : Json.lookup "value" fields = some (.array items))
      (each : List.Forall₂ Denotes items children) : Denotes (.object fields) (and children)
  | or {fields : List (String × Json)} {items : List Json} {children : List Filter}
      (typed : Typed fields "or_filter") (value : Json.lookup "value" fields = some (.array items))
      (each : List.Forall₂ Denotes items children) : Denotes (.object fields) (or children)
  | not {fields : List (String × Json)} {nested : Json} {child : Filter}
      (typed : Typed fields "not_filter") (value : Json.lookup "value" fields = some nested)
      (denoted : Denotes nested child) : Denotes (.object fields) (not child)

/-! ## Fields -/

theorem textField_eq_ok_iff {fields : List (String × Json)} {name text : String} :
    textField fields name = .ok text ↔ Json.lookup name fields = some (.string text) := by
  unfold textField
  cases found : Json.lookup name fields with
  | none => simp
  | some value => cases value <;> simp [Json.string?]

theorem typeOfFields_eq_ok_iff {fields : List (String × Json)} {type : String} :
    typeOfFields fields = .ok type ↔ Typed fields type := by
  unfold typeOfFields Typed
  cases found : Json.lookup "filter_type" fields with
  | none => simp
  | some value => cases value <;> simp [Json.string?]

theorem testOfFields_eq_ok_iff {fields : List (String × Json)} {filter : Filter} :
    testOfFields fields = .ok filter ↔
      ∃ name operator typeName literal,
        Json.lookup "name" fields = some (.string name) ∧
          Json.lookup "operation" fields = some (.string (Operator.symbol operator)) ∧
          Json.lookup "value_type" fields = some (.string typeName) ∧
          Json.lookup "value" fields = some literal ∧
          filter = test name operator (.ofName typeName) literal := by
  constructor
  · intro read
    obtain ⟨name, named, read⟩ := Except.of_bind_eq_ok read
    obtain ⟨symbol, operation, read⟩ := Except.of_bind_eq_ok read
    split at read
    · rename_i operator known
      obtain ⟨typeName, valueType, read⟩ := Except.of_bind_eq_ok read
      split at read
      · rename_i literal value
        rw [textField_eq_ok_iff] at named operation valueType
        rw [← Operator.symbol_of_ofSymbol? known] at operation
        cases read
        exact ⟨name, operator, typeName, literal, named, operation, valueType, value, rfl⟩
      · cases read
    · cases read
  · intro ⟨name, operator, typeName, literal, named, operation, valueType, value, same⟩
    simp [testOfFields, textField, named, operation, valueType, value, same, Json.string?, bind,
      Except.bind, pure, Except.pure]

theorem childOfFields_eq_ok_iff {fields : List (String × Json)} {child : Filter} :
    childOfFields fields = .ok child ↔
      ∃ nested, Json.lookup "value" fields = some nested ∧ ofJson nested = .ok child := by
  induction fields with
  | nil => simp [childOfFields, Json.lookup, throw, throwThe, MonadExceptOf.throw]
  | cons field fields ih =>
      obtain ⟨name, value⟩ := field
      by_cases same : name = "value"
      · simp [childOfFields, Json.lookup, same]
      · simp [childOfFields, Json.lookup, same, Ne.symm same, ih]

theorem childrenOfFields_eq_ok_iff {type : String} {fields : List (String × Json)}
    {children : List Filter} :
    childrenOfFields type fields = .ok children ↔
      ∃ items, Json.lookup "value" fields = some (.array items) ∧ ofItems items = .ok children := by
  induction fields with
  | nil => simp [childrenOfFields, Json.lookup, throw, throwThe, MonadExceptOf.throw]
  | cons field fields ih =>
      obtain ⟨name, value⟩ := field
      unfold childrenOfFields
      by_cases same : name = "value"
      · cases value <;> simp [Json.lookup, same, throw, throwThe, MonadExceptOf.throw]
      · simp [Json.lookup, same, Ne.symm same, ih]

theorem ofItems_eq_ok_iff {items : List Json} {filters : List Filter} :
    ofItems items = .ok filters ↔
      List.Forall₂ (fun item filter => ofJson item = .ok filter) items filters := by
  induction items generalizing filters with
  | nil => cases filters <;> simp [ofItems, pure, Except.pure]
  | cons item items ih =>
      cases filters with
      | nil =>
          cases first : ofJson item <;> cases rest : ofItems items <;>
            simp [ofItems, first, rest, bind, Except.bind, pure, Except.pure]
      | cons filter filters =>
          rw [List.forall₂_cons, ← ih]
          cases first : ofJson item <;> cases rest : ofItems items <;>
            simp [ofItems, first, rest, bind, Except.bind, pure, Except.pure]

/-! ## Objects -/

/-- A relation may be replaced by one that agrees with it on the items. -/
theorem forall₂_congr {items : List Json} {filters : List Filter}
    {left right : Json → Filter → Prop}
    (agree : ∀ item ∈ items, ∀ filter, left item filter ↔ right item filter) :
    List.Forall₂ left items filters ↔ List.Forall₂ right items filters := by
  induction items generalizing filters with
  | nil => cases filters <;> simp
  | cons item items ih =>
      cases filters with
      | nil => simp
      | cons filter filters =>
          rw [List.forall₂_cons, List.forall₂_cons, agree item (List.mem_cons_self ..) filter,
            ih fun other member => agree other (List.mem_cons_of_mem _ member)]

/-- An object is read as its type says. -/
theorem ofJson_object_eq_ok_iff {fields : List (String × Json)} {filter : Filter} :
    ofJson (.object fields) = .ok filter ↔
      (Typed fields "attribute_filter" ∧ testOfFields fields = .ok filter) ∨
      (Typed fields "and_filter" ∧
        ∃ children, childrenOfFields "and_filter" fields = .ok children ∧ filter = and children) ∨
      (Typed fields "or_filter" ∧
        ∃ children, childrenOfFields "or_filter" fields = .ok children ∧ filter = or children) ∨
      (Typed fields "not_filter" ∧
        ∃ child, childOfFields fields = .ok child ∧ filter = not child) ∨
      (Typed fields "always_filter" ∧ filter = always) := by
  constructor
  · intro read
    obtain ⟨type, typed, read⟩ := Except.of_bind_eq_ok read
    rw [typeOfFields_eq_ok_iff] at typed
    split at read
    · exact .inl ⟨typed, read⟩
    · obtain ⟨children, inside, read⟩ := Except.of_bind_eq_ok read
      cases read
      exact .inr (.inl ⟨typed, children, inside, rfl⟩)
    · obtain ⟨children, inside, read⟩ := Except.of_bind_eq_ok read
      cases read
      exact .inr (.inr (.inl ⟨typed, children, inside, rfl⟩))
    · obtain ⟨child, inside, read⟩ := Except.of_bind_eq_ok read
      cases read
      exact .inr (.inr (.inr (.inl ⟨typed, child, inside, rfl⟩)))
    · cases read
      exact .inr (.inr (.inr (.inr ⟨typed, rfl⟩)))
    · cases read
  · intro shape
    rcases shape with ⟨typed, inside⟩ | ⟨typed, children, inside, rfl⟩ |
      ⟨typed, children, inside, rfl⟩ | ⟨typed, child, inside, rfl⟩ | ⟨typed, rfl⟩
    all_goals rw [ofJson, typeOfFields_eq_ok_iff.2 typed]
    · exact inside
    · simp [bind, Except.bind, pure, Except.pure, inside]
    · simp [bind, Except.bind, pure, Except.pure, inside]
    · simp [bind, Except.bind, pure, Except.pure, inside]
    · rfl

/-- A value is read as the filter that it stands for, and as no other. -/
theorem ofJson_eq_ok_iff {value : Json} {filter : Filter} :
    ofJson value = .ok filter ↔ Denotes value filter := by
  -- Everything that is read on the way is smaller than the value.
  induction size : sizeOf value using Nat.strongRecOn generalizing value filter with
  | ind size ih =>
      cases value with
      | object fields =>
          have nested_iff {nested : Json} {child : Filter}
              (found : Json.lookup "value" fields = some nested) :
              ofJson nested = .ok child ↔ Denotes nested child :=
            ih _ (size ▸ Json.sizeOf_lookup found) rfl
          have items_iff {items : List Json} {children : List Filter}
              (found : Json.lookup "value" fields = some (.array items)) :
              ofItems items = .ok children ↔ List.Forall₂ Denotes items children := by
            rw [ofItems_eq_ok_iff]
            refine forall₂_congr fun item member child => ih _ ?_ rfl
            exact size ▸ Nat.lt_trans (Json.sizeOf_item member) (Json.sizeOf_lookup found)
          rw [ofJson_object_eq_ok_iff]
          constructor
          · intro shape
            rcases shape with ⟨typed, inside⟩ | ⟨typed, children, inside, rfl⟩ |
              ⟨typed, children, inside, rfl⟩ | ⟨typed, child, inside, rfl⟩ | ⟨typed, rfl⟩
            · obtain ⟨name, operator, typeName, literal, named, operation, valueType, found, rfl⟩ :=
                testOfFields_eq_ok_iff.1 inside
              exact .test typed named operation valueType found
            · obtain ⟨items, found, inside⟩ := childrenOfFields_eq_ok_iff.1 inside
              exact .and typed found ((items_iff found).1 inside)
            · obtain ⟨items, found, inside⟩ := childrenOfFields_eq_ok_iff.1 inside
              exact .or typed found ((items_iff found).1 inside)
            · obtain ⟨nested, found, inside⟩ := childOfFields_eq_ok_iff.1 inside
              exact .not typed found ((nested_iff found).1 inside)
            · exact .always typed
          · intro denotes
            cases denotes with
            | test typed named operation valueType found =>
                exact .inl ⟨typed, testOfFields_eq_ok_iff.2
                  ⟨_, _, _, _, named, operation, valueType, found, rfl⟩⟩
            | and typed found each =>
                have inside := (items_iff found).2 each
                exact .inr (.inl ⟨typed, _, childrenOfFields_eq_ok_iff.2 ⟨_, found, inside⟩, rfl⟩)
            | or typed found each =>
                have inside := (items_iff found).2 each
                exact .inr (.inr (.inl
                  ⟨typed, _, childrenOfFields_eq_ok_iff.2 ⟨_, found, inside⟩, rfl⟩))
            | not typed found denotes =>
                have inside := (nested_iff found).2 denotes
                exact .inr (.inr (.inr (.inl
                  ⟨typed, _, childOfFields_eq_ok_iff.2 ⟨_, found, inside⟩, rfl⟩)))
            | always typed => exact .inr (.inr (.inr (.inr ⟨typed, rfl⟩)))
      | _ =>
          constructor
          · intro read
            cases read
          · intro denotes
            cases denotes

theorem ofValue_eq_ok_iff {value : Json} {filter : Filter} :
    ofValue value = .ok filter ↔ Denotes value filter := by
  rw [← ofJson_eq_ok_iff, ofValue]
  cases ofJson value <;> simp [Except.mapError]

/-- Reading accepts exactly the values that stand for a filter, and gives the filter that they stand
for. Every other value is an error of the configuration. -/
theorem ofValue_denotes (value : Json) :
    (∀ filter, ofValue value = .ok filter ↔ Denotes value filter) ∧
      ((∃ filter, Denotes value filter) ∨
        ∃ fault : Fault, ofValue value = .error (.config fault.message)) := by
  constructor
  · intro filter
    exact ofValue_eq_ok_iff
  · cases read : ofJson value with
    | ok filter => exact .inl ⟨filter, ofJson_eq_ok_iff.1 read⟩
    | error fault => exact .inr ⟨fault, by rw [ofValue, read]; rfl⟩

/-- A fault in the innermost node is the fault of the whole, and fields that are not asked for may
hold anything. -/
example (anything : Json) :
    ofValue (.object
        [ ("filter_type", .string "not_filter"),
          ("value", .object [("filter_type", .string "always_filter"), ("value", anything)]) ]) =
      .ok (not always) ∧
    ofValue (.object
        [ ("filter_type", .string "not_filter"),
          ("value", .object [("filter_type", .string "and_filter"), ("value", .object [])]) ]) =
      .error (.config "and_filter requires a list as 'value'") :=
  ⟨rfl, rfl⟩

end Filter

end RadarRelay
