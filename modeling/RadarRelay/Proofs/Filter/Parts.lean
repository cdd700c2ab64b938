import RadarRelay.Proofs.Filter.Grammar
import RadarRelay.Proofs.Json.Parts

/-!
# Parts of filters

A filter takes its literals over from the value that it was read from, and nothing else that can
be deep or hold a number. The canonical object of the filter is therefore as proper as that
value, and at most one level deeper.
-/

namespace RadarRelay.Filter

open RadarRelay.Json (Every Proper)

/-- Induction on the filter that a value stands for; only the field that holds the content of a node
matters. -/
theorem Denotes.induct {motive : Json → Filter → Prop}
    (always : ∀ fields, motive (.object fields) .always)
    (test : ∀ {fields name operator type literal}, Json.lookup "value" fields = some literal →
      motive (.object fields) (.test name operator type literal))
    (children : ∀ {fields items children}, Json.lookup "value" fields = some (.array items) →
      List.Forall₂ motive items children →
      motive (.object fields) (.and children) ∧ motive (.object fields) (.or children))
    (not : ∀ {fields nested child}, Json.lookup "value" fields = some nested →
      motive nested child → motive (.object fields) (.not child))
    {value : Json} {filter : Filter} (denotes : Denotes value filter) : motive value filter := by
  refine @Denotes.rec (fun value filter _ => motive value filter)
    (fun items filters _ => List.Forall₂ motive items filters)
    ?always ?test ?and ?or ?not ?nil ?cons value filter denotes
  case always => exact fun _ => always _
  case test => exact fun _ _ _ _ value => test value
  case and => exact fun _ value _ each => (children value each).1
  case or => exact fun _ value _ each => (children value each).2
  case not => exact fun _ value _ child => not value child
  case nil => exact .nil
  case cons => exact fun _ _ first others => .cons first others

/-! ## Depth -/

theorem depthOfItems_toItems_le {items : List Json} {children : List Filter}
    (each : List.Forall₂ (fun item child => child.toJson.depth ≤ item.depth + 1) items children) :
    Json.depthOfItems (toItems children) ≤ Json.depthOfItems items + 1 := by
  induction each with
  | nil => exact Nat.zero_le _
  | cons first _ ih =>
      simp only [toItems, Json.depthOfItems]
      omega

/-- The canonical object of a filter is at most one level deeper than the value it was read from. -/
theorem Denotes.depth_toJson_le {value : Json} {filter : Filter} (denotes : Denotes value filter) :
    filter.toJson.depth ≤ value.depth + 1 := by
  refine denotes.induct (motive := fun value filter => filter.toJson.depth ≤ value.depth + 1)
    (fun fields => ?always) (fun found => ?test) (fun found each => ⟨?and, ?or⟩)
    (fun found child => ?not)
  case always =>
    simp only [toJson, Json.depth, Json.depthOfFields]
    omega
  case test =>
    have inside := Json.depth_lt_of_lookup found
    simp only [toJson, Json.depth, Json.depthOfFields] at inside ⊢
    omega
  case and | or =>
    have inside := Json.depth_lt_of_lookup found
    have items := depthOfItems_toItems_le each
    simp only [toJson, Json.depth, Json.depthOfFields] at inside ⊢
    omega
  case not =>
    have inside := Json.depth_lt_of_lookup found
    simp only [toJson, Json.depth, Json.depthOfFields] at inside ⊢
    omega

/-! ## Parts -/

variable {fits : Json.Number → Prop}

/-- The content of a canonical object is proper throughout when the object is. -/
theorem every_content (type : String) {content : Json} (every : content.Every (Proper fits)) :
    (Json.object [("filter_type", .string type), ("value", content)]).Every (Proper fits) := by
  refine Json.every_object.2 ⟨?ordered, ?fields⟩
  case ordered => exact Json.ordered_of_names ["filter_type", "value"] rfl (by decide)
  case fields => simp [every, Proper]

theorem every_array_toItems {items : List Json} {children : List Filter}
    (each : List.Forall₂
      (fun item child => item.Every (Proper fits) → child.toJson.Every (Proper fits))
      items children)
    (every : (Json.array items).Every (Proper fits)) :
    (Json.array (toItems children)).Every (Proper fits) := by
  replace every := (Json.every_array.1 every).2
  refine Json.every_array.2 ⟨trivial, ?_⟩
  induction each with
  | nil => exact List.forall_mem_nil _
  | cons first _ ih =>
      obtain ⟨here, others⟩ := List.forall_mem_cons.1 every
      exact List.forall_mem_cons.2 ⟨first here, ih others⟩

/-- The canonical object of a filter is proper throughout when the value that the filter was read
from is. -/
theorem Denotes.every_toJson {value : Json} {filter : Filter} (denotes : Denotes value filter)
    (every : value.Every (Proper fits)) : filter.toJson.Every (Proper fits) := by
  revert every
  refine denotes.induct
    (motive := fun value filter => value.Every (Proper fits) → filter.toJson.Every (Proper fits))
    (fun fields every => ?always) (fun found every => ?test)
    (fun found each => ⟨fun every => ?and, fun every => ?or⟩) (fun found child every => ?not)
  case always =>
    exact every_content _ (Json.every_object.2 ⟨Json.ordered_nil, List.forall_mem_nil _⟩)
  case test =>
    have literal := (Json.every_object.1 every).2 _ (Json.mem_of_lookup found)
    refine Json.every_object.2 ⟨?ordered, ?fields⟩
    case ordered =>
      exact Json.ordered_of_names ["filter_type", "name", "operation", "value", "value_type"] rfl
        (by decide)
    case fields => simp [literal, Proper]
  case and | or =>
    have items := (Json.every_object.1 every).2 _ (Json.mem_of_lookup found)
    exact every_content _ (every_array_toItems each items)
  case not =>
    exact every_content _ (child ((Json.every_object.1 every).2 _ (Json.mem_of_lookup found)))

end RadarRelay.Filter
