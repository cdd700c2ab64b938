import RadarRelay.Config.Reader
import RadarRelay.Proofs.Filter.Canonical
import RadarRelay.Proofs.Json5.Plain
import RadarRelay.Proofs.Json5.Rereading

/-!
# Filters in configurations

A filter in a configuration is read as JSON5, a filter by itself as JSON. The two agree on every
text that is accepted by itself, if the text holds no separators and its number literals keep
their values. Any other literal may do harm in a configuration, even in a field that the filter
passes over: an integer of more than 64 bits with a sign is refused wherever it stands.
-/

namespace RadarRelay.Config

open RadarRelay.Number RadarRelay.Document
open RadarRelay.Filter (Denotes)

/-- A filter is read from the value that an outline denotes. -/
theorem decode_filter (dialect : Dialect) (outline : Outline) :
    filterCodec.decode dialect outline =
      (outline.toJson.mapError .broken >>= fun value =>
        (Filter.ofJson value).mapError fun fault => .refused fault.error.message) :=
  rfl

/-- A text that is accepted as a filter by itself is the same filter in a configuration, if it holds
no separators and its number literals keep their values. -/
theorem parse_filter {text : String} {filter : Filter}
    (accepted : Filter.ofText text = .ok filter) (unseparated : Json5.hasSeparator text = false)
    (faithful : ∀ literal ∈ Json.literals text.toList, literal.2.Faithful literal.1) :
    parse filterCodec text = .ok filter := by
  obtain ⟨value, read, denotes⟩ := Filter.ofText_eq_ok_iff.1 accepted
  unfold Json.read at read
  simp only at read
  split at read
  · cases read
  rename_i faultless
  have outline := Json5.read?_of_json faultless unseparated faithful
  have decoded : filterCodec.decode .configuration (Json.draft text).outline = .ok filter := by
    rw [decode_filter, read]
    show (Filter.ofJson value).mapError _ = _
    rw [Filter.ofJson_eq_ok_iff.2 denotes]
    rfl
  simp only [parse, outline, decoded]

/-- The object of a filter that accepts everything, with a field that is passed over. -/
def passedOver (value : Int) : Json :=
  .object [("filter_type", .string "always_filter"), ("value", .number (.whole value))]

theorem denotes_passedOver (value : Int) : Denotes (passedOver value) .always :=
  .always rfl

theorem every_passedOver {fits : Json.Number → Prop} {value : Int} (whole : fits (.whole value)) :
    (passedOver value).Every (Json.Proper fits) := by
  refine Json.every_object.2 ⟨Json.ordered_of_names ["filter_type", "value"] rfl (by decide), ?_⟩
  simp [Json.Proper, whole]

theorem ofText_passedOver {value : Int} (bounded : int64Min ≤ value ∧ value ≤ nat64Max) :
    Filter.ofText (passedOver value).text = .ok .always :=
  ((denotes_passedOver value).ofText_text (every_passedOver bounded)).trans
    (if_pos (by simp [passedOver, Json.depth, Json.depthOfFields]))

/-- In a configuration the field is not passed over: its number has to have 64 bits with a sign. -/
theorem parse_passedOver (value : Int) :
    parse filterCodec (passedOver value).text =
      if fitsInt64 value then .ok .always
      else .error (.error (.config "error parsing integer")) := by
  have plain : Json5.separated (passedOver value) = false := by
    simp only [passedOver, Json5.separated, Json5.separatedFields]
    decide
  have read : Json5.read? (passedOver value).text =
      some (Json5.outlineOf (passedOver value)) := by
    rw [Json5.read?_text, plain]
    rfl
  have literal : (Json5.numeral (Json.Number.whole value).print).free =
      if fitsInt64 value then .ok (.whole value) else .error .integer :=
    Json5.freeValue_print value
  have denoted : (Json5.outlineOf (passedOver value)).toJson =
      if fitsInt64 value then .ok (passedOver value) else .error (.literal .integer) := by
    simp only [passedOver, Json5.outlineOf, Json5.outlineOfFields, Json5.outlineOfNumber,
      Outline.toJson, Outline.fieldsToJson, literal]
    cases fitsInt64 value <;> rfl
  have decoded : filterCodec.decode .configuration (Json5.outlineOf (passedOver value)) =
      if fitsInt64 value then .ok .always else .error (.broken (.literal .integer)) := by
    rw [decode_filter, denoted]
    cases fitsInt64 value <;> rfl
  simp only [parse, read, decoded]
  cases fitsInt64 value <;> rfl

/-- The least number of 64 bits with a sign is read. -/
theorem parse_filter_least :
    Filter.ofText (passedOver int64Min).text = .ok .always ∧
      Json5.hasSeparator (passedOver int64Min).text = false ∧
      (∀ literal ∈ Json.literals (passedOver int64Min).text.toList,
        literal.2.Faithful literal.1) ∧
      parse filterCodec (passedOver int64Min).text = .ok .always := by
  have accepted : Filter.ofText (passedOver int64Min).text = .ok .always :=
    ofText_passedOver (by decide)
  have unseparated : Json5.hasSeparator (passedOver int64Min).text = false := by decide +kernel
  have modest : ∀ literal ∈ Json.literals (passedOver int64Min).text.toList,
      literal.2.Modest literal.1 := by
    decide +kernel
  have faithful : ∀ literal ∈ Json.literals (passedOver int64Min).text.toList,
      literal.2.Faithful literal.1 :=
    fun literal member => Json.NumberLayout.faithful_of_modest (modest literal member)
  exact ⟨accepted, unseparated, faithful, parse_filter accepted unseparated faithful⟩

/-- The first number beyond them is not. -/
theorem filter_refused_in_configuration :
    Filter.ofText (passedOver (int64Max + 1)).text = .ok .always ∧
      parse filterCodec (passedOver (int64Max + 1)).text =
        .error (.error (.config "error parsing integer")) :=
  ⟨ofText_passedOver (by decide), parse_passedOver (int64Max + 1)⟩

end RadarRelay.Config
