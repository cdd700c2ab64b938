import RadarRelay.Proofs.Filter.Selection
import RadarRelay.Proofs.Filter.Wildcards

/-!
# Files with more attributes

Attributes are appended behind those that a file has. What a name selects in the file
it goes on selecting, in front of anything new: ends of paths collect, the written
source is read from the first attribute of its path, and the rest of the metadata is
not touched. A comparison that asks for some scalar on either side therefore goes on
holding, and so does every filter that is built from such tests without a negation.
-/

namespace RadarRelay

namespace Metadata

/-- Appends attributes one after the other. -/
def withAttributes (metadata : Metadata) (more : List Attribute) : Metadata :=
  more.foldl (fun grown entry => grown.withAttribute entry.path entry.value) metadata

/-- A component of the written source stays as it is: the first attribute of that path counts. -/
theorem writtenSource_withAttribute {metadata : Metadata} {key component : String}
    (found : metadata.writtenSource.get? key = some component) (path value : String) :
    (metadata.withAttribute path value).writtenSource.get? key = some component := by
  rw [writtenSource] at found ⊢
  cases written : metadata.find? "/what/source" with
  | none =>
      rw [written] at found
      cases found
  | some source =>
      rw [written] at found
      rw [find?_withAttribute_of_find? written]
      exact found

/-- With one more attribute a name selects what it selected, and perhaps more behind it. -/
theorem select_withAttribute (metadata : Metadata) (path value name : String) :
    metadata.select name <+: (metadata.withAttribute path value).select name := by
  rw [select, select]
  cases Selector.ofName name with
  | writtenSource key =>
      rw [Selector.select, Selector.select]
      cases found : metadata.writtenSource.get? key with
      | none => exact List.nil_prefix
      | some component =>
          have kept := writtenSource_withAttribute found path value
          exact ⟨[], by rw [kept, List.append_nil]⟩
  | knownSource key => exact List.prefix_rfl
  | sourceName => exact List.prefix_rfl
  | pathEnd segments =>
      rw [Selector.select, Selector.select, attributes_withAttribute, List.filter_append,
        List.map_append]
      exact List.prefix_append ..

/-- A test of the grown file sees every scalar that it saw before. -/
theorem scalars_withAttribute (metadata : Metadata) (path value name : String) (type : ValueType) :
    (metadata.attributeValue name type).scalars ⊆
      ((metadata.withAttribute path value).attributeValue name type).scalars := by
  rw [scalars_attributeValue, scalars_attributeValue]
  exact ((select_withAttribute metadata path value name).map (Value.read type)).subset

end Metadata

/-! ## Comparisons with more on the left -/

namespace Value

variable {left larger : Value}

theorem isLike_mono {right : Value} (holding : isLike left right = true)
    (more : left.scalars ⊆ larger.scalars) : isLike larger right = true := by
  obtain ⟨pattern, others, content, begun, listed, begins⟩ := (isLike_iff left right).mp holding
  exact (isLike_iff larger right).mpr ⟨pattern, others, content, begun, more listed, begins⟩

/-- Every comparison but being different goes on holding when the left side gets more scalars. -/
theorem related_mono {operator : Operator} (positive : operator ≠ .ne) {right : Value}
    (holding : related operator left right = true) (more : left.scalars ⊆ larger.scalars) :
    related operator larger right = true := by
  have ofHolds (holding : holds operator left right = true) :
      holds operator larger right = true := by
    obtain ⟨order, admitted, meets⟩ := (holds_iff positive).mp holding
    exact (holds_iff positive).mpr ⟨order, admitted, meets.mono more⟩
  cases operator with
  | like => exact isLike_mono holding more
  | «in» => exact isIn_iff.mpr ((isIn_iff.mp holding).mono more)
  | _ => exact ofHolds holding

end Value

/-! ## Positive filters -/

namespace Filter

mutual

/-- Whether a filter has no negation and every test asks for some scalar on either side. -/
def positive : Filter → Bool
  | test _ operator _ _ => operator.compares && operator != .ne
  | and children => positiveAll children
  | or children => positiveAll children
  | not _ => false
  | always => true

@[inherit_doc positive]
def positiveAll : List Filter → Bool
  | [] => true
  | child :: children => positive child && positiveAll children

end

mutual

/-- Positive filters compare. -/
theorem comparing_of_positive (filter : Filter) (isPositive : filter.positive = true) :
    filter.comparing = true := by
  cases filter with
  | test name operator type literal => exact (Bool.and_eq_true_iff.mp isPositive).1
  | and children => exact comparingAll_of_positive children isPositive
  | or children => exact comparingAll_of_positive children isPositive
  | not child => cases isPositive
  | always => rfl

@[inherit_doc comparing_of_positive]
theorem comparingAll_of_positive (filters : List Filter) (arePositive : positiveAll filters = true) :
    comparingAll filters = true := by
  cases filters with
  | nil => rfl
  | cons first rest =>
      obtain ⟨firstPositive, restPositive⟩ := Bool.and_eq_true_iff.mp arePositive
      rw [comparingAll, comparing_of_positive first firstPositive,
        comparingAll_of_positive rest restPositive]
      rfl

end

mutual

/-- One more attribute leaves a positive filter true. -/
theorem holds_withAttribute {metadata : Metadata} (path value : String) (filter : Filter)
    (isPositive : filter.positive = true) (holding : filter.holds metadata = true) :
    filter.holds (metadata.withAttribute path value) = true := by
  cases filter with
  | test name operator type literal =>
      have notDifferent : operator ≠ .ne := by
        simpa using (Bool.and_eq_true_iff.mp isPositive).2
      exact Value.related_mono notDifferent holding
        (Metadata.scalars_withAttribute metadata path value name type)
  | and children => exact holdsAll_withAttribute path value children isPositive holding
  | or children => exact holdsAny_withAttribute path value children isPositive holding
  | not child => cases isPositive
  | always => rfl

/-- It leaves all of several positive filters true. -/
theorem holdsAll_withAttribute {metadata : Metadata} (path value : String) (filters : List Filter)
    (arePositive : positiveAll filters = true) (holding : holdsAll metadata filters = true) :
    holdsAll (metadata.withAttribute path value) filters = true := by
  cases filters with
  | nil => rfl
  | cons first rest =>
      obtain ⟨firstPositive, restPositive⟩ := Bool.and_eq_true_iff.mp arePositive
      obtain ⟨firstHolds, restHold⟩ := Bool.and_eq_true_iff.mp holding
      rw [holdsAll, holds_withAttribute path value first firstPositive firstHolds,
        holdsAll_withAttribute path value rest restPositive restHold]
      rfl

/-- It leaves some of several positive filters true. -/
theorem holdsAny_withAttribute {metadata : Metadata} (path value : String) (filters : List Filter)
    (arePositive : positiveAll filters = true) (holding : holdsAny metadata filters = true) :
    holdsAny (metadata.withAttribute path value) filters = true := by
  cases filters with
  | nil => cases holding
  | cons first rest =>
      obtain ⟨firstPositive, restPositive⟩ := Bool.and_eq_true_iff.mp arePositive
      rw [holdsAny, Bool.or_eq_true] at holding ⊢
      cases holding with
      | inl firstHolds =>
          exact .inl (holds_withAttribute path value first firstPositive firstHolds)
      | inr someHolds =>
          exact .inr (holdsAny_withAttribute path value rest restPositive someHolds)

end

/-- A positive filter that accepts a file accepts it with more attributes as well. -/
theorem positive_monotone {filter : Filter} (isPositive : filter.positive = true)
    (metadata : Metadata) (more : List Attribute)
    (accepted : filter.compile.accepts metadata = true) :
    filter.compile.accepts (metadata.withAttributes more) = true := by
  have compares := comparing_of_positive filter isPositive
  induction more generalizing metadata with
  | nil => exact accepted
  | cons entry more ih =>
      rw [accepts_compile compares] at accepted
      apply ih (metadata.withAttribute entry.path entry.value)
      rw [accepts_compile compares]
      exact holds_withAttribute entry.path entry.value filter isPositive accepted

/-- A volume from a Swedish radar with an elevation below one stays one when further elevations,
another object and another source are appended. -/
theorem positive_monotone_of_volume :
    let filter : Filter :=
      and
        [ test "what/object" .in .string (.array [.string "PVOL", .string "SCAN"]),
          or
            [ test "what/source:CMT" .eq .string (.string "none"),
              test "what/source:NOD" .like .string (.string "se*") ],
          test "where/elangle" .lt .double (.number (.whole 1)) ]
    let metadata : Metadata :=
      { Metadata.empty with
        attributes :=
          [ ⟨"/what/object", "PVOL"⟩, ⟨"/what/source", "WMO:02588, NOD:sehem"⟩,
            ⟨"/dataset1/where/elangle", "0.5"⟩ ] }
    let more : List Attribute :=
      [ ⟨"/dataset2/where/elangle", "24"⟩, ⟨"/what/object", "COMP"⟩,
        ⟨"/what/source", "NOD:fivan"⟩ ]
    filter.positive = true ∧ filter.compile.accepts metadata = true ∧
      filter.compile.accepts (metadata.withAttributes more) = true := by
  intro filter metadata more
  have isPositive : filter.positive = true := by decide
  have accepted : filter.compile.accepts metadata = true := by decide +kernel
  exact ⟨isPositive, accepted, positive_monotone isPositive metadata more accepted⟩

end Filter

end RadarRelay
