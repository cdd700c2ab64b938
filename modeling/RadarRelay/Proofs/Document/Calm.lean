import RadarRelay.Document.Record
import RadarRelay.Proofs.Document.Outcome

/-!
# Outlines that stop the program

Reading an outline into a type without numbers gives a value or a fault with a message. Where a
number is required, a value whose second byte begins a longer character stops the program instead.
-/

namespace RadarRelay

open RadarRelay.Number

namespace Document

namespace Outline

mutual

/-- Whether a character of several bytes follows the opening bracket or quote of some value. -/
def hasWide : Outline → Bool
  | .string opening _ => opening == .wide
  | .array opening items => opening == .wide || hasWideItem items
  | .object opening fields => opening == .wide || hasWideField fields
  | .null | .bool _ | .number _ | .broken _ => false

@[inherit_doc hasWide]
def hasWideItem : List Outline → Bool
  | [] => false
  | item :: items => hasWide item || hasWideItem items

@[inherit_doc hasWide]
def hasWideField : List (Spelling × Outline) → Bool
  | [] => false
  | (_, value) :: fields => hasWide value || hasWideField fields

end

theorem hasWide_of_opening {outline : Outline} (wide : outline.opening = .wide) :
    outline.hasWide = true := by
  cases outline with
  | string opening | array opening | object opening =>
      cases opening with
      | narrow => cases wide
      | wide => rfl
  | _ => cases wide

theorem hasWide_of_item {opening : Opening} {items : List Outline} {item : Outline}
    (member : item ∈ items) (wide : item.hasWide = true) : (array opening items).hasWide = true := by
  have inside : hasWideItem items = true := by
    induction items with
    | nil => cases member
    | cons first items ih =>
        rw [hasWideItem, Bool.or_eq_true]
        rcases List.mem_cons.1 member with rfl | member
        · exact .inl wide
        · exact .inr (ih member)
  rw [hasWide, inside, Bool.or_true]

theorem hasWide_of_field {opening : Opening} {fields : List (Spelling × Outline)}
    {field : Spelling × Outline} (member : field ∈ fields) (wide : field.2.hasWide = true) :
    (object opening fields).hasWide = true := by
  have inside : hasWideField fields = true := by
    induction fields with
    | nil => cases member
    | cons first fields ih =>
        rw [hasWideField, Bool.or_eq_true]
        rcases List.mem_cons.1 member with rfl | member
        · exact .inl wide
        · exact .inr (ih member)
  rw [hasWide, inside, Bool.or_true]

end Outline

variable {kind : Type}

/-- A codec stops the program only where a number is required, and only at a wide value. -/
def Codec.Calm (codec : Codec kind) (dialect : Dialect) (numbers : Bool) : Prop :=
  ∀ outline, codec.decode dialect outline = .error .crash →
    numbers = true ∧ outline.hasWide = true

theorem mapError_broken_ne_crash (given : Except Fault kind) :
    given.mapError ShapeFault.broken ≠ .error .crash := by
  intro crash
  cases given <;> cases crash

theorem describe_ne_crash (dialect : Dialect) (outline : Outline) :
    describe dialect outline ≠ .error .crash := by
  cases outline with
  | number numeral =>
      intro crash
      unfold describe at crash
      dsimp only at crash
      split at crash <;> cases crash
  | string opening spelling =>
      intro crash
      exact mapError_broken_ne_crash _ (Except.of_map_eq_error crash)
  | _ => exact nofun

theorem mismatch_ne_crash (expected : String) (dialect : Dialect) (outline : Outline) :
    (mismatch expected dialect outline : Except ShapeFault kind) ≠ .error .crash := by
  intro crash
  rcases Except.of_bind_eq_error crash with crash | ⟨_, _, crash⟩
  · exact describe_ne_crash _ _ crash
  · cases crash

namespace Codec

variable {codec : Codec kind} {dialect : Dialect} {numbers : Bool}

theorem calm_of_never {codec : Codec kind} (never : ∀ outline,
    codec.decode dialect outline ≠ .error .crash) : codec.Calm dialect numbers :=
  fun outline crash => absurd crash (never outline)

theorem calm_textNamed (expected : String) : (textNamed expected).Calm dialect numbers := by
  refine calm_of_never fun outline => ?_
  cases outline with
  | string => exact mapError_broken_ne_crash _
  | _ => exact mismatch_ne_crash _ _ _

theorem calm_bool : bool.Calm dialect numbers := by
  refine calm_of_never fun outline => ?_
  cases outline with
  | bool => exact nofun
  | _ => exact mismatch_ne_crash _ _ _

theorem calm_json : json.Calm dialect numbers :=
  calm_of_never fun _ => mapError_broken_ne_crash _

theorem calm_integer (expected : String) (low high : Int) :
    (integer expected low high).Calm .configuration true := by
  intro outline crash
  refine ⟨rfl, ?_⟩
  cases outline with
  | number numeral =>
      cases real : numeral.real with
      | error | ok =>
          simp only [integer, real] at crash
          cases crash
  | null | bool | broken => cases crash
  | string opening | array opening | object opening =>
      cases opening with
      | narrow => cases crash
      | wide => exact Outline.hasWide_of_opening rfl

theorem Calm.view {other : Type} (calm : codec.Calm dialect numbers) (read : kind → other)
    (write : other → kind) : (codec.view read write).Calm dialect numbers :=
  fun outline crash => calm outline (Except.of_map_eq_error crash)

theorem Calm.option (calm : codec.Calm dialect numbers) : codec.option.Calm dialect numbers := by
  intro outline crash
  cases outline with
  | null => cases crash
  | _ => exact calm _ (Except.of_map_eq_error crash)

theorem Calm.list (calm : codec.Calm dialect numbers) : codec.list.Calm dialect numbers := by
  intro outline crash
  cases outline with
  | array opening items =>
      obtain ⟨item, member, crash⟩ := exists_of_mapM_eq_error crash
      exact (calm item crash).imp_right (Outline.hasWide_of_item member)
  | _ => exact absurd crash (mismatch_ne_crash _ _ _)

theorem calm_oneOrMany : codec.oneOrMany.Calm dialect numbers := by
  refine calm_of_never fun outline crash => ?_
  rcases Except.of_bind_eq_error crash with crash | ⟨_, _, crash⟩
  · exact mapError_broken_ne_crash _ crash
  · split at crash <;> cases crash

theorem calm_variant (variants : List (String × kind)) (nameOf : kind → String) :
    (variant variants nameOf).Calm dialect numbers := by
  have found (name : String) : findVariant variants name ≠ .error .crash := by
    intro crash
    unfold findVariant at crash
    split at crash <;> cases crash
  refine calm_of_never fun outline crash => ?_
  unfold variant at crash
  dsimp only at crash
  split at crash
  · rcases Except.of_bind_eq_error crash with crash | ⟨name, _, crash⟩
    · exact mapError_broken_ne_crash _ crash
    · exact found name crash
  · cases crash
  · rcases Except.of_bind_eq_error crash with crash | ⟨name, _, crash⟩
    · exact mapError_broken_ne_crash _ crash
    rcases Except.of_bind_eq_error crash with crash | ⟨_, _, crash⟩
    · exact found name crash
    · cases crash
  · cases crash
  · rcases Except.of_bind_eq_error crash with crash | ⟨name, _, crash⟩
    · exact mapError_broken_ne_crash _ crash
    rcases Except.of_bind_eq_error crash with crash | ⟨_, _, crash⟩
    · exact found name crash
    split at crash
    · cases crash
    · cases crash
    · exact mismatch_ne_crash _ _ _ crash
  · cases crash
  · exact mismatch_ne_crash _ _ _ crash

end Codec

/-! ## Records -/

variable {record : Type} {dialect : Dialect} {numbers : Bool}

/-- Reading a field stops the program only where a number is required. -/
def Field.Calm (field : Field record) (dialect : Dialect) (numbers : Bool) : Prop :=
  ∀ outline draft, field.read dialect outline draft = .error .crash →
    numbers = true ∧ outline.hasWide = true

theorem Field.calm_ofCodec {codec : Codec kind} (calm : codec.Calm dialect numbers) {required : Bool}
    {name : String} {get : record → kind} {set : record → kind → record} :
    (ofCodec required name codec get set).Calm dialect numbers :=
  fun outline _ crash => calm outline (Except.of_map_eq_error crash)

namespace Record

variable {shape : Record record}

theorem calm_readMembers (calm : ∀ field ∈ shape.fields, field.Calm dialect numbers)
    {members : List (Spelling × Outline)} {seen : List String} {draft : record}
    (crash : shape.readMembers dialect seen draft members = .error .crash) :
    ∃ member ∈ members, numbers = true ∧ member.2.hasWide = true := by
  induction members generalizing seen draft with
  | nil => cases crash
  | cons member members ih =>
      obtain ⟨spelling, outline⟩ := member
      have later (given : ∃ member ∈ members, numbers = true ∧ member.2.hasWide = true) :
          ∃ member ∈ (spelling, outline) :: members, numbers = true ∧ member.2.hasWide = true :=
        given.imp fun _ inside => ⟨List.mem_cons_of_mem _ inside.1, inside.2⟩
      rcases Except.of_bind_eq_error crash with crash | ⟨name, _, crash⟩
      · exact absurd crash (mapError_broken_ne_crash _)
      split at crash
      · rename_i field found
        split at crash
        · cases crash
        rcases Except.of_bind_eq_error crash with crash | ⟨next, _, crash⟩
        · exact ⟨_, List.mem_cons_self ..,
            calm field (List.mem_of_find?_eq_some found) outline draft crash⟩
        · exact later (ih crash)
      · split at crash
        · cases crash
        rcases Except.of_bind_eq_error crash with crash | ⟨_, _, crash⟩
        · exact absurd crash (mapError_broken_ne_crash _)
        · exact later (ih crash)

theorem calm_readItems {fields : List (Field record)}
    (calm : ∀ field ∈ fields, field.Calm dialect numbers) {length index : Nat}
    {items : List Outline} {draft : record}
    (crash : shape.readItems dialect length index fields draft items = .error .crash) :
    ∃ item ∈ items, numbers = true ∧ item.hasWide = true := by
  induction fields generalizing index items draft with
  | nil =>
      rcases Except.of_bind_eq_error crash with crash | ⟨_, _, crash⟩
      · cases items with
        | nil => cases crash
        | cons item items => cases dialect <;> cases crash
      · cases crash
  | cons field fields ih =>
      have others := fun other inside => calm other (List.mem_cons_of_mem field inside)
      cases items with
      | nil =>
          rw [readItems] at crash
          split at crash
          · cases crash
          · exact ih others crash
      | cons item items =>
          rcases Except.of_bind_eq_error crash with crash | ⟨next, _, crash⟩
          · exact ⟨item, List.mem_cons_self ..,
              calm field (List.mem_cons_self ..) item draft crash⟩
          · obtain ⟨other, member, wide⟩ := ih others crash
            exact ⟨other, List.mem_cons_of_mem _ member, wide⟩

/-- A record stops the program only where one of its fields does. -/
theorem calm (calm : ∀ field ∈ shape.fields, field.Calm dialect numbers) :
    shape.codec.Calm dialect numbers := by
  intro outline crash
  cases outline with
  | object opening members =>
      rcases Except.of_bind_eq_error crash with crash | ⟨⟨seen, finished⟩, _, crash⟩
      · obtain ⟨member, inside, numbers, wide⟩ := calm_readMembers calm crash
        exact ⟨numbers, Outline.hasWide_of_field inside wide⟩
      · dsimp only at crash
        split at crash <;> cases crash
  | array opening items =>
      obtain ⟨item, inside, numbers, wide⟩ := calm_readItems calm crash
      exact ⟨numbers, Outline.hasWide_of_item inside wide⟩
  | _ => exact absurd crash (mismatch_ne_crash _ _ _)

end Record

end Document

end RadarRelay
