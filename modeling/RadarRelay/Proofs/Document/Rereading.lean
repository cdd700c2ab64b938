import Mathlib.Data.List.Pairwise
import Mathlib.Data.List.Perm.Basic
import RadarRelay.Config.Reader
import RadarRelay.Proofs.Document.Legible
import RadarRelay.Proofs.Number.Counted

/-!
# Codecs that read what they wrote

A codec rereads when a value that it has read from a text is found again in the outline of
what it writes for the value. Each way of making codecs from others keeps this. Values
that are read are not all values, so a codec comes with a property of the values that
it can have read, and this property is all that the second reading needs.

A record is written with its fields in the order of their names, and its second reading
therefore sets them in another order than that of their declaration. Setting fields
commutes, and all of them together make the record. Where the fields are written as they
are declared, they are set in that order.
-/

namespace RadarRelay.Document

open RadarRelay.Number RadarRelay.Json5

variable {kind : Type}

/-- Values that were read have a property, and those that have it are read from what is written
for them. -/
structure Codec.Rereads (codec : Codec kind) (dialect : Dialect) (good : kind → Prop) : Prop where
  good_of_decode : ∀ {outline value}, outline.Sound Numeral.Sound → codec.decode dialect outline = .ok value →
    good value
  decode_outlineOf : ∀ {value}, good value →
    codec.decode dialect (outlineOf (codec.encode value)) = .ok value

/-- An outline of another type than expected has no value. -/
theorem mismatch_ne_ok {expected : String} {dialect : Dialect} {outline : Outline} {value : kind} :
    mismatch expected dialect outline ≠ .ok value := by
  intro read
  obtain ⟨_, _, read⟩ := Except.of_bind_eq_ok read
  cases read

namespace Codec

variable {codec : Codec kind} {dialect : Dialect} {good : kind → Prop}

/-! ## Simple values -/

theorem rereads_textNamed (expected : String) (dialect : Dialect) :
    (textNamed expected).Rereads dialect fun _ => True :=
  ⟨fun _ _ => trivial, fun _ => rfl⟩

theorem rereads_bool (dialect : Dialect) : bool.Rereads dialect fun _ => True :=
  ⟨fun _ _ => trivial, fun _ => rfl⟩

theorem rereads_json (dialect : Dialect) : json.Rereads dialect Json.Legible where
  good_of_decode sound read := Outline.legible_of_toJson sound (Except.of_mapError_eq_ok read)
  decode_outlineOf {value} legible := by
    show (outlineOf value).toJson.mapError _ = _
    rw [toJson_outlineOf legible]
    rfl

/-- A natural number was read as a double. -/
theorem rereads_natural (expected : String) :
    (natural expected).Rereads .configuration Counted where
  good_of_decode {outline value} _ read := by
    obtain ⟨number, decoded, rfl⟩ := Except.of_map_eq_ok read
    cases outline with
    | number numeral =>
        cases real : numeral.real with
        | error fault =>
            simp only [integer, real] at decoded
            cases decoded
        | ok value =>
            simp only [integer, real] at decoded
            cases decoded
            exact counted_toIntWithin value
    | null | bool | broken => cases decoded
    | string opening | array opening | object opening => cases opening <;> cases decoded
  decode_outlineOf {value} counted := by
    have real : (numeral (Json.Number.whole value).print).real = .ok (.ofInt value) :=
      realValue_natural counted.finite
    show ((integer expected 0 nat64Max).decode .configuration
      (.number (numeral (Json.Number.whole value).print))).map Int.toNat = _
    simp only [integer, real, counted.same]
    rfl

/-- One of several names. -/
theorem rereads_variant {variants : List (String × kind)} {nameOf : kind → String}
    (named : ∀ value, variants.lookup (nameOf value) = some value) (dialect : Dialect) :
    (variant variants nameOf).Rereads dialect fun _ => True where
  good_of_decode _ _ := trivial
  decode_outlineOf {value} _ := by
    have found : findVariant variants (nameOf value) = .ok value := by
      rw [findVariant, named]
    show (variant variants nameOf).decode dialect (.string _ (.ok (nameOf value))) = _
    cases dialect <;> exact found

/-! ## Options and lists -/

theorem Rereads.option (rereads : codec.Rereads dialect good)
    (some : ∀ {value}, good value → outlineOf (codec.encode value) ≠ .null) :
    codec.option.Rereads dialect fun option => ∀ value ∈ option, good value where
  good_of_decode {outline} {option} sound read := by
    rintro value ⟨⟩
    have decoded : (codec.decode dialect outline).map Option.some = .ok (Option.some value) := by
      cases outline with
      | null => cases read
      | _ => exact read
    obtain ⟨other, decoded, same⟩ := Except.of_map_eq_ok decoded
    cases same
    exact rereads.good_of_decode sound decoded
  decode_outlineOf {option} given := by
    cases option with
    | none => rfl
    | some value =>
        have decoded := rereads.decode_outlineOf (given value rfl)
        have visible := some (given value rfl)
        show codec.option.decode dialect (outlineOf (codec.encode value)) = _
        generalize outlineOf (codec.encode value) = outline at decoded visible
        cases outline with
        | null => exact absurd rfl visible
        | _ =>
            show (codec.decode dialect _).map _ = _
            rw [decoded]
            rfl

/-- The items of a list are read when each of them is. -/
theorem decode_each {outlines : kind → Outline} {items : List kind}
    (each : ∀ item ∈ items, codec.decode dialect (outlines item) = .ok item) :
    (items.map outlines).mapM (codec.decode dialect) = .ok items := by
  induction items with
  | nil => rfl
  | cons item items ih =>
      rw [List.forall_mem_cons] at each
      rw [List.map_cons, List.mapM_cons, each.1, ih each.2]
      rfl

theorem decode_items (rereads : codec.Rereads dialect good) {items : List kind}
    (given : ∀ item ∈ items, good item) :
    (outlineOfItems (items.map codec.encode)).mapM (codec.decode dialect) = .ok items := by
  rw [outlineOfItems_eq_writtenItems, writtenItems_eq_map, List.map_map]
  refine decode_each fun item member => ?_
  rw [Function.comp_apply, ← outlineOf_eq_written]
  exact rereads.decode_outlineOf (given item member)

theorem good_of_items (rereads : codec.Rereads dialect good) {outlines : List Outline}
    (sound : ∀ outline ∈ outlines, outline.Sound Numeral.Sound) {items : List kind}
    (read : outlines.mapM (codec.decode dialect) = .ok items) : ∀ item ∈ items, good item := by
  induction outlines generalizing items with
  | nil => cases read; nofun
  | cons outline outlines ih =>
      rw [List.mapM_cons] at read
      obtain ⟨item, first, read⟩ := Except.of_bind_eq_ok read
      obtain ⟨others, rest, read⟩ := Except.of_bind_eq_ok read
      cases read
      intro other member
      rcases List.mem_cons.1 member with rfl | inside
      · exact rereads.good_of_decode (sound outline (List.mem_cons_self ..)) first
      · exact ih (fun outline member => sound outline (List.mem_cons_of_mem _ member)) rest other
          inside

theorem Rereads.list (rereads : codec.Rereads dialect good) :
    codec.list.Rereads dialect fun items => ∀ item ∈ items, good item where
  good_of_decode {outline items} sound read := by
    cases outline with
    | array opening outlines =>
        exact good_of_items rereads (Outline.sound_array.1 sound) read
    | _ => exact absurd read mismatch_ne_ok
  decode_outlineOf given := decode_items rereads given

/-- A list that may be written as its only item is written as a list. -/
theorem Rereads.oneOrMany (rereads : codec.Rereads .alternative good)
    (legible : ∀ {value}, good value → (codec.encode value).Legible) (dialect : Dialect) :
    codec.oneOrMany.Rereads dialect fun items => ∀ item ∈ items, good item where
  good_of_decode {outline items} sound read := by
    obtain ⟨_, _, read⟩ := Except.of_bind_eq_ok read
    split at read
    · rename_i several _ decoded
      cases read
      exact rereads.list.good_of_decode sound decoded
    · rename_i single _ decoded
      cases read
      intro item member
      rw [List.mem_singleton.1 member]
      exact rereads.good_of_decode sound decoded
    · cases read
  decode_outlineOf {items} given := by
    have several := rereads.list.decode_outlineOf given
    have value : (codec.list.encode items).Legible := by
      refine Json.legibleItems_iff.2 fun item member => ?_
      obtain ⟨inside, listed, rfl⟩ := List.mem_map.1 member
      exact legible (given inside listed)
    simp only [Codec.oneOrMany, toJson_outlineOf value, several]
    rfl

end Codec

/-! ## Records -/

/-- What an outline is made of, one level deep. -/
def Outline.parts : Outline → List Outline
  | array _ items => items
  | object _ fields => fields.map (·.2)
  | _ => []

theorem Outline.Sound.parts {holds : Numeral → Prop} {outline : Outline}
    (sound : outline.Sound holds) : ∀ part ∈ outline.parts, part.Sound holds := by
  cases outline with
  | array _ items => exact sound_array.1 sound
  | object _ fields => exact List.forall_mem_map.2 (sound_object.1 sound)
  | _ => nofun

variable {record : Type} {dialect : Dialect}

namespace Field

/-- Reading a field from an outline of some kind keeps a property of drafts. -/
def KeepsFrom (field : Field record) (dialect : Dialect) (given : Outline → Prop)
    (good : record → Prop) : Prop :=
  ∀ outline draft next, given outline → good draft → field.read dialect outline draft = .ok next →
    good next

/-- Reading a field keeps a property of drafts. -/
def Keeps (field : Field record) (dialect : Dialect) (good : record → Prop) : Prop :=
  field.KeepsFrom dialect (Outline.Sound Numeral.Sound) good

theorem keeps_ofCodec {codec : Codec kind} {part : kind → Prop} {good : record → Prop}
    (rereads : codec.Rereads dialect part) {set : record → kind → record}
    (keeps : ∀ {draft value}, good draft → part value → good (set draft value))
    {required : Bool} {name : String} {get : record → kind} :
    (ofCodec required name codec get set).Keeps dialect good := by
  intro outline draft next sound given read
  obtain ⟨value, decoded, rfl⟩ := Except.of_map_eq_ok read
  exact keeps given (rereads.good_of_decode sound decoded)

/-- Reading a field from an outline makes a change to a draft. -/
def Makes (field : Field record) (dialect : Dialect) (outline : Outline)
    (change : record → record) : Prop :=
  ∀ draft, field.read dialect outline draft = .ok (change draft)

theorem makes_ofCodec {codec : Codec kind} {outline : Outline} {value : kind}
    (decoded : codec.decode dialect outline = .ok value) {required : Bool} {name : String}
    {get : record → kind} {set : record → kind → record} :
    (ofCodec required name codec get set).Makes dialect outline fun draft => set draft value := by
  intro draft
  show (codec.decode dialect outline).map (set draft) = _
  rw [decoded]
  rfl

/-- Reading what a field writes of a value copies that part of the value into a draft. -/
def Copies (dialect : Dialect) (value : record) (field : Field record) (copy : record → record) :
    Prop :=
  ∀ draft, field.read dialect (outlineOf (field.write value)) draft = .ok (copy draft)

theorem copies_ofCodec {codec : Codec kind} {part : kind → Prop}
    (rereads : codec.Rereads dialect part) {value : record} {get : record → kind}
    (given : part (get value)) {set : record → kind → record} {required : Bool} {name : String} :
    Copies dialect value (ofCodec required name codec get set) fun draft => set draft (get value) :=
  makes_ofCodec (rereads.decode_outlineOf given)

end Field

namespace Record

variable {shape : Record record} {given : Outline → Prop} {good : record → Prop}

theorem good_of_readMembers (keeps : ∀ field ∈ shape.fields, field.KeepsFrom dialect given good)
    {members : List (Spelling × Outline)} (sound : ∀ member ∈ members, given member.2)
    {seen finished : List String} {draft value : record} (start : good draft)
    (read : shape.readMembers dialect seen draft members = .ok (finished, value)) : good value := by
  induction members generalizing seen draft with
  | nil => cases read; exact start
  | cons member members ih =>
      obtain ⟨spelling, outline⟩ := member
      have others := fun other inside => sound other (List.mem_cons_of_mem (spelling, outline) inside)
      obtain ⟨name, -, read⟩ := Except.of_bind_eq_ok read
      split at read
      · rename_i field found
        split at read
        · cases read
        · obtain ⟨next, set, read⟩ := Except.of_bind_eq_ok read
          exact ih others (keeps field (List.mem_of_find?_eq_some found) _ _ _
            (sound _ (List.mem_cons_self ..)) start set) read
      · split at read
        · cases read
        · obtain ⟨_, _, read⟩ := Except.of_bind_eq_ok read
          exact ih others start read

theorem good_of_readItems {fields : List (Field record)}
    (keeps : ∀ field ∈ fields, field.KeepsFrom dialect given good) {length index : Nat}
    {items : List Outline} (sound : ∀ item ∈ items, given item) {draft value : record}
    (start : good draft) (read : shape.readItems dialect length index fields draft items = .ok value) :
    good value := by
  induction fields generalizing index items draft with
  | nil =>
      obtain ⟨_, _, read⟩ := Except.of_bind_eq_ok read
      cases read
      exact start
  | cons field fields ih =>
      have others := fun other inside => keeps other (List.mem_cons_of_mem field inside)
      cases items with
      | nil =>
          rw [readItems] at read
          split at read
          · cases read
          · exact ih others sound start read
      | cons item items =>
          obtain ⟨next, set, read⟩ := Except.of_bind_eq_ok read
          exact ih others (fun other inside => sound other (List.mem_cons_of_mem _ inside))
            (keeps field (List.mem_cons_self ..) _ _ _ (sound item (List.mem_cons_self ..)) start set)
            read

/-- A record that was read has what its defaults have and its fields keep. -/
theorem good_of_decode (start : good shape.defaults)
    (keeps : ∀ field ∈ shape.fields, field.KeepsFrom dialect given good) {outline : Outline}
    (sound : ∀ part ∈ outline.parts, given part) {value : record}
    (read : shape.decode dialect outline = .ok value) : good value := by
  cases outline with
  | object opening members =>
      obtain ⟨⟨seen, finished⟩, members, read⟩ := Except.of_bind_eq_ok read
      dsimp only at read
      split at read <;> cases read
      exact good_of_readMembers keeps (List.forall_mem_map.1 sound) start members
  | array opening items => exact good_of_readItems keeps sound start read
  | _ => exact absurd read mismatch_ne_ok

/-- Reading a member of an object makes a change to a draft. -/
def Making (shape : Record record) (dialect : Dialect) (member : String × Outline)
    (change : record → record) : Prop :=
  ∃ field, shape.field? member.1 = some field ∧ field.Makes dialect member.2 change

/-- Members as an object has them whose names are well formed. -/
def spelled (members : List (String × Outline)) : List (Spelling × Outline) :=
  members.map fun member => (.ok member.1, member.2)

/-- Members of distinct names all make their changes, one after the other. -/
theorem readMembers_making {members : List (String × Outline)} {changes : List (record → record)}
    (making : List.Forall₂ (shape.Making dialect) members changes) {seen : List String}
    (distinct : (members.map Prod.fst).Nodup) (fresh : ∀ member ∈ members, member.1 ∉ seen)
    (draft : record) :
    shape.readMembers dialect seen draft (spelled members) =
      .ok ((members.map Prod.fst).reverse ++ seen,
        changes.foldl (fun draft change => change draft) draft) := by
  induction making generalizing seen draft with
  | nil => rfl
  | cons first others ih =>
      rename_i member change members changes
      obtain ⟨name, outline⟩ := member
      obtain ⟨field, found, read⟩ := first
      rw [List.map_cons, List.nodup_cons] at distinct
      have notSeen : seen.contains name = false := by
        simpa using fresh (name, outline) (List.mem_cons_self ..)
      have later : ∀ member ∈ members, member.1 ∉ name :: seen := by
        intro member inside again
        rcases List.mem_cons.1 again with same | before
        · exact distinct.1 (List.mem_map.2 ⟨member, inside, same⟩)
        · exact fresh member (List.mem_cons_of_mem _ inside) before
      have rest := ih distinct.2 later (change draft)
      have step : shape.readMembers dialect seen draft ((.ok name, outline) :: spelled members) =
          shape.readMembers dialect (name :: seen) (change draft) (spelled members) := by
        have named : readSpelling (.ok name) = .ok name := rfl
        rw [readMembers, named]
        simp only [bind, Except.bind, found, notSeen, read draft]
        rfl
      rw [spelled, List.map_cons, ← spelled, step, rest]
      simp

/-- A field is found by its name. -/
theorem find?_name {fields : List (Field record)} (distinct : (fields.map (·.name)).Nodup)
    {field : Field record} (member : field ∈ fields) :
    (fields.find? fun other => other.name == field.name) = some field := by
  induction fields with
  | nil => cases member
  | cons first fields ih =>
      rw [List.map_cons, List.nodup_cons] at distinct
      rcases List.mem_cons.1 member with rfl | inside
      · simp
      · have different : first.name ≠ field.name :=
          fun same => distinct.1 (List.mem_map.2 ⟨field, inside, same.symm⟩)
        rw [List.find?_cons_of_neg (by simpa using different)]
        exact ih distinct.2 inside

/-- Fields under their names make their changes as members. -/
theorem making_fields (distinct : shape.names.Nodup) (outlines : Field record → Outline)
    {fields : List (Field record)} (part : fields ⊆ shape.fields)
    {changes : List (record → record)}
    (made : List.Forall₂ (fun field change => field.Makes dialect (outlines field) change) fields
      changes) :
    List.Forall₂ (shape.Making dialect) (fields.map fun field => (field.name, outlines field))
      changes := by
  induction made with
  | nil => exact .nil
  | cons first others ih =>
      rename_i field change fields changes
      obtain ⟨inside, later⟩ := List.cons_subset.1 part
      exact .cons ⟨field, find?_name distinct inside, first⟩ (ih later)

theorem missing?_eq_none {seen : List String} (complete : shape.names ⊆ seen) :
    shape.missing? seen = none := by
  rw [missing?, Option.map_eq_none_iff, List.find?_eq_none]
  intro field member
  have inside : field.name ∈ seen := complete (List.mem_map_of_mem member)
  simp [inside]

/-- A record is read once all its fields have been. -/
theorem decode_of_readMembers {opening : Opening} {members : List (Spelling × Outline)}
    {seen : List String} {value : record}
    (read : shape.readMembers dialect [] shape.defaults members = .ok (seen, value))
    (complete : shape.names ⊆ seen) :
    shape.decode dialect (.object opening members) = .ok value := by
  show (shape.readMembers dialect [] shape.defaults members >>= _) = _
  rw [read]
  simp only [bind, Except.bind, missing?_eq_none complete]
  rfl

/-- A record is read from what is written for its fields in the order of their declaration, in
whatever way they are written. -/
theorem decode_declared {numbers : Json.Number → Outline} (views : Field record → Json)
    {changes : List (record → record)} {value : record} (distinct : shape.names.Nodup)
    (made : List.Forall₂
      (fun field change => field.Makes dialect (written numbers (views field)) change)
      shape.fields changes)
    (whole : changes.foldl (fun draft change => change draft) shape.defaults = value) :
    shape.decode dialect
        (written numbers (.object (shape.fields.map fun field => (field.name, views field)))) =
      .ok value := by
  have making := making_fields distinct (fun field => written numbers (views field))
    (List.Subset.refl _) made
  have names : (shape.fields.map fun field =>
      (field.name, written numbers (views field))).map Prod.fst = shape.names := by
    simp [Record.names]
  have read := readMembers_making making (names ▸ distinct) (fun _ _ => List.not_mem_nil)
    shape.defaults
  rw [whole, names, List.append_nil, spelled, List.map_map] at read
  rw [written, writtenFields_eq_map, List.map_map]
  exact decode_of_readMembers read fun name inside => List.mem_reverse.2 inside

/-- Reading a written field copies a part of the value into a draft. -/
def Copying (shape : Record record) (dialect : Dialect) (member : String × Json)
    (copy : record → record) : Prop :=
  ∃ field, shape.field? member.1 = some field ∧
    ∀ draft, field.read dialect (outlineOf member.2) draft = .ok (copy draft)

theorem outlineOfFields_eq_spelled (fields : List (String × Json)) :
    outlineOfFields fields = spelled (fields.map (Prod.map id outlineOf)) := by
  simp [outlineOfFields_eq_writtenFields, writtenFields_eq_map, spelled, outlineOf_eq_written]

/-- Written fields of distinct names are all copied into a draft. -/
theorem readMembers_copying {members : List (String × Json)} {copies : List (record → record)}
    (copying : List.Forall₂ (shape.Copying dialect) members copies) {seen : List String}
    (distinct : (members.map Prod.fst).Nodup) (fresh : ∀ member ∈ members, member.1 ∉ seen)
    (draft : record) :
    shape.readMembers dialect seen draft (outlineOfFields members) =
      .ok ((members.map Prod.fst).reverse ++ seen,
        copies.foldl (fun draft copy => copy draft) draft) := by
  have making : List.Forall₂ (shape.Making dialect) (members.map (Prod.map id outlineOf))
      copies := List.forall₂_map_left_iff.2 copying
  have names : (members.map (Prod.map id outlineOf)).map Prod.fst = members.map Prod.fst := by simp
  rw [outlineOfFields_eq_spelled, ← names]
  exact readMembers_making making (names ▸ distinct) (List.forall_mem_map.2 fresh) draft

/-- Each field of a written record is copied. -/
theorem copying_members {value : record} (distinct : shape.names.Nodup)
    {copies : List (record → record)}
    (copied : List.Forall₂ (Field.Copies dialect value) shape.fields copies) :
    List.Forall₂ (shape.Copying dialect) (shape.members value) copies := by
  have making := making_fields distinct (fun field => outlineOf (field.write value))
    (List.Subset.refl _) copied
  rw [List.forall₂_map_left_iff] at making
  exact List.forall₂_map_left_iff.2 making

/-- Copies that do not disturb each other. -/
def Apart (first second : record → record) : Prop :=
  ∀ draft, first (second draft) = second (first draft)

/-- Copies that do not disturb each other may be made in any order. -/
theorem foldl_copies_perm {copies others : List (record → record)} (permuted : others.Perm copies)
    (apart : copies.Pairwise Apart) (draft : record) :
    others.foldl (fun draft copy => copy draft) draft =
      copies.foldl (fun draft copy => copy draft) draft := by
  refine permuted.foldl_eq' ?_ draft
  intro first firstMember second secondMember draft
  have commuting := apart.forall_of_forall_of_flip (fun copy _ draft => rfl)
    (apart.imp fun apart draft => (apart draft).symm)
  exact commuting (permuted.subset secondMember) (permuted.subset firstMember) draft

/-- A record is read from what is written for it, when each field is and they do not disturb each
other. -/
theorem decode_outlineOf {value : record} {copies : List (record → record)}
    (distinct : shape.names.Nodup)
    (copied : List.Forall₂ (Field.Copies dialect value) shape.fields copies)
    (apart : copies.Pairwise Apart)
    (whole : copies.foldl (fun draft copy => copy draft) shape.defaults = value) :
    shape.decode dialect (outlineOf (shape.codec.encode value)) = .ok value := by
  have names : (shape.members value).map Prod.fst = shape.names := by
    simp [members, Record.names]
  have ordered : (Json.placed (shape.members value) []).Perm (shape.members value) := by
    have permuted := @Json.perm_placed (shape.members value) []
    rw [List.append_nil, names] at permuted
    exact permuted distinct
  have sameNames : ((Json.placed (shape.members value) []).map Prod.fst).Perm shape.names :=
    names ▸ ordered.map Prod.fst
  -- The members are read in the order of their names, which is not that of the fields.
  obtain ⟨others, copying, permuted⟩ :=
    List.perm_comp_forall₂ ordered (copying_members distinct copied)
  have read := readMembers_copying copying (sameNames.nodup_iff.2 distinct)
    (fun _ _ => List.not_mem_nil) shape.defaults
  rw [foldl_copies_perm permuted apart, whole, List.append_nil] at read
  exact decode_of_readMembers read fun name inside =>
    List.mem_reverse.2 (sameNames.symm.subset inside)

/-- A record rereads when its defaults have a property that the fields keep, and a value with that
property is copied by its fields. -/
theorem rereads (start : good shape.defaults)
    (keeps : ∀ field ∈ shape.fields, field.Keeps dialect good)
    (reads : ∀ {value}, good value →
      shape.decode dialect (outlineOf (shape.codec.encode value)) = .ok value) :
    shape.codec.Rereads dialect good :=
  ⟨fun sound read => good_of_decode start keeps sound.parts read, reads⟩

end Record

end RadarRelay.Document
