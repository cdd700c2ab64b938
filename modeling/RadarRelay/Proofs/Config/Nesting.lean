import RadarRelay.Proofs.Document.Rereading

/-!
# Configurations inside arguments

What a free-form value holds is less deep than the value itself. The connections
that are read from the arguments of a connection therefore have arguments of less
depth, and to go down from connections to those inside of them comes to an end.
-/

namespace RadarRelay

open RadarRelay.Document

namespace Json

theorem depth_ofFields_le (fields : List (String × Json)) :
    (ofFields fields).depth ≤ depthOfFields fields + 1 := by
  rw [ofFields_eq, depth, Nat.add_le_add_iff_right, depthOfFields_le_iff]
  intro field member
  rcases mem_placed member with inside | none
  · exact depthOfFields_le_iff.1 (Nat.le_refl _) field inside
  · cases none

end Json

namespace Document.Outline

theorem ofItems_eq_map (items : List Json) : ofItems items = items.map ofJson := by
  induction items with
  | nil => rfl
  | cons item items ih => rw [ofItems, ih, List.map_cons]

theorem ofFields_eq_map (fields : List (String × Json)) :
    ofFields fields = fields.map fun field => (.ok field.1, ofJson field.2) := by
  induction fields with
  | nil => rfl
  | cons field fields ih => rw [ofFields, ih, List.map_cons]

/-- Whether an outline is that of a value of less than some depth. -/
def Within (bound : Nat) (outline : Outline) : Prop :=
  ∃ value : Json, value.depth < bound ∧ outline = ofJson value

theorem within_of_mem_parts {value : Json} {part : Outline} (member : part ∈ (ofJson value).parts) :
    part.Within value.depth := by
  cases value with
  | array items =>
      simp only [ofJson, parts, ofItems_eq_map, List.mem_map] at member
      obtain ⟨item, inside, rfl⟩ := member
      have depth := Json.depthOfItems_le_iff.1 (Nat.le_refl _) item inside
      exact ⟨item, Nat.lt_succ_of_le depth, rfl⟩
  | object fields =>
      simp only [ofJson, parts, ofFields_eq_map, List.map_map, List.mem_map] at member
      obtain ⟨field, inside, rfl⟩ := member
      have depth := Json.depthOfFields_le_iff.1 (Nat.le_refl _) field inside
      exact ⟨field.2, Nat.lt_succ_of_le depth, rfl⟩
  | _ => cases member

mutual

/-- Reading a value again does not make it deeper. -/
theorem depth_le_of_toJson {value again : Json} (read : (ofJson value).toJson = .ok again) :
    again.depth ≤ value.depth := by
  cases value with
  | null | bool | string =>
      cases read
      exact Nat.zero_le _
  | number number =>
      cases read
      unfold freeNumber
      split
      · split <;> exact Nat.zero_le _
      · exact Nat.zero_le _
  | array items =>
      obtain ⟨values, inside, rfl⟩ := Except.of_map_eq_ok read
      exact Nat.succ_le_succ (depthOfItems_le_of_toJson inside)
  | object fields =>
      obtain ⟨values, inside, rfl⟩ := Except.of_map_eq_ok read
      exact Nat.le_trans (Json.depth_ofFields_le values)
        (Nat.succ_le_succ (depthOfFields_le_of_toJson inside))

theorem depthOfItems_le_of_toJson {items values : List Json}
    (read : itemsToJson (ofItems items) = .ok values) :
    Json.depthOfItems values ≤ Json.depthOfItems items := by
  cases items with
  | nil =>
      cases read
      exact Nat.le_refl _
  | cons item items =>
      obtain ⟨value, first, read⟩ := Except.of_bind_eq_ok read
      obtain ⟨others, rest, read⟩ := Except.of_bind_eq_ok read
      cases read
      have := depth_le_of_toJson first
      have := depthOfItems_le_of_toJson rest
      simp only [Json.depthOfItems]
      omega

theorem depthOfFields_le_of_toJson {fields values : List (String × Json)}
    (read : fieldsToJson (ofFields fields) = .ok values) :
    Json.depthOfFields values ≤ Json.depthOfFields fields := by
  cases fields with
  | nil =>
      cases read
      exact Nat.le_refl _
  | cons field fields =>
      obtain ⟨name, value⟩ := field
      obtain ⟨_, -, read⟩ := Except.of_bind_eq_ok read
      obtain ⟨again, first, read⟩ := Except.of_bind_eq_ok read
      obtain ⟨others, rest, read⟩ := Except.of_bind_eq_ok read
      cases read
      have := depth_le_of_toJson first
      have := depthOfFields_le_of_toJson rest
      simp only [Json.depthOfFields]
      omega

end

end Document.Outline

namespace Config

variable {value : Json}

/-- Records are read from arrays and objects only. -/
theorem depth_pos_of_decode {record : Type} {shape : Record record} {dialect : Dialect}
    {config : record} (read : shape.codec.decode dialect (.ofJson value) = .ok config) :
    0 < value.depth := by
  cases value with
  | array | object => exact Nat.succ_pos _
  | _ => exact absurd read mismatch_ne_ok

/-- The items of a list are read from the parts of its outline. -/
theorem exists_of_mem_list {kind : Type} {codec : Codec kind} {dialect : Dialect}
    {outline : Outline} {items : List kind} (read : codec.list.decode dialect outline = .ok items)
    {item : kind} (member : item ∈ items) :
    ∃ part ∈ outline.parts, codec.decode dialect part = .ok item := by
  cases outline with
  | array opening outlines => exact exists_of_mapM_eq_ok read member
  | _ => exact absurd read mismatch_ne_ok

theorem depth_arguments_le {config : Connection}
    (read : Connection.record.codec.decode .value (.ofJson value) = .ok config) :
    config.arguments.depth ≤ value.depth := by
  have keeps : ∀ field ∈ Connection.record.fields, field.KeepsFrom .value
      (Outline.Within value.depth) fun config => config.arguments.depth ≤ value.depth := by
    simp only [Connection.record, List.forall_mem_cons]
    refine ⟨?className, ?arguments, nofun⟩
    case className =>
      intro outline draft next _ given read
      obtain ⟨_, -, rfl⟩ := Except.of_map_eq_ok read
      exact given
    case arguments =>
      rintro outline draft next ⟨inner, less, rfl⟩ _ read
      obtain ⟨arguments, decoded, rfl⟩ := Except.of_map_eq_ok read
      exact Nat.le_trans (Outline.depth_le_of_toJson (Except.of_mapError_eq_ok decoded))
        (Nat.le_of_lt less)
  exact Record.good_of_decode (by exact Nat.zero_le _) keeps
    (fun _ => Outline.within_of_mem_parts) read

theorem depth_nested_lt {connections : List Connection}
    (read : nestedConnections.codec.decode .value (.ofJson value) = .ok connections) :
    ∀ nested ∈ connections, nested.arguments.depth < value.depth := by
  have keeps : ∀ field ∈ nestedConnections.fields, field.KeepsFrom .value
      (Outline.Within value.depth)
      fun connections => ∀ nested ∈ connections, nested.arguments.depth < value.depth := by
    simp only [nestedConnections, List.forall_mem_cons]
    refine ⟨?_, nofun⟩
    rintro outline draft next ⟨inner, less, rfl⟩ _ read nested member
    obtain ⟨connections, decoded, rfl⟩ := Except.of_map_eq_ok read
    obtain ⟨part, inside, decoded⟩ := exists_of_mem_list decoded member
    obtain ⟨innermost, deeper, rfl⟩ := Outline.within_of_mem_parts inside
    exact Nat.lt_of_le_of_lt (depth_arguments_le decoded) (Nat.lt_trans deeper less)
  exact Record.good_of_decode nofun keeps (fun _ => Outline.within_of_mem_parts) read

/-- Connections read from arguments have arguments of less depth. Arguments that are left out do not
hold any. -/
theorem depth_lt_of_decodeArguments {owner : String} {connections : List Connection}
    (read : decodeArguments nestedConnections.codec owner value = .ok connections) :
    0 < value.depth ∧ ∀ nested ∈ connections, nested.arguments.depth < value.depth := by
  have decoded := Except.of_mapError_eq_ok read
  cases value with
  | null => cases read
  | _ => exact ⟨depth_pos_of_decode decoded, depth_nested_lt decoded⟩

end Config

end RadarRelay
