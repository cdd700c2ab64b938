import RadarRelay.Document.Builder
import RadarRelay.Proofs.Document.Outcome
import RadarRelay.Proofs.Json.Parts

/-!
# Numbers in outlines

Building an outline only moves the numbers of its tokens around: what holds of every number
in the tokens holds of every number in the outline, and of every number in the value that
the outline denotes. The fields of that value are in order.
-/

namespace RadarRelay.Document

open RadarRelay.Number

section Sound

variable (holds : Numeral → Prop)

mutual

/-- Something holds of every number in an outline. -/
def Outline.Sound : Outline → Prop
  | .number value => holds value
  | .array _ items => Outline.SoundItems items
  | .object _ fields => Outline.SoundFields fields
  | .null | .bool _ | .string _ _ | .broken _ => True

@[inherit_doc Outline.Sound]
def Outline.SoundItems : List Outline → Prop
  | [] => True
  | item :: items => item.Sound ∧ Outline.SoundItems items

@[inherit_doc Outline.Sound]
def Outline.SoundFields : List (Spelling × Outline) → Prop
  | [] => True
  | (_, value) :: fields => value.Sound ∧ Outline.SoundFields fields

end

/-- It holds of every number in a token. -/
def Token.Sound : Token → Prop
  | .constant value _ => value.Sound holds
  | .number value | .numberWord value _ => holds value
  | _ => True

/-- It holds of everything that was read on a path. -/
def Path.Sound : Path → Prop
  | .top => True
  | .item _ items outer => (∀ item ∈ items, item.Sound holds) ∧ outer.Sound
  | .member _ fields _ outer => (∀ field ∈ fields, field.2.Sound holds) ∧ outer.Sound

/-- It holds of everything that has been read. -/
def State.Sound : State → Prop
  | .place path => path.Sound holds
  | .firstItem _ outer | .firstName _ outer => outer.Sound holds
  | .nextItem _ items outer | .afterItem _ items outer =>
      (∀ item ∈ items, item.Sound holds) ∧ outer.Sound holds
  | .nextName _ fields outer | .afterName _ fields _ outer | .afterField _ fields outer =>
      (∀ field ∈ fields, field.2.Sound holds) ∧ outer.Sound holds
  | .done document => document.Sound holds

end Sound

variable {holds : Numeral → Prop}

namespace Outline

theorem soundItems_iff {items : List Outline} :
    SoundItems holds items ↔ ∀ item ∈ items, item.Sound holds := by
  induction items with
  | nil => simp [SoundItems]
  | cons item items ih => simp [SoundItems, ih]

theorem soundFields_iff {fields : List (Spelling × Outline)} :
    SoundFields holds fields ↔ ∀ field ∈ fields, field.2.Sound holds := by
  induction fields with
  | nil => simp [SoundFields]
  | cons field fields ih => simp [SoundFields, ih]

theorem sound_array {opening : Opening} {items : List Outline} :
    (array opening items).Sound holds ↔ ∀ item ∈ items, item.Sound holds := by
  rw [Sound, soundItems_iff]

theorem sound_object {opening : Opening} {fields : List (Spelling × Outline)} :
    (object opening fields).Sound holds ↔ ∀ field ∈ fields, field.2.Sound holds := by
  rw [Sound, soundFields_iff]

end Outline

namespace Path

theorem Sound.close {path : Path} (sound : path.Sound holds) {value : Outline}
    (given : value.Sound holds) :
    (path.close value).Sound holds := by
  induction path generalizing value with
  | top => exact given
  | item opening items outer ih =>
      refine ih sound.2 (Outline.sound_array.2 fun item member => ?_)
      rw [List.mem_append, List.mem_reverse, List.mem_singleton] at member
      rcases member with inside | rfl
      · exact sound.1 item inside
      · exact given
  | member opening fields name outer ih =>
      refine ih sound.2 (Outline.sound_object.2 fun field member => ?_)
      rw [List.mem_append, List.mem_reverse, List.mem_singleton] at member
      rcases member with inside | rfl
      · exact sound.1 field inside
      · exact given

end Path

namespace State

theorem Sound.fill {path : Path} (sound : path.Sound holds) {value : Outline}
    (given : value.Sound holds) :
    (fill path value).Sound holds := by
  cases path with
  | top => exact given
  | item opening items outer =>
      exact ⟨fun item member => by
        rcases List.mem_cons.1 member with rfl | inside
        · exact given
        · exact sound.1 item inside, sound.2⟩
  | member opening fields name outer =>
      exact ⟨fun field member => by
        rcases List.mem_cons.1 member with rfl | inside
        · exact given
        · exact sound.1 field inside, sound.2⟩

/-- What is broken off keeps what was read before. -/
theorem Sound.abandon {state : State} (sound : state.Sound holds) (fault : SyntaxFault) :
    (state.abandon fault).Sound holds := by
  have broken : (Outline.broken fault).Sound holds := trivial
  have array (opening : Opening) {items : List Outline} (given : ∀ item ∈ items, item.Sound holds) :
      (brokenArray fault opening items).Sound holds := by
    refine Outline.sound_array.2 fun item member => ?_
    rw [List.mem_append, List.mem_reverse, List.mem_singleton] at member
    rcases member with inside | rfl
    · exact given item inside
    · exact broken
  have object (opening : Opening) (name : Spelling) {fields : List (Spelling × Outline)}
      (given : ∀ field ∈ fields, field.2.Sound holds) :
      (Outline.object opening (fields.reverse ++ [(name, .broken fault)])).Sound holds := by
    refine Outline.sound_object.2 fun field member => ?_
    rw [List.mem_append, List.mem_reverse, List.mem_singleton] at member
    rcases member with inside | rfl
    · exact given field inside
    · exact broken
  cases state with
  | place path => exact Path.Sound.close sound broken
  | firstItem opening outer => exact Path.Sound.close sound (array opening nofun)
  | nextItem opening items outer => exact sound.2.close (array opening sound.1)
  | afterItem opening items outer => exact sound.2.close (array opening sound.1)
  | firstName opening outer => exact Path.Sound.close sound (object opening _ nofun)
  | nextName opening fields outer => exact sound.2.close (object opening _ sound.1)
  | afterName opening fields name outer => exact sound.2.close (object opening _ sound.1)
  | afterField opening fields outer => exact sound.2.close (object opening _ sound.1)
  | done document => exact sound

end State

namespace Rules

variable {rules : Rules} {token : Token} {next : State}

theorem sound_startValue {path : Path} (started : rules.startValue path token = .ok next)
    (sound : path.Sound holds) (given : token.Sound holds) : next.Sound holds := by
  cases token with
  | openArray opening | openObject opening =>
      rw [startValue] at started
      split at started <;> cases started
      exact sound
  | constant value name => cases started; exact .fill sound given
  | number value => cases started; exact .fill sound given
  | numberWord value name => cases started; exact .fill sound given
  | string opening content => cases started; exact .fill sound trivial
  | closeArray | closeObject | comma | colon | word | bad => cases started

theorem sound_startField {opening : Opening} {fields : List (Spelling × Outline)} {outer : Path}
    (started : rules.startField opening fields outer token = .ok next)
    (sound : (∀ field ∈ fields, field.2.Sound holds) ∧ outer.Sound holds) : next.Sound holds := by
  cases token with
  | string => cases started; exact sound
  | word | constant | numberWord =>
      rw [startField] at started
      split at started <;> cases started
      exact sound
  | bad inString => cases inString <;> cases started
  | _ => cases started

theorem sound_endArray (opening : Opening) {items : List Outline} {outer : Path}
    (sound : (∀ item ∈ items, item.Sound holds) ∧ outer.Sound holds) :
    (endArray opening items outer).Sound holds :=
  .fill sound.2 (Outline.sound_array.2 fun item member => sound.1 item (List.mem_reverse.1 member))

theorem sound_endObject (opening : Opening) {fields : List (Spelling × Outline)} {outer : Path}
    (sound : (∀ field ∈ fields, field.2.Sound holds) ∧ outer.Sound holds) :
    (endObject opening fields outer).Sound holds :=
  .fill sound.2
    (Outline.sound_object.2 fun field member => sound.1 field (List.mem_reverse.1 member))

/-- Reading a token keeps what was read, and adds what is in the token. -/
theorem sound_step {state : State} (sound : state.Sound holds) (given : token.Sound holds)
    (stepped : rules.step state token = .ok next) : next.Sound holds := by
  have emptyArray {outer : Path} (sound : outer.Sound holds) :
      (∀ item ∈ ([] : List Outline), item.Sound holds) ∧ outer.Sound holds := ⟨nofun, sound⟩
  have emptyObject {outer : Path} (sound : outer.Sound holds) :
      (∀ field ∈ ([] : List (Spelling × Outline)), field.2.Sound holds) ∧ outer.Sound holds :=
    ⟨nofun, sound⟩
  unfold step at stepped
  split at stepped
  · exact sound_startValue stepped sound given
  · cases stepped; exact sound_endArray _ (emptyArray sound)
  · exact sound_startValue stepped (emptyArray sound) given
  · split at stepped <;> cases stepped
    exact sound_endArray _ sound
  · exact sound_startValue stepped sound given
  · cases stepped; exact sound_endArray _ sound
  · cases stepped; exact sound
  · cases stepped
  · cases stepped; exact sound_endObject _ (emptyObject sound)
  · exact sound_startField stepped (emptyObject sound)
  · split at stepped <;> cases stepped
    exact sound_endObject _ sound
  · exact sound_startField stepped sound
  · cases stepped; exact sound
  · cases stepped
  · cases stepped; exact sound_endObject _ sound
  · cases stepped; exact sound
  · cases stepped
  · cases stepped

/-- So does reading all of them. -/
theorem sound_run {state : State} (sound : state.Sound holds) {tokens : List Token}
    (given : ∀ token ∈ tokens, token.Sound holds) :
    (rules.run state tokens).outline.Sound holds := by
  induction tokens generalizing state with
  | nil =>
      rw [run]
      split <;> exact sound.abandon _
  | cons token tokens ih =>
      rw [run]
      split
      · rename_i next stepped
        exact ih (sound_step sound (given token (List.mem_cons_self ..)) stepped)
          fun other member => given other (List.mem_cons_of_mem _ member)
      · exact sound.abandon _

end Rules

/-! ## Values of sound outlines -/

namespace Outline

open RadarRelay.Json (Every Proper)

/-- A number that has a literal: any whole number and any finite double. -/
def HasLiteral : Json.Number → Prop
  | .whole _ => True
  | .real value => value.isFinite = true

/-- The numbers of sound outlines fit. -/
def Yields (holds : Numeral → Prop) (fits : Json.Number → Prop) : Prop :=
  ∀ {numeral number}, holds numeral → numeral.free = .ok number → HasLiteral number → fits number

variable {fits : Json.Number → Prop}

mutual

/-- The value of an outline is proper throughout when its numbers are. -/
theorem every_of_toJson (yields : Yields holds fits) {outline : Outline} {value : Json}
    (sound : outline.Sound holds) (read : outline.toJson = .ok value) :
    value.Every (Proper fits) := by
  cases outline with
  | null =>
      cases read
      exact Json.every_null.2 trivial
  | bool =>
      cases read
      exact Json.every_bool.2 trivial
  | broken => cases read
  | number numeral =>
      obtain ⟨number, free, rfl⟩ := Except.of_map_eq_ok read
      have free := Except.of_mapError_eq_ok free
      cases number with
      | whole value => exact Json.every_number.2 (yields sound free trivial)
      | real value =>
          rw [freeNumber]
          split
          · rename_i finite
            exact Json.every_number.2 (yields sound free finite)
          · exact Json.every_null.2 trivial
  | string opening content =>
      obtain ⟨text, -, rfl⟩ := Except.of_map_eq_ok read
      exact Json.every_string.2 trivial
  | array opening items =>
      obtain ⟨values, inside, rfl⟩ := Except.of_map_eq_ok read
      exact Json.every_array.2 ⟨trivial, every_of_itemsToJson yields sound inside⟩
  | object opening fields =>
      obtain ⟨values, inside, rfl⟩ := Except.of_map_eq_ok read
      exact Json.every_proper_ofFields (every_of_fieldsToJson yields sound inside)

theorem every_of_itemsToJson (yields : Yields holds fits) {items : List Outline}
    {values : List Json} (sound : SoundItems holds items) (read : itemsToJson items = .ok values) :
    ∀ value ∈ values, value.Every (Proper fits) := by
  cases items with
  | nil =>
      cases read
      exact List.forall_mem_nil _
  | cons item items =>
      obtain ⟨value, first, read⟩ := Except.of_bind_eq_ok read
      obtain ⟨others, rest, read⟩ := Except.of_bind_eq_ok read
      cases read
      exact List.forall_mem_cons.2
        ⟨every_of_toJson yields sound.1 first, every_of_itemsToJson yields sound.2 rest⟩

theorem every_of_fieldsToJson (yields : Yields holds fits)
    {fields : List (Spelling × Outline)} {values : List (String × Json)}
    (sound : SoundFields holds fields) (read : fieldsToJson fields = .ok values) :
    ∀ field ∈ values, field.2.Every (Proper fits) := by
  cases fields with
  | nil =>
      cases read
      exact List.forall_mem_nil _
  | cons field fields =>
      obtain ⟨spelling, outline⟩ := field
      obtain ⟨name, -, read⟩ := Except.of_bind_eq_ok read
      obtain ⟨value, first, read⟩ := Except.of_bind_eq_ok read
      obtain ⟨others, rest, read⟩ := Except.of_bind_eq_ok read
      cases read
      exact List.forall_mem_cons.2
        ⟨every_of_toJson yields sound.1 first, every_of_fieldsToJson yields sound.2 rest⟩

end

end Outline

end RadarRelay.Document
