import RadarRelay.Plugin.Registry
import RadarRelay.Proofs.Config.Nesting

/-!
# What a connection is configured to hold

A connection and everything inside of it are the parts of its configuration. The
class of a connection says of which kind it is, and the kind says what its
arguments hold: one sender, several senders, or connections. In reading order a
connection comes before its contents, and these come as they are written. Where
the class or the arguments of a connection cannot be read, it has no contents.
-/

namespace RadarRelay.Plugins

open RadarRelay.Config

/-! ## Classes -/

namespace Kind

def name : Kind → String
  | simple => "simple"
  | failover => "failover"
  | backup => "backup"
  | distributed => "distributed"
  | combined => "combined"

/-- Whether a class denotes a kind: its last part is the name of the kind, which may have an
ending. -/
def Names (kind : Kind) (className : String) : Prop :=
  shortClass className = kind.name ∨ shortClass className = kind.name ++ "_connection"

end Kind

theorem withoutEnding_eq_iff {ending name rest : String}
    (bare : ¬ ending.toList <:+ rest.toList) :
    withoutEnding ending name = rest ↔ name = rest ∨ name = rest ++ ending := by
  simp only [withoutEnding]
  split
  · rename_i ends
    obtain ⟨front, letters⟩ := List.isSuffixOf_iff_suffix.1 ends
    have dropped : name.toList.take (name.toList.length - ending.length) = front := by
      rw [← letters, List.length_append, String.length_toList, Nat.add_sub_cancel, List.take_left]
    have bareName : name ≠ rest := by
      rintro rfl
      exact bare ⟨front, letters⟩
    have ended : name = rest ++ ending ↔ front = rest.toList := by
      rw [← String.toList_inj, ← letters, String.toList_append, List.append_left_inj]
    rw [dropped, ended, ← String.toList_inj, String.toList_ofList]
    simp only [bareName, false_or]
  · rename_i ends
    have unended : name ≠ rest ++ ending := by
      rintro rfl
      refine ends (List.isSuffixOf_iff_suffix.2 ⟨rest.toList, ?_⟩)
      rw [String.toList_append]
    simp only [unended, or_false]

theorem kind?_eq_some_iff {className : String} {kind : Kind} :
    kind? className = some kind ↔ kind.Names className := by
  have bare : ¬ "_connection".toList <:+ kind.name.toList := by cases kind <;> decide
  rw [Kind.Names, ← withoutEnding_eq_iff bare]
  unfold kind?
  split
  case h_6 simple failover backup distributed combined =>
    cases kind with
    | simple => exact ⟨nofun, fun same => (simple same).elim⟩
    | failover => exact ⟨nofun, fun same => (failover same).elim⟩
    | backup => exact ⟨nofun, fun same => (backup same).elim⟩
    | distributed => exact ⟨nofun, fun same => (distributed same).elim⟩
    | combined => exact ⟨nofun, fun same => (combined same).elim⟩
  all_goals
    rename_i same
    rw [same]
    cases kind <;> simp [Kind.name]

/-- A class denotes one kind at most. -/
theorem Kind.Names.unique {className : String} {kind other : Kind} (names : kind.Names className)
    (others : other.Names className) : kind = other :=
  Option.some.inj ((kind?_eq_some_iff.2 names).symm.trans (kind?_eq_some_iff.2 others))

theorem kind?_eq_none_iff {className : String} :
    kind? className = none ↔ ∀ kind : Kind, ¬ kind.Names className := by
  simp only [← kind?_eq_some_iff, Option.eq_none_iff_forall_ne_some, ne_eq]

/-- Whether a class is registered, with the name of the registration and its builder: as it is
given, or else by its last part. -/
def Registered (entries : List (String × Builder)) (className : String)
    (entry : String × Builder) : Prop :=
  entries.find? (fun entry => entry.1 == className) = some entry ∨
    (∀ other ∈ entries, other.1 ≠ className) ∧
      entries.find? (fun entry => entry.1 == shortClass className) = some entry

theorem find?_eq_some_iff {entries : List (String × Builder)} {className : String}
    {entry : String × Builder} :
    find? entries className = some entry ↔ Registered entries className entry := by
  simp only [find?, Option.or_eq_some_iff, Registered, List.find?_eq_none, beq_iff_eq, ne_eq]

/-! ## Parts -/

-- Which kind a class denotes is never computed from here on.
attribute [local irreducible] kind?

/-- A part of the configuration of a connection. -/
inductive Part where
  | connection (config : Config.Connection)
  | sender (config : Config.Sender)

/-- What the arguments of a connection of some kind hold. -/
def Kind.contents (kind : Kind) (config : Config.Connection) : Except Error (List Part) :=
  match kind with
  | simple =>
      (decodeArguments oneSender.codec config.className config.arguments).map
        fun sender => [.sender sender]
  | failover | backup | distributed =>
      (decodeArguments severalSenders.codec config.className config.arguments).map
        (List.map .sender)
  | combined =>
      (decodeArguments nestedConnections.codec config.className config.arguments).map
        (List.map .connection)

namespace Part

/-- What a part holds, one level deep. -/
def children : Part → List Part
  | sender _ => []
  | connection config =>
      match kind? config.className with
      | some kind => (kind.contents config).toOption.getD []
      | none => []

/-- Bounds how deep parts are nested in a part. -/
def depth : Part → Nat
  | sender _ => 0
  | connection config => config.arguments.depth + 1

theorem depth_le_of_mem_contents {kind : Kind} {config : Config.Connection} {parts : List Part}
    (read : kind.contents config = .ok parts) {child : Part} (member : child ∈ parts) :
    child.depth ≤ config.arguments.depth := by
  cases kind with
  | simple =>
      obtain ⟨sender, -, rfl⟩ := Except.of_map_eq_ok read
      rw [List.mem_singleton.1 member]
      exact Nat.zero_le _
  | failover | backup | distributed =>
      obtain ⟨senders, -, rfl⟩ := Except.of_map_eq_ok read
      obtain ⟨sender, -, rfl⟩ := List.mem_map.1 member
      exact Nat.zero_le _
  | combined =>
      obtain ⟨connections, decoded, rfl⟩ := Except.of_map_eq_ok read
      obtain ⟨nested, inside, rfl⟩ := List.mem_map.1 member
      exact (depth_lt_of_decodeArguments decoded).2 nested inside

theorem children_eq {kind : Kind} {config : Config.Connection} {parts : List Part}
    (names : kind.Names config.className) (read : kind.contents config = .ok parts) :
    (connection config).children = parts := by
  simp only [children, kind?_eq_some_iff.2 names, read]
  rfl

theorem depth_lt_of_mem_children {part child : Part} (member : child ∈ part.children) :
    child.depth < part.depth := by
  cases part with
  | sender => cases member
  | connection config =>
      rw [children] at member
      split at member
      · rename_i kind _
        cases read : kind.contents config with
        | error error =>
            rw [read] at member
            cases member
        | ok parts =>
            rw [read] at member
            exact Nat.lt_succ_of_le (depth_le_of_mem_contents read member)
      · cases member

/-- A part and everything inside of it, in reading order. -/
def inOrder (part : Part) : List Part :=
  part :: part.children.attach.flatMap fun child => child.1.inOrder
termination_by part.depth
decreasing_by exact depth_lt_of_mem_children child.2

theorem inOrder_eq (part : Part) : part.inOrder = part :: part.children.flatMap inOrder := by
  rw [inOrder]
  simp

end Part

end RadarRelay.Plugins
