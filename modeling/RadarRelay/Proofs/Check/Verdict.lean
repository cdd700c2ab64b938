import Mathlib.Tactic.Choose
import RadarRelay.Plugin.Registry
import RadarRelay.Proofs.Activity.Keeping

/-!
# What building comes to

Building asks for ids, so what is built differs from time to time. Whether there is
a result at all, and which error there is instead, may still be a foregone
conclusion: the same in every state and whatever is answered. With the built-in
plugins it is one for senders, connections and decorators, so that two builders who
know nothing of each other find the same first fault.
-/

namespace RadarRelay

variable {State First Second Item Result : Type}

/-- Whether there is a result, and the error otherwise. -/
def Except.verdict (result : Except Error Result) : Except Error Unit :=
  result.map fun _ => ()

/-- What is made of a result does not matter. -/
@[simp] theorem Except.verdict_map (make : First → Second) (result : Except Error First) :
    Except.verdict (result.map make) = Except.verdict result := by
  cases result with
  | error | ok => rfl

namespace Activity

/-- Whatever is answered, the activity ends with this verdict. -/
def ComesTo (verdict : Except Error Unit) (activity : Activity State (Except Error Result)) :
    Prop :=
  activity.Gives fun result => Except.verdict result = verdict

theorem comesTo_done (result : Except Error Result) :
    (done result : Activity State (Except Error Result)).ComesTo (Except.verdict result) :=
  rfl

theorem ComesTo.map {verdict : Except Error Unit} {activity : Activity State (Except Error First)}
    (comes : activity.ComesTo verdict) (make : First → Second) :
    (do return (← activity).map make : Activity State (Except Error Second)).ComesTo verdict := by
  refine gives_bind comes fun result same => ?_
  rw [← same]
  exact Except.verdict_map make result

/-- An error ends a sequence; otherwise what follows decides. -/
theorem ComesTo.andThen {first second : Except Error Unit}
    {activity : Activity State (Except Error First)}
    {next : First → Activity State (Except Error Second)}
    (comes : activity.ComesTo first) (comesNext : ∀ result, (next result).ComesTo second) :
    (do
      match ← activity with
      | .error error => return .error error
      | .ok result => next result : Activity State (Except Error Second)).ComesTo
        (first >>= fun _ => second) := by
  refine gives_bind comes fun result same => ?_
  rw [← same]
  cases result with
  | error error => exact comesTo_done _
  | ok result => exact comesNext result

/-- The first item with an error decides about a list. -/
theorem comesTo_attempt {action : Item → Activity State (Except Error Result)}
    {verdict : Item → Except Error Unit} (comes : ∀ item, (action item).ComesTo (verdict item))
    (items : List Item) : (attempt action items).ComesTo (forM items verdict) := by
  induction items with
  | nil => exact comesTo_done _
  | cons item items ih =>
      rw [attempt, List.forM_cons]
      refine (comes item).andThen fun result => gives_bind ih fun results same => ?_
      rw [← same]
      cases results with
      | error | ok => rfl

/-- The verdict is the same in every state. -/
def Foregone (build : (State : Type) → Activity State (Except Error Result)) : Prop :=
  ∃ verdict, ∀ State, (build State).ComesTo verdict

theorem foregone_done (result : Except Error Result) : Foregone fun _ => done result :=
  ⟨Except.verdict result, fun _ => comesTo_done result⟩

theorem Foregone.map {build : (State : Type) → Activity State (Except Error First)}
    (foregone : Foregone build) (make : First → Second) :
    Foregone fun State => do return (← build State).map make := by
  obtain ⟨verdict, comes⟩ := foregone
  exact ⟨verdict, fun State => (comes State).map make⟩

theorem foregone_attempt {action : (State : Type) → Item → Activity State (Except Error Result)}
    (foregone : ∀ item, Foregone fun State => action State item) (items : List Item) :
    Foregone fun State => attempt (action State) items := by
  choose verdict comes using foregone
  exact ⟨forM items verdict, fun State => comesTo_attempt (fun item => comes item State) items⟩

end Activity

namespace Plugins

open Activity

-- Which kind a class denotes is never computed here.
attribute [local irreducible] kind?

/-- Nothing but what is built in is found among the built-in plugins. -/
theorem builtIn_of_find? {name className found : String} {builder : Builder}
    (known : find? [(name, .builtIn)] className = some (found, builder)) :
    builder = .builtIn := by
  have listed : (found, builder) ∈ [(name, Builder.builtIn)] := by
    rcases Option.or_eq_some_iff.mp known with exactly | ⟨_, exactly⟩
    · exact List.mem_of_find?_eq_some exactly
    · exact List.mem_of_find?_eq_some exactly
  exact (Prod.mk.inj (List.mem_singleton.mp listed)).2

/-- The built-in sender asks for an id at most. -/
theorem foregone_buildSender (config : Config.Sender) :
    Foregone fun State => (defaults.buildSender config : Activity State _) := by
  unfold buildSender
  cases known : find? defaults.senders config.className with
  | none => exact foregone_done _
  | some entry =>
      obtain ⟨className, builder⟩ := entry
      obtain rfl := builtIn_of_find? known
      cases config.id with
      | some id => exact foregone_done _
      | none =>
          -- Which id is answered does not decide whether the arguments can be read.
          exact ⟨_, fun State fresh => Except.verdict_map _ _⟩

theorem foregone_buildSenders (config : Config.Connection) :
    Foregone fun State => (defaults.buildSenders config : Activity State _) := by
  unfold buildSenders
  cases Config.decodeArguments Config.severalSenders.codec config.className config.arguments with
  | error error => exact foregone_done _
  | ok senders => exact foregone_attempt foregone_buildSender senders

/-- Whatever kind of connection it is. -/
theorem foregone_buildWith
    {nested : (State : Type) → List Config.Connection →
      Activity State (Except Error (List Connection))}
    (foregone : ∀ connections, Foregone fun State => nested State connections)
    (config : Config.Connection) :
    Foregone fun State => defaults.buildWith (nested State) config := by
  unfold buildWith
  cases kind? config.className with
  | none => exact foregone_done _
  | some kind =>
      cases kind with
      | simple =>
          cases Config.decodeArguments Config.oneSender.codec config.className config.arguments with
          | error error => exact foregone_done _
          | ok sender => exact (foregone_buildSender sender).map _
      | failover | backup | distributed => exact (foregone_buildSenders config).map _
      | combined =>
          cases Config.decodeArguments Config.nestedConnections.codec config.className
              config.arguments with
          | error error => exact foregone_done _
          | ok connections => exact (foregone connections).map _

/-- However deep connections are nested. -/
theorem foregone_buildNested (depth : Nat) (config : Config.Connection) :
    Foregone fun State => (defaults.buildNested depth config : Activity State _) := by
  induction depth generalizing config with
  | zero =>
      simp only [buildNested_zero]
      exact foregone_buildWith (fun _ => foregone_done _) config
  | succ depth ih =>
      simp only [buildNested_succ]
      exact foregone_buildWith (foregone_attempt ih) config

theorem foregone_buildConnection (config : Config.Connection) :
    Foregone fun State => (defaults.buildConnection config : Activity State _) :=
  foregone_buildNested _ config

theorem foregone_buildStages (configs : List Config.Decorator) :
    Foregone fun State => (defaults.buildStages configs : Activity State _) := by
  refine foregone_attempt (fun config => ?_) configs
  unfold buildStage
  cases known : find? defaults.decorators config.name with
  | none => exact foregone_done _
  | some entry =>
      obtain ⟨className, builder⟩ := entry
      obtain rfl := builtIn_of_find? known
      exact foregone_done _

end Plugins

end RadarRelay
