import RadarRelay.Check.Findings
import RadarRelay.Node.Control
import RadarRelay.Proofs.Activity.Crew
import RadarRelay.Proofs.Check.Verdict
import RadarRelay.Proofs.Routing.Store

/-!
# A check finds what a node would refuse

A check and a node read the same file and build the same connections and decorators,
each on its own. With the built-in plugins, which count in memory, a check that
builds finds a fault exactly where the node refuses the file, and the same fault; one
that does not build finds no fault that the node would not find. Evaluating the filter
for a file adds the faults of the evaluation and nothing else.
-/

namespace RadarRelay

open Activity

variable {Memory Remote State : Type}

/-- What a failure says; a crash says nothing. -/
def Failure.message? : Failure → Option String
  | error reason => some reason.message
  | crash => none

/-- Hooks are counters in memory, which can always be made. -/
def Surroundings.CountsInMemory (around : Surroundings Memory) : Prop :=
  ∀ config memory, ∃ hook, (around.answer (.makeHook config) memory).1 = .ok hook

namespace Plugins

variable {around : Surroundings Memory}

theorem run_buildHook (config : Config.Statistics) (state : State) (memory : Memory) :
    (buildHook config).run around state memory =
      ((around.answer (.makeHook config) memory).1, state,
        (around.answer (.makeHook config) memory).2) :=
  rfl

theorem run_attempt_buildHook (counts : around.CountsInMemory) (configs : List Config.Statistics)
    (state : State) (memory : Memory) :
    ∃ hooks, ((attempt buildHook configs).run around state memory).1 = .ok hooks := by
  induction configs generalizing memory with
  | nil => exact ⟨[], rfl⟩
  | cons config configs ih =>
      obtain ⟨hook, made⟩ := counts config memory
      obtain ⟨hooks, others⟩ := ih (around.answer (.makeHook config) memory).2
      refine ⟨hook :: hooks, ?_⟩
      rw [attempt, run_bind, run_buildHook, made]
      dsimp only
      rw [run_bind, others]
      rfl

theorem run_buildHooks (counts : around.CountsInMemory) (config : Option Config.Statistics)
    (state : State) (memory : Memory) :
    ∃ hooks, ((buildHooks config).run around state memory).1 = .ok hooks :=
  run_attempt_buildHook counts config.toList state memory

/-- A plan can be made unless the class, the connection or a decorator has a fault, in this
order. -/
theorem verdict_planPublication (counts : around.CountsInMemory) (plugins : Plugins)
    (config : Config.Publication) {connection stages : Except Error Unit}
    (connects : (plugins.buildConnection config.connection : Activity State _).ComesTo connection)
    (decorates : (plugins.buildStages config.decorators : Activity State _).ComesTo stages)
    (state : State) (memory : Memory) :
    Except.verdict ((plugins.planPublication config).run around state memory).1 =
      config.checkClass >>= fun _ => connection >>= fun _ => stages := by
  rw [planPublication]
  cases config.checkClass with
  | error error => rfl
  | ok =>
  rw [run_bind]
  have connected := connects.run around state memory
  generalize (plugins.buildConnection config.connection).run around state memory = first
    at connected ⊢
  rcases first with ⟨error | built, middle, later⟩
  · rw [← connected]
    rfl
  rw [← connected]
  have decorated := decorates.run around middle later
  dsimp only
  rw [run_bind]
  generalize (plugins.buildStages config.decorators).run around middle later = second
    at decorated ⊢
  rcases second with ⟨error | chain, middle, later⟩
  · rw [← decorated]
    rfl
  rw [← decorated]
  obtain ⟨good, counted⟩ := run_buildHooks counts config.publisher.statisticsOk middle later
  dsimp only
  rw [run_bind, counted]
  generalize (buildHooks config.publisher.statisticsOk).run around middle later = third
  obtain ⟨_, middle, later⟩ := third
  obtain ⟨bad, counted⟩ := run_buildHooks counts config.publisher.statisticsError middle later
  dsimp only
  rw [run_bind, counted]
  rfl

end Plugins

/-- What a rule asks of files; rules without a filter ask nothing. -/
def Config.Rule.filter : Config.Rule → Filter
  | subscription config => config.filter.getD .always
  | publication config => config.filter.getD .always

namespace Node

variable {around : Surroundings Memory} (node : Node) (memory : Memory)

/-- No configuration of a subscription is refused. -/
theorem applySubscription_ne_error (counts : around.CountsInMemory)
    (config : Config.Subscription) (failure : Failure) :
    ((applySubscription config).run around node memory).1 ≠ .error failure := by
  obtain ⟨hooks, made⟩ := Plugins.run_attempt_buildHook counts config.statistics node memory
  rw [applySubscription, run_bind, Plugins.buildSubscription, run_bind, made]
  exact nofun

/-- A publication is refused for the fault that its parts come to. -/
theorem applyPublication_eq_error_iff (counts : around.CountsInMemory)
    (config : Config.Publication) {connection stages : Except Error Unit}
    (connects : (node.plugins.buildConnection config.connection : Activity Outbound _).ComesTo
      connection)
    (decorates : (node.plugins.buildStages config.decorators : Activity Outbound _).ComesTo stages)
    (error : Error) :
    ((applyPublication config).run around node memory).1 = .error (.error error) ↔
      (config.checkClass >>= fun _ => connection >>= fun _ => stages) = .error error := by
  have planned := node.plugins.verdict_planPublication counts config connects decorates
    node.outbound memory
  rw [applyPublication, run_bind, run_look, run_bind, run_onOutbound, Plugins.buildPublication,
    run_bind, ← planned]
  generalize (node.plugins.planPublication config).run around node.outbound memory = made
  rcases made with ⟨fault | plan, outbound, later⟩
  · exact ⟨fun same => by cases same; rfl, fun same => by cases same; rfl⟩
  · refine ⟨fun refused => ?_, nofun⟩
    dsimp only at refused
    cases started : Pool.start plan.threads plan.queueSize with
    | error failure =>
        have crashed : failure = .crash := by
          unfold Pool.start at started
          dsimp only at started
          split at started
          · cases started
          · exact (Except.error.inj started).symm
        rw [Publication.start, started] at refused
        cases crashed
        cases refused
    | ok pool =>
        simp only [Publication.start, started, run_atomically, run_bind] at refused
        cases refused

end Node

namespace Check

variable (around : Surroundings Memory) (state : State) (memory : Memory) (path : String)

/-- Without metadata there is nothing to evaluate. -/
@[simp] theorem fault?_ofFilter_none (filter : Option Filter) : (ofFilter filter none).fault? = none :=
  rfl

/-- With metadata the only fault is that of the evaluation. -/
theorem fault?_ofFilter_some (filter : Option Filter) (metadata : Metadata) :
    (ofFilter filter (some metadata)).fault? =
      ((filter.getD .always).compile.fault? metadata).map evaluationFailure := by
  rw [ofFilter, Expression.fault?]
  cases (filter.getD .always).compile.evaluate metadata with
  | error | ok => rfl

/-- What a check of a publication finds without metadata is what its parts come to. -/
theorem ofPublication_eq_error_iff (plugins : Plugins) (config : Config.Publication)
    {connection stages : Except Error Unit}
    (connects : (plugins.buildConnection config.connection : Activity State _).ComesTo connection)
    (decorates : (plugins.buildStages config.decorators : Activity State _).ComesTo stages)
    (error : Error) :
    ((ofPublication (some plugins) none path config).run around state memory).1.fault? =
        some (.error error) ↔
      (config.checkClass >>= fun _ => connection >>= fun _ => stages) = .error error := by
  have comes : (buildPlugins plugins config : Activity State _).ComesTo
      (connection >>= fun _ => stages) := by
    refine gives_bind connects fun first same => ?_
    rw [← same]
    cases first with
    | error error => exact comesTo_done _
    | ok connection => exact decorates.map _
  have built := comes.run around state memory
  rw [ofPublication]
  cases config.checkClass with
  | error fault => exact ⟨fun same => by cases same; rfl, fun same => by cases same; rfl⟩
  | ok =>
  show _ ↔ (connection >>= fun _ => stages) = .error error
  rw [← built]
  dsimp only
  rw [run_bind]
  generalize (buildPlugins plugins config).run around state memory = made
  rcases made with ⟨fault | line, later⟩
  · exact ⟨fun same => by cases same; rfl, fun same => by cases same; rfl⟩
  · exact ⟨nofun, nofun⟩

/-- Metadata adds the fault of evaluating the filter, when nothing else is wrong with the file. -/
theorem fault?_ofFile (plugins : Option Plugins) (metadata : Metadata) (file : File) :
    ((ofFile plugins (some metadata) path file).run around state memory).1.fault? =
      ((ofFile plugins none path file).run around state memory).1.fault?.or
        (match Config.parseFile Config.Rule.codec file with
          | .ok rule => (rule.filter.compile.fault? metadata).map evaluationFailure
          | .error _ => none) := by
  rw [ofFile, ofFile]
  cases Config.parseFile Config.Rule.codec file with
  | error failure => rfl
  | ok rule =>
  have evaluated (filter : Option Filter) : (ofFilter filter (some metadata)).fault? =
      (ofFilter filter none).fault?.or
        (((filter.getD .always).compile.fault? metadata).map evaluationFailure) :=
    (fault?_ofFilter_some filter metadata).trans Option.none_or.symm
  cases rule with
  | subscription config => exact evaluated config.filter
  | publication config =>
  have evaluated := evaluated config.filter
  dsimp only [Config.Rule.filter]
  rw [ofPublication, ofPublication]
  -- What is found about the filter is not looked into again.
  generalize ofFilter config.filter (some metadata) = asked at evaluated ⊢
  generalize ofFilter config.filter none = unasked at evaluated ⊢
  cases config.checkClass with
  | error error => rfl
  | ok =>
  cases plugins with
  | none => exact evaluated
  | some plugins =>
  dsimp only
  rw [run_bind, run_bind]
  generalize (buildPlugins plugins config).run around state memory = made
  rcases made with ⟨error | line, later⟩
  · rfl
  · exact evaluated

section Node

variable {inside : Surroundings Remote} (counts : inside.CountsInMemory) (node : Node)
  (builtIn : node.plugins = .defaults) (remote : Remote) (file : File)

include counts builtIn

/-- What the built-in plugins find is what a node with them refuses. -/
theorem fault?_ofFile_eq_error_iff (error : Error) :
    ((ofFile (some .defaults) none path file).run around state memory).1.fault? =
        some (.error error) ↔
      ((Node.applyFile file).run inside node remote).1 = .error (.error error) := by
  rw [ofFile, Node.applyFile]
  cases Config.parseFile Config.Rule.codec file with
  | error failure => exact ⟨fun same => by cases same; rfl, fun same => by cases same; rfl⟩
  | ok rule =>
  cases rule with
  | subscription config =>
      exact ⟨nofun, fun refused => absurd refused
        (node.applySubscription_ne_error remote counts config _)⟩
  | publication config =>
      obtain ⟨connection, connects⟩ := Plugins.foregone_buildConnection config.connection
      obtain ⟨stages, decorates⟩ := Plugins.foregone_buildStages config.decorators
      have checked := ofPublication_eq_error_iff around state memory path .defaults config
        (connects State) (decorates State) error
      rw [← builtIn] at connects decorates
      exact checked.trans (node.applyPublication_eq_error_iff remote counts config
        (connects Outbound) (decorates Outbound) error).symm

/-- Nothing is found without plugins where a node accepts the file. -/
theorem fault?_ofFile_of_accepted {replaced : Bool}
    (accepted : ((Node.applyFile file).run inside node remote).1 = .ok replaced) :
    ((ofFile none none path file).run around state memory).1.fault? = none := by
  rw [Node.applyFile] at accepted
  rw [ofFile]
  cases read : Config.parseFile Config.Rule.codec file with
  | error failure =>
      rw [read] at accepted
      cases accepted
  | ok rule =>
  rw [read] at accepted
  cases rule with
  | subscription config => rfl
  | publication config =>
      obtain ⟨connection, connects⟩ := Plugins.foregone_buildConnection config.connection
      obtain ⟨stages, decorates⟩ := Plugins.foregone_buildStages config.decorators
      rw [← builtIn] at connects decorates
      have refused := node.applyPublication_eq_error_iff remote counts config
        (connects Outbound) (decorates Outbound)
      dsimp only
      rw [ofPublication]
      cases checked : config.checkClass with
      | error error =>
          rw [checked] at refused
          have contrary := (refused error).mpr rfl
          exact nomatch contrary.symm.trans accepted
      | ok => rfl

end Node

/-- Whatever surrounds the check and whatever is in the file: a check that builds finds an error
exactly where the node refuses the file, and the same one; a check that does not build finds nothing
in a file that the node accepts; and metadata adds the files for which the filter has no value. -/
theorem found_iff_refused (around : Surroundings Memory) (counts : around.CountsInMemory)
    (node : Node) (builtIn : node.plugins = .defaults) (memory : Memory)
    (elsewhere : Surroundings Remote) (state : State) (remote : Remote) (path : String)
    (file : File) :
    let found (plugins : Option Plugins) (metadata : Option Metadata) : Option Failure :=
      ((ofFile plugins metadata path file).run elsewhere state remote).1.fault?
    let applied := ((Node.applyFile file).run around node memory).1
    (∀ error, found (some .defaults) none = some (.error error) ↔ applied = .error (.error error)) ∧
      (∀ replaced, applied = .ok replaced → found none none = none) ∧
      ∀ plugins metadata error,
        found plugins (some metadata) = some (.error error) ↔
          found plugins none = some (.error error) ∨
            found plugins none = none ∧ ∃ rule fault,
              Config.parseFile Config.Rule.codec file = .ok rule ∧
              rule.filter.compile.evaluate metadata = .error fault ∧
              evaluationFailure fault = .error error := by
  intro found applied
  refine ⟨fault?_ofFile_eq_error_iff elsewhere state remote path counts node builtIn memory file,
    fun replaced =>
      fault?_ofFile_of_accepted elsewhere state remote path counts node builtIn memory file,
    fun plugins metadata error => ?_⟩
  show ((ofFile plugins (some metadata) path file).run elsewhere state remote).1.fault? = _ ↔ _
  rw [fault?_ofFile, Option.or_eq_some_iff]
  refine or_congr_right (and_congr_right fun _ => ?_)
  cases Config.parseFile Config.Rule.codec file with
  | error failure => simp
  | ok rule =>
      cases evaluated : rule.filter.compile.evaluate metadata with
      | error | ok => simp [Expression.fault?, evaluated]

/-- Of two faults in a combined connection, a node and a check find the first one. -/
theorem found_iff_refused_of_unknown_sender :
    let around : Surroundings Unit := ⟨fun request _ => (request.granted, ()), fun _ _ => false⟩
    let node : Node :=
      { config := ⟨"relay", none, 0, none, ⟨none, none, none⟩⟩
        plugins := .defaults
        hooks := ⟨[], [], []⟩
        recent := .empty 0
        directory := .empty
        registry := .empty
        processors := .empty
        outbound := .empty }
    let sender := "\x7bsender: \x7bclass: \"sftp\"\x7d\x7d"
    let connections := "[\x7bclass: \"simple\", arguments: " ++ sender ++ "\x7d, " ++
      "\x7bclass: \"teleport\"\x7d]"
    let file : File := ⟨some ("\x7bpublication: \x7bconnection: \x7bclass: \"combined\", " ++
      "arguments: \x7bconnections: " ++ connections ++ "\x7d\x7d\x7d\x7d")⟩
    around.CountsInMemory ∧ node.plugins = .defaults ∧
      ∃ error : Error,
        error.message = "invalid configuration: no sender registered for 'sftp'" ∧
        ((ofFile (some .defaults) none "to-peers" file).run around () ()).1.fault? =
          some (.error error) ∧
        ((Node.applyFile file).run around node ()).1 = .error (.error error) := by
  intro around node sender connections file
  have counts : around.CountsInMemory := fun config _ => ⟨⟨config.id, 0⟩, rfl⟩
  have shown : ((ofFile (some .defaults) none "to-peers" file).run around () ()).1.fault?.bind
      Failure.message? = some "invalid configuration: no sender registered for 'sftp'" := by
    -- The kernel would be slow at taking the text apart.
    simp only [ofFile, Config.parseFile, Config.parse, Json5.read?, Document.Rules.build, file,
      connections, sender, String.toList_append, String.reduceToList]
    decide +kernel
  obtain ⟨failure, found, said⟩ := Option.bind_eq_some_iff.1 shown
  have refused := (found_iff_refused around counts node rfl () around () () "to-peers" file).1
  cases failure with
  | crash => cases said
  | error error =>
      exact ⟨counts, rfl, error, Option.some.inj said, found, (refused error).mp found⟩

end Check

end RadarRelay
