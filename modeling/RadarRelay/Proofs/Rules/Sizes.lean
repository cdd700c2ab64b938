import RadarRelay.Proofs.Activity.Crew
import RadarRelay.Proofs.Rules.AllOrNothing

/-!
# Sizes that stop the program

A configuration gives three sizes: how many handled files a node remembers, how many
files wait in the queue of a publication, and how many workers it has. Each is at least
one, whatever is configured. Nothing is checked at the other end: when everything else
has been built, a size beyond what memory can hold stops the program, and only that does.
-/

namespace RadarRelay

open Activity

variable {Memory State : Type}

theorem RecentFiles.start_crashes_iff (limit : Nat) :
    start limit = .error .crash ↔ greatestLimit < limit := by
  have room : 1 ≤ greatestLimit := by decide
  rw [start]
  split
  · simp only [reduceCtorEq, false_iff]
    omega
  · simp only [true_iff]
    omega

theorem Pool.start_crashes_iff (threads queueSize : Nat) :
    start threads queueSize = .error .crash ↔
      greatestCapacity < queueSize ∨ greatestThreads < threads := by
  have room : 1 ≤ greatestCapacity ∧ 1 ≤ greatestThreads := by decide
  rw [start]
  split
  · simp only [reduceCtorEq, false_iff]
    omega
  · simp only [true_iff]
    omega

theorem Node.start_crashes_iff (around : Surroundings Memory) (config : Config.Node)
    (plugins : Plugins) (state : State) (memory : Memory) :
    ((Node.start config plugins).run around state memory).1 = .error .crash ↔
      (∃ hooks, ((Node.buildHooks config.statistics).run around state memory).1 = .ok hooks) ∧
        RecentFiles.greatestLimit < config.handledFilesLimit := by
  rw [Node.start, run_bind, ← RecentFiles.start_crashes_iff]
  generalize (Node.buildHooks config.statistics).run around state memory = built
  obtain ⟨error | hooks, _, _⟩ := built
  · simp
  · cases RecentFiles.start config.handledFilesLimit with
    | error failure | ok recent => simp

theorem Publication.start_crashes_iff (around : Surroundings Memory) (plan : PublicationPlan)
    (outbound : Outbound) (memory : Memory) :
    ((Publication.start plan).run around outbound memory).1 = .error .crash ↔
      Pool.greatestCapacity < plan.queueSize ∨ Pool.greatestThreads < plan.threads := by
  rw [Publication.start, ← Pool.start_crashes_iff]
  cases Pool.start plan.threads plan.queueSize with
  | error failure => simp
  | ok pool => simp [Activity.run, Activity.atomically]

theorem Plugins.buildPublication_crashes_iff (around : Surroundings Memory) (plugins : Plugins)
    (config : Config.Publication) (outbound : Outbound) (memory : Memory) :
    ((plugins.buildPublication config).run around outbound memory).1 = .error .crash ↔
      (∃ plan, ((plugins.planPublication config).run around outbound memory).1 = .ok plan) ∧
        (Pool.greatestCapacity < config.publisher.queueSize ∨
          Pool.greatestThreads < config.publisher.threads) := by
  have given := (plugins.gives_planPublication config).run around outbound memory
  rw [buildPublication, run_bind]
  generalize (plugins.planPublication config).run around outbound memory = planned at given ⊢
  obtain ⟨error | plan, _, _⟩ := planned
  · simp
  · obtain ⟨_, _, _, _, threads, queueSize⟩ := given plan rfl
    rw [← threads, ← queueSize]
    exact (Publication.start_crashes_iff ..).trans ⟨fun large => ⟨⟨plan, rfl⟩, large⟩, And.right⟩

/-- Sizes stop the program when they are beyond their bounds and everything that is built before
them could be built, and nothing else stops it. -/
theorem start_up_crashes_iff (around : Surroundings Memory) (plugins : Plugins) (memory : Memory) :
    (∀ (config : Config.Node) (state : State),
      ((Node.start config plugins).run around state memory).1 = .error .crash ↔
        (∃ hooks, ((Node.buildHooks config.statistics).run around state memory).1 = .ok hooks) ∧
          RecentFiles.greatestLimit < config.handledFilesLimit) ∧
      ∀ (config : Config.Publication) (outbound : Outbound),
        ((plugins.buildPublication config).run around outbound memory).1 = .error .crash ↔
          (∃ plan, ((plugins.planPublication config).run around outbound memory).1 = .ok plan) ∧
            (Pool.greatestCapacity < config.publisher.queueSize ∨
              Pool.greatestThreads < config.publisher.threads) :=
  ⟨fun config state => Node.start_crashes_iff around config plugins state memory,
    fun config outbound => plugins.buildPublication_crashes_iff around config outbound memory⟩

/-- Each of the sizes can be written in a configuration that is accepted and stops the program. -/
theorem start_up_crashes_of_accepted :
    let around : Surroundings Unit := ⟨fun request _ => (request.granted, ()), fun _ _ => false⟩
    let publication (sizes : String) : String :=
      "\x7bconnection: \x7bclass: 'backup', arguments: \x7bsenders: []\x7d\x7d, " ++
        "extra_arguments: \x7b" ++ sizes ++ "\x7d\x7d"
    (∃ config : Config.Node,
      Config.parse Config.Node.record.codec "\x7bnode_name: 'n', handled_files_limit: 1e30\x7d" =
          .ok config ∧
        ((Node.start config .defaults).run around () ()).1 = .error .crash) ∧
      ∀ sizes ∈ ["queue_size: 1e30", "threads: 1e30"], ∃ config : Config.Publication,
        Config.parse Config.Publication.record.codec (publication sizes) = .ok config ∧
          ((Plugins.defaults.buildPublication config).run around .empty ()).1 = .error .crash := by
  intro around publication
  have crashes {kind Result : Type} {codec : Document.Codec kind} {text : String}
      {outcome : kind → Except Failure Result}
      (stops : (Config.parse codec text).toOption.map
        (fun config => match outcome config with | .error .crash => true | _ => false) =
          some true) :
      ∃ config, Config.parse codec text = .ok config ∧ outcome config = .error .crash := by
    cases read : Config.parse codec text with
    | error failure =>
        rw [read] at stops
        cases stops
    | ok config =>
        rw [read] at stops
        refine ⟨config, rfl, ?_⟩
        have stopped := Option.some.inj stops
        dsimp only at stopped
        split at stopped
        · assumption
        · cases stopped
  refine ⟨crashes (by decide +kernel), fun sizes listed => crashes ?_⟩
  revert sizes
  decide +kernel

end RadarRelay
