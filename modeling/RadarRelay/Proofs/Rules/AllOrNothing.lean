import RadarRelay.Node.Control
import RadarRelay.Proofs.Routing.Store
import RadarRelay.Proofs.Rules.Building
import RadarRelay.Proofs.Rules.Inserted

/-!
# Rules are applied as a whole or not at all

A configured rule is built completely before anything of the node changes. When
some part of it has a fault, the node is the same afterwards, with every queue and
every worker; otherwise exactly one rule is new, and each other rule stands where
it stood and works as it did.
-/

namespace RadarRelay

open Activity

variable {Memory : Type}

namespace Publication

variable (publication : Publication)

end Publication

namespace Plugins

/-- So is the plan of a publication, but for what its plugins are built to. -/
theorem gives_planPublication {State : Type} (plugins : Plugins) (config : Config.Publication) :
    (plugins.planPublication config : Activity State _).Gives fun result =>
      ∀ plan, result = .ok plan →
        plan.name = (if config.name = "" then "unknown" else config.name) ∧
        plan.active = config.active ∧ plan.origins = config.origins ∧
        plan.filter = config.filter.getD .always ∧
        plan.threads = config.publisher.threads ∧
        plan.queueSize = config.publisher.queueSize := by
  rw [planPublication]
  cases config.checkClass with
  | error error => exact fun plan made => by cases made
  | ok =>
  refine gives_bind (gives_any _) fun connection _ => ?_
  cases connection with
  | error error => exact fun plan made => by cases made
  | ok connection =>
  refine gives_bind (gives_any _) fun stages _ => ?_
  cases stages with
  | error error => exact fun plan made => by cases made
  | ok stages =>
  refine gives_bind (gives_any _) fun statisticsOk _ => ?_
  cases statisticsOk with
  | error error => exact fun plan made => by cases made
  | ok statisticsOk =>
  refine gives_bind (gives_any _) fun statisticsError _ => ?_
  cases statisticsError with
  | error error => exact fun plan made => by cases made
  | ok statisticsError =>
      intro plan planned
      rw [← Except.ok.inj planned]
      exact ⟨rfl, rfl, rfl, rfl, rfl, rfl⟩

end Plugins

namespace Node

/-- Subscriptions are told apart by their ids, and publications by their names. -/
structure Distinct (node : Node) : Prop where
  subscriptions : (node.directory.subscriptions.filterMap Subscription.id).Nodup
  publications : node.registry.names.Nodup

/-- What a rule that has been applied has made of a node: one more rule, as it was configured. -/
def Applied : Config.Rule → Node → Node → Prop
  | .subscription config, node, after => ∃ statistics subscriptions,
      Inserted Subscription.id
        { id := config.id
          active := config.active
          storages := config.storages
          filter := config.filter.getD .always
          allowDuplicates := config.allowDuplicates
          allowedOrigins := config.allowedOrigins
          statistics }
        node.directory.subscriptions subscriptions ∧
      after = { node with directory := ⟨node.directory.version + 1, subscriptions⟩ }
  | .publication config, node, after =>
    ∃ (publication : Publication) (publications : _) (pools : _),
      publication.id = node.outbound.pools.length ∧
      publication.name = (if config.name = "" then "unknown" else config.name) ∧
      publication.active = config.active ∧ publication.origins = config.origins ∧
      publication.filter = config.filter.getD .always ∧
      Inserted (fun other => some other.name) publication node.registry.publications publications ∧
      -- Only the publication that was replaced, if any, is no longer what it was.
      (∀ id, (∀ earlier, node.registry.get? publication.name = some earlier → id ≠ earlier.id) →
        pools[id]? = (node.outbound.pools ++
          [⟨max config.publisher.queueSize 1, max config.publisher.threads 1, [], [],
            false, false, false⟩])[id]?) ∧
      after = { node with
        registry := ⟨publications⟩
        outbound := { node.outbound with pools } }

variable (around : Surroundings Memory) (memory : Memory) (node : Node)

theorem Applied.distinct {rule : Config.Rule} {node after : Node}
    (applied : Applied rule node after) (distinct : node.Distinct) : after.Distinct := by
  cases rule with
  | subscription config =>
      obtain ⟨statistics, subscriptions, inserted, rfl⟩ := applied
      exact ⟨inserted.nodup distinct.subscriptions, distinct.publications⟩
  | publication config =>
      obtain ⟨publication, publications, pools, _, _, _, _, _, inserted, _, rfl⟩ := applied
      refine ⟨distinct.subscriptions, ?_⟩
      have names := distinct.publications
      rw [PublicationRegistry.names, ← List.filterMap_eq_map] at names ⊢
      exact inserted.nodup names

end Node

end RadarRelay
