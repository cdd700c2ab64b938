import RadarRelay.Plugin.Registry
import RadarRelay.Proofs.Activity.Keeping

/-!
# Building leaves no trace

Senders, connections, decorators and hooks are built by asking for them only.
Whatever is asked for while a rule is being built, and wherever a fault ends it,
the state stays as it was.
-/

namespace RadarRelay

open Activity

/-- The publication that is started from a plan. -/
def PublicationPlan.opened (plan : PublicationPlan) (id capacity : Nat) : Publication where
  id
  name := plan.name
  active := plan.active
  origins := plan.origins
  filter := plan.filter
  stages := plan.stages
  connection := plan.connection
  capacity
  statisticsOk := plan.statisticsOk
  statisticsError := plan.statisticsError

namespace Plugins

-- Which kind a class denotes is never computed here.
attribute [local irreducible] kind?

variable {State View : Type} {view : State → View} (plugins : Plugins)

theorem keeps_buildSender (config : Config.Sender) : (plugins.buildSender config).Keeps view := by
  rw [buildSender]
  cases find? plugins.senders config.className with
  | none => exact trivial
  | some entry =>
      obtain ⟨className, builder⟩ := entry
      cases config.id with
      | some id =>
          cases builder with
          | external => exact keeps_request _
          | builtIn => exact trivial
      | none =>
          apply keeps_bind (keeps_request _)
          intro fresh
          cases builder with
          | external => exact keeps_request _
          | builtIn => exact trivial

theorem keeps_buildSenders (config : Config.Connection) :
    (plugins.buildSenders config).Keeps view := by
  rw [buildSenders]
  cases Config.decodeArguments Config.severalSenders.codec config.className config.arguments with
  | error error => exact trivial
  | ok senders => exact keeps_attempt plugins.keeps_buildSender senders

/-- Whatever kind of connection it is. -/
theorem keeps_buildWith
    {nested : List Config.Connection → Activity State (Except Error (List Connection))}
    (kept : ∀ connections, (nested connections).Keeps view) (config : Config.Connection) :
    (plugins.buildWith nested config).Keeps view := by
  unfold buildWith
  cases kind? config.className with
  | none => exact trivial
  | some kind =>
      cases kind with
      | simple =>
          cases Config.decodeArguments Config.oneSender.codec config.className config.arguments with
          | error error => exact trivial
          | ok sender => exact keeps_bind (plugins.keeps_buildSender sender) fun _ => trivial
      | failover | backup | distributed =>
          exact keeps_bind (plugins.keeps_buildSenders config) fun _ => trivial
      | combined =>
          cases Config.decodeArguments Config.nestedConnections.codec config.className
              config.arguments with
          | error error => exact trivial
          | ok connections => exact keeps_bind (kept connections) fun _ => trivial

/-- However deep connections are nested. -/
theorem keeps_buildNested (depth : Nat) (config : Config.Connection) :
    (plugins.buildNested depth config).Keeps view := by
  induction depth generalizing config with
  | zero =>
      rw [buildNested_zero]
      have refused (connections : List Config.Connection) :
          (return .error (unknownConnection config.className) :
            Activity State (Except Error (List Connection))).Keeps view := trivial
      exact plugins.keeps_buildWith refused config
  | succ depth ih =>
      rw [buildNested_succ]
      exact plugins.keeps_buildWith (keeps_attempt ih) config

theorem keeps_buildStages (configs : List Config.Decorator) :
    (plugins.buildStages configs).Keeps view := by
  rw [buildStages]
  refine keeps_attempt (fun config => ?_) configs
  rw [buildStage]
  cases find? plugins.decorators config.name with
  | none => exact trivial
  | some entry =>
      obtain ⟨className, builder⟩ := entry
      cases builder with
      | external => exact keeps_bind (keeps_request _) fun _ => trivial
      | builtIn => exact trivial

theorem keeps_buildHooks (config : Option Config.Statistics) :
    (buildHooks config : Activity State (Except Error (List Hook))).Keeps view :=
  keeps_attempt (fun _ => keeps_request _) _

theorem keeps_buildSubscription (config : Config.Subscription) :
    (buildSubscription config : Activity State (Except Error Subscription)).Keeps view :=
  keeps_bind (keeps_attempt (fun _ => keeps_request _) _) fun _ => trivial

/-- Whichever part of a publication has a fault. -/
theorem keeps_planPublication (config : Config.Publication) :
    (plugins.planPublication config).Keeps view := by
  rw [planPublication]
  cases config.checkClass with
  | error error => exact trivial
  | ok =>
  refine keeps_bind (plugins.keeps_buildNested _ config.connection) fun connection => ?_
  cases connection with
  | error error => exact trivial
  | ok connection =>
  refine keeps_bind (plugins.keeps_buildStages config.decorators) fun stages => ?_
  cases stages with
  | error error => exact trivial
  | ok stages =>
  refine keeps_bind (keeps_buildHooks config.publisher.statisticsOk) fun statisticsOk => ?_
  cases statisticsOk with
  | error error => exact trivial
  | ok statisticsOk =>
  refine keeps_bind (keeps_buildHooks config.publisher.statisticsError) fun statisticsError => ?_
  cases statisticsError with
  | error | ok => exact trivial

end Plugins

end RadarRelay
