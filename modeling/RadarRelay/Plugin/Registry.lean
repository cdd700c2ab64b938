import RadarRelay.Config.Reader
import RadarRelay.Publication.Basic
import RadarRelay.Routing.Subscription

/-!
# Plugins

Senders and decorators are built by class. A class is looked for as it is
configured, and then by its last part. One sender and one decorator are built
in; others are built by the surroundings, to which the class and the arguments
are passed on.
-/

namespace RadarRelay

open RadarRelay.Config

/-- Who builds senders or decorators of a class. -/
inductive Builder where
  | builtIn
  | external
  deriving DecidableEq, Repr

/-- The classes that can be built, in ascending order of their names. -/
structure Plugins where
  senders : List (String × Builder)
  decorators : List (String × Builder)
  deriving DecidableEq, Repr

namespace Plugins

def empty : Plugins := ⟨[], []⟩

/-- The class of the built-in sender. -/
def storageClass : String := "storage"

/-- The class of the built-in decorator. -/
def staleFileClass : String := "stale_file_blocker"

/-- The built-in classes. -/
def defaults : Plugins := ⟨[(storageClass, .builtIn)], [(staleFileClass, .builtIn)]⟩

/-- Adds classes that the surroundings build. -/
def withExternal (plugins : Plugins) (senders decorators : List String) : Plugins :=
  let place (name : String) (entries : List (String × Builder)) : List (String × Builder) :=
    let rest := entries.filter (·.1 != name)
    (name, .external) :: rest |>.mergeSort fun left right => left.1 ≤ right.1
  ⟨senders.foldr place plugins.senders, decorators.foldr place plugins.decorators⟩

/-- A registered class and its builder, as configured or by the last part of the name. -/
def find? (entries : List (String × Builder)) (className : String) : Option (String × Builder) :=
  let exactly (name : String) := entries.find? fun entry => entry.1 == name
  (exactly className).or (exactly (shortClass className))

/-- The error of a class that is not registered. -/
def unknown (kind className : String) : Error :=
  .config ("no " ++ kind ++ " registered for '" ++ className ++ "'")

variable {State : Type}

/-- Builds a sender. Without an id it gets one from its class. -/
def buildSender (plugins : Plugins) (config : Config.Sender) :
    Activity State (Except Error Sender) := do
  match find? plugins.senders config.className with
  | none => return .error (unknown "sender" config.className)
  | some (className, builder) =>
      let id ← match config.id with
        | some id => pure id
        | none => do
            let fresh : String ← Activity.request .freshId
            pure (config.className ++ "-" ++ fresh)
      match builder with
      | .external => Activity.request (.makeSender className id config.arguments)
      | .builtIn =>
          let names := decodeArguments storageNames.codec className config.arguments
          return names.map (Sender.storage id)

/-- The kinds of connections. -/
inductive Kind where
  | simple
  | failover
  | backup
  | distributed
  | combined
  deriving DecidableEq, Repr

/-- The name of a class without an ending. -/
def withoutEnding (ending name : String) : String :=
  let letters := name.toList
  if ending.toList.isSuffixOf letters then
    String.ofList (letters.take (letters.length - ending.length))
  else name

/-- The kind of connection that a class denotes. -/
def kind? (className : String) : Option Kind :=
  match withoutEnding "_connection" (shortClass className) with
  | "simple" => some .simple
  | "failover" => some .failover
  | "backup" => some .backup
  | "distributed" => some .distributed
  | "combined" => some .combined
  | _ => none

/-- Builds the senders of a connection. -/
def buildSenders (plugins : Plugins) (config : Config.Connection) :
    Activity State (Except Error (List Sender)) := do
  match decodeArguments severalSenders.codec config.className config.arguments with
  | .error error => return .error error
  | .ok senders => Activity.attempt plugins.buildSender senders

/-- The error of a class that denotes no kind of connection. -/
def unknownConnection (className : String) : Error :=
  .config ("unknown connection class '" ++ className ++ "'")

/-- Builds a connection; `nested` builds what it combines. -/
def buildWith (plugins : Plugins)
    (nested : List Config.Connection → Activity State (Except Error (List Connection)))
    (config : Config.Connection) : Activity State (Except Error Connection) := do
  match kind? config.className with
  | some .simple =>
      match decodeArguments oneSender.codec config.className config.arguments with
      | .error error => return .error error
      | .ok sender => return (← plugins.buildSender sender).map .simple
  | some .failover => return (← plugins.buildSenders config).map .failover
  | some .backup => return (← plugins.buildSenders config).map .backup
  | some .distributed => return (← plugins.buildSenders config).map .distributed
  | some .combined =>
      match decodeArguments nestedConnections.codec config.className config.arguments with
      | .error error => return .error error
      | .ok connections => return (← nested connections).map .combined
  | none => return .error (unknownConnection config.className)

/-- Builds a connection that is nested at most `depth` times. Nested connections are built before
the next one is looked at. -/
def buildNested (plugins : Plugins) :
    Nat → Config.Connection → Activity State (Except Error Connection)
  | 0, config =>
      plugins.buildWith (fun _ => return .error (unknownConnection config.className)) config
  | depth + 1, config => plugins.buildWith (Activity.attempt (plugins.buildNested depth)) config

theorem buildNested_zero (plugins : Plugins) (config : Config.Connection) :
    (plugins.buildNested 0 config : Activity State (Except Error Connection)) =
      plugins.buildWith (fun _ => return .error (unknownConnection config.className)) config := by
  unfold buildNested
  rfl

theorem buildNested_succ (plugins : Plugins) (depth : Nat) (config : Config.Connection) :
    (plugins.buildNested (depth + 1) config : Activity State (Except Error Connection)) =
      plugins.buildWith (Activity.attempt (plugins.buildNested depth)) config := by
  unfold buildNested
  rfl

/-- Builds a connection. What is nested in it stands in its arguments, so that their depth bounds
the nesting. -/
def buildConnection (plugins : Plugins) (config : Config.Connection) :
    Activity State (Except Error Connection) :=
  plugins.buildNested config.arguments.depth config

/-- The decorator that blocks files older than a number of minutes. -/
def staleFileBlocker (minutes : Int) : Except Error Decorator :=
  match Calendar.Interval.ofMinutes? minutes with
  | some age =>
      if 0 ≤ age.nanoseconds then .ok (.staleFileBlocker age) else .error outOfRange
  | none => .error outOfRange
where
  /-- The error of an age that is negative or too long. -/
  outOfRange : Error :=
    .config (staleFileClass ++ ": max_age_minutes out of range: " ++ Number.intText minutes)

/-- Builds one place in a chain of decorators. -/
def buildStage (plugins : Plugins) (config : Config.Decorator) :
    Activity State (Except Error Stage) := do
  match find? plugins.decorators config.name with
  | none => return .error (unknown "decorator" config.name)
  | some (className, builder) =>
      let built : Except Error Decorator ← match builder with
        | .external => Activity.request (.makeDecorator className config.arguments)
        | .builtIn =>
            pure do
              staleFileBlocker (← decodeArguments greatestAge.codec className config.arguments)
      return built.map fun decorator => ⟨decorator, config.allowDiscard⟩

/-- Builds a chain of decorators. -/
def buildStages (plugins : Plugins) (configs : List Config.Decorator) :
    Activity State (Except Error (List Stage)) :=
  Activity.attempt plugins.buildStage configs

/-- Builds a hook. -/
def buildHook (config : Config.Statistics) : Activity State (Except Error Hook) :=
  Activity.request (.makeHook config)

/-- Builds the hooks of an optional configuration. -/
def buildHooks (config : Option Config.Statistics) : Activity State (Except Error (List Hook)) :=
  Activity.attempt buildHook config.toList

/-- Builds a subscription. -/
def buildSubscription (config : Config.Subscription) :
    Activity State (Except Error Subscription) := do
  let hooks ← Activity.attempt buildHook config.statistics
  return hooks.map fun statistics =>
    { id := config.id
      active := config.active
      storages := config.storages
      filter := config.filter.getD .always
      allowDuplicates := config.allowDuplicates
      allowedOrigins := config.allowedOrigins
      statistics }

/-- Builds what a publication is started from; the first fault ends it. -/
def planPublication (plugins : Plugins) (config : Config.Publication) :
    Activity State (Except Error PublicationPlan) := do
  match config.checkClass with
  | .error error => return .error error
  | .ok () =>
  match ← plugins.buildConnection config.connection with
  | .error error => return .error error
  | .ok connection =>
  match ← plugins.buildStages config.decorators with
  | .error error => return .error error
  | .ok stages =>
  match ← buildHooks config.publisher.statisticsOk with
  | .error error => return .error error
  | .ok statisticsOk =>
  match ← buildHooks config.publisher.statisticsError with
  | .error error => return .error error
  | .ok statisticsError =>
      return .ok
        { PublicationPlan.new config.name connection with
          active := config.active
          origins := config.origins
          filter := config.filter.getD .always
          stages
          threads := config.publisher.threads
          queueSize := config.publisher.queueSize
          statisticsOk
          statisticsError }

/-- Builds and starts a publication. -/
def buildPublication (plugins : Plugins) (config : Config.Publication) :
    Activity Outbound (Except Failure Publication) := do
  match ← plugins.planPublication config with
  | .error error => return .error (.error error)
  | .ok plan => Publication.start plan

end Plugins

end RadarRelay
