import RadarRelay.Node.Basic
import RadarRelay.Publication.Delivering

/-!
# Changing the rules of a node

Rules are added and removed while files are dispatched. A rule that replaces
another takes its place; a publication that leaves the registry is stopped after
it has been replaced. A rule whose configuration has a fault changes nothing.
-/

namespace RadarRelay.Node

/-- Adds a subscription; says whether it replaced one. -/
def addSubscription (subscription : Subscription) : Activity Node Bool :=
  onDirectory (Directory.register subscription)

/-- Removes the subscription of an id; says whether there was one. -/
def removeSubscription (id : String) : Activity Node Bool :=
  onDirectory (Directory.unregister id)

/-- Registers a publication that has been started and stops the one that it replaces, if any. -/
def addPublication (publication : Publication) : Activity Node Bool := do
  let replaced ← onRegistry fun registry => registry.insert publication
  Activity.note (if replaced.isSome then "publication_replace" else "publication_add")
    "publication_registry"
    [ ("publication", publication.name),
      ("connection", publication.connection.kind),
      ("active", Event.boolText publication.active) ]
  match replaced with
  | some earlier =>
      onOutbound earlier.stop
      return true
  | none => return false

/-- Removes the publication of a name and stops it; says whether there was one. -/
def removePublication (name : String) : Activity Node Bool := do
  let removed ← onRegistry fun registry => registry.remove name
  Activity.note "publication_remove" "publication_registry"
    [("publication", name), ("removed", Event.boolText removed.isSome)]
  match removed with
  | some publication =>
      onOutbound publication.stop
      return true
  | none => return false

/-- Builds a subscription and adds it. -/
def applySubscription (config : Config.Subscription) : Activity Node (Except Failure Bool) := do
  match ← Plugins.buildSubscription config with
  | .error error => return .error (.error error)
  | .ok subscription => return .ok (← addSubscription subscription)

/-- Builds a publication and adds it. -/
def applyPublication (config : Config.Publication) : Activity Node (Except Failure Bool) := do
  let node ← Activity.look
  match ← onOutbound (node.plugins.buildPublication config) with
  | .error failure => return .error failure
  | .ok publication => return .ok (← addPublication publication)

/-- Applies one rule; says whether it replaced one. -/
def apply : Config.Rule → Activity Node (Except Failure Bool)
  | .subscription config => applySubscription config
  | .publication config => applyPublication config

/-- Applies a rule that may have failed to be read. -/
def applyRead : Except Failure Config.Rule → Activity Node (Except Failure Bool)
  | .ok rule => apply rule
  | .error failure => return .error failure

/-- Applies the rule in a configuration text. -/
def applyText (text : String) : Activity Node (Except Failure Bool) :=
  applyRead (Config.parse Config.Rule.codec text)

/-- Applies the rule in a configuration file. -/
def applyFile (file : File) : Activity Node (Except Failure Bool) :=
  applyRead (Config.parseFile Config.Rule.codec file)

/-- Stops every publication and processor. -/
def shutdown : Activity Node Unit := do
  let node ← Activity.look
  Activity.note "node_shutdown" "exchange_node"
    [ ("node", node.config.name),
      ("publications", Number.natText node.registry.publications.length) ]
  let publications ← onRegistry PublicationRegistry.drain
  Activity.each (fun publication => onOutbound publication.stop) publications
  onProcessors ProcessorRegistry.stopAll

end RadarRelay.Node
