import RadarRelay.Plugin.Registry
import RadarRelay.Processor.Registry
import RadarRelay.Publication.Registry
import RadarRelay.Routing.Directory
import RadarRelay.Routing.RecentFiles

/-!
# Nodes

The state of a node: what it was configured with, what it remembers, its routing
rules, and its collaborators. Each part is changed by activities of its own,
which become activities of the node.
-/

namespace RadarRelay

/-- The hooks of a node. -/
structure NodeHooks where
  /-- Of every accepted file. -/
  incoming : List Hook
  /-- Of every file that was seen before. -/
  duplicates : List Hook
  /-- Of every completed dispatch. -/
  fileHandling : List Hook
  deriving DecidableEq, Repr

structure Node where
  config : Config.Node
  plugins : Plugins
  hooks : NodeHooks
  recent : RecentFiles
  directory : Directory
  registry : PublicationRegistry
  processors : ProcessorRegistry
  outbound : Outbound

namespace Node

variable {State Result : Type}

/-- Builds the hooks of a node. -/
def buildHooks (config : Config.NodeStatistics) : Activity State (Except Error NodeHooks) := do
  match ← Plugins.buildHooks config.incoming with
  | .error error => return .error error
  | .ok incoming =>
  match ← Plugins.buildHooks config.duplicates with
  | .error error => return .error error
  | .ok duplicates =>
  match ← Plugins.buildHooks config.fileHandling with
  | .error error => return .error error
  | .ok fileHandling => return .ok ⟨incoming, duplicates, fileHandling⟩

/-- Makes a node without routing rules. -/
def start (config : Config.Node) (plugins : Plugins) : Activity State (Except Failure Node) := do
  match ← buildHooks config.statistics with
  | .error error => return .error (.error error)
  | .ok hooks =>
      match RecentFiles.start config.handledFilesLimit with
      | .error failure => return .error failure
      | .ok recent =>
          return .ok
            { config
              plugins
              hooks
              recent
              directory := .empty
              registry := .empty
              processors := .empty
              outbound := .empty }

/-- An activity over the directory alone. -/
def onDirectory (activity : Activity Directory Result) : Activity Node Result :=
  activity.within Node.directory fun node directory => { node with directory }

/-- An activity over the processors alone. -/
def onProcessors (activity : Activity ProcessorRegistry Result) : Activity Node Result :=
  activity.within Node.processors fun node processors => { node with processors }

/-- An activity over the outbound state alone. -/
def onOutbound (activity : Activity Outbound Result) : Activity Node Result :=
  activity.within Node.outbound fun node outbound => { node with outbound }

/-- An activity over the storages alone. -/
def onStorages (activity : Activity StorageRegistry Result) : Activity Node Result :=
  onOutbound (Outbound.onStorages activity)

/-- Changes the registered publications at once. -/
def onRegistry (action : PublicationRegistry → Result × PublicationRegistry) :
    Activity Node Result :=
  Activity.atomically fun node =>
    let (result, registry) := action node.registry
    (result, { node with registry })

/-- Remembers a file at once, and says whether it was new. -/
def remember (fingerprint : String) : Activity Node Bool :=
  Activity.atomically fun node =>
    let (new, recent) := node.recent.add fingerprint
    (new, { node with recent })

end Node

end RadarRelay
