import RadarRelay.Activity

/-!
# Processors by name

Processors are kept in ascending order of their names and run in that order. A
processor that leaves the registry, whether replaced, removed or at the end, is
told to stop.
-/

namespace RadarRelay

/-- Processors in ascending order of their names, which are distinct. -/
structure ProcessorRegistry where
  processors : List Processor
  deriving DecidableEq, Repr

namespace ProcessorRegistry

def empty : ProcessorRegistry := ⟨[]⟩

/-- The processor of a name. -/
def get? (registry : ProcessorRegistry) (name : String) : Option Processor :=
  registry.processors.find? fun processor => processor.name == name

/-- Puts a processor in its place, over an earlier one of the same name. -/
def place (processor : Processor) : List Processor → List Processor
  | [] => [processor]
  | other :: rest =>
      if processor.name = other.name then processor :: rest
      else if processor.name < other.name then processor :: other :: rest
      else other :: place processor rest

def names (registry : ProcessorRegistry) : List String :=
  registry.processors.map (·.name)

/-- Adds a processor; one that had its name is stopped. -/
def add (processor : Processor) : Activity ProcessorRegistry Unit := do
  let replaced ← Activity.atomically fun registry =>
    (registry.get? processor.name, ⟨place processor registry.processors⟩)
  match replaced with
  | some earlier => Activity.request (.stopProcessor earlier)
  | none => return ()

/-- Removes and stops a processor; says whether there was one. -/
def remove (name : String) : Activity ProcessorRegistry Bool := do
  let removed ← Activity.atomically fun registry =>
    (registry.get? name, ⟨registry.processors.filter fun processor => processor.name != name⟩)
  match removed with
  | some processor =>
      Activity.request (.stopProcessor processor)
      return true
  | none => return false

/-- Runs one processor. -/
def run (file : File) (metadata : Metadata) (processor : Processor) :
    Activity ProcessorRegistry Unit := do
  match ← Activity.request (.process processor file metadata) with
  | .ok () => return ()
  | .error error =>
      Activity.note "processor_failed" "processor_registry"
        [ ("processor", processor.name),
          ("file_id", metadata.fileId),
          ("err", error.message) ]

/-- Runs every active processor; one that fails does not keep the others from running. -/
def process (file : File) (metadata : Metadata) : Activity ProcessorRegistry Unit := do
  let registry ← Activity.look
  Activity.each (run file metadata) (registry.processors.filter (·.active))

/-- Empties the registry and stops every processor that was in it. -/
def stopAll : Activity ProcessorRegistry Unit := do
  let stopped ← Activity.atomically fun registry => (registry.processors, empty)
  Activity.each
    (fun processor => do
      Activity.note "processor_stop" "processor_registry" [("processor", processor.name)]
      Activity.request (.stopProcessor processor))
    stopped

end ProcessorRegistry

end RadarRelay
