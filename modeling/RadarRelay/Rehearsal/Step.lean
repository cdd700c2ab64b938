import RadarRelay.Rehearsal.Basic

/-!
# Steps of a rehearsal

A rehearsal proceeds in steps: something is posted to the node, its rules or
collaborators change, or a sender is held or released. Each step has an answer.
-/

namespace RadarRelay.Rehearsal

inductive Step where
  /-- An origin posts a file. -/
  | store (file : File) (origin : String)
  /-- A file is handed to the publications. -/
  | publish (origin : Option String) (file : File) (metadata : Metadata)
  /-- A rule is applied that stands in a text or in a file. -/
  | apply (text : String)
  | load (file : File)
  /-- A rule is added whose configuration stands in a text. -/
  | addSubscription (text : String)
  | addPublication (text : String)
  | removeSubscription (id : String)
  | removePublication (name : String)
  | addStorage (name : String) (script : FailureScript)
  | removeStorage (name : String)
  | addProcessor (name : String) (active : Bool) (script : FailureScript)
  | removeProcessor (name : String)
  | hold (sender : String)
  | release (sender : String)
  /-- Whether a file should be handed to a publication. -/
  | eligible (publication : String) (origin : Option String) (metadata : Metadata)
  /-- Somebody keeps a handle to a publication. -/
  | keep (publication : String)
  /-- A file is handed to one publication, through a handle to it if one is kept. -/
  | enqueue (publication : String) (file : File) (metadata : Metadata)
  /-- How often a hook has counted an origin. -/
  | count (hook origin : String)
  | shutdown

/-- What a step answers. -/
inductive Answer where
  | done
  | yes (answer : Bool)
  | number (count : Nat)
  /-- The metadata of a file that was accepted. -/
  | accepted (metadata : Metadata)
  | outcome (outcome : Outcome)
  | unknownPublication
  | failed (failure : Failure)

namespace Answer

/-- The answer of something that may fail. -/
def ofResult {Result : Type} (answer : Result → Answer) : Except Failure Result → Answer
  | .ok result => answer result
  | .error failure => failed failure

end Answer

/-- The publication of a name: the one that a handle is kept to, or the registered one. -/
def publication? (rehearsal : Rehearsal) (name : String) : Option Publication :=
  (rehearsal.kept.lookup name).or (rehearsal.node.registry.get? name)

/-- Hands a file to a publication. -/
def enqueue (publication : Publication) (file : File) (metadata : Metadata) :
    Activity Outbound Outcome := do
  let copy ← Outbound.onDisk (Activity.atomically (Disk.copy file))
  publication.enqueue ⟨copy, metadata⟩

/-- Reads a configuration and applies it. -/
def applyConfig {kind : Type} (codec : Document.Codec kind) (text : String)
    (apply : kind → Activity Node (Except Failure Bool)) : Activity Node (Except Failure Bool) :=
  match Config.parse codec text with
  | .error failure => return .error failure
  | .ok config => apply config

/-- Takes a step. `relief` is for the publication that the step stops. -/
def step (relief : Option Relief) (step : Step) (rehearsal : Rehearsal) : Answer × Rehearsal :=
  let perform {Result : Type} (activity : Activity Node Result) (answer : Result → Answer) :
      Answer × Rehearsal :=
    let (result, next) := rehearsal.perform relief activity
    (answer result, next)
  let withCast {Result : Type} (cast : Cast) (activity : Activity Node Result)
      (answer : Result → Answer) : Answer × Rehearsal :=
    let (result, next) := { rehearsal with cast }.perform relief activity
    (answer result, next)
  match step with
  | .store file origin =>
      perform (Node.store file origin) fun result =>
        .ofResult .accepted (Failure.ofError result)
  | .publish origin file metadata => perform (Node.publish origin file metadata) .number
  | .apply text => perform (Node.applyText text) (.ofResult fun _ => .done)
  | .load file => perform (Node.applyFile file) (.ofResult fun _ => .done)
  | .addSubscription text =>
      perform (applyConfig Config.Subscription.record.codec text Node.applySubscription)
        (.ofResult .yes)
  | .addPublication text =>
      perform (applyConfig Config.Publication.record.codec text Node.applyPublication)
        (.ofResult .yes)
  | .removeSubscription id => perform (Node.removeSubscription id) .yes
  | .removePublication name => perform (Node.removePublication name) .yes
  | .addStorage name script =>
      let (storage, cast) := rehearsal.cast.addStorage name script
      withCast cast
        (Node.onStorages (Activity.atomically fun registry => registry.register storage))
        fun replaced => .yes replaced.isSome
  | .removeStorage name =>
      perform (Node.onStorages (Activity.atomically fun registry => registry.remove name))
        fun removed => .yes removed.isSome
  | .addProcessor name active script =>
      let (processor, cast) := rehearsal.cast.addProcessor name active script
      withCast cast (Node.onProcessors (ProcessorRegistry.add processor)) fun () => .done
  | .removeProcessor name =>
      perform (Node.onProcessors (ProcessorRegistry.remove name)) .yes
  | .hold sender => (.done, { rehearsal with cast := rehearsal.cast.hold sender })
  | .release sender => (.done, rehearsal.release [sender])
  | .eligible name origin metadata =>
      match rehearsal.publication? name with
      | none => (.unknownPublication, rehearsal)
      | some publication => perform (publication.eligible origin metadata) .yes
  | .keep name =>
      match rehearsal.node.registry.get? name with
      | none => (.unknownPublication, rehearsal)
      | some publication =>
          let others := rehearsal.kept.filter fun entry => entry.1 != name
          (.done, { rehearsal with kept := (name, publication) :: others })
  | .enqueue name file metadata =>
      match rehearsal.publication? name with
      | none => (.unknownPublication, rehearsal)
      | some publication =>
          perform (Node.onOutbound (enqueue publication file metadata)) .outcome
  | .count id origin =>
      let counted := (rehearsal.cast.hook? id).map fun counter => counter.count origin
      (.number (counted.getD 0), rehearsal)
  | .shutdown => perform Node.shutdown fun () => .done

/-- Takes a step that stops a publication, and names senders that are released meanwhile. -/
def stepReleasing (publication : String) (senders : List String) (step : Step)
    (rehearsal : Rehearsal) : Answer × Rehearsal :=
  let relief := (rehearsal.node.registry.get? publication).map fun stopped =>
    ⟨stopped.id, senders⟩
  rehearsal.step relief step

end RadarRelay.Rehearsal
