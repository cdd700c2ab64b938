import RadarRelay.Node.Dispatch
import RadarRelay.Proofs.Activity.Alone

/-!
# The routing of one file

What a node does for a file is decided by the node as it is when the file comes:
its answer, which subscriptions the file is dispatched to, and which storages,
hooks, publications and processors have their turn, in which order. `routed` is
this decision, written down before anything is done; a node that takes a file
does exactly that, whatever its collaborators answer.
-/

namespace RadarRelay

variable {Memory : Type}

/-- Whether a file is dispatched to a subscription. -/
def Subscription.Accepts (subscription : Subscription) (duplicate : Bool) (origin : String)
    (metadata : Metadata) : Prop :=
  subscription.active = true ∧
    (subscription.allowDuplicates = true ∨ duplicate = false) ∧
    subscription.permits origin = true ∧
    subscription.expression.accepts metadata = true

instance (subscription : Subscription) (duplicate : Bool) (origin : String)
    (metadata : Metadata) : Decidable (subscription.Accepts duplicate origin metadata) :=
  inferInstanceAs (Decidable (_ ∧ (_ ∨ _) ∧ _ ∧ _))

/-- Whether a file is handed to a publication. -/
def Publication.Accepts (publication : Publication) (origin : Option String)
    (metadata : Metadata) : Prop :=
  publication.active = true ∧ publication.permits origin = true ∧
    publication.filter.compile.accepts metadata = true

instance (publication : Publication) (origin : Option String) (metadata : Metadata) :
    Decidable (publication.Accepts origin metadata) :=
  inferInstanceAs (Decidable (_ ∧ _ ∧ _))

/-- Something that is done for a file that is dispatched. -/
inductive Deed where
  /-- Attempt to keep the file in the storage of a name. -/
  | keep (storage : String)
  /-- Tell a hook. -/
  | count (hook : Hook)
  /-- Hand a copy of the file to a publication. -/
  | handOut (publication : Publication)
  /-- Let a processor see the file. -/
  | process (processor : Processor)

/-- Does something for a file. What the collaborator answers is of no consequence, except that
there is nothing to hand out when the file cannot be copied. -/
def Deed.perform (around : Surroundings Memory) (file : File) (origin : String)
    (metadata : Metadata) : Node × Memory → Deed → Node × Memory
  | (node, memory), keep name =>
      match node.outbound.storages.get? name with
      | some storage => (node, (around.answer (.store storage file metadata) memory).2)
      | none => (node, memory)
  | (node, memory), count hook => (node, (around.answer (.increment hook origin metadata) memory).2)
  | (node, memory), handOut publication =>
      match around.answer (.copy node.config.tmpFolder file) memory with
      | (.error _, memory) => (node, memory)
      | (.ok content, memory) =>
          let (copy, disk) := node.outbound.disk.copy content
          let (_, outbound, memory) :=
            (publication.enqueue ⟨copy, metadata⟩).run around.deaf
              { node.outbound with disk } memory
          ({ node with outbound }, memory)
  | (node, memory), process processor =>
      (node, (around.answer (.process processor file metadata) memory).2)

namespace Node

/-- What is done for a file that is dispatched to a subscription, in this order. -/
def deedsFor (node : Node) (metadata : Metadata) (subscription : Subscription) : List Deed :=
  subscription.storages.map .keep ++
    subscription.statistics.map .count ++
    (node.registry.publications.filter (·.Accepts subscription.id metadata)).map .handOut ++
    (node.processors.processors.filter (·.active)).map .process

/-- What is done for a file that is routed: the subscriptions that accept it have their turn one
after the other. -/
def deeds (node : Node) (duplicate : Bool) (origin : String) (metadata : Metadata) : List Deed :=
  (node.directory.subscriptions.filter (·.Accepts duplicate origin metadata)).flatMap
    (node.deedsFor metadata)

/-- What becomes of a file that is neither rejected nor too long: the answer, and the node and its
surroundings afterwards. A file that was seen before changes nothing unless some active
subscription wants it all the same. -/
def handled (around : Surroundings Memory) (file : File) (origin : String) (metadata : Metadata)
    (node : Node) (memory : Memory) : Except Error Metadata × Node × Memory :=
  let memory := Hook.tell around origin metadata node.hooks.incoming memory
  if node.recent.contains metadata.fingerprint then
    let memory := Hook.tell around origin metadata node.hooks.duplicates memory
    if node.directory.anyAllowsDuplicates then
      let after := (node.deeds true origin metadata).foldl
        (Deed.perform around file origin metadata) (node, memory)
      (.ok metadata, after.1, Hook.tell around origin metadata node.hooks.fileHandling after.2)
    else (.error (.duplicate metadata.fileId), node, memory)
  else
    let remembering := { node with recent := (node.recent.add metadata.fingerprint).2 }
    let after := (node.deeds false origin metadata).foldl
      (Deed.perform around file origin metadata) (remembering, memory)
    (.ok metadata, after.1, Hook.tell around origin metadata node.hooks.fileHandling after.2)

/-- What becomes of a file that an origin posts. -/
def routed (around : Surroundings Memory) (file : File) (origin : String) (node : Node)
    (memory : Memory) : Except Error Metadata × Node × Memory :=
  match around.answer (.readMetadata file) memory with
  | (.error error, memory) => (.error error, node, memory)
  | (.ok metadata, memory) =>
      if node.config.maxContentLength.any (· < metadata.fileSize) then (.ok metadata, node, memory)
      else node.handled around file origin metadata memory

end Node

end RadarRelay
