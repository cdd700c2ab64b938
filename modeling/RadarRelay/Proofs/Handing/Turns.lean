import RadarRelay.Proofs.Activity.Running
import RadarRelay.Proofs.Delivery.Telling
import RadarRelay.Proofs.Routing.Store

/-!
# The turns of publications

A file that is published is a matter of turns: one publication after the other is
either passed over, or a copy is made for it, or the copy fails. What a turn comes to
is a question of the publication, of the node, and of what collaborators answer. A
node that publishes a file takes these turns and counts the files that were queued.
-/

namespace RadarRelay

open Activity

variable {Memory : Type}

/-! ## Who gets a file -/

/-- Whether a file is meant for a publication. Without an origin it is only meant for publications
that do not ask for one. -/
def Publication.Meant (publication : Publication) (origin : Option String) (metadata : Metadata) :
    Prop :=
  publication.active = true ∧
    (publication.origins = [] ∨ ∃ id ∈ publication.origins, origin = some id) ∧
    publication.filter.compile.accepts metadata = true

theorem Publication.permits_iff (publication : Publication) (origin : Option String) :
    publication.permits origin = true ↔
      publication.origins = [] ∨ ∃ id ∈ publication.origins, origin = some id := by
  cases origin with
  | none => simp [permits]
  | some id => simp [permits]

theorem Publication.accepts_iff_meant (publication : Publication) (origin : Option String)
    (metadata : Metadata) :
    publication.Accepts origin metadata ↔ publication.Meant origin metadata := by
  rw [Accepts, Meant, permits_iff]

instance (publication : Publication) (origin : Option String) (metadata : Metadata) :
    Decidable (publication.Meant origin metadata) :=
  decidable_of_iff _ (publication.accepts_iff_meant origin metadata)

/-! ## Turns -/

/-- What comes of a file for one publication. -/
inductive Turn where
  /-- The file is not meant for the publication. -/
  | passedOver
  /-- The file could not be copied. -/
  | uncopied (error : Error)
  /-- The publication was handed a copy, and gave an answer. -/
  | handed (copy : Parcel) (answer : Outcome)

/-- Whether a file was queued. -/
def Turn.isQueued : Turn → Bool
  | handed _ answer => answer == .queued
  | _ => false

variable (around : Surroundings Memory) (origin : Option String) (file : File)
  (metadata : Metadata)

/-- One publication has its turn. -/
def Publication.turn (publication : Publication) (node : Node) (memory : Memory) :
    Turn × Node × Memory :=
  if publication.Meant origin metadata then
    match around.answer (.copy node.config.tmpFolder file) memory with
    | (.error error, memory) => (.uncopied error, node, memory)
    | (.ok content, memory) =>
        let (copy, disk) := node.outbound.disk.copy content
        let (answer, outbound, memory) :=
          (publication.enqueue ⟨copy, metadata⟩).run around { node.outbound with disk } memory
        (.handed ⟨copy, metadata⟩ answer, { node with outbound }, memory)
  else (.passedOver, node, memory)

/-- What publishing a file comes to. -/
structure Published (Memory : Type) where
  /-- What came of the file for each publication, in their order. -/
  turns : List Turn
  node : Node
  memory : Memory

/-- Publications have their turns one after the other. -/
def Node.publishedTo : Node → Memory → List Publication → Published Memory
  | node, memory, [] => ⟨[], node, memory⟩
  | node, memory, publication :: publications =>
      let first := publication.turn around origin file metadata node memory
      let rest := publishedTo first.2.1 first.2.2 publications
      { rest with turns := first.1 :: rest.turns }

namespace Node

variable (node : Node) (memory : Memory)

/-- A publication that is handed a file has its turn. -/
theorem run_publishTo (publication : Publication) :
    (publishTo origin file metadata publication).run around.deaf node memory =
      ((publication.turn around.deaf origin file metadata node memory).1.isQueued,
        (publication.turn around.deaf origin file metadata node memory).2) := by
  rw [publishTo, Activity.run_bind, run_eligible, Publication.turn]
  by_cases meant : publication.Meant origin metadata
  · have accepted := (publication.accepts_iff_meant origin metadata).2 meant
    rw [if_pos meant, decide_eq_true accepted, if_pos rfl, Activity.run_bind, run_look,
      Activity.run_bind, run_request]
    rcases around.deaf.answer (.copy node.config.tmpFolder file) memory with ⟨copied, later⟩
    cases copied with
    | error error => rfl
    | ok content =>
        simp only [Activity.run_bind, run_onOutbound]
        rfl
  · have refused := mt (publication.accepts_iff_meant origin metadata).1 meant
    rw [if_neg meant, decide_eq_false refused]
    rfl

/-- Publications that are handed a file have their turns, and those that queue it are counted. -/
theorem run_publishToAll (publications : List Publication) :
    (publishToAll origin file metadata publications).run around.deaf node memory =
      ((node.publishedTo around.deaf origin file metadata memory publications).turns.countP
          Turn.isQueued,
        (node.publishedTo around.deaf origin file metadata memory publications).node,
        (node.publishedTo around.deaf origin file metadata memory publications).memory) := by
  induction publications generalizing node memory with
  | nil => rfl
  | cons publication publications ih =>
      rw [publishToAll, Activity.run_bind, run_publishTo, Activity.run_bind, ih, publishedTo,
        List.countP_cons, Nat.add_comm]
      rfl

/-- Publishing a file is a matter of turns. -/
theorem run_publish :
    (publish origin file metadata).run around.deaf node memory =
      ((node.publishedTo around.deaf origin file metadata memory
          node.registry.publications).turns.countP Turn.isQueued,
        (node.publishedTo around.deaf origin file metadata memory
          node.registry.publications).node,
        (node.publishedTo around.deaf origin file metadata memory
          node.registry.publications).memory) := by
  rw [publish, Activity.run_bind, run_look, Activity.run_bind, run_publishToAll]
  rfl

/-- The turns of some are followed by the turns of others. -/
theorem publishedTo_append (before after : List Publication) :
    node.publishedTo around origin file metadata memory (before ++ after) =
      let first := node.publishedTo around origin file metadata memory before
      let rest := first.node.publishedTo around origin file metadata first.memory after
      { rest with turns := first.turns ++ rest.turns } := by
  induction before generalizing node memory with
  | nil => rfl
  | cons publication before ih =>
      rw [List.cons_append, publishedTo, ih]
      rfl

@[simp] theorem length_turns_publishedTo (publications : List Publication) :
    (node.publishedTo around origin file metadata memory publications).turns.length =
      publications.length := by
  induction publications generalizing node memory with
  | nil => rfl
  | cons publication publications ih => simp [publishedTo, ih]

end Node

end RadarRelay
