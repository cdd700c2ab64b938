import RadarRelay.Node.Control
import RadarRelay.Node.Dispatch
import RadarRelay.Rehearsal.Cast

/-!
# Rehearsals

A rehearsal runs a node with a cast. One caller acts at a time. Whenever it has
changed something, the workers of the publications take what they can and
deliver it, until every queue is empty or its workers wait for a held sender.
What a caller does is thereby deterministic, and so is the order in which each
publication delivers.
-/

namespace RadarRelay

namespace Rehearsal

/-- A delivery in progress. -/
structure Delivery where
  publication : Publication
  /-- The file that is delivered. -/
  fileId : String
  /-- Whether the publication has several workers. -/
  shared : Bool
  /-- What is left of the worker's turn. -/
  rest : Activity Outbound Bool

/-- An event during a delivery. -/
structure DeliveryEvent where
  publication : String
  fileId : String
  shared : Bool
  event : Event
  deriving DecidableEq, Repr

end Rehearsal

open Rehearsal

structure Rehearsal where
  node : Node
  cast : Cast
  /-- Deliveries that wait for a held sender, oldest first. -/
  waiting : List Delivery
  /-- Events during deliveries since the journal of the cast was begun, oldest first. -/
  deliveries : List DeliveryEvent
  /-- Publications that somebody keeps a handle to, by name. -/
  kept : List (String × Publication)

namespace Rehearsal

/-- Begins a rehearsal with a node that has just been made. -/
def start (node : Node) (cast : Cast) : Rehearsal := ⟨node, cast, [], [], []⟩

/-- Begins a new journal. -/
def turnPage (rehearsal : Rehearsal) : Rehearsal :=
  { rehearsal with cast := rehearsal.cast.turnPage, deliveries := [] }

/-- Goes on with a delivery until it ends or has to wait. -/
def carryOn (rehearsal : Rehearsal) (delivery : Delivery) : Rehearsal :=
  let events := rehearsal.cast.journal.events
  let listening := rehearsal.cast.write fun journal => { journal with events := [] }
  let (rest, outbound, cast) :=
    delivery.rest.advance Cast.surroundings rehearsal.node.outbound listening
  let heard := cast.journal.events.map fun event =>
    ⟨delivery.publication.name, delivery.fileId, delivery.shared, event⟩
  { rehearsal with
    node := { rehearsal.node with outbound }
    cast := cast.write fun journal => { journal with events }
    waiting := match rest with
      | .done _ => rehearsal.waiting
      | rest => rehearsal.waiting ++ [{ delivery with rest }]
    deliveries := rehearsal.deliveries ++ heard }

/-- Lets an idle worker of a publication take a file. -/
def workOnce (publication : Publication) (rehearsal : Rehearsal) : Rehearsal :=
  let pool := rehearsal.node.outbound.pool publication.id
  match pool.queue with
  | [] => rehearsal
  | parcel :: _ =>
      if pool.canTake then
        rehearsal.carryOn
          ⟨publication, parcel.metadata.fileId, decide (1 < pool.workers), publication.work⟩
      else rehearsal

/-- Lets the workers of a publication take files until none is left or all workers wait. -/
def work (publication : Publication) (rehearsal : Rehearsal) : Rehearsal :=
  Nat.repeat (workOnce publication) (publication.queued rehearsal.node.outbound) rehearsal

/-- Lets the workers of every publication deliver what they can. -/
def settle (rehearsal : Rehearsal) : Rehearsal :=
  rehearsal.node.registry.publications.foldl (fun current publication => work publication current)
    rehearsal

/-- Releases senders, and lets every delivery that waited for them go on. -/
def release (ids : List String) (rehearsal : Rehearsal) : Rehearsal :=
  let released := { rehearsal with cast := rehearsal.cast.release ids, waiting := [] }
  (rehearsal.waiting.foldl carryOn released).settle

/-- Senders that are released while a caller waits for one publication to end. -/
structure Relief where
  /-- The number of the publication. -/
  publication : Nat
  senders : List String
  deriving DecidableEq, Repr

/-- What happens while a caller waits for a publication to end: senders are released if it is the
publication that they are released for, and then its workers leave. -/
def join (relief : Option Relief) (publication : Nat) (rehearsal : Rehearsal) : Rehearsal :=
  let released := match relief with
    | some relief =>
        if relief.publication = publication then rehearsal.release relief.senders else rehearsal
    | none => rehearsal
  let outbound := released.node.outbound
  let left :=
    Nat.repeat (fun outbound => (Publication.dismiss publication outbound).2)
      (outbound.pool publication).idle outbound
  { released with node := { released.node with outbound := left } }

variable {Result : Type}

/-- Runs what a caller does. -/
def perform (relief : Option Relief) :
    Activity Node Result → Rehearsal → Result × Rehearsal
  | .done result, rehearsal => (result, rehearsal)
  | .act update next, rehearsal =>
      let changed := { rehearsal with node := update rehearsal.node }
      perform relief (next rehearsal.node) changed.settle
  | .ask (.join publication) next, rehearsal =>
      perform relief (next ()) (rehearsal.join relief publication)
  | .ask request next, rehearsal =>
      let (answer, cast) := rehearsal.cast.answer request
      perform relief (next answer) { rehearsal with cast }

end Rehearsal

end RadarRelay
