import RadarRelay.Proofs.Activity.Watched
import RadarRelay.Publication.Delivering
import RadarRelay.Publication.Queueing

/-!
# Who tells hooks

A hook is told of an event by a request. Neither decorators nor connections make
such a request, whatever they are and however they end, so the hooks of a
publication are told of nothing but what the publication counts itself.
-/

namespace RadarRelay

open Activity

/-- The hook that a request tells of an event. -/
def Request.hook? : Request → Option Hook
  | .increment hook _ _ => some hook
  | _ => none

namespace Sender

variable (file : File) (metadata : Metadata)

theorem unseen_transmit (sender : Sender) :
    (sender.transmit file metadata).Unseen Request.hook? := by
  cases sender with
  | storage id names =>
      rw [transmit]
      induction names with
      | nil => exact trivial
      | cons name names ih =>
          refine unseen_bind unseen_look fun registry => ?_
          cases registry.get? name with
          | some target =>
              refine unseen_bind (unseen_request rfl) fun answer => ?_
              cases answer with
              | ok => exact ih
              | error => exact trivial
          | none => exact unseen_bind (unseen_request rfl) fun _ => ih
  | external id serial => exact unseen_request rfl

theorem unseen_firstOf (failures : List Error) (senders : List Sender) :
    (firstOf file metadata failures senders).Unseen Request.hook? := by
  induction senders generalizing failures with
  | nil => exact trivial
  | cons sender senders ih =>
      refine unseen_bind (sender.unseen_transmit file metadata) fun reply => ?_
      cases reply with
      | sent => exact unseen_bind (unseen_request rfl) fun _ => trivial
      | failed error => exact unseen_bind (unseen_request rfl) fun _ => ih _
      | panicked => exact trivial

theorem unseen_allOf (senders : List Sender) :
    (allOf file metadata senders).Unseen Request.hook? := by
  induction senders with
  | nil => exact trivial
  | cons sender senders ih =>
      refine unseen_bind (sender.unseen_transmit file metadata) fun reply => ?_
      cases reply with
      | sent | failed => exact unseen_bind (unseen_request rfl) fun _ => ih
      | panicked => exact trivial

end Sender

namespace Connection

variable (file : File) (metadata : Metadata)

mutual

/-- Connections tell no hooks. -/
theorem unseen_publish (connection : Connection) :
    (connection.publish file metadata).Unseen Request.hook? := by
  cases connection with
  | simple sender => exact sender.unseen_transmit file metadata
  | failover senders => exact Sender.unseen_firstOf file metadata [] senders
  | backup senders | distributed senders => exact Sender.unseen_allOf file metadata senders
  | combined connections => exact unseen_publishAll connections

theorem unseen_publishAll (connections : List Connection) :
    (publishAll file metadata connections).Unseen Request.hook? := by
  cases connections with
  | nil => exact trivial
  | cons connection connections =>
      refine unseen_bind (unseen_publish connection) fun reply => ?_
      cases reply with
      | sent => exact unseen_publishAll connections
      | failed error =>
          exact unseen_bind (unseen_request rfl) fun _ => unseen_publishAll connections
      | panicked => exact trivial

end

end Connection

/-- Requests of decorators are not seen. -/
structure Request.DecoratingUnseen {Seen : Type} (seen : Request → Option Seen) : Prop where
  note : ∀ event, seen (.note event) = none
  now : seen .now = none
  readMetadata : ∀ file, seen (.readMetadata file) = none
  decorate : ∀ name serial file metadata, seen (.decorate name serial file metadata) = none

namespace Stage

variable {Seen : Type} {seen : Request → Option Seen} (decorating : Request.DecoratingUnseen seen)

include decorating

theorem unseen_decorate {State : Type} (file : File) (metadata : Metadata) (decorator : Decorator) :
    (decorator.decorate file metadata : Activity State _).Unseen seen := by
  cases decorator with
  | staleFileBlocker greatestAge =>
      rw [Decorator.decorate]
      split
      · exact trivial
      · exact unseen_bind (unseen_request decorating.now) fun _ => trivial
  | external name serial => exact unseen_request (decorating.decorate ..)

theorem unseen_run (publication : String) (parcel : Parcel) (stage : Stage) :
    (stage.run publication parcel).Unseen seen := by
  refine unseen_bind (unseen_decorate decorating _ _ stage.decorator) fun decoration => ?_
  cases decoration with
  | error error => exact fun _ => trivial
  | ok decoration =>
      cases decoration with
      | unchanged => exact trivial
      | replaced content =>
          intro disk
          refine ⟨decorating.readMetadata _, fun answer => ?_⟩
          cases answer with
          | error error => exact fun _ => trivial
          | ok metadata =>
              exact fun _ => ⟨decorating.note _, fun _ => trivial⟩
      | empty =>
          show Activity.Unseen seen (if stage.allowDiscard then _ else _)
          split
          · exact unseen_bind (unseen_request (decorating.note _)) fun _ _ => trivial
          · exact unseen_bind (unseen_request (decorating.note _)) fun _ => trivial

/-- A chain asks for nothing but what decorators ask for. -/
theorem unseen_runAll (publication : String) (parcel : Parcel) (stages : List Stage) :
    (runAll publication parcel stages).Unseen seen := by
  induction stages generalizing parcel with
  | nil => exact trivial
  | cons stage stages ih =>
      refine unseen_bind (unseen_run decorating publication parcel stage) fun result => ?_
      cases result with
      | error error => exact trivial
      | ok left =>
          cases left with
          | none => exact trivial
          | some next => exact ih next

end Stage

/-- Decorators tell no hooks. -/
theorem Request.decorating_hook? : Request.DecoratingUnseen Request.hook? :=
  ⟨fun _ => rfl, rfl, fun _ => rfl, fun _ _ _ _ => rfl⟩

section Noting

variable {State Seen : Type} {seen : Request → Option Seen}
  (notes : ∀ event, seen (.note event) = none)

include notes

theorem Expression.unseen_check (expression : Expression) (metadata : Metadata) :
    (expression.check metadata : Activity State Bool).Unseen seen := by
  rw [check]
  split
  · exact unseen_bind (unseen_request (notes _)) fun _ => trivial
  · exact trivial

/-- Whether a file should be handed to a publication is no question to anybody. -/
theorem Publication.unseen_eligible (publication : Publication) (origin : Option String)
    (metadata : Metadata) :
    (publication.eligible origin metadata : Activity State Bool).Unseen seen := by
  rw [eligible]
  split
  · exact Expression.unseen_check notes _ metadata
  · exact trivial

/-- Counting tells hooks, and nobody else. -/
theorem Hook.unseen_incrementAll (component origin : String) (metadata : Metadata)
    (hooks : List Hook)
    (counting : ∀ hook ∈ hooks, ∀ origin metadata, seen (.increment hook origin metadata) = none) :
    (incrementAll component origin metadata hooks : Activity State Unit).Unseen seen := by
  rw [incrementAll]
  induction hooks with
  | nil => exact trivial
  | cons hook hooks ih =>
      obtain ⟨first, rest⟩ := List.forall_mem_cons.1 counting
      apply unseen_bind
      · apply unseen_bind (unseen_request (first _ _))
        intro answer
        cases answer with
        | ok => exact trivial
        | error error => exact unseen_request (notes _)
      · intro _
        exact ih rest

end Noting

end RadarRelay
