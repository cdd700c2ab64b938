import RadarRelay.Config.Model
import RadarRelay.Event
import RadarRelay.File
import RadarRelay.Metadata.Basic

/-!
# What surrounds a node

A node routes files and leaves everything else to collaborators: reading
metadata, copying files, storing, sending, decorating, counting and processing.
A collaborator is known by its name and a serial number that tells apart
collaborators of one name. What a node asks of its surroundings is a request,
and each kind of request has its kind of answer. Nothing is assumed of the
answers.
-/

namespace RadarRelay

/-- Keeps copies of files. -/
structure Storage where
  name : String
  serial : Nat
  deriving DecidableEq, Repr

/-- Counts events. -/
structure Hook where
  id : String
  serial : Nat
  deriving DecidableEq, Repr

/-- Does something with every accepted file. -/
structure Processor where
  name : String
  active : Bool
  serial : Nat
  deriving DecidableEq, Repr

/-- Transmits files, either into storages of the node itself or to somewhere else. -/
inductive Sender where
  | storage (id : String) (names : List String)
  | external (id : String) (serial : Nat)
  deriving DecidableEq, Repr

/-- The name of a sender in events and errors. -/
def Sender.id : Sender → String
  | storage id _ => id
  | external id _ => id

/-- Changes, keeps or drops a file before it is queued. -/
inductive Decorator where
  /-- Drops files whose nominal time is further back than an age. -/
  | staleFileBlocker (greatestAge : Calendar.Interval)
  | external (name : String) (serial : Nat)
  deriving DecidableEq, Repr

/-- The name of a decorator in events and errors. -/
def Decorator.name : Decorator → String
  | staleFileBlocker _ => "stale_file_blocker"
  | external name _ => name

/-- What a decorator makes of a file. -/
inductive Decoration where
  | unchanged
  /-- Go on with another file. -/
  | replaced (file : File)
  /-- The decorator produced nothing. -/
  | empty
  deriving DecidableEq, Repr

/-- How a transmission ended. A panic is caught where the delivery is made. -/
inductive Reply where
  | sent
  | failed (error : Error)
  | panicked (reason : String)

/-- What a node can ask for. -/
inductive Request where
  /-- Take note of an event. -/
  | note (event : Event)
  /-- The current time. -/
  | now
  /-- Read the metadata of a file. -/
  | readMetadata (file : File)
  /-- Copy a file into a folder, or the system's folder for temporary files. -/
  | copy (folder : Option String) (file : File)
  /-- Keep a file in a storage. -/
  | store (storage : Storage) (file : File) (metadata : Metadata)
  | increment (hook : Hook) (origin : String) (metadata : Metadata)
  /-- Decorate by an external decorator. -/
  | decorate (name : String) (serial : Nat) (file : File) (metadata : Metadata)
  /-- Transmit through an external sender. -/
  | send (id : String) (serial : Nat) (file : File) (metadata : Metadata)
  | process (processor : Processor) (file : File) (metadata : Metadata)
  | stopProcessor (processor : Processor)
  /-- An id that no other sender has. -/
  | freshId
  /-- Build an external sender, decorator or hook. -/
  | makeSender (className id : String) (arguments : Json)
  | makeDecorator (className : String) (arguments : Json)
  | makeHook (config : Config.Statistics)
  /-- Wait until no worker of a publication runs any more. -/
  | join (publication : Nat)

/-- What may be answered to a request. -/
def Request.Answer : Request → Type
  | note _ => Unit
  | now => Calendar.Moment
  | readMetadata _ => Except Error Metadata
  | copy _ _ => Except Error File
  | store _ _ _ => Except Error Unit
  | increment _ _ _ => Except Error Unit
  | decorate _ _ _ _ => Except Error Decoration
  | send _ _ _ _ => Reply
  | process _ _ _ => Except Error Unit
  | stopProcessor _ => Unit
  | freshId => String
  | makeSender _ _ _ => Except Error Sender
  | makeDecorator _ _ => Except Error Decorator
  | makeHook _ => Except Error Hook
  | join _ => Unit

/-- Surroundings that remember what they were asked: what they answer, and which requests have to
wait for now. -/
structure Surroundings (Memory : Type) where
  answer : (request : Request) → Memory → request.Answer × Memory
  waits : Request → Memory → Bool

end RadarRelay
