import RadarRelay.Metadata.Document
import RadarRelay.Rehearsal.Script
import RadarRelay.Text.UniqueId

/-!
# Casts

The cast of a rehearsal is all collaborators of a node together: their scripts,
what they have recorded, and which senders are held. It answers every request
of a node. Only a transmission through a held sender waits.
-/

namespace RadarRelay.Rehearsal

open RadarRelay.Text

/-- What senders of one id have done together. The first of them decides on the behaviour. -/
structure SenderRecord where
  id : String
  behaviour : Behaviour
  calls : Nat
  deriving DecidableEq, Repr

/-- What happened since the journal was begun, oldest first. -/
structure Journal where
  events : List Event
  /-- Names of storages with ids of files that they kept. -/
  stored : List (String × String)
  /-- Ids of senders with ids and lengths of files that they transmitted. -/
  sent : List (String × String × Nat)
  /-- What processors did. -/
  processing : List String
  deriving DecidableEq, Repr

def Journal.empty : Journal := ⟨[], [], [], []⟩

structure Cast where
  /-- The time, which stands still. -/
  now : Calendar.Moment
  /-- The folders that exist. -/
  folders : List String
  /-- The number of the next id. -/
  nextId : Nat
  /-- Scripts of senders and decorators in the order in which they were built. -/
  senders : List SenderScript
  decorators : List DecoratorScript
  /-- Scripts of storages and processors in the order in which they were added. -/
  storages : List FailureScript
  processors : List FailureScript
  records : List SenderRecord
  /-- Ids of senders that wait before they transmit. -/
  held : List String
  hooks : List Counter
  journal : Journal

namespace Cast

/-- A cast without collaborators. -/
def empty (now : Calendar.Moment) (folders : List String) : Cast where
  now
  folders
  nextId := 0
  senders := []
  decorators := []
  storages := []
  processors := []
  records := []
  held := []
  hooks := []
  journal := .empty

/-- Begins a new journal. -/
def turnPage (cast : Cast) : Cast :=
  { cast with journal := .empty }

/-- Adds a storage to the cast. -/
def addStorage (name : String) (script : FailureScript) (cast : Cast) : Storage × Cast :=
  (⟨name, cast.storages.length⟩, { cast with storages := cast.storages ++ [script] })

/-- Adds a processor to the cast. -/
def addProcessor (name : String) (active : Bool) (script : FailureScript) (cast : Cast) :
    Processor × Cast :=
  (⟨name, active, cast.processors.length⟩,
    { cast with processors := cast.processors ++ [script] })

/-- Lets a sender wait before each transmission. -/
def hold (id : String) (cast : Cast) : Cast :=
  { cast with held := id :: cast.held }

/-- Lets senders transmit again. -/
def release (ids : List String) (cast : Cast) : Cast :=
  { cast with held := cast.held.filter fun id => !ids.contains id }

/-- The record of a sender. -/
def record? (cast : Cast) (id : String) : Option SenderRecord :=
  cast.records.find? fun record => record.id == id

/-- The counter of a hook. -/
def hook? (cast : Cast) (id : String) : Option Counter :=
  cast.hooks.find? fun counter => counter.id == id

/-- Writes into the journal. -/
def write (entry : Journal → Journal) (cast : Cast) : Cast :=
  { cast with journal := entry cast.journal }

/-- Copies a file, which must exist, into a folder, which must exist. -/
def copy (folder : Option String) (file : File) (cast : Cast) : Except Error File :=
  let reachable := match folder with
    | some folder => cast.folders.contains folder
    | none => true
  if reachable && file.content?.isSome then .ok file else .error .notFound

/-- Keeps a file in a storage. -/
def store (storage : Storage) (metadata : Metadata) (cast : Cast) : Except Error Unit × Cast :=
  if cast.storages[storage.serial]?.any (·.fails) then
    (.error (.storage storage.name "scripted failure"), cast)
  else
    (.ok (), cast.write fun journal =>
      { journal with stored := journal.stored ++ [(storage.name, metadata.fileId)] })

/-- Whether an id starts as given. -/
def startsAs (start id : String) : Bool :=
  start.toList.isPrefixOf id.toList

/-- Counts an event. Hooks whose id starts with `fail` fail after they have counted. -/
def increment (hook : Hook) (origin : String) (metadata : Metadata) (cast : Cast) :
    Except Error Unit × Cast :=
  let hooks := cast.hooks.map fun counter =>
    if counter.id = hook.id then counter.increment origin metadata else counter
  let answer := if startsAs "fail" hook.id then .error (.statistics hook.id "backend offline")
    else .ok ()
  (answer, { cast with hooks })

/-- Transmits a file as the record of the sender says. -/
def transmit (id : String) (file : File) (metadata : Metadata) (cast : Cast) : Reply × Cast :=
  match cast.record? id with
  | none => (.failed .notFound, cast)
  | some record =>
      let records := cast.records.map fun other =>
        if other.id = id then { other with calls := other.calls + 1 } else other
      let called := { cast with records }
      match record.behaviour with
      | .fail => (.failed (.delivery id "scripted failure"), called)
      | .panic => (.panicked ("scripted panic in sender " ++ id), called)
      | .succeed =>
          match file.content? with
          | none => (.failed .notFound, called)
          | some content =>
              (.sent, called.write fun journal =>
                { journal with
                  sent := journal.sent ++ [(id, metadata.fileId, content.utf8ByteSize)] })

/-- Transmits a file as the script of the sender says. -/
def send (id : String) (serial : Nat) (file : File) (metadata : Metadata) (cast : Cast) :
    Reply × Cast :=
  match cast.senders[serial]? with
  | some (.panicky payload) => (.panicked (SenderScript.panicReason id payload), cast)
  | _ => cast.transmit id file metadata

/-- Builds a sender. Senders of one id share one record. -/
def makeSender (className id : String) (arguments : Json) (cast : Cast) :
    Except Error Sender × Cast :=
  match SenderScript.ofArguments className arguments with
  | .error error => (.error error, cast)
  | .ok (script, behaviour) =>
      let records := match behaviour with
        | some behaviour =>
            if (cast.record? id).isSome then cast.records
            else cast.records ++ [⟨id, behaviour, 0⟩]
        | none => cast.records
      (.ok (.external id cast.senders.length),
        { cast with senders := cast.senders ++ [script], records })

/-- Builds a decorator. -/
def makeDecorator (className : String) (arguments : Json) (cast : Cast) :
    Except Error Decorator × Cast :=
  match DecoratorScript.ofArguments className arguments with
  | .error error => (.error error, cast)
  | .ok script =>
      (.ok (.external className cast.decorators.length),
        { cast with decorators := cast.decorators ++ [script] })

/-- Builds a hook, unless its id starts with `reject`. Hooks of one id share one counter; the first
of them decides what it records. -/
def makeHook (config : Config.Statistics) (cast : Cast) : Except Error Hook × Cast :=
  if startsAs "reject" config.id then (.error (.statistics config.id "no backend"), cast)
  else if (cast.hook? config.id).isSome then (.ok ⟨config.id, 0⟩, cast)
  else (.ok ⟨config.id, 0⟩, { cast with hooks := cast.hooks ++ [.new config.id config.mode] })

/-- Runs a processor. -/
def process (processor : Processor) (cast : Cast) : Except Error Unit × Cast :=
  let answer := if cast.processors[processor.serial]?.any (·.fails) then
      .error (.processing processor.name "boom")
    else .ok ()
  (answer, cast.write fun journal =>
    { journal with processing := journal.processing ++ ["process " ++ processor.name] })

/-- Answers a request. -/
def answer : (request : Request) → Cast → request.Answer × Cast
  | .note event, cast =>
      ((), cast.write fun journal => { journal with events := journal.events ++ [event] })
  | .now, cast => (cast.now, cast)
  | .readMetadata file, cast =>
      match file.content? with
      | some content => (Metadata.ofFile content, cast)
      | none => (.error .notFound, cast)
  | .copy folder file, cast => (cast.copy folder file, cast)
  | .store storage _ metadata, cast => cast.store storage metadata
  | .increment hook origin metadata, cast => cast.increment hook origin metadata
  | .decorate _ serial _ metadata, cast =>
      ((cast.decorators[serial]?.getD .keep).decorate metadata, cast)
  | .send id serial file metadata, cast => cast.send id serial file metadata
  | .process processor _ _, cast => cast.process processor
  | .stopProcessor processor, cast =>
      ((), cast.write fun journal =>
        { journal with processing := journal.processing ++ ["stop " ++ processor.name] })
  | .freshId, cast => (uniqueId cast.nextId, { cast with nextId := cast.nextId + 1 })
  | .makeSender className id arguments, cast => cast.makeSender className id arguments
  | .makeDecorator className arguments, cast => cast.makeDecorator className arguments
  | .makeHook config, cast => cast.makeHook config
  | .join _, cast => ((), cast)

/-- Whether a request waits: a gated sender does not transmit while it is held. -/
def waits (request : Request) (cast : Cast) : Bool :=
  match request with
  | .send id serial _ _ => cast.senders[serial]? == some .gated && cast.held.contains id
  | _ => false

/-- A cast as the surroundings of a node. -/
def surroundings : Surroundings Cast := ⟨answer, waits⟩

end Cast

end RadarRelay.Rehearsal
