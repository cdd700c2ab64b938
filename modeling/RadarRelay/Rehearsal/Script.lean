import RadarRelay.Config.Reader
import RadarRelay.Surroundings

/-!
# Scripts

In a rehearsal the collaborators of a node follow scripts. A script says how a
sender, decorator, storage or processor behaves, and is read from the arguments
of its configuration where it has one.
-/

namespace RadarRelay.Rehearsal

open RadarRelay.Document

/-- How a sender ends its transmissions. -/
inductive Behaviour where
  | succeed
  | fail
  | panic
  deriving DecidableEq, Repr

namespace Behaviour

def all : List Behaviour := [succeed, fail, panic]

def name : Behaviour → String
  | succeed => "succeed"
  | fail => "fail"
  | panic => "panic"

end Behaviour

/-- What a sender does that is built by one of the rehearsed classes. -/
inductive SenderScript where
  /-- Records every call. -/
  | recording
  /-- Records every call, and waits while its id is held. -/
  | gated
  /-- Panics with a payload of some kind. -/
  | panicky (payload : String)
  deriving DecidableEq, Repr

namespace SenderScript

/-- The classes of rehearsed senders. -/
def classes : List String := ["gated", "panicky", "recording"]

/-- The reason that is shown for a panic. Only texts can be shown. -/
def panicReason (id payload : String) : String :=
  match payload with
  | "str" => "static text"
  | "string" => "formatted by " ++ id
  | _ => "non-string panic payload"

/-- The arguments of senders that keep records. -/
def behaviour (name : String) : Record Behaviour where
  name
  strict := true
  defaults := .succeed
  fields :=
    [ .defaulted "behaviour"
        (.variant (Behaviour.all.map fun behaviour => (behaviour.name, behaviour)) Behaviour.name)
        id (fun _ behaviour => behaviour) ]

/-- The arguments of senders that panic. -/
def payload : Record String where
  name := "PanickySenderArguments"
  strict := true
  defaults := ""
  fields := [.needed "payload" .text id (fun _ payload => payload)]

/-- Reads the script of a sender, and the behaviour of one that keeps records. -/
def ofArguments (className : String) (arguments : Json) :
    Except Error (SenderScript × Option Behaviour) :=
  match className with
  | "panicky" => do
      return (panicky (← Config.decodeArguments payload.codec className arguments), none)
  | "gated" => do
      let arguments ←
        Config.decodeArguments (behaviour "GatedSenderArguments").codec className arguments
      return (gated, some arguments)
  | _ => do
      let arguments ←
        Config.decodeArguments (behaviour "RecordingSenderArguments").codec className arguments
      return (recording, some arguments)

end SenderScript

/-- What a rehearsed decorator does. -/
inductive DecoratorScript where
  /-- Leaves every file as it is. -/
  | keep
  /-- Produces nothing. -/
  | drop
  /-- Produces nothing for files of one radar. -/
  | dropSource (source : String)
  /-- Puts a file with a given content in place of every file. -/
  | replace (content : String)
  | broken
  /-- Fails for a reason that names another decorator. -/
  | brokenInner
  deriving DecidableEq, Repr

namespace DecoratorScript

/-- The classes of rehearsed decorators. -/
def classes : List String := ["broken", "broken_inner", "drop", "drop_source", "keep", "replace"]

/-- The arguments of rehearsed decorators: a content and a source. -/
structure Arguments where
  content : Option String
  source : Option String

def Arguments.record : Record Arguments where
  name := "ScriptedDecoratorArguments"
  strict := true
  defaults := ⟨none, none⟩
  fields :=
    [ .defaulted "content" Codec.text.option Arguments.content
        (fun arguments content => { arguments with content }),
      .defaulted "source" Codec.text.option Arguments.source
        (fun arguments source => { arguments with source }) ]

/-- Reads the script of a decorator. -/
def ofArguments (className : String) (arguments : Json) : Except Error DecoratorScript := do
  let given ← Config.decodeArguments Arguments.record.codec className arguments
  return match className with
    | "drop" => drop
    | "drop_source" => dropSource (given.source.getD "")
    | "replace" => replace (given.content.getD "")
    | "broken" => broken
    | "broken_inner" => brokenInner
    | _ => keep

/-- What a decorator makes of a file. -/
def decorate (metadata : Metadata) : DecoratorScript → Except Error Decoration
  | keep => .ok .unchanged
  | drop => .ok .empty
  | dropSource source => .ok (if metadata.sourceName = source then .empty else .unchanged)
  | replace content => .ok (.replaced ⟨some content⟩)
  | broken => .error (.delivery "upstream" "cannot read file")
  | brokenInner => .error (.decoration "inner" "gave up")

end DecoratorScript

/-- What a rehearsed storage or processor does: whether it fails every time. -/
structure FailureScript where
  fails : Bool
  deriving DecidableEq, Repr

end RadarRelay.Rehearsal
