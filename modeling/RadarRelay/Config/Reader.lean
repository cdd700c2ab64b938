import RadarRelay.Config.Model
import RadarRelay.File
import RadarRelay.Json5.Reader

/-!
# Reading configuration texts

Configuration texts are JSON5. A text that is grammatical is then read into the
type that is asked for. Arguments of connections, senders and decorators are
read from the free-form value that a configuration keeps of them.
-/

namespace RadarRelay.Config

open RadarRelay.Document

/-- Reads a configuration text. Every fault is an error of the configuration, but one that stops
the program. -/
def parse {kind : Type} (codec : Codec kind) (text : String) : Except Failure kind :=
  match Json5.read? text with
  | none => .error (.config "json5 syntax error")
  | some outline =>
      match codec.decode .configuration outline with
      | .ok value => .ok value
      | .error .crash => .error .crash
      | .error fault => .error (.config fault.message)

/-- Reads the configuration text in a file. -/
def parseFile {kind : Type} (codec : Codec kind) (file : File) : Except Failure kind :=
  match file.content? with
  | some text => parse codec text
  | none => .error (.error .notFound)

/-- Reads the arguments of a connection, sender or decorator. Left out, they are an object without
fields. -/
def decodeArguments {kind : Type} (codec : Codec kind) (owner : String) (arguments : Json) :
    Except Error kind :=
  let given := if arguments.isNull then .object [] else arguments
  (codec.decode .value (.ofJson given)).mapError fun fault =>
    .config ("invalid arguments for '" ++ owner ++ "': " ++ fault.message)

/-- The arguments of a connection to one sender. -/
def oneSender : Record Sender where
  name := "SingleSenderArguments"
  strict := false
  defaults := ⟨"", none, .null⟩
  fields := [.needed "sender" Sender.record.codec id (fun _ sender => sender)]

/-- The arguments of a connection to several senders. -/
def severalSenders : Record (List Sender) where
  name := "MultiSenderArguments"
  strict := false
  defaults := []
  fields := [.needed "senders" Sender.record.codec.list id (fun _ senders => senders)]

/-- The arguments of a connection that combines others. -/
def nestedConnections : Record (List Connection) where
  name := "CombinedArguments"
  strict := false
  defaults := []
  fields := [.needed "connections" Connection.record.codec.list id (fun _ nested => nested)]

/-- The arguments of a sender into storages. -/
def storageNames : Record (List String) where
  name := "StorageSenderArguments"
  strict := true
  defaults := []
  fields := [.needed "file_storage" (.list .text) id (fun _ names => names)]

/-- The arguments of the decorator that blocks old files. -/
def greatestAge : Record Int where
  name := "StaleFileBlockerArguments"
  strict := true
  defaults := 0
  fields := [.needed "max_age_minutes" .int64 id (fun _ minutes => minutes)]

end RadarRelay.Config
