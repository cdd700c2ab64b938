import RadarRelay.Document.Record
import RadarRelay.Error
import RadarRelay.Filter.Tree
import RadarRelay.Statistics.Counter
import RadarRelay.Text.Split

/-!
# Configuration

What a node and its routing rules can be told. Each type comes with the
description of its form in a document. Arguments of connections, senders and
decorators are free-form; whoever is built from them says what they have to
look like.
-/

namespace RadarRelay.Config

open RadarRelay.Document RadarRelay.Text

/-- The last part of a class name with dots. -/
def shortClass (name : String) : String :=
  lastPiece '.' name

def modeCodec : Codec CountMode :=
  .variant (CountMode.all.map fun mode => (mode.name, mode)) CountMode.name

/-- Where and what to count. -/
structure Statistics where
  id : String
  mode : CountMode
  deriving DecidableEq, Repr

def Statistics.record : Record Statistics where
  name := "StatisticsConfig"
  strict := true
  defaults := ⟨"", .count⟩
  fields :=
    [ .needed "id" .text Statistics.id (fun config id => { config with id }),
      .defaulted "type" modeCodec Statistics.mode (fun config mode => { config with mode }) ]

def Statistics.codec : Codec Statistics := record.codec

/-- Statistics of a node: of every accepted file, of every file seen before, and of every
completed dispatch. -/
structure NodeStatistics where
  incoming : Option Statistics
  duplicates : Option Statistics
  fileHandling : Option Statistics

def NodeStatistics.record : Record NodeStatistics where
  name := "NodeStatisticsConfig"
  strict := true
  defaults := ⟨none, none, none⟩
  fields :=
    [ .defaulted "incoming" Statistics.codec.option NodeStatistics.incoming
        (fun config incoming => { config with incoming }),
      .defaulted "duplicates" Statistics.codec.option NodeStatistics.duplicates
        (fun config duplicates => { config with duplicates }),
      .defaulted "file_handling" Statistics.codec.option NodeStatistics.fileHandling
        (fun config fileHandling => { config with fileHandling }) ]

structure Node where
  name : String
  /-- Longer files are accepted but not routed. -/
  maxContentLength : Option Nat
  /-- How many files are remembered as handled. -/
  handledFilesLimit : Nat
  /-- Where copies of files are made; the system's folder when there is none. -/
  tmpFolder : Option String
  statistics : NodeStatistics

def Node.record : Record Node where
  name := "NodeConfig"
  strict := true
  defaults := ⟨"", none, 500, none, ⟨none, none, none⟩⟩
  fields :=
    [ .needed "node_name" .text Node.name (fun config name => { config with name }),
      .defaulted "max_content_length" (Codec.natural "u64").option Node.maxContentLength
        (fun config maxContentLength => { config with maxContentLength }),
      .defaulted "handled_files_limit" (.natural "usize") Node.handledFilesLimit
        (fun config handledFilesLimit => { config with handledFilesLimit }),
      .defaulted "tmp_folder" Codec.path.option Node.tmpFolder
        (fun config tmpFolder => { config with tmpFolder }),
      .defaulted "statistics" NodeStatistics.record.codec Node.statistics
        (fun config statistics => { config with statistics }) ]

/-- A fault of a filter, where a decoder meets one. -/
def filterCodec : Codec Filter where
  decode dialect outline := do
    let value ← Codec.json.decode dialect outline
    (Filter.ofJson value).mapError fun fault => .refused fault.error.message
  encode := Filter.toJson

structure Subscription where
  id : Option String
  active : Bool
  storages : List String
  filter : Option Filter
  allowDuplicates : Bool
  /-- Origins that may feed the subscription; all when there are none. -/
  allowedOrigins : List String
  statistics : List Statistics

def Subscription.record : Record Subscription where
  name := "SubscriptionConfig"
  strict := true
  defaults := ⟨none, true, [], none, false, [], []⟩
  fields :=
    [ .defaulted "id" Codec.text.option Subscription.id (fun config id => { config with id }),
      .defaulted "active" .bool Subscription.active (fun config active => { config with active }),
      .defaulted "storage" (.oneOrMany .text) Subscription.storages
        (fun config storages => { config with storages }),
      .defaulted "filter" filterCodec.option Subscription.filter
        (fun config filter => { config with filter }),
      .defaulted "allow_duplicates" .bool Subscription.allowDuplicates
        (fun config allowDuplicates => { config with allowDuplicates }),
      .defaulted "allowed_ids" (.list .text) Subscription.allowedOrigins
        (fun config allowedOrigins => { config with allowedOrigins }),
      .defaulted "statdef" (.oneOrMany Statistics.codec) Subscription.statistics
        (fun config statistics => { config with statistics }) ]

structure Decorator where
  name : String
  /-- Whether a decorator that produces nothing ends the delivery. -/
  allowDiscard : Bool
  arguments : Json

def Decorator.record : Record Decorator where
  name := "DecoratorConfig"
  strict := true
  defaults := ⟨"", false, .null⟩
  fields :=
    [ .needed "decorator" .text Decorator.name (fun config name => { config with name }),
      .defaulted "allow_discard" .bool Decorator.allowDiscard
        (fun config allowDiscard => { config with allowDiscard }),
      .defaulted "arguments" .json Decorator.arguments
        (fun config arguments => { config with arguments }) ]

structure Connection where
  className : String
  arguments : Json

instance : Inhabited Connection := ⟨⟨"", .null⟩⟩

def Connection.record : Record Connection where
  name := "ConnectionConfig"
  strict := true
  defaults := ⟨"", .null⟩
  fields :=
    [ .needed "class" .text Connection.className
        (fun config className => { config with className }),
      .defaulted "arguments" .json Connection.arguments
        (fun config arguments => { config with arguments }) ]

structure Sender where
  className : String
  id : Option String
  arguments : Json

def Sender.record : Record Sender where
  name := "SenderConfig"
  strict := true
  defaults := ⟨"", none, .null⟩
  fields :=
    [ .needed "class" .text Sender.className (fun config className => { config with className }),
      .defaulted "id" Codec.text.option Sender.id (fun config id => { config with id }),
      .defaulted "arguments" .json Sender.arguments
        (fun config arguments => { config with arguments }) ]

/-- How a publication delivers. -/
structure Publisher where
  threads : Nat
  queueSize : Nat
  statisticsOk : Option Statistics
  statisticsError : Option Statistics

def Publisher.defaults : Publisher := ⟨1, 100, none, none⟩

def Publisher.record : Record Publisher where
  name := "PublisherArguments"
  strict := true
  defaults := Publisher.defaults
  fields :=
    [ .defaulted "threads" (.natural "usize") Publisher.threads
        (fun config threads => { config with threads }),
      .defaulted "queue_size" (.natural "usize") Publisher.queueSize
        (fun config queueSize => { config with queueSize }),
      .defaulted "statistics_ok" Statistics.codec.option Publisher.statisticsOk
        (fun config statisticsOk => { config with statisticsOk }),
      .defaulted "statistics_error" Statistics.codec.option Publisher.statisticsError
        (fun config statisticsError => { config with statisticsError }) ]

structure Publication where
  name : String
  className : Option String
  active : Bool
  /-- Subscriptions whose files are accepted; all when there are none. -/
  origins : List String
  filter : Option Filter
  decorators : List Decorator
  connection : Connection
  publisher : Publisher

def Publication.record : Record Publication where
  name := "PublicationConfig"
  strict := true
  defaults := ⟨"unknown", none, false, [], none, [], default, .defaults⟩
  fields :=
    [ .defaulted "name" .text Publication.name (fun config name => { config with name }),
      .defaulted "class" Codec.text.option Publication.className
        (fun config className => { config with className }),
      .defaulted "active" .bool Publication.active (fun config active => { config with active }),
      .defaulted "subscription_origin" (.oneOrMany .text) Publication.origins
        (fun config origins => { config with origins }),
      .defaulted "filter" filterCodec.option Publication.filter
        (fun config filter => { config with filter }),
      .defaulted "decorators" Decorator.record.codec.list Publication.decorators
        (fun config decorators => { config with decorators }),
      .needed "connection" Connection.record.codec Publication.connection
        (fun config connection => { config with connection }),
      .defaulted "extra_arguments" Publisher.record.codec Publication.publisher
        (fun config publisher => { config with publisher }) ]

/-- Only the standard publisher exists. -/
def Publication.checkClass (config : Publication) : Except Error Unit :=
  match config.className with
  | none => .ok ()
  | some className =>
      if shortClass className = "standard_publisher" then .ok ()
      else
        .error (.config ("publication '" ++ config.name ++
          "' uses unsupported publisher class '" ++ className ++ "'"))

/-- One routing rule, which is what a configuration file holds. -/
inductive Rule where
  | subscription (config : Subscription)
  | publication (config : Publication)

namespace Rule

/-- What a rule may be. -/
def kinds : List String := ["subscription", "publication"]

/-- Reads a rule from the first field of an object. The mere name of a kind is a crash. -/
def decode : Decoder Rule
  | _, .string _ spelling => do
      let name ← readSpelling spelling
      if kinds.contains name then throw .crash else throw (.unknownVariant name kinds)
  | _, .object _ [] => throw .emptyObject
  | dialect, .object _ ((spelling, content) :: _) => do
      match ← readSpelling spelling with
      | "subscription" => return subscription (← Subscription.record.decode dialect content)
      | "publication" => return publication (← Publication.record.decode dialect content)
      | name => throw (.unknownVariant name kinds)
  | _, _ => throw .notVariant

def codec : Codec Rule where
  decode := decode
  encode
    | subscription config => .object [("subscription", Subscription.record.codec.encode config)]
    | publication config => .object [("publication", Publication.record.codec.encode config)]

end Rule

end RadarRelay.Config
