import RadarRelay.Check.CommandLine
import RadarRelay.Metadata.Document
import RadarRelay.Plugin.Registry
import RadarRelay.Rehearsal.Cast

/-!
# Checking configurations

A check reads configuration files as a node would, prints what they say, and
can build what a publication needs and evaluate filters for one file. A rule
with a fault is reported and the next one is checked; a fault of the node
configuration or of the metadata ends the check.
-/

namespace RadarRelay.Check

open RadarRelay.Number RadarRelay.Text

/-- What is printed about a file, and the fault that was found in it. -/
structure Findings where
  lines : List String
  fault? : Option Failure

namespace Findings

/-- Prints a line and goes on. -/
def cons (line : String) (findings : Findings) : Findings :=
  { findings with lines := line :: findings.lines }

/-- Nothing but a fault. -/
def fault (failure : Failure) : Findings := ⟨[], some failure⟩

end Findings

/-- A failed evaluation as an error. -/
def evaluationFailure : EvaluationFault → Failure
  | .crash => .crash
  | fault => .error (.evaluation fault.message)

/-- Findings about a filter, which is evaluated for a file if there is one. -/
def ofFilter (filter : Option Filter) (metadata : Option Metadata) : Findings :=
  let expression := (filter.getD .always).compile
  Findings.cons ("  filter: " ++ expression.render)
    (match metadata with
      | none => ⟨[], none⟩
      | some metadata =>
          match expression.evaluate metadata with
          | .ok value => ⟨["  evaluates to: " ++ value.render], none⟩
          | .error fault => .fault (evaluationFailure fault))

/-- A line about a node. -/
def nodeLine (path : String) (config : Config.Node) : String :=
  path ++ ": node '" ++ config.name ++ "' (handled_files_limit=" ++
    natText config.handledFilesLimit ++ ")"

/-- A line about a subscription. -/
def subscriptionLine (path : String) (config : Config.Subscription) : String :=
  path ++ ": subscription '" ++ config.id.getD "-" ++
    "' active=" ++ Event.boolText config.active ++
    " storages=" ++ quotedList config.storages ++
    " allow_duplicates=" ++ Event.boolText config.allowDuplicates ++
    " allowed_ids=" ++ quotedList config.allowedOrigins

/-- A line about a publication. -/
def publicationLine (path : String) (config : Config.Publication) : String :=
  path ++ ": publication '" ++ config.name ++
    "' active=" ++ Event.boolText config.active ++
    " origins=" ++ quotedList config.origins ++
    " connection=" ++ config.connection.className ++
    " decorators=" ++ natText config.decorators.length ++
    " threads=" ++ natText config.publisher.threads ++
    " queue_size=" ++ natText config.publisher.queueSize

/-- A line about what is built for a publication. -/
def pluginsLine (connection : Connection) (stages : List Stage) : String :=
  "  plugins: connection=" ++ connection.kind ++
    " senders=" ++ quotedList connection.senderIds ++
    " decorators=" ++ natText stages.length

variable {State : Type}

/-- Builds what a publication needs. -/
def buildPlugins (plugins : Plugins) (config : Config.Publication) :
    Activity State (Except Error String) := do
  match ← plugins.buildConnection config.connection with
  | .error error => return .error error
  | .ok connection =>
      return (← plugins.buildStages config.decorators).map (pluginsLine connection)

/-- Findings about a publication. -/
def ofPublication (plugins : Option Plugins) (metadata : Option Metadata) (path : String)
    (config : Config.Publication) : Activity State Findings := do
  match config.checkClass with
  | .error error => return .fault (.error error)
  | .ok () =>
      let filtered := ofFilter config.filter metadata
      let built ← match plugins with
        | none => pure filtered
        | some plugins => do
            match ← buildPlugins plugins config with
            | .error error => pure (.fault (.error error))
            | .ok line => pure (filtered.cons line)
      return built.cons (publicationLine path config)

/-- Findings about a configuration file. -/
def ofFile (plugins : Option Plugins) (metadata : Option Metadata) (path : String) (file : File) :
    Activity State Findings := do
  match Config.parseFile Config.Rule.codec file with
  | .error failure => return .fault failure
  | .ok (.subscription config) =>
      return (ofFilter config.filter metadata).cons (subscriptionLine path config)
  | .ok (.publication config) => ofPublication plugins metadata path config

/-- What a check prints, and how it ends. -/
structure Output where
  code : Nat
  lines : List String
  errors : List String
  deriving DecidableEq, Repr

namespace Output

/-- The end of a check. -/
def ofFailure : Failure → Output
  | .error error => ⟨1, [], ["Error: " ++ error.report]⟩
  | .crash => ⟨101, [], []⟩

/-- Prints lines and goes on. -/
def after (lines : List String) (output : Output) : Output :=
  { output with lines := lines ++ output.lines }

/-- The end of a check of as many files with so many faulty ones among them. -/
def ofCount (files faulty : Nat) : Output :=
  if faulty = 0 then ⟨0, [], []⟩
  else
    .ofFailure (.config (natText faulty ++ " of " ++ natText files ++
      " configuration files invalid"))

end Output

/-- Checks files one after the other; `faulty` of them have been found faulty before. A crash ends
the check. -/
def checkFiles (plugins : Option Plugins) (metadata : Option Metadata) (read : String → File)
    (all faulty : Nat) : List String → Activity State Output
  | [] => return .ofCount all faulty
  | path :: paths => do
      let findings ← ofFile plugins metadata path (read path)
      match findings.fault? with
      | none =>
          return (← checkFiles plugins metadata read all faulty paths).after findings.lines
      | some (.error error) =>
          let rest ← checkFiles plugins metadata read all (faulty + 1) paths
          return (rest.after [path ++ ": INVALID: " ++ error.message]).after findings.lines
      | some .crash => return (Output.ofFailure .crash).after findings.lines

/-- The metadata in a file. -/
def readMetadata (file : File) : Except Failure Metadata :=
  match file.content? with
  | some content => Failure.ofError (Metadata.read content)
  | none => .error (.error .notFound)

/-- Reads the file of an option that may have been left out. -/
def readOption {Result : Type} (path : Option String)
    (read : String → Except Failure Result) : Except Failure (Option Result) :=
  match path with
  | none => .ok none
  | some path => (read path).map some

/-- Checks what a command line names. -/
def check (read : String → File) (arguments : Arguments) : Activity State Output := do
  let named (path : String) : Except Failure String :=
    (Config.parseFile Config.Node.record.codec (read path)).map (nodeLine path)
  match readOption arguments.node named with
  | .error failure => return .ofFailure failure
  | .ok line =>
      match readOption arguments.metadata fun path => readMetadata (read path) with
      | .error failure => return (Output.ofFailure failure).after line.toList
      | .ok metadata =>
          let plugins := if arguments.checkPlugins then some Plugins.defaults else none
          let output ←
            checkFiles plugins metadata read arguments.files.length 0 arguments.files
          return output.after line.toList

/-- Runs a check where no collaborators are at hand. Ids are numbered from `firstId`. -/
def run (firstId : Nat) (read : String → File) (arguments : Arguments) : Output :=
  let nobody := Rehearsal.Cast.empty ⟨.epoch, .midnight⟩ []
  ((check read arguments).run Rehearsal.Cast.surroundings () { nobody with nextId := firstId }).1

end RadarRelay.Check
