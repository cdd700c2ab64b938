import RadarRelay.Number.Decimal
import RadarRelay.Text.Quoted

/-!
# Errors

Everything that can go wrong while a node is configured, matches, stores and
delivers is one type of error. `message` is the wording that callers and logs
see; `report` is the form in which the command line shows the error that ends
it.
-/

namespace RadarRelay

open RadarRelay.Number RadarRelay.Text

inductive Error where
  | config (message : String)
  | duplicate (fileId : String)
  | lookup (message : String)
  | delivery (target reason : String)
  | failoverExhausted (failures : List Error)
  | queueFull (publication : String)
  | decoration (decorator reason : String)
  | storage (storage reason : String)
  | processing (processor reason : String)
  | statistics (hook reason : String)
  | evaluation (message : String)
  /-- The operating system refused to read or write a file. -/
  | io (reason : String)
  /-- A text is no JSON (`malformed`), or it is JSON of another shape than required. -/
  | json (malformed : Bool) (message : String)

namespace Error

instance : Inhabited Error := ⟨config ""⟩

/-- The wording of an error. -/
def message : Error → String
  | config message => "invalid configuration: " ++ message
  | duplicate fileId => "received duplicate ID:'" ++ fileId ++ "'"
  | lookup message => "lookup failed: " ++ message
  | delivery target reason => "delivery via '" ++ target ++ "' failed: " ++ reason
  | failoverExhausted failures =>
      "failed to publish using the failover connection (" ++ natText failures.length ++
        " senders failed)"
  | queueFull publication => "queue for publication '" ++ publication ++ "' is full"
  | decoration decorator reason => "decorator '" ++ decorator ++ "' failed: " ++ reason
  | storage name reason => "storage '" ++ name ++ "' failed: " ++ reason
  | processing processor reason => "processor '" ++ processor ++ "' failed: " ++ reason
  | statistics hook reason => "statistics hook '" ++ hook ++ "' failed: " ++ reason
  | evaluation message => "evaluation error: " ++ message
  | io reason => "I/O error: " ++ reason
  | json _ message => "JSON error: " ++ message

/-- Whether an error stands for one that a library reported. -/
def hasSource : Error → Bool
  | io _ => true
  | json _ _ => true
  | _ => false

/-- The error of a file that does not exist. -/
def notFound : Error := io "No such file or directory (os error 2)"

/-- The word for the kind of an error. -/
def kind : Error → String
  | config _ => "Config"
  | duplicate _ => "Duplicate"
  | lookup _ => "Lookup"
  | delivery _ _ => "Delivery"
  | failoverExhausted _ => "FailoverExhausted"
  | queueFull _ => "QueueFull"
  | decoration _ _ => "Decoration"
  | storage _ _ => "Storage"
  | processing _ _ => "Processing"
  | statistics _ _ => "Statistics"
  | evaluation _ => "Evaluation"
  | io _ => "Io"
  | json _ _ => "Json"

/-- Texts in a report with their names. -/
def reportFields (fields : List (String × String)) : String :=
  " \x7b " ++
    String.intercalate ", " (fields.map fun (name, value) => name ++ ": " ++ quoted value) ++
    " \x7d"

mutual

/-- The form in which the command line shows an error. -/
def report : Error → String
  | config message => "Config" ++ reportFields [("msg", message)]
  | duplicate fileId => "Duplicate" ++ reportFields [("file_id", fileId)]
  | lookup message => "Lookup" ++ reportFields [("msg", message)]
  | delivery target reason => "Delivery" ++ reportFields [("target", target), ("reason", reason)]
  | failoverExhausted failures =>
      "FailoverExhausted \x7b failures: [" ++ String.intercalate ", " (reports failures) ++
        "] \x7d"
  | queueFull publication => "QueueFull" ++ reportFields [("publication", publication)]
  | decoration decorator reason =>
      "Decoration" ++ reportFields [("decorator", decorator), ("reason", reason)]
  | storage name reason => "Storage" ++ reportFields [("storage", name), ("reason", reason)]
  | processing processor reason =>
      "Processing" ++ reportFields [("processor", processor), ("reason", reason)]
  | statistics hook reason => "Statistics" ++ reportFields [("hook", hook), ("reason", reason)]
  | evaluation message => "Evaluation" ++ reportFields [("msg", message)]
  | io _ => "Io(Os \x7b code: 2, kind: NotFound, message: \"No such file or directory\" \x7d)"
  | json _ _ => "Json"

@[inherit_doc report]
def reports : List Error → List String
  | [] => []
  | error :: errors => report error :: reports errors

end

end Error

/-- Why an operation has no result: an error that its caller can handle, or a crash, after which
the caller does not go on. -/
inductive Failure where
  | error (error : Error)
  | crash

instance : Inhabited Failure := ⟨.crash⟩

namespace Failure

/-- An error of the configuration. -/
def config (message : String) : Failure :=
  error (.config message)

/-- What may fail with an error only may also fail. -/
def ofError {result : Type} : Except Error result → Except Failure result
  | .ok value => .ok value
  | .error reason => .error (.error reason)

end Failure

end RadarRelay
