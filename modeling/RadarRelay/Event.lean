import RadarRelay.Number.Decimal
import RadarRelay.Text.Quoted

/-!
# Events

What happens in a node is reported as events. An event has a name, the
component that it happened in, and named texts.
-/

namespace RadarRelay

open RadarRelay.Text

structure Event where
  name : String
  component : String
  fields : List (String × String)
  deriving DecidableEq, Repr

namespace Event

/-- A truth value in a field. -/
def boolText (value : Bool) : String :=
  if value then "true" else "false"

/-- The name of a thread that has none. -/
def unnamedThread : String := "unknown-thread"

/-- A worker as events know it. -/
structure Worker where
  id : String
  thread : String
  deriving DecidableEq, Repr

namespace Worker

/-- A worker on a thread that may have no name. -/
def onThread (id : String) (thread : Option String) : Worker :=
  ⟨id, thread.getD unnamedThread⟩

/-- A worker in a report. -/
def report (worker : Worker) : String :=
  "WorkerContext \x7b worker_id: " ++ quoted worker.id ++ ", worker_thread: " ++
    quoted worker.thread ++ " \x7d"

end Worker

end Event

end RadarRelay
