import RadarRelay.Delivery.TemporaryFile
import RadarRelay.Activity

/-!
# Chains of decorators

Before a file is queued, the decorators of a publication look at it one after
the other. Each may leave it, put another file in its place, produce nothing, or
fail. A chain owns the file that it is given: on every path that does not hand a
file back, the file is deleted.
-/

namespace RadarRelay

namespace Decorator

variable {State : Type}

/-- Applies one decorator. -/
def decorate (file : File) (metadata : Metadata) :
    Decorator → Activity State (Except Error Decoration)
  | staleFileBlocker greatestAge => do
      match metadata.nominalTime? with
      | none => return .ok .unchanged
      | some nominal =>
          let now ← Activity.request .now
          let stale := greatestAge.nanoseconds < (now.since nominal).nanoseconds
          return .ok (if stale then .empty else .unchanged)
  | external name serial => Activity.request (.decorate name serial file metadata)

/-- The error of a decorator that failed, unless its error says so already. -/
def failure (name : String) : Error → Error
  | .decoration inner reason => .decoration inner reason
  | error => .decoration name error.message

end Decorator

/-- One place in a chain. -/
structure Stage where
  decorator : Decorator
  /-- Whether producing nothing ends the delivery. -/
  allowDiscard : Bool
  deriving DecidableEq, Repr

/-- A file with its metadata. -/
structure Parcel where
  file : TemporaryFile
  metadata : Metadata
  deriving DecidableEq, Repr

namespace Stage

/-- What one place makes of a parcel: the parcel to go on with, or nothing. -/
def run (publication : String) (parcel : Parcel) (stage : Stage) :
    Activity Disk (Except Error (Option Parcel)) := do
  let name := stage.decorator.name
  let tell (event : String) (metadata : Metadata) : Activity Disk Unit :=
    Activity.note event "decorator_chain"
      [("publication", publication), ("decorator", name), ("file_id", metadata.fileId)]
  match ← stage.decorator.decorate parcel.file.file parcel.metadata with
  | .error error =>
      Activity.change fun disk => disk.delete parcel.file
      return .error (Decorator.failure name error)
  | .ok .unchanged => return .ok (some parcel)
  | .ok (.replaced content) =>
      let replacement ← Activity.atomically (Disk.replacement content)
      match ← Activity.request (.readMetadata replacement.file) with
      | .error error =>
          Activity.change fun disk => disk.deleteAll [replacement, parcel.file]
          return .error (Decorator.failure name error)
      | .ok metadata =>
          Activity.change fun disk => disk.delete parcel.file
          tell "decorator_replaced" metadata
          return .ok (some ⟨replacement, metadata⟩)
  | .ok .empty =>
      if stage.allowDiscard then
        tell "decorator_discard" parcel.metadata
        Activity.change fun disk => disk.delete parcel.file
        return .ok none
      else
        tell "decorator_empty_kept" parcel.metadata
        return .ok (some parcel)

/-- Runs a chain. The first place that fails or discards the file ends it. -/
def runAll (publication : String) (parcel : Parcel) :
    List Stage → Activity Disk (Except Error (Option Parcel))
  | [] => return .ok (some parcel)
  | stage :: stages => do
      match ← stage.run publication parcel with
      | .error error => return .error error
      | .ok none => return .ok none
      | .ok (some next) => runAll publication next stages

end Stage

end RadarRelay
