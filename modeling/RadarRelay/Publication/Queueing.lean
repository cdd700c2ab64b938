import RadarRelay.Publication.Basic

/-!
# Handing files to publications

A file that is handed to a publication passes its decorators and is then queued,
all without waiting. The publication owns the file from the start: whatever does
not end in the queue is deleted.
-/

namespace RadarRelay.Publication

/-- Reports a file that came too late. -/
def noteStopped (publication : Publication) (metadata : Metadata) : Activity Outbound Unit :=
  Activity.note "publication_enqueue_stopped" "publication"
    [ ("publication", publication.name),
      ("file_id", metadata.fileId),
      ("reason", "shutdown") ]

/-- Counts a file that will not be delivered. -/
def countError (publication : Publication) (metadata : Metadata) : Activity Outbound Unit :=
  Hook.incrementAll "publication" "" metadata publication.statisticsError

/-- Puts a decorated file into the queue. Whether the publication has been stopped is looked at
before; the queue itself may still be closed in between. -/
def offer (publication : Publication) (parcel : Parcel) : Activity Outbound Outcome := do
  let outbound ← Activity.look
  if publication.isStopped outbound then return .stopped
  else Outbound.onPool publication.id fun pool => pool.offer parcel

/-- Queues a decorated file, reports what became of it, and deletes it unless it waits now. -/
def queue (publication : Publication) (parcel : Parcel) : Activity Outbound Outcome := do
  let outcome ← publication.offer parcel
  match outcome with
  | .queued =>
      Activity.note "publication_enqueue_ok" "publication"
        [("publication", publication.name), ("file_id", parcel.metadata.fileId)]
  | .queueFull =>
      Outbound.onDisk (Activity.change fun disk => disk.delete parcel.file)
      Activity.note "publication_queue_full" "publication"
        [ ("publication", publication.name),
          ("file_id", parcel.metadata.fileId),
          ("capacity", Number.natText publication.capacity),
          ("err", (Error.queueFull publication.name).message) ]
      publication.countError parcel.metadata
  | _ =>
      Outbound.onDisk (Activity.change fun disk => disk.delete parcel.file)
      publication.noteStopped parcel.metadata
  return outcome

/-- Hands a file to a publication. -/
def enqueue (publication : Publication) (parcel : Parcel) : Activity Outbound Outcome := do
  let outbound ← Activity.look
  if publication.isStopped outbound then
    publication.noteStopped parcel.metadata
    Outbound.onDisk (Activity.change fun disk => disk.delete parcel.file)
    return .stopped
  else
    match ← Outbound.onDisk (Stage.runAll publication.name parcel publication.stages) with
    | .ok (some decorated) => publication.queue decorated
    | .ok none => return .discarded
    | .error error =>
        Activity.note "decorator_failed" "publication"
          [ ("publication", publication.name),
            ("file_id", parcel.metadata.fileId),
            ("err", error.message) ]
        publication.countError parcel.metadata
        return .decorationFailed

end RadarRelay.Publication
