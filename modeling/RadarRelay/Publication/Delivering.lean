import RadarRelay.Publication.Basic

/-!
# Delivering queued files

A worker takes one file at a time, delivers it through the connection, deletes
it, and counts the result. A panic of a sender counts as a failure and does not
end the worker. Stopping a publication waits for its workers to leave, which each
of them does between two files.
-/

namespace RadarRelay.Publication

/-- Reports on one delivery. -/
def noteDelivery (publication : Publication) (metadata : Metadata) (event : String)
    (more : List (String × String)) : Activity Outbound Unit :=
  Activity.note event "delivery_worker"
    ([("publication", publication.name), ("file_id", metadata.fileId)] ++ more)

/-- Reports and counts how a delivery ended. -/
def settle (publication : Publication) (metadata : Metadata) :
    Reply → Activity Outbound Unit
  | .sent => do
      publication.noteDelivery metadata "delivery_ok" []
      Hook.incrementAll "delivery_worker" "" metadata publication.statisticsOk
  | .failed error => do
      publication.noteDelivery metadata "delivery_failed" [("err", error.message)]
      Hook.incrementAll "delivery_worker" "" metadata publication.statisticsError
  | .panicked reason => do
      publication.noteDelivery metadata "delivery_panicked" [("reason", reason)]
      Hook.incrementAll "delivery_worker" "" metadata publication.statisticsError

/-- Delivers a file that a worker has taken. -/
def deliver (publication : Publication) (parcel : Parcel) : Activity Outbound Unit := do
  publication.noteDelivery parcel.metadata "delivery_attempt"
    [("connection", publication.connection.kind)]
  let reply ← Outbound.onStorages
    (publication.connection.publish parcel.file.file parcel.metadata)
  Outbound.onDisk (Activity.change fun disk => disk.delete parcel.file)
  publication.settle parcel.metadata reply
  Outbound.onPool publication.id fun pool => ((), pool.finish parcel)

/-- A worker of a publication leaves. Abandoned files are deleted, and given back. -/
def dismiss (publication : Nat) (outbound : Outbound) : List Parcel × Outbound :=
  let (abandoned, pool) := (outbound.pool publication).leave
  let left := outbound.setPool publication pool
  (abandoned, { left with disk := left.disk.deleteAll (abandoned.map (·.file)) })

/-- One turn of a worker; says whether another one follows. The worker leaves when it has been told
to. Otherwise it waits for a file or for being told, and being told comes first when there are
both. -/
def work (publication : Publication) : Activity Outbound Bool := do
  if publication.isSignalled (← Activity.look) then
    let _ ← Activity.atomically (dismiss publication.id)
    return false
  else if publication.isSignalled (← Activity.look) then return true
  else
    match ← Outbound.onPool publication.id Pool.take with
    | some parcel =>
        publication.deliver parcel
        return true
    | none => return true

/-- Stops a publication and waits until its workers have left. Only the first call waits. -/
def stop (publication : Publication) : Activity Outbound Unit := do
  let outbound ← Activity.look
  Activity.note "publication_stop" "publication"
    [ ("publication", publication.name),
      ("queued", Number.natText (publication.queued outbound)) ]
  let first ← Outbound.onPool publication.id Pool.halt
  if first then
    Outbound.onPool publication.id fun pool => ((), pool.signal)
    Activity.request (.join publication.id)
  else return ()

end RadarRelay.Publication
