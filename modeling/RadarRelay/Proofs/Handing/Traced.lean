import RadarRelay.Node.Dispatch
import RadarRelay.Proofs.Activity.Returning
import RadarRelay.Proofs.Delivery.Workforce

/-!
# Files on their way to a queue

A file that is published is copied for each publication that accepts it, and the
copy passes the decorators on its way to the queue. Recorded is what becomes of
the copy and of the files that take its place: when each of them is made, dropped
or offered to the queue, and what each publication answers in the end.
-/

namespace RadarRelay

open Activity

/-- What is recorded of files on their way. -/
inductive FileEntry where
  /-- A copy has been made and is handed to a publication. -/
  | given (publication : Publication) (parcel : Parcel)
  /-- A decorator has handed over a replacement. -/
  | produced (file : TemporaryFile)
  /-- The replacement is the file to go on with; the earlier one is deleted. -/
  | adopted
  /-- Whatever was still held is deleted. -/
  | dropped
  /-- The file was offered to the queue of a publication, with this outcome. -/
  | offered (publication : Nat) (parcel : Parcel) (outcome : Outcome)
  /-- A worker of a publication has done something. -/
  | worked (publication : Nat) (entry : DeliveryEntry)
  /-- The workers of a publication that was stopped have been waited for. -/
  | joined (publication : Nat)

/-- A trace is a record of files on their way and of what publications answer. -/
abbrev Traced (State Result : Type) :=
  Recorded State (Option Outcome × Option FileEntry) Result

namespace FileEntry

/-- What a queue is offered. -/
def ofOffer (publication : Nat) : DeliveryEntry → Option FileEntry
  | .answered parcel outcome => some (.offered publication parcel outcome)
  | _ => none

/-- The publication whose workers have been waited for. -/
def joined? : FileEntry → Option Nat
  | joined publication => some publication
  | _ => none

/-- What is known of a publication that is stopped. -/
def ofStop (publication : Nat) : DeliveryEntry → Option FileEntry
  | .joined => some (.joined publication)
  | _ => none

end FileEntry

/-- Deletes files. -/
def Disk.tracedDelete (files : List TemporaryFile) (entry : FileEntry) :
    Recorded Disk FileEntry Unit :=
  .atomically (fun disk => ((), disk.deleteAll files)) fun _ => some entry

@[simp] theorem Disk.plain_tracedDelete (files : List TemporaryFile) (entry : FileEntry) :
    (tracedDelete files entry).plain = Activity.change fun disk => disk.deleteAll files := rfl

/-! ## Decorating -/

namespace Stage

/-- `run` with its record. -/
def tracedRun (publication : String) (parcel : Parcel) (stage : Stage) :
    Recorded Disk FileEntry (Except Error (Option Parcel)) := do
  let name := stage.decorator.name
  let tell (event : String) (metadata : Metadata) : Recorded Disk FileEntry Unit :=
    .silent <| note event "decorator_chain"
      [("publication", publication), ("decorator", name), ("file_id", metadata.fileId)]
  match ← .silent (stage.decorator.decorate parcel.file.file parcel.metadata) with
  | .error error =>
      Disk.tracedDelete [parcel.file] .dropped
      return .error (Decorator.failure name error)
  | .ok .unchanged => return .ok (some parcel)
  | .ok (.replaced content) =>
      let replacement ← .atomically (Disk.replacement content) fun made => some (.produced made)
      match ← .silent (request (.readMetadata replacement.file)) with
      | .error error =>
          Disk.tracedDelete [replacement, parcel.file] .dropped
          return .error (Decorator.failure name error)
      | .ok metadata =>
          Disk.tracedDelete [parcel.file] .adopted
          tell "decorator_replaced" metadata
          return .ok (some ⟨replacement, metadata⟩)
  | .ok .empty =>
      if stage.allowDiscard then
        tell "decorator_discard" parcel.metadata
        Disk.tracedDelete [parcel.file] .dropped
        return .ok none
      else
        tell "decorator_empty_kept" parcel.metadata
        return .ok (some parcel)

/-- `runAll` with its record. -/
def tracedRunAll (publication : String) (parcel : Parcel) :
    List Stage → Recorded Disk FileEntry (Except Error (Option Parcel))
  | [] => return .ok (some parcel)
  | stage :: stages => do
      match ← stage.tracedRun publication parcel with
      | .error error => return .error error
      | .ok none => return .ok none
      | .ok (some next) => tracedRunAll publication next stages

theorem plain_tracedRun (publication : String) (parcel : Parcel) (stage : Stage) :
    (stage.tracedRun publication parcel).plain = stage.run publication parcel := by
  rw [tracedRun, run, Recorded.plain_bind, Recorded.plain_silent]
  congr 1; funext decoration
  cases decoration with
  | error error => rfl
  | ok decoration =>
      cases decoration with
      | unchanged => rfl
      | replaced content =>
          simp only [Recorded.plain_bind, Recorded.plain_atomically, Recorded.plain_silent]
          congr 1; funext replacement
          congr 1; funext answer
          cases answer with
          | error | ok => rfl
      | empty =>
          dsimp only
          split <;> rfl

theorem plain_tracedRunAll (publication : String) (parcel : Parcel) (stages : List Stage) :
    (tracedRunAll publication parcel stages).plain = runAll publication parcel stages := by
  induction stages generalizing parcel with
  | nil => rfl
  | cons stage stages ih =>
      rw [tracedRunAll, runAll, Recorded.plain_bind, plain_tracedRun]
      congr 1; funext result
      cases result with
      | error error => rfl
      | ok left =>
          cases left with
          | none => rfl
          | some next => exact ih next

end Stage

/-! ## Queueing -/

/-- A recorded activity over the disk alone. -/
def Outbound.tracedOnDisk {Entry Result : Type} (recorded : Recorded Disk Entry Result) :
    Recorded Outbound Entry Result :=
  recorded.within Outbound.disk fun outbound disk => { outbound with disk }

@[simp] theorem Outbound.plain_tracedOnDisk {Entry Result : Type}
    (recorded : Recorded Disk Entry Result) :
    (tracedOnDisk recorded).plain = onDisk recorded.plain :=
  Recorded.plain_within ..

namespace Publication

variable (publication : Publication) (parcel : Parcel)

/-- `queue` with its record. -/
def tracedQueue : Recorded Outbound FileEntry Outcome := do
  let outcome ← (publication.recordedOffer parcel).retell
    (FileEntry.ofOffer publication.id)
  match outcome with
  | .queued =>
      .silent <| note "publication_enqueue_ok" "publication"
        [("publication", publication.name), ("file_id", parcel.metadata.fileId)]
  | .queueFull =>
      Outbound.tracedOnDisk (Disk.tracedDelete [parcel.file] .dropped)
      .silent <| note "publication_queue_full" "publication"
        [ ("publication", publication.name),
          ("file_id", parcel.metadata.fileId),
          ("capacity", Number.natText publication.capacity),
          ("err", (Error.queueFull publication.name).message) ]
      .silent (publication.countError parcel.metadata)
  | _ =>
      Outbound.tracedOnDisk (Disk.tracedDelete [parcel.file] .dropped)
      .silent (publication.noteStopped parcel.metadata)
  return outcome

/-- `enqueue` with its record. -/
def tracedEnqueue : Recorded Outbound FileEntry Outcome := do
  let outbound ← .silent look
  if publication.isStopped outbound then
    .silent (publication.noteStopped parcel.metadata)
    Outbound.tracedOnDisk (Disk.tracedDelete [parcel.file] .dropped)
    return .stopped
  else
    match ← Outbound.tracedOnDisk
        (Stage.tracedRunAll publication.name parcel publication.stages) with
    | .ok (some decorated) => publication.tracedQueue decorated
    | .ok none => return .discarded
    | .error error =>
        .silent <| note "decorator_failed" "publication"
          [ ("publication", publication.name),
            ("file_id", parcel.metadata.fileId),
            ("err", error.message) ]
        .silent (publication.countError parcel.metadata)
        return .decorationFailed

theorem plain_tracedQueue : (publication.tracedQueue parcel).plain = publication.queue parcel := by
  rw [tracedQueue, queue, Recorded.plain_bind, Recorded.plain_retell, plain_recordedOffer]
  congr 1; funext outcome
  cases outcome with
  | queued => rfl
  | queueFull =>
      simp only [Recorded.plain_bind, Outbound.plain_tracedOnDisk, Disk.plain_tracedDelete,
        Recorded.plain_silent]
      rfl
  | discarded | decorationFailed | stopped =>
      simp only [Recorded.plain_bind, Outbound.plain_tracedOnDisk, Disk.plain_tracedDelete,
        Recorded.plain_silent]
      rfl

theorem plain_tracedEnqueue :
    (publication.tracedEnqueue parcel).plain = publication.enqueue parcel := by
  rw [tracedEnqueue, enqueue, Recorded.plain_bind, Recorded.plain_silent]
  congr 1; funext outbound
  split
  · simp only [Recorded.plain_bind, Recorded.plain_silent, Outbound.plain_tracedOnDisk,
      Disk.plain_tracedDelete]
    rfl
  · rw [Recorded.plain_bind, Outbound.plain_tracedOnDisk, Stage.plain_tracedRunAll]
    congr 1; funext result
    cases result with
    | error error =>
        simp only [Recorded.plain_bind, Recorded.plain_silent]
        rfl
    | ok left =>
        cases left with
        | none => rfl
        | some decorated => exact publication.plain_tracedQueue decorated

end Publication

/-! ## Publishing and dispatching -/

namespace Node

/-- A recorded activity over the outbound state alone. -/
def tracedOnOutbound {Entry Result : Type} (recorded : Recorded Outbound Entry Result) :
    Recorded Node Entry Result :=
  recorded.within Node.outbound fun node outbound => { node with outbound }

@[simp] theorem plain_tracedOnOutbound {Entry Result : Type}
    (recorded : Recorded Outbound Entry Result) :
    (tracedOnOutbound recorded).plain = onOutbound recorded.plain :=
  Recorded.plain_within ..

/-- Makes a copy of a file for a publication. -/
def tracedCopy (content : File) (metadata : Metadata) (publication : Publication) :
    Recorded Outbound FileEntry TemporaryFile :=
  .atomically (Outbound.makeFile true content)
    fun copy => some (.given publication ⟨copy, metadata⟩)

@[simp] theorem plain_tracedCopy (content : File) (metadata : Metadata)
    (publication : Publication) :
    (tracedCopy content metadata publication).plain =
      Outbound.onDisk (atomically (Disk.copy content)) := rfl

variable (file : File)

/-- `publishTo` with its record. -/
def tracedPublishTo (origin : Option String) (metadata : Metadata) (publication : Publication) :
    Traced Node Bool := do
  if ← .silent (publication.eligible origin metadata) then
    let node ← .silent look
    match ← .silent (request (.copy node.config.tmpFolder file)) with
    | .error _ =>
        .silent <| note "publication_copy_failed" component
          [("publication", publication.name), ("file_id", metadata.fileId)]
        return false
    | .ok content =>
        let copy ← tracedOnOutbound (tracedCopy content metadata publication).unreturned
        let answer ← tracedOnOutbound (publication.tracedEnqueue ⟨copy, metadata⟩).returning
        return answer == .queued
  else return false

/-- `publishToAll` with its record. -/
def tracedPublishToAll (origin : Option String) (metadata : Metadata) :
    List Publication → Traced Node Nat
  | [] => return 0
  | publication :: publications => do
      let queued ← tracedPublishTo file origin metadata publication
      let more ← tracedPublishToAll origin metadata publications
      return (if queued then 1 else 0) + more

/-- `publish` with its record. -/
def tracedPublish (origin : Option String) (metadata : Metadata) : Traced Node Nat := do
  let node ← .silent look
  let queued ← tracedPublishToAll file origin metadata node.registry.publications
  .silent <| note "file_published" component
    [ ("subscription", Metadata.originText origin),
      ("file_id", metadata.fileId),
      ("queued", Number.natText queued) ]
  return queued

variable (origin : String)

/-- `dispatch` with its record. -/
def tracedDispatch (metadata : Metadata) (subscription : Subscription) : Traced Node Unit := do
  .silent (each (storeIn subscription file metadata) subscription.storages)
  .silent (Hook.incrementAll component origin metadata subscription.statistics)
  let _ ← tracedPublish file subscription.id metadata
  .silent (onProcessors (ProcessorRegistry.process file metadata))

/-- `consider` with its record. -/
def tracedConsider (metadata : Metadata) (duplicate : Bool) (subscription : Subscription) :
    Traced Node Unit := do
  match ← .silent (subscription.skipReason? duplicate origin metadata) with
  | some reason =>
      .silent <| note "subscription_skipped" component
        [ ("subscription", subscription.shownId),
          ("file_id", metadata.fileId),
          ("reason", reason.text) ]
  | none =>
      .silent <| note "subscription_matched" component
        [("subscription", subscription.shownId), ("file_id", metadata.fileId)]
      tracedDispatch file origin metadata subscription

/-- `route` with its record. -/
def tracedRoute (metadata : Metadata) : Traced Node (Except Error Metadata) := do
  let shown := ("origin", Metadata.originText (some origin))
  let fileId := ("file_id", metadata.fileId)
  .silent <| note "file_received" component [shown, fileId]
  let node ← .silent look
  .silent (Hook.incrementAll component origin metadata node.hooks.incoming)
  let directory := (← .silent look).directory
  let new ← .silent (remember metadata.fingerprint)
  if !new then
    .silent (Hook.incrementAll component origin metadata node.hooks.duplicates)
    .silent <| note "file_duplicate" component [shown, fileId]
  if !new && !directory.anyAllowsDuplicates then
    return .error (.duplicate metadata.fileId)
  else
    .each (tracedConsider file origin metadata !new) directory.subscriptions
    .silent (Hook.incrementAll component origin metadata node.hooks.fileHandling)
    return .ok metadata

/-- `store` with its record. -/
def tracedStore : Traced Node (Except Error Metadata) := do
  let shown := ("origin", Metadata.originText (some origin))
  match ← .silent (request (.readMetadata file)) with
  | .error error =>
      .silent <| note "file_rejected" component [shown, ("err", error.message)]
      return .error error
  | .ok metadata =>
      let node ← .silent look
      match node.config.maxContentLength with
      | some longest =>
          if longest < metadata.fileSize then
            .silent <| note "file_skipped_oversized" component
              [ shown,
                ("file_id", metadata.fileId),
                ("size", Number.natText metadata.fileSize),
                ("max_content_length", Number.natText longest) ]
            return .ok metadata
          else tracedRoute file origin metadata
      | none => tracedRoute file origin metadata

/-! ### Without the record -/

theorem plain_tracedPublishTo (subscription : Option String) (metadata : Metadata)
    (publication : Publication) :
    (tracedPublishTo file subscription metadata publication).plain =
      publishTo subscription file metadata publication := by
  rw [tracedPublishTo, publishTo, Recorded.plain_bind, Recorded.plain_silent]
  congr 1; funext accepted
  cases accepted with
  | false => rfl
  | true =>
      simp only [if_true, Recorded.plain_bind, Recorded.plain_silent]
      congr 1; funext node
      congr 1; funext answer
      cases answer with
      | error error => rfl
      | ok content =>
          simp only [Recorded.plain_bind, plain_tracedOnOutbound, Recorded.plain_unreturned,
            plain_tracedCopy, Recorded.plain_returning, Publication.plain_tracedEnqueue]
          rfl

theorem plain_tracedPublishToAll (subscription : Option String) (metadata : Metadata)
    (publications : List Publication) :
    (tracedPublishToAll file subscription metadata publications).plain =
      publishToAll subscription file metadata publications := by
  induction publications with
  | nil => rfl
  | cons publication publications ih =>
      simp only [tracedPublishToAll, publishToAll, Recorded.plain_bind, plain_tracedPublishTo, ih]
      rfl

theorem plain_tracedPublish (subscription : Option String) (metadata : Metadata) :
    (tracedPublish file subscription metadata).plain = publish subscription file metadata := by
  simp only [tracedPublish, publish, Recorded.plain_bind, Recorded.plain_silent,
    plain_tracedPublishToAll]
  rfl

theorem plain_tracedDispatch (metadata : Metadata) (subscription : Subscription) :
    (tracedDispatch file origin metadata subscription).plain =
      dispatch file origin metadata subscription := by
  simp only [tracedDispatch, dispatch, Recorded.plain_bind, Recorded.plain_silent,
    plain_tracedPublish]

theorem plain_tracedConsider (metadata : Metadata) (duplicate : Bool)
    (subscription : Subscription) :
    (tracedConsider file origin metadata duplicate subscription).plain =
      consider file origin metadata duplicate subscription := by
  rw [tracedConsider, consider, Recorded.plain_bind, Recorded.plain_silent]
  congr 1; funext reason
  cases reason with
  | some reason => rfl
  | none => rw [Recorded.plain_bind, plain_tracedDispatch]; rfl

theorem plain_tracedRoute (metadata : Metadata) :
    (tracedRoute file origin metadata).plain = route file origin metadata := by
  simp only [tracedRoute, route, Recorded.plain_bind, Recorded.plain_silent]
  congr 1; funext _
  congr 1; funext node
  congr 1; funext _
  congr 1; funext later
  congr 1; funext new
  cases new with
  | true =>
      simp only [Bool.not_true, Bool.false_eq_true, if_false, Bool.false_and, Recorded.plain_bind,
        Recorded.plain_each, plain_tracedConsider, Recorded.plain_silent, Recorded.plain_pure]
  | false =>
      simp only [Bool.not_false, if_true, Bool.true_and, Recorded.plain_bind,
        Recorded.plain_silent]
      congr 1; funext _
      congr 1; funext _
      split
      · rfl
      · simp only [Recorded.plain_bind, Recorded.plain_each, plain_tracedConsider,
          Recorded.plain_silent, Recorded.plain_pure]

theorem plain_tracedStore : (tracedStore file origin).plain = store file origin := by
  rw [tracedStore, store, Recorded.plain_bind, Recorded.plain_silent]
  congr 1; funext answer
  cases answer with
  | error error => rfl
  | ok metadata =>
      rw [Recorded.plain_bind, Recorded.plain_silent]
      congr 1; funext node
      cases node.config.maxContentLength with
      | none => exact plain_tracedRoute file origin metadata
      | some longest =>
          dsimp only
          split
          · rfl
          · exact plain_tracedRoute file origin metadata

end Node

end RadarRelay
