import RadarRelay.Node.Basic
import RadarRelay.Publication.Queueing

/-!
# Dispatching files

A file that is posted to a node is dispatched to every subscription that it is
meant for: it is stored, counted, published and processed. Nothing that fails on
the way keeps another collaborator from its turn, and nothing but a file without
metadata or a file seen before is reported to whoever posted it.
-/

namespace RadarRelay.Node

/-- The component that reports what is done here. -/
def component : String := "exchange_node"

/-- Hands a copy of a file to one publication if it is meant for it; says whether the publication
queued it. -/
def publishTo (origin : Option String) (file : File) (metadata : Metadata)
    (publication : Publication) : Activity Node Bool := do
  if ← publication.eligible origin metadata then
    let node ← Activity.look
    match ← Activity.request (.copy node.config.tmpFolder file) with
    | .error _ =>
        Activity.note "publication_copy_failed" component
          [("publication", publication.name), ("file_id", metadata.fileId)]
        return false
    | .ok content =>
        let copy ← onOutbound (Outbound.onDisk (Activity.atomically (Disk.copy content)))
        return (← onOutbound (publication.enqueue ⟨copy, metadata⟩)) == .queued
  else return false

/-- Hands a file to publications; gives the number of those that queued it. -/
def publishToAll (origin : Option String) (file : File) (metadata : Metadata) :
    List Publication → Activity Node Nat
  | [] => return 0
  | publication :: publications => do
      let queued ← publishTo origin file metadata publication
      let more ← publishToAll origin file metadata publications
      return (if queued then 1 else 0) + more

/-- Hands a file to every publication registered now. -/
def publish (origin : Option String) (file : File) (metadata : Metadata) : Activity Node Nat := do
  let node ← Activity.look
  let queued ← publishToAll origin file metadata node.registry.publications
  Activity.note "file_published" component
    [ ("subscription", Metadata.originText origin),
      ("file_id", metadata.fileId),
      ("queued", Number.natText queued) ]
  return queued

/-- Stores a file for a subscription in one storage. -/
def storeIn (subscription : Subscription) (file : File) (metadata : Metadata) (name : String) :
    Activity Node Unit := do
  match ← onStorages (StorageRegistry.store name file metadata) with
  | .ok () =>
      Activity.note "storage_store_ok" component
        [("subscription", subscription.shownId), ("storage", name)]
  | .error error =>
      Activity.note "storage_store_failed" component
        [ ("subscription", subscription.shownId),
          ("storage", name),
          ("file_id", metadata.fileId),
          ("err", error.message) ]

/-- Dispatches a file to a subscription that it is meant for. -/
def dispatch (file : File) (origin : String) (metadata : Metadata) (subscription : Subscription) :
    Activity Node Unit := do
  Activity.each (storeIn subscription file metadata) subscription.storages
  Hook.incrementAll component origin metadata subscription.statistics
  let _ ← publish subscription.id file metadata
  onProcessors (ProcessorRegistry.process file metadata)

/-- Dispatches a file to a subscription if it is meant for it. -/
def consider (file : File) (origin : String) (metadata : Metadata) (duplicate : Bool)
    (subscription : Subscription) : Activity Node Unit := do
  match ← subscription.skipReason? duplicate origin metadata with
  | some reason =>
      Activity.note "subscription_skipped" component
        [ ("subscription", subscription.shownId),
          ("file_id", metadata.fileId),
          ("reason", reason.text) ]
  | none =>
      Activity.note "subscription_matched" component
        [("subscription", subscription.shownId), ("file_id", metadata.fileId)]
      dispatch file origin metadata subscription

/-- Routes an accepted file. The subscriptions are those of the moment before the file is looked
up among the recent ones. -/
def route (file : File) (origin : String) (metadata : Metadata) :
    Activity Node (Except Error Metadata) := do
  let shown := ("origin", Metadata.originText (some origin))
  let fileId := ("file_id", metadata.fileId)
  Activity.note "file_received" component [shown, fileId]
  let node ← Activity.look
  Hook.incrementAll component origin metadata node.hooks.incoming
  let directory := (← Activity.look).directory
  let new ← remember metadata.fingerprint
  if !new then
    Hook.incrementAll component origin metadata node.hooks.duplicates
    Activity.note "file_duplicate" component [shown, fileId]
  if !new && !directory.anyAllowsDuplicates then
    return .error (.duplicate metadata.fileId)
  else
    Activity.each (consider file origin metadata !new) directory.subscriptions
    Hook.incrementAll component origin metadata node.hooks.fileHandling
    return .ok metadata

/-- Takes a file that an origin posts. Files that are too long are accepted and not routed. -/
def store (file : File) (origin : String) : Activity Node (Except Error Metadata) := do
  let shown := ("origin", Metadata.originText (some origin))
  match ← Activity.request (.readMetadata file) with
  | .error error =>
      Activity.note "file_rejected" component [shown, ("err", error.message)]
      return .error error
  | .ok metadata =>
      let node ← Activity.look
      match node.config.maxContentLength with
      | some longest =>
          if longest < metadata.fileSize then
            Activity.note "file_skipped_oversized" component
              [ shown,
                ("file_id", metadata.fileId),
                ("size", Number.natText metadata.fileSize),
                ("max_content_length", Number.natText longest) ]
            return .ok metadata
          else route file origin metadata
      | none => route file origin metadata

end RadarRelay.Node
