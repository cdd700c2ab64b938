import RadarRelay.Proofs.Activity.Carried
import RadarRelay.Proofs.Delivery.Ledger
import RadarRelay.Proofs.Handing.Reach
import RadarRelay.Proofs.Handing.Traced
import RadarRelay.Proofs.Routing.Traffic
import RadarRelay.Proofs.Rules.AllOrNothing

/-!
# Who holds temporary files

A file that is made belongs to whoever runs an enqueue, then to a queue, then to a
worker. Where a member of a node's crew stands tells what it holds; the protocol
says which step may follow, and what it does to the files that exist and to those
that wait in queues.
-/

namespace RadarRelay

open Activity

/-! ## Standing -/

/-- What a running enqueue holds. -/
inductive Holding where
  | nothing
  | file (current : TemporaryFile)
  /-- The replacement has just been produced; it is not known yet whether it can be used. -/
  | replacing (current replacement : TemporaryFile)
  deriving DecidableEq

namespace Holding

/-- The files that are held. -/
def files : Holding → List TemporaryFile
  | nothing => []
  | file current => [current]
  | replacing current replacement => [replacement, current]

/-- A replacement has been produced. -/
def produce (replacement : TemporaryFile) : Holding → Holding
  | file current => replacing current replacement
  | other => other

/-- The replacement is the file to go on with. -/
def adopt : Holding → Holding
  | replacing _ replacement => file replacement
  | other => other

end Holding

/-- What is known of the latest copy that somebody handed to a publication. -/
structure Handling where
  /-- The copy and all files that have taken its place. -/
  seen : List TemporaryFile
  holding : Holding
  /-- What was queued, with the number of its publication. -/
  queued : Option (Nat × Parcel)
  deriving DecidableEq

namespace Handling

/-- Nothing has been handed to a publication yet. -/
def new : Handling := ⟨[], .nothing, none⟩

/-- Where an entry takes whoever leaves it. -/
def after (handling : Handling) : FileEntry → Handling
  | .given _ parcel => ⟨[parcel.file], .file parcel.file, none⟩
  | .produced file =>
      { handling with seen := file :: handling.seen, holding := handling.holding.produce file }
  | .adopted => { handling with holding := handling.holding.adopt }
  | .dropped => { handling with holding := .nothing }
  | .offered publication parcel .queued =>
      { handling with holding := .nothing, queued := some (publication, parcel) }
  | _ => handling

end Handling

/-- Where a member of a node's crew stands. -/
inductive Holder where
  | worker (publication : Nat) (standing : Standing)
  | caller (handling : Handling)

namespace Holder

/-- Where an entry takes whoever leaves it. -/
def after : Holder → FileEntry → Holder
  | worker publication _, .worked _ entry => worker publication (.after entry)
  | caller handling, entry => caller (handling.after entry)
  | holder, _ => holder

/-- Who runs an enqueue holds this, and has not queued anything. -/
def Holds (holding : Holding) : Holder → Prop
  | worker _ _ => False
  | caller handling => handling.holding = holding ∧ handling.queued = none

/-- An enqueue that returns holds nothing any more, and has queued a file exactly if it says so. -/
def Returns : Holder → Outcome → Prop
  | worker _ _, _ => False
  | caller handling, outcome =>
      handling.holding = .nothing ∧ (outcome = .queued ↔ handling.queued.isSome = true)

/-- Who does not run an enqueue holds nothing. -/
def Rests : Holder → Prop
  | worker _ _ => False
  | caller handling => handling.holding = .nothing

/-- How a turn may end. -/
def Ends : Holder → Bool → Prop
  | worker _ standing, again => Publication.TurnEnds standing again
  | caller handling, _ => handling.holding = .nothing

end Holder

/-! ## Steps -/

/-- What delivery changes, as far as temporary files are concerned. -/
def Outbound.stock (outbound : Outbound) : List (List Parcel × Nat × Bool) × Disk :=
  (outbound.pools.map fun pool => (pool.queue, pool.workers, pool.closed), outbound.disk)

/-- What a caller may do to the disk. -/
inductive DiskStep : Holder → Disk → Option FileEntry → Disk → Prop where
  | silent {holder : Holder} {disk : Disk} : DiskStep holder disk none disk
  | given {handling : Handling} {disk : Disk} (publication : Publication) (content : File)
      (metadata : Metadata) :
      handling.holding = .nothing →
      DiskStep (.caller handling) disk
        (some (.given publication ⟨(disk.copy content).1, metadata⟩)) (disk.copy content).2
  | produced {handling : Handling} {disk : Disk} {current : TemporaryFile} (content : File) :
      handling.holding = .file current →
      DiskStep (.caller handling) disk (some (.produced (disk.replacement content).1))
        (disk.replacement content).2
  | adopted {handling : Handling} {disk : Disk} {current replacement : TemporaryFile} :
      handling.holding = .replacing current replacement →
      DiskStep (.caller handling) disk (some .adopted) (disk.deleteAll [current])
  | dropped {handling : Handling} {disk : Disk} :
      DiskStep (.caller handling) disk (some .dropped) (disk.deleteAll handling.holding.files)

/-- Which step may follow where a member stands, and what it does. -/
inductive FileStep : Holder → Outbound → Option FileEntry → Outbound → Prop where
  | silent {holder : Holder} {outbound after : Outbound} :
      after.stock = outbound.stock → FileStep holder outbound none after
  | worked {publication : Nat} {standing : Standing} {outbound after : Outbound}
      {entry : Option DeliveryEntry} :
      standing.works = true →
      DeliveryStep publication standing outbound entry after →
      FileStep (.worker publication standing) outbound (entry.map (.worked publication)) after
  | onDisk {holder : Holder} {outbound : Outbound} {entry : Option FileEntry} {disk : Disk} :
      DiskStep holder outbound.disk entry disk →
      FileStep holder outbound entry { outbound with disk }
  | turnedAway {handling : Handling} {outbound : Outbound} (publication : Nat) {parcel : Parcel} :
      handling.holding = .file parcel.file →
      FileStep (.caller handling) outbound (some (.offered publication parcel .stopped)) outbound
  | offered {handling : Handling} {outbound : Outbound} (publication : Nat) {parcel : Parcel} :
      handling.holding = .file parcel.file → handling.queued = none →
      FileStep (.caller handling) outbound
        (some (.offered publication parcel ((outbound.pool publication).offer parcel).1))
        (outbound.setPool publication ((outbound.pool publication).offer parcel).2)
  | joined {handling : Handling} {outbound : Outbound} (publication : Nat) :
      (outbound.pool publication).workers = 0 →
      FileStep (.caller handling) outbound (some (.joined publication)) outbound

/-- What a member keeps to on the disk. -/
def diskProtocol (start : Nat → Holder) : Protocol Disk FileEntry Holder where
  start
  advance := Holder.after
  Allows := DiskStep
  Ends := Holder.Ends

/-- What a member keeps to. -/
def fileProtocol (start : Nat → Holder) : Protocol Outbound FileEntry Holder where
  start
  advance := Holder.after
  Allows := FileStep
  Ends := Holder.Ends

/-- What a member of a node's crew keeps to. -/
def Node.fileProtocol (start : Nat → Holder) :
    Protocol Node (Option Outcome × Option FileEntry) Holder :=
  ((RadarRelay.fileProtocol start).returning Holder.Returns).onPart Node.outbound

/-- Who waits for workers of a node waits until none is left; nothing else waits. -/
def Node.waiting (request : Request) (node : Node) : Bool :=
  Outbound.ready request node.outbound

/-! ## Decorating -/

variable {start : Nat → Holder} {holder : Holder} {Result : Type}

/-- Who runs an enqueue holds the file that is left, if any. -/
def Holder.Decorated (holder : Holder) : Except Error (Option Parcel) → Prop
  | .ok (some parcel) => holder.Holds (.file parcel.file)
  | _ => holder.Holds .nothing

namespace Stage

variable {ready : Request → Disk → Bool}

theorem follows_keeping {activity : Activity Disk Result} (kept : activity.Keeps id) :
    (Recorded.silent activity).Follows (diskProtocol start) ready
      (fun later _ => later = holder) holder := by
  apply Recorded.follows_silent kept
  intro disk after same
  rw [show after = disk from same]
  exact .silent

theorem follows_tracedDelete {files : List TemporaryFile} {entry : FileEntry}
    (allowed : ∀ disk, DiskStep holder disk (some entry) (disk.deleteAll files)) :
    (Disk.tracedDelete files entry).Follows (diskProtocol start) ready
      (fun later _ => later = holder.after entry) holder := by
  intro disk
  exact ⟨allowed disk, rfl⟩

/-- Of the file that is held and of its replacement, one is left at most. -/
theorem follows_tracedRun (publication : String) {parcel : Parcel} (stage : Stage)
    (holds : holder.Holds (.file parcel.file)) :
    (stage.tracedRun publication parcel).Follows (diskProtocol start) ready
      Holder.Decorated holder := by
  obtain ⟨⟩ | ⟨seen, holding, queued⟩ := holder
  · cases holds
  obtain ⟨rfl, rfl⟩ : holding = .file parcel.file ∧ queued = none := holds
  have dropped (disk : Disk) : DiskStep (.caller ⟨seen, .file parcel.file, none⟩) disk
      (some .dropped) (disk.deleteAll [parcel.file]) := .dropped
  apply Recorded.follows_bind_to (follows_keeping (keeps_decorate _ _ stage.decorator))
  intro decoration
  cases decoration with
  | error error =>
      apply Recorded.follows_bind_to (follows_tracedDelete dropped)
      intro _
      exact ⟨rfl, rfl⟩
  | ok decoration =>
      cases decoration with
      | unchanged => exact ⟨rfl, rfl⟩
      | replaced content =>
          refine Recorded.follows_bind_to
            (Recorded.follows_atomically fun _ => .produced content rfl) ?_
          intro replacement
          apply Recorded.follows_bind_to (follows_keeping (keeps_request _))
          intro answer
          cases answer with
          | error error =>
              refine Recorded.follows_bind_to (follows_tracedDelete fun _ => .dropped) ?_
              intro _
              exact ⟨rfl, rfl⟩
          | ok metadata =>
              refine Recorded.follows_bind_to (follows_tracedDelete fun _ => .adopted rfl) ?_
              intro _
              apply Recorded.follows_bind_to (follows_keeping (keeps_request _))
              intro _
              exact ⟨rfl, rfl⟩
      | empty =>
          dsimp only
          split
          · apply Recorded.follows_bind_to (follows_keeping (keeps_request _))
            intro _
            apply Recorded.follows_bind_to (follows_tracedDelete dropped)
            intro _
            exact ⟨rfl, rfl⟩
          · apply Recorded.follows_bind_to (follows_keeping (keeps_request _))
            intro _
            exact ⟨rfl, rfl⟩

/-- Whatever its places do, a chain leaves at most the file that it hands back. -/
theorem follows_tracedRunAll (publication : String) {parcel : Parcel} (stages : List Stage)
    (holds : holder.Holds (.file parcel.file)) :
    (tracedRunAll publication parcel stages).Follows (diskProtocol start) ready
      Holder.Decorated holder := by
  induction stages generalizing holder parcel with
  | nil => exact holds
  | cons stage stages ih =>
      apply Recorded.follows_bind (stage.follows_tracedRun publication holds)
      intro later result decorated
      cases result with
      | error error => exact decorated
      | ok left =>
          cases left with
          | none => exact decorated
          | some next => exact ih decorated

end Stage

/-! ## Queueing -/

namespace Publication

theorem stock_of_pools {outbound after : Outbound} (pools : after.pools = outbound.pools)
    (disk : after.disk = outbound.disk) : after.stock = outbound.stock := by
  rw [Outbound.stock, Outbound.stock, pools, disk]

theorem stock_setPool {outbound : Outbound} {publication : Nat} {pool : Pool}
    (queue : pool.queue = (outbound.pool publication).queue)
    (workers : pool.workers = (outbound.pool publication).workers)
    (closed : pool.closed = (outbound.pool publication).closed) :
    (outbound.setPool publication pool).stock = outbound.stock := by
  calc (outbound.setPool publication pool).stock
    _ = (outbound.setPool publication (outbound.pool publication)).stock := by
        simp only [Outbound.stock, Outbound.setPool, List.map_set, queue, workers, closed]
    _ = outbound.stock := by rw [Outbound.setPool_pool]

theorem follows_keepingStock {activity : Activity Outbound Result}
    (kept : activity.Keeps Outbound.stock) :
    (Recorded.silent activity).Follows (fileProtocol start) Outbound.ready
      (fun later _ => later = holder) holder :=
  Recorded.follows_silent kept fun _ _ same => .silent same

theorem follows_tracedOnDisk {ends : Holder → Result → Prop}
    {recorded : Recorded Disk FileEntry Result}
    (follows : recorded.Follows (diskProtocol start) (fun _ _ => true) ends holder) :
    (Outbound.tracedOnDisk recorded).Follows (fileProtocol start) Outbound.ready ends holder := by
  apply follows.within
  · intro outbound
    rfl
  · rfl
  · intro holder outbound entry disk allowed
    exact .onDisk allowed
  · intro request outbound _
    rfl

variable (publication : Publication) {parcel : Parcel}

theorem keeps_countError {View : Type} {view : Outbound → View} (metadata : Metadata) :
    (publication.countError metadata).Keeps view :=
  Hook.keeps_incrementAll ..

/-- Who runs an enqueue offers the file that it holds. -/
theorem follows_offer {seen : List TemporaryFile} :
    ((publication.recordedOffer parcel).retell (FileEntry.ofOffer publication.id)).Follows
      (fileProtocol start) Outbound.ready
      (fun later outcome => later = .caller
        (Handling.after ⟨seen, .file parcel.file, none⟩
          (.offered publication.id parcel outcome)))
      (.caller ⟨seen, .file parcel.file, none⟩) := by
  rw [recordedOffer, Recorded.retell_bind, Recorded.retell_look]
  refine Recorded.follows_bind_to (Recorded.follows_look fun outbound => ?_) ?_
  · split
    · exact .turnedAway publication.id rfl
    · exact .silent rfl
  · intro outbound
    by_cases stopped : publication.isStopped outbound = true
    · rw [if_pos stopped, if_pos stopped]
      rfl
    · rw [if_neg stopped, if_neg stopped]
      intro later
      exact ⟨.offered publication.id rfl rfl, rfl⟩

/-- Whatever is not queued is deleted. -/
theorem follows_tracedQueue (holds : holder.Holds (.file parcel.file)) :
    (publication.tracedQueue parcel).Follows (fileProtocol start) Outbound.ready
      Holder.Returns holder := by
  obtain ⟨⟩ | ⟨seen, holding, queued⟩ := holder
  · cases holds
  obtain ⟨rfl, rfl⟩ : holding = .file parcel.file ∧ queued = none := holds
  have deleted : (Outbound.tracedOnDisk (Disk.tracedDelete [parcel.file] .dropped)).Follows
      (fileProtocol start) Outbound.ready
      (fun later _ => later = .caller ⟨seen, .nothing, none⟩)
      (.caller ⟨seen, .file parcel.file, none⟩) :=
    follows_tracedOnDisk (Stage.follows_tracedDelete fun _ => .dropped)
  apply Recorded.follows_bind_to publication.follows_offer
  intro outcome
  cases outcome with
  | queued =>
      apply Recorded.follows_bind_to (follows_keepingStock (keeps_request _))
      intro _
      exact ⟨rfl, by simp [Handling.after]⟩
  | queueFull =>
      apply Recorded.follows_bind_to deleted
      intro _
      apply Recorded.follows_bind_to (follows_keepingStock (keeps_request _))
      intro _
      apply Recorded.follows_bind_to
        (follows_keepingStock (publication.keeps_countError parcel.metadata))
      intro _
      exact ⟨rfl, by simp⟩
  | discarded | decorationFailed | stopped =>
      apply Recorded.follows_bind_to deleted
      intro _
      apply Recorded.follows_bind_to (follows_keepingStock (keeps_request _))
      intro _
      exact ⟨rfl, by simp⟩

/-- An enqueue returns with nothing in hand, on whichever of its paths. -/
theorem follows_tracedEnqueue (holds : holder.Holds (.file parcel.file)) :
    (publication.tracedEnqueue parcel).Follows (fileProtocol start) Outbound.ready
      Holder.Returns holder := by
  apply Recorded.follows_bind_to (follows_keepingStock keeps_look)
  intro outbound
  by_cases stopped : publication.isStopped outbound = true
  · rw [if_pos stopped]
    obtain ⟨⟩ | ⟨seen, holding, queued⟩ := holder
    · cases holds
    obtain ⟨rfl, rfl⟩ : holding = .file parcel.file ∧ queued = none := holds
    apply Recorded.follows_bind_to (follows_keepingStock (keeps_request _))
    intro _
    refine Recorded.follows_bind_to
      (follows_tracedOnDisk (Stage.follows_tracedDelete fun _ => .dropped)) ?_
    intro _
    exact ⟨rfl, by simp [Handling.after]⟩
  · rw [if_neg stopped]
    apply Recorded.follows_bind
      (follows_tracedOnDisk (Stage.follows_tracedRunAll publication.name publication.stages holds))
    intro later result decorated
    cases result with
    | error error =>
        apply Recorded.follows_bind_to (follows_keepingStock (keeps_request _))
        intro _
        apply Recorded.follows_bind_to
          (follows_keepingStock (publication.keeps_countError parcel.metadata))
        intro _
        cases later with
        | worker => cases decorated
        | caller handling => exact ⟨decorated.1, by simp [decorated.2]⟩
    | ok left =>
        cases left with
        | none =>
            cases later with
            | worker => cases decorated
            | caller handling => exact ⟨decorated.1, by simp [decorated.2]⟩
        | some next => exact publication.follows_tracedQueue decorated

end Publication

/-! ## Publishing and dispatching -/

namespace Node

variable {node : Node}

/-- What delivery changes of a node, as far as temporary files are concerned. -/
def stock (node : Node) : List (List Parcel × Nat × Bool) × Disk :=
  node.outbound.stock

theorem follows_keepingStock {activity : Activity Node Result} (kept : activity.Keeps stock) :
    (Recorded.silent activity).Follows (Node.fileProtocol start) waiting
      (fun later _ => later = holder) holder :=
  Recorded.follows_silent kept fun _ _ same => ⟨.silent same, nofun⟩

theorem follows_tracedOnOutbound {ends : Holder → Result → Prop}
    {recorded : Recorded Outbound (Option Outcome × Option FileEntry) Result}
    (follows : recorded.Follows ((RadarRelay.fileProtocol start).returning Holder.Returns)
      Outbound.ready ends holder) :
    (tracedOnOutbound recorded).Follows (Node.fileProtocol start) waiting ends holder := by
  apply follows.within
  · intro node
    rfl
  · rfl
  · intro holder node entry outbound allowed
    exact allowed
  · intro request node answered
    exact answered

variable (file : File) (metadata : Metadata)

/-- A copy is made for a publication that accepts the file, and is taken care of. -/
theorem follows_tracedPublishTo (subscription : Option String) (publication : Publication)
    (rests : holder.Rests) :
    (tracedPublishTo file subscription metadata publication).Follows (Node.fileProtocol start)
      waiting (fun later _ => later.Rests) holder := by
  apply Recorded.follows_bind_to
    (follows_keepingStock (publication.keeps_eligible subscription metadata))
  intro accepted
  cases accepted with
  | false => exact rests
  | true =>
      apply Recorded.follows_bind_to (follows_keepingStock keeps_look)
      intro node
      apply Recorded.follows_bind_to (follows_keepingStock (keeps_request _))
      intro answer
      cases answer with
      | error error =>
          apply Recorded.follows_bind_to (follows_keepingStock (keeps_request _))
          intro _
          exact rests
      | ok content =>
          cases holder with
          | worker => cases rests
          | caller handling =>
          have made : (tracedCopy content metadata publication).Follows
              (RadarRelay.fileProtocol start) Outbound.ready
              (fun later copy => later = .caller ⟨[copy], .file copy, none⟩)
              (.caller handling) := by
            intro outbound
            exact ⟨.onDisk (.given publication content metadata rests), rfl⟩
          apply Recorded.follows_bind_to (follows_tracedOnOutbound made.unreturned)
          intro copy
          have handed : (publication.tracedEnqueue ⟨copy, metadata⟩).Follows
              (RadarRelay.fileProtocol start) Outbound.ready Holder.Returns
              (.caller ⟨[copy], .file copy, none⟩) :=
            publication.follows_tracedEnqueue ⟨rfl, rfl⟩
          apply Recorded.follows_bind (follows_tracedOnOutbound handed.returning)
          intro later outcome returned
          cases later with
          | worker => cases returned
          | caller later => exact returned.1

theorem follows_tracedPublishToAll (subscription : Option String)
    (publications : List Publication) (rests : holder.Rests) :
    (tracedPublishToAll file subscription metadata publications).Follows (Node.fileProtocol start)
      waiting (fun later _ => later.Rests) holder := by
  induction publications generalizing holder with
  | nil => exact rests
  | cons publication publications ih =>
      apply Recorded.follows_bind
        (follows_tracedPublishTo file metadata subscription publication rests)
      intro later _ rests
      apply Recorded.follows_bind (ih rests)
      intro last _ rests
      exact rests

theorem follows_tracedPublish (subscription : Option String) (rests : holder.Rests) :
    (tracedPublish file subscription metadata).Follows (Node.fileProtocol start) waiting
      (fun later _ => later.Rests) holder := by
  apply Recorded.follows_bind_to (follows_keepingStock keeps_look)
  intro node
  apply Recorded.follows_bind (follows_tracedPublishToAll file metadata subscription _ rests)
  intro later queued rests
  apply Recorded.follows_bind_to (follows_keepingStock (keeps_request _))
  intro _
  exact rests

theorem keeps_stock_onProcessors (activity : Activity ProcessorRegistry Result) :
    (onProcessors activity).Keeps stock := by
  rw [onProcessors]
  apply keeps_within
  intro node processors
  rfl

theorem keeps_stock_storeIn (subscription : Subscription) (name : String) :
    (storeIn subscription file metadata name).Keeps stock := by
  have stored : (onStorages (StorageRegistry.store name file metadata)).Keeps stock := by
    have inOutbound : (Outbound.onStorages (StorageRegistry.store name file metadata)).Keeps
        Outbound.stock := by
      rw [Outbound.onStorages]
      apply keeps_within
      intro outbound storages
      rfl
    exact inOutbound.within fun node outbound same => same
  apply keeps_bind stored
  intro answer
  cases answer with
  | ok | error => exact keeps_request _

variable (origin : String)

theorem follows_tracedDispatch (subscription : Subscription) (rests : holder.Rests) :
    (tracedDispatch file origin metadata subscription).Follows (Node.fileProtocol start) waiting
      (fun later _ => later.Rests) holder := by
  have stored := keeps_each (keeps_stock_storeIn file metadata subscription) subscription.storages
  apply Recorded.follows_bind_to (follows_keepingStock stored)
  intro _
  apply Recorded.follows_bind_to (follows_keepingStock (Hook.keeps_incrementAll ..))
  intro _
  apply Recorded.follows_bind (follows_tracedPublish file metadata subscription.id rests)
  intro later _ rests
  refine (follows_keepingStock (keeps_stock_onProcessors _)).mono ?_
  rintro _ _ rfl
  exact rests

theorem follows_tracedConsider (duplicate : Bool) (subscription : Subscription)
    (rests : holder.Rests) :
    (tracedConsider file origin metadata duplicate subscription).Follows (Node.fileProtocol start)
      waiting (fun later _ => later.Rests) holder := by
  apply Recorded.follows_bind_to
    (follows_keepingStock (subscription.keeps_skipReason? duplicate origin metadata))
  intro reason
  cases reason with
  | some reason =>
      refine (follows_keepingStock (keeps_request _)).mono ?_
      rintro _ _ rfl
      exact rests
  | none =>
      apply Recorded.follows_bind_to (follows_keepingStock (keeps_request _))
      intro _
      exact follows_tracedDispatch file metadata origin subscription rests

theorem follows_tracedRoute (rests : holder.Rests) :
    (tracedRoute file origin metadata).Follows (Node.fileProtocol start) waiting
      (fun later _ => later.Rests) holder := by
  apply Recorded.follows_bind_to (follows_keepingStock (keeps_request _))
  intro _
  apply Recorded.follows_bind_to (follows_keepingStock keeps_look)
  intro node
  apply Recorded.follows_bind_to (follows_keepingStock (Hook.keeps_incrementAll ..))
  intro _
  apply Recorded.follows_bind_to (follows_keepingStock keeps_look)
  intro later
  have remembered : (remember metadata.fingerprint).Keeps stock := fun _ => ⟨rfl, trivial⟩
  apply Recorded.follows_bind_to (follows_keepingStock remembered)
  intro new
  have served : ((do
      .each (tracedConsider file origin metadata (!new)) later.directory.subscriptions
      .silent (Hook.incrementAll component origin metadata node.hooks.fileHandling)
      return .ok metadata) : Traced Node (Except Error Metadata)).Follows
      (Node.fileProtocol start) waiting (fun later _ => later.Rests) holder := by
    refine Recorded.follows_bind (Recorded.follows_each_inside ?_ _ rests) ?_
    · intro subscription holder rests
      exact follows_tracedConsider file metadata origin (!new) subscription rests
    · intro last _ rests
      apply Recorded.follows_bind_to (follows_keepingStock (Hook.keeps_incrementAll ..))
      intro _
      exact rests
  cases new with
  | true => exact served
  | false =>
      apply Recorded.follows_bind_to (follows_keepingStock (Hook.keeps_incrementAll ..))
      intro _
      apply Recorded.follows_bind_to (follows_keepingStock (keeps_request _))
      intro _
      dsimp only
      split
      · exact rests
      · exact served

/-- Whoever posts a file holds nothing when it has been dispatched. -/
theorem follows_tracedStore (rests : holder.Rests) :
    (tracedStore file origin).Follows (Node.fileProtocol start) waiting
      (fun later _ => later.Rests) holder := by
  apply Recorded.follows_bind_to (follows_keepingStock (keeps_request _))
  intro answer
  cases answer with
  | error error =>
      apply Recorded.follows_bind_to (follows_keepingStock (keeps_request _))
      intro _
      exact rests
  | ok metadata =>
      apply Recorded.follows_bind_to (follows_keepingStock keeps_look)
      intro node
      cases node.config.maxContentLength with
      | none => exact follows_tracedRoute file metadata origin rests
      | some longest =>
          dsimp only
          split
          · apply Recorded.follows_bind_to (follows_keepingStock (keeps_request _))
            intro _
            exact rests
          · exact follows_tracedRoute file metadata origin rests

/-! ## Working and stopping -/

/-- One turn of a worker, with its record. -/
def tracedWork (publication : Publication) : Traced Node Bool :=
  tracedOnOutbound
    (publication.recordedWork.retell fun entry => some (.worked publication.id entry)).unreturned

/-- `stop` with its record. -/
def tracedStop (publication : Publication) : Traced Node Unit :=
  tracedOnOutbound
    (publication.recordedStop.retell (FileEntry.ofStop publication.id)).unreturned

theorem plain_tracedWork (publication : Publication) :
    (tracedWork publication).plain = onOutbound publication.work := by
  rw [tracedWork, plain_tracedOnOutbound, Recorded.plain_unreturned, Recorded.plain_retell,
    publication.plain_recordedWork]

theorem plain_tracedStop (publication : Publication) :
    (tracedStop publication).plain = onOutbound publication.stop := by
  rw [tracedStop, plain_tracedOnOutbound, Recorded.plain_unreturned, Recorded.plain_retell,
    publication.plain_recordedStop]

/-- A worker among others does what a worker of a single publication does. -/
theorem follows_tracedWork (publication : Publication) :
    (tracedWork publication).Follows (Node.fileProtocol start) waiting
      (fun later again => ∃ standing, later = .worker publication.id standing ∧
        Publication.TurnEnds standing again)
      (.worker publication.id .idle) := by
  have possible (request : Request) : ∃ outbound, Outbound.ready request outbound = true := by
    refine ⟨.empty, ?_⟩
    cases request <;> rfl
  have work : publication.recordedWork.Follows (publication.protocol 1) Outbound.ready
      Publication.TurnEnds .idle := Publication.follows_recordedWork
  have worked : (publication.recordedWork.retell fun entry =>
      some (.worked publication.id entry)).Follows (RadarRelay.fileProtocol start) Outbound.ready
      _ _ :=
    work.retell (.worker publication.id) (fun standing => standing.works = true) possible
      (fun standing outbound entry after works step => by
        have next := DeliveryStep.works_next step
        cases entry with
        | none => exact ⟨works, .worked works step, rfl⟩
        | some entry => exact ⟨next.trans works, .worked works step, rfl⟩)
      rfl
  refine (follows_tracedOnOutbound worked.unreturned).mono ?_
  rintro _ again ⟨standing, led, _, ends⟩
  exact ⟨standing, led, ends⟩

/-- Who stops a publication holds nothing. -/
theorem follows_tracedStop (publication : Publication) (rests : holder.Rests) :
    (tracedStop publication).Follows (Node.fileProtocol start) waiting
      (fun later _ => later = holder) holder := by
  apply follows_tracedOnOutbound
  apply Recorded.Follows.unreturned
  rw [Publication.recordedStop, Recorded.retell_bind, Recorded.retell_silent]
  apply Recorded.follows_bind_to (Publication.follows_keepingStock keeps_look)
  intro outbound
  rw [Recorded.retell_bind, Recorded.retell_silent]
  apply Recorded.follows_bind_to (Publication.follows_keepingStock (keeps_request _))
  intro _
  rw [Recorded.retell_bind, Outbound.recordedOnPool, Recorded.retell_atomically]
  refine Recorded.follows_bind_to (Recorded.follows_atomically fun outbound => ?_) ?_
  · exact .silent (Publication.stock_setPool rfl rfl rfl)
  · intro first
    cases holder with
    | worker => cases rests
    | caller handling =>
        cases first with
        | false => exact rfl
        | true =>
            intro outbound
            refine ⟨.silent (Publication.stock_setPool rfl rfl rfl), fun answer => ⟨?_, rfl⟩⟩
            intro outbound answered
            exact .joined publication.id (by simpa [Outbound.ready] using answered)

end Node

end RadarRelay
