import RadarRelay.Proofs.Activity.Crew
import RadarRelay.Publication.Delivering
import RadarRelay.Publication.Queueing

/-!
# The workforce of a publication

The workers of a publication and everybody who hands it files or stops it are a
crew over what delivery changes. Recorded is what becomes of each file, from the
moment at which it is made, and how the publication is stopped. Where a member of
the crew stands is told by the last entry of its own; the protocol says which step
may follow, and what it does to the pool and to the disk.
-/

namespace RadarRelay

open Activity

/-- What is recorded of deliveries. -/
inductive DeliveryEntry where
  /-- A temporary file has been made. -/
  | made (file : TemporaryFile)
  /-- A file was handed to the queue, with this outcome. -/
  | answered (parcel : Parcel) (outcome : Outcome)
  /-- The publication was stopped; whether for the first time. -/
  | halted (first : Bool)
  /-- The workers were told to leave. -/
  | signalled
  /-- Nobody waits for the workers any more. -/
  | joined
  /-- A worker has been told to leave. -/
  | noticed
  | left (abandoned : List Parcel)
  | took (parcel : Parcel)
  /-- The transmission of a file begins. -/
  | began (parcel : Parcel)
  /-- The transmission has ended, and the file is deleted. -/
  | ended (parcel : Parcel) (reply : Reply)
  /-- The result has been counted. -/
  | settled (parcel : Parcel)

/-- `onPool` with its result recorded. -/
def Outbound.recordedOnPool {Result : Type} (publication : Nat) (action : Pool → Result × Pool)
    (entry : Result → Option DeliveryEntry) : Recorded Outbound DeliveryEntry Result :=
  .atomically
    (fun outbound =>
      ((action (outbound.pool publication)).1,
        outbound.setPool publication (action (outbound.pool publication)).2))
    entry

@[simp] theorem Outbound.plain_recordedOnPool {Result : Type} (publication : Nat)
    (action : Pool → Result × Pool) (entry : Result → Option DeliveryEntry) :
    (recordedOnPool publication action entry).plain = onPool publication action := rfl

/-- Makes a temporary file. -/
def Outbound.makeFile (inFolder : Bool) (file : File) (outbound : Outbound) :
    TemporaryFile × Outbound :=
  ((outbound.disk.create inFolder file).1,
    { outbound with disk := (outbound.disk.create inFolder file).2 })

/-- Who waits for workers waits until none is left; nothing else waits. -/
def Outbound.ready (request : Request) (outbound : Outbound) : Bool :=
  match request with
  | .join publication => (outbound.pool publication).workers == 0
  | _ => true

namespace Publication

/-! ## Recorded work -/

/-- `deliver` with its record. -/
def recordedDeliver (publication : Publication) (parcel : Parcel) :
    Recorded Outbound DeliveryEntry Unit := do
  .note "delivery_attempt" "delivery_worker"
    ([("publication", publication.name), ("file_id", parcel.metadata.fileId)] ++
      [("connection", publication.connection.kind)])
    (.began parcel)
  let reply ← .silent (Outbound.onStorages
    (publication.connection.publish parcel.file.file parcel.metadata))
  .atomically
    (fun outbound => ((), { outbound with disk := outbound.disk.delete parcel.file }))
    fun _ => some (.ended parcel reply)
  .silent (publication.settle parcel.metadata reply)
  Outbound.recordedOnPool publication.id (fun pool => ((), pool.finish parcel))
    fun _ => some (.settled parcel)

/-- `work` with its record. -/
def recordedWork (publication : Publication) : Recorded Outbound DeliveryEntry Bool := do
  let outbound ← .look fun outbound =>
    if publication.isSignalled outbound then some .noticed else none
  if publication.isSignalled outbound then
    let _ ← .atomically (dismiss publication.id) fun abandoned => some (.left abandoned)
    return false
  else if publication.isSignalled (← .silent look) then return true
  else
    match ← Outbound.recordedOnPool publication.id Pool.take (·.map .took) with
    | some parcel =>
        publication.recordedDeliver parcel
        return true
    | none => return true

/-- `offer` with its record. -/
def recordedOffer (publication : Publication) (parcel : Parcel) :
    Recorded Outbound DeliveryEntry Outcome := do
  let outbound ← .look fun outbound =>
    if publication.isStopped outbound then some (.answered parcel .stopped) else none
  if publication.isStopped outbound then return .stopped
  else
    Outbound.recordedOnPool publication.id (fun pool => pool.offer parcel)
      fun outcome => some (.answered parcel outcome)

/-- `stop` with its record. -/
def recordedStop (publication : Publication) : Recorded Outbound DeliveryEntry Unit := do
  let outbound ← .silent look
  .silent <| note "publication_stop" "publication"
    [ ("publication", publication.name),
      ("queued", Number.natText (publication.queued outbound)) ]
  let first ← Outbound.recordedOnPool publication.id Pool.halt fun first => some (.halted first)
  if first then
    Outbound.recordedOnPool publication.id (fun pool => ((), pool.signal))
      fun _ => some .signalled
    .request (.join publication.id) (some .joined)
  else return ()

variable (publication : Publication)

theorem plain_recordedDeliver (parcel : Parcel) :
    (publication.recordedDeliver parcel).plain = publication.deliver parcel := by
  simp only [recordedDeliver, Recorded.plain_bind, Recorded.plain_note, Recorded.plain_silent,
    Recorded.plain_atomically]
  rfl

theorem plain_recordedWork : publication.recordedWork.plain = publication.work := by
  rw [recordedWork, work, Recorded.plain_bind, Recorded.plain_look]
  congr 1; funext outbound
  split
  · rfl
  · rw [Recorded.plain_bind, Recorded.plain_silent]
    congr 1; funext later
    split
    · rfl
    · rw [Recorded.plain_bind, Outbound.plain_recordedOnPool]
      congr 1; funext taken
      cases taken with
      | none => rfl
      | some parcel => rw [Recorded.plain_bind, plain_recordedDeliver]; rfl

theorem plain_recordedOffer (parcel : Parcel) :
    (publication.recordedOffer parcel).plain = publication.offer parcel := by
  rw [recordedOffer, offer, Recorded.plain_bind, Recorded.plain_look]
  congr 1; funext outbound
  split <;> rfl

theorem plain_recordedStop : publication.recordedStop.plain = publication.stop := by
  simp only [recordedStop, stop, Recorded.plain_bind, Recorded.plain_silent,
    Outbound.plain_recordedOnPool]
  congr 1; funext outbound
  congr 1; funext _
  congr 1; funext first
  cases first with
  | false | true => rfl

end Publication

/-! ## The crew -/

/-- What others do to a publication while its workers work. -/
inductive Errand where
  /-- Make a temporary file and hand it to the queue. -/
  | hand (inFolder : Bool) (file : File) (metadata : Metadata)
  /-- Stop the publication and wait for its workers. -/
  | stop

namespace Errand

variable (publication : Publication)

/-- What is done; nothing follows it. -/
def activity : Errand → Activity Outbound Bool
  | hand inFolder file metadata => do
      let made ← atomically (Outbound.makeFile inFolder file)
      let _ ← publication.offer ⟨made, metadata⟩
      return false
  | stop => do
      publication.stop
      return false

/-- The same with its record. -/
def recorded : Errand → Recorded Outbound DeliveryEntry Bool
  | hand inFolder file metadata => do
      let made ← .atomically (Outbound.makeFile inFolder file) fun made => some (.made made)
      let _ ← publication.recordedOffer ⟨made, metadata⟩
      return false
  | stop => do
      publication.recordedStop
      return false

theorem plain_recorded (errand : Errand) :
    (errand.recorded publication).plain = errand.activity publication := by
  cases errand with
  | hand inFolder file metadata =>
      rw [recorded, activity, Recorded.plain_bind, Recorded.plain_atomically]
      congr 1; funext made
      rw [Recorded.plain_bind, publication.plain_recordedOffer]
      rfl
  | stop =>
      rw [recorded, activity, Recorded.plain_bind, publication.plain_recordedStop]
      rfl

end Errand

namespace Publication

/-- A publication with a number of workers and with others who have errands, before the first
step. -/
def staffed (publication : Publication) (workers : Nat) (errands : List Errand)
    (outbound : Outbound) : Crew Outbound DeliveryEntry where
  state := outbound
  members := List.replicate workers (.new publication.recordedWork) ++
    errands.map fun errand => .new (errand.recorded publication)
  log := []

/-- Without the record, the workers work and the errands are done. -/
theorem members_forget_staffed (publication : Publication) (workers : Nat)
    (errands : List Errand) (outbound : Outbound) :
    (publication.staffed workers errands outbound).forget.members =
      List.replicate workers (.new (.silent publication.work)) ++
        errands.map fun errand => .new (.silent (errand.activity publication)) := by
  have withoutRecord (errand : Errand) : (errand.recorded publication).plain =
      errand.activity publication := errand.plain_recorded publication
  simp only [staffed, Crew.forget, List.map_append, List.map_replicate, List.map_map, Member.new,
    Member.forget, plain_recordedWork, Function.comp_def, withoutRecord]

end Publication

/-! ## The protocol -/

/-- Where a member of the crew stands. -/
inductive Standing where
  /-- With nothing begun, or with the errand done. -/
  | free
  | carrying (file : TemporaryFile)
  /-- The first to stop the publication. -/
  | stopping
  | waiting
  /-- A worker between two files. -/
  | idle
  | holding (parcel : Parcel)
  | publishing (parcel : Parcel)
  | counting (parcel : Parcel)
  | leaving
  | gone
  deriving DecidableEq

namespace Standing

/-- Where an entry takes the member who leaves it. -/
def after : DeliveryEntry → Standing
  | .made file => carrying file
  | .answered _ _ => free
  | .halted first => if first then stopping else free
  | .signalled => waiting
  | .joined => free
  | .noticed => leaving
  | .left _ => gone
  | .took parcel => holding parcel
  | .began parcel => publishing parcel
  | .ended parcel _ => counting parcel
  | .settled _ => idle

/-- Where a step takes the member who takes it. -/
def next (standing : Standing) : Option DeliveryEntry → Standing
  | none => standing
  | some entry => .after entry

/-- Whether it is a worker who stands here. -/
def works : Standing → Bool
  | free | carrying _ | stopping | waiting => false
  | _ => true

/-- The file that is in delivery here. -/
def delivering? : Standing → Option Parcel
  | holding parcel | publishing parcel => some parcel
  | _ => none

/-- The file whose transmission has begun and has not ended. -/
def publishing? : Standing → Option Parcel
  | publishing parcel => some parcel
  | _ => none

end Standing

/-- Where a member of the crew stands: where its last entry has taken it. The workers come first in
the crew, and are idle at first. -/
def standing (workers member : Nat) (log : List (Nat × DeliveryEntry)) : Standing :=
  log.foldl (fun standing entry => if entry.1 = member then .after entry.2 else standing)
    (if member < workers then .idle else .free)

/-- A step moves the member who takes it, and nobody else. -/
theorem standing_entered (workers member other : Nat) (log : List (Nat × DeliveryEntry))
    (entry : Option DeliveryEntry) :
    standing workers other (entered log member entry) =
      if member = other then (standing workers member log).next entry
      else standing workers other log := by
  cases entry with
  | none =>
      rw [entered]
      split
      · rename_i same
        rw [same]
        rfl
      · rfl
  | some entry =>
      rw [entered, standing, List.foldl_append]
      rfl

/-- Which step may follow where a member stands, and what it does. -/
inductive DeliveryStep (publication : Nat) :
    Standing → Outbound → Option DeliveryEntry → Outbound → Prop where
  | silent {standing : Standing} {outbound after : Outbound} :
      after.pools = outbound.pools → after.disk = outbound.disk →
      DeliveryStep publication standing outbound none after
  | made {outbound : Outbound} (inFolder : Bool) (file : File) :
      DeliveryStep publication .free outbound (some (.made (outbound.makeFile inFolder file).1))
        (outbound.makeFile inFolder file).2
  | turnedAway {outbound : Outbound} (parcel : Parcel) :
      (outbound.pool publication).stopped = true →
      DeliveryStep publication (.carrying parcel.file) outbound
        (some (.answered parcel .stopped)) outbound
  | offered {outbound : Outbound} (parcel : Parcel) :
      DeliveryStep publication (.carrying parcel.file) outbound
        (some (.answered parcel ((outbound.pool publication).offer parcel).1))
        (outbound.setPool publication ((outbound.pool publication).offer parcel).2)
  | halted {outbound : Outbound} :
      DeliveryStep publication .free outbound
        (some (.halted (outbound.pool publication).halt.1))
        (outbound.setPool publication (outbound.pool publication).halt.2)
  | signalled {outbound : Outbound} :
      DeliveryStep publication .stopping outbound (some .signalled)
        (outbound.setPool publication (outbound.pool publication).signal)
  | joined {outbound : Outbound} :
      (outbound.pool publication).workers = 0 →
      DeliveryStep publication .waiting outbound (some .joined) outbound
  | noticed {outbound : Outbound} :
      (outbound.pool publication).signalled = true →
      DeliveryStep publication .idle outbound (some .noticed) outbound
  | left {outbound : Outbound} :
      DeliveryStep publication .leaving outbound
        (some (.left (Publication.dismiss publication outbound).1))
        (Publication.dismiss publication outbound).2
  | took {outbound : Outbound} {parcel : Parcel} :
      (outbound.pool publication).take.1 = some parcel →
      DeliveryStep publication .idle outbound (some (.took parcel))
        (outbound.setPool publication (outbound.pool publication).take.2)
  | began {outbound : Outbound} (parcel : Parcel) :
      DeliveryStep publication (.holding parcel) outbound (some (.began parcel)) outbound
  | ended {outbound : Outbound} (parcel : Parcel) (reply : Reply) :
      DeliveryStep publication (.publishing parcel) outbound (some (.ended parcel reply))
        { outbound with disk := outbound.disk.delete parcel.file }
  | settled {outbound : Outbound} (parcel : Parcel) :
      DeliveryStep publication (.counting parcel) outbound (some (.settled parcel))
        (outbound.setPool publication ((outbound.pool publication).finish parcel))

namespace Publication

/-- What the members of a publication's crew keep to. -/
def protocol (publication : Publication) (workers : Nat) :
    Protocol Outbound DeliveryEntry Standing where
  start member := if member < workers then .idle else .free
  advance _ entry := .after entry
  Allows := DeliveryStep publication.id
  Ends
    | .idle, again => again = true
    | .gone, again => again = false
    | .free, again => again = false
    | _, _ => False

theorem phase_protocol (publication : Publication) (workers member : Nat)
    (log : List (Nat × DeliveryEntry)) :
    (publication.protocol workers).phase member log = standing workers member log := rfl

/-! ## Everybody keeps to the protocol -/

variable {publication : Publication} {workers : Nat}

theorem follows_keeping {Result : Type} {standing : Standing} {activity : Activity Outbound Result}
    (kept : activity.Keeps fun outbound => (outbound.pools, outbound.disk)) :
    (Recorded.silent activity).Follows (publication.protocol workers) Outbound.ready
      (fun later _ => later = standing) standing := by
  refine Recorded.follows_silent kept fun outbound after same => ?_
  exact .silent (congrArg Prod.fst same) (congrArg Prod.snd same)

theorem keeps_settle {View : Type} {view : Outbound → View} (metadata : Metadata) (reply : Reply) :
    (publication.settle metadata reply).Keeps view := by
  cases reply with
  | sent | failed | panicked =>
      exact keeps_bind (keeps_request _) fun _ => Hook.keeps_incrementAll _ _ _ _

/-- A worker transmits the file that it holds once, and counts the result, whatever it is. -/
theorem follows_recordedDeliver (parcel : Parcel) :
    (publication.recordedDeliver parcel).Follows (publication.protocol workers) Outbound.ready
      (fun later _ => later = .idle) (.holding parcel) := by
  have published : (Outbound.onStorages (publication.connection.publish parcel.file.file
      parcel.metadata)).Keeps fun outbound => (outbound.pools, outbound.disk) := by
    rw [Outbound.onStorages]
    apply keeps_within
    intro outbound storages
    rfl
  refine Recorded.follows_bind_to (Recorded.follows_note fun _ => .began parcel) ?_
  intro _
  apply Recorded.follows_bind_to (follows_keeping published)
  intro reply
  refine Recorded.follows_bind_to (Recorded.follows_atomically fun _ => .ended parcel reply) ?_
  intro _
  apply Recorded.follows_bind_to (follows_keeping (keeps_settle parcel.metadata reply))
  intro _ outbound
  exact ⟨.settled parcel, rfl⟩

/-- How a worker's turn may end. -/
def TurnEnds (standing : Standing) (again : Bool) : Prop :=
  (standing = .idle ∧ again = true) ∨ (standing = .gone ∧ again = false)

/-- A worker goes on after every delivery, and leaves only when it has been told to. -/
theorem follows_recordedWork :
    publication.recordedWork.Follows (publication.protocol workers) Outbound.ready
      TurnEnds .idle := by
  refine Recorded.follows_bind_to (Recorded.follows_look fun outbound => ?_) ?_
  · split
    · rename_i signalled
      exact .noticed signalled
    · exact .silent rfl rfl
  · intro outbound
    by_cases signalled : publication.isSignalled outbound = true
    · rw [if_pos signalled, if_pos signalled]
      refine Recorded.follows_bind_to (Recorded.follows_atomically fun _ => .left) ?_
      intro abandoned
      exact Or.inr ⟨rfl, rfl⟩
    · rw [if_neg signalled, if_neg signalled]
      apply Recorded.follows_bind_to (follows_keeping keeps_look)
      intro later
      split
      · exact Or.inl ⟨rfl, rfl⟩
      · refine Recorded.follows_bind_to (Recorded.follows_atomically fun outbound => ?_) ?_
        · cases taken : (outbound.pool publication.id).take.1 with
          | none =>
              rw [Pool.take_of_none taken, Outbound.setPool_pool]
              exact .silent rfl rfl
          | some parcel => exact .took taken
        · intro taken
          cases taken with
          | none => exact Or.inl ⟨rfl, rfl⟩
          | some parcel =>
              apply Recorded.follows_bind_to (follows_recordedDeliver parcel)
              intro _
              exact Or.inl ⟨rfl, rfl⟩

/-- Whoever carries a file hands it to the queue once. -/
theorem follows_recordedOffer (parcel : Parcel) :
    (publication.recordedOffer parcel).Follows (publication.protocol workers) Outbound.ready
      (fun later _ => later = .free) (.carrying parcel.file) := by
  refine Recorded.follows_bind_to (Recorded.follows_look fun outbound => ?_) ?_
  · split
    · rename_i stopped
      exact .turnedAway parcel stopped
    · exact .silent rfl rfl
  · intro outbound
    by_cases stopped : publication.isStopped outbound = true
    · rw [if_pos stopped, if_pos stopped]
      rfl
    · rw [if_neg stopped, if_neg stopped]
      intro later
      exact ⟨.offered parcel, rfl⟩

/-- Only the first to stop a publication tells the workers, and waits for them. -/
theorem follows_recordedStop :
    publication.recordedStop.Follows (publication.protocol workers) Outbound.ready
      (fun later _ => later = .free) .free := by
  apply Recorded.follows_bind_to (follows_keeping keeps_look)
  intro outbound
  apply Recorded.follows_bind_to (follows_keeping (keeps_request _))
  intro _
  refine Recorded.follows_bind_to (Recorded.follows_atomically fun _ => .halted) ?_
  intro first
  cases first with
  | false => exact rfl
  | true =>
      refine Recorded.follows_bind_to (Recorded.follows_atomically fun _ => .signalled) ?_
      intro _ answer
      refine ⟨fun outbound answered => .joined ?_, rfl⟩
      simpa [Outbound.ready] using answered

theorem follows_errand (errand : Errand) :
    (errand.recorded publication).Follows (publication.protocol workers) Outbound.ready
      (fun later again => later = .free ∧ again = false) .free := by
  cases errand with
  | hand inFolder file metadata =>
      refine Recorded.follows_bind_to (Recorded.follows_atomically fun _ => .made inFolder file) ?_
      intro made
      apply Recorded.follows_bind_to (follows_recordedOffer ⟨made, metadata⟩)
      intro _
      exact ⟨rfl, rfl⟩
  | stop =>
      apply Recorded.follows_bind_to follows_recordedStop
      intro _
      exact ⟨rfl, rfl⟩

/-- The whole crew keeps to the protocol. -/
theorem obeys_staffed (publication : Publication) (workers : Nat) (errands : List Errand)
    (outbound : Outbound) :
    (publication.staffed workers errands outbound).Obeys (publication.protocol workers)
      Outbound.ready := by
  intro index member chosen
  show member.Obeys _ _ ((publication.protocol workers).start index)
  by_cases works : index < workers
  · have worker : Member.new publication.recordedWork = member := by
      rw [staffed, List.getElem?_append_left (by simpa using works),
        List.getElem?_replicate_of_lt works] at chosen
      exact Option.some.inj chosen
    have start : (publication.protocol workers).start index = .idle := if_pos works
    rw [start, ← worker]
    apply Member.obeys_new TurnEnds ?_ follows_recordedWork
    · intro standing ends
      rcases ends with ⟨idle, _⟩ | ⟨_, never⟩
      · rw [idle]
        exact follows_recordedWork
      · cases never
    · intro standing again ends
      rcases ends with ⟨rfl, rfl⟩ | ⟨rfl, rfl⟩ <;> rfl
  · obtain ⟨errand, sent⟩ : ∃ errand, Member.new (Errand.recorded publication errand) = member := by
      rw [staffed, List.getElem?_append_right (by simpa using works)] at chosen
      obtain ⟨errand, _, sent⟩ := List.mem_map.1 (List.mem_of_getElem? chosen)
      exact ⟨errand, sent⟩
    have start : (publication.protocol workers).start index = .free := if_neg works
    rw [start, ← sent]
    apply Member.obeys_new (fun standing again => standing = .free ∧ again = false) ?_
      (follows_errand errand)
    · intro standing ends
      cases ends.2
    · intro standing again ends
      rw [ends.1]
      exact ends.2

end Publication

end RadarRelay
