import RadarRelay.Proofs.Handing.Turns

/-!
# How far publishing reaches

Handing a file to a publication changes nothing but temporary files and the pool of
that publication, tells no hooks but its own, and deletes no temporary file that was
there before.
-/

namespace RadarRelay

open Activity

variable {State Seen View : Type}

/-! ## What an enqueue has nothing to do with -/

theorem Stage.keeps_decorate {view : State → View} (file : File) (metadata : Metadata)
    (decorator : Decorator) :
    (decorator.decorate file metadata : Activity State _).Keeps view := by
  cases decorator with
  | staleFileBlocker greatestAge =>
      rw [Decorator.decorate]
      split
      · exact trivial
      · exact keeps_bind (keeps_request _) fun _ => trivial
  | external name serial => exact keeps_request _

namespace Publication

variable (publication : Publication) (parcel : Parcel)

theorem keeps_eligible {view : State → View} (origin : Option String) (metadata : Metadata) :
    (publication.eligible origin metadata : Activity State Bool).Keeps view := by
  rw [eligible]
  split
  · exact Expression.keeps_check _ metadata
  · exact trivial

section Keeping

variable {view : Outbound → View}
  (disk : ∀ outbound disk, view { outbound with disk } = view outbound)
  (pool : ∀ outbound pool, view (outbound.setPool publication.id pool) = view outbound)

include pool in
theorem keeps_offer : (publication.offer parcel).Keeps view := by
  apply keeps_bind keeps_look
  intro outbound
  show Keeps view (if publication.isStopped outbound then _ else _)
  split
  · exact trivial
  · exact fun state => ⟨pool state _, trivial⟩

include disk pool

theorem keeps_queue : (publication.queue parcel).Keeps view := by
  have dropped : (Outbound.onDisk (change fun disk => disk.delete parcel.file)).Keeps view :=
    keeps_within disk _
  apply keeps_bind (publication.keeps_offer parcel pool)
  intro outcome
  cases outcome with
  | queued => exact keeps_bind (keeps_request _) fun _ => trivial
  | queueFull =>
      apply keeps_bind dropped
      intro _
      apply keeps_bind (keeps_request _)
      intro _
      exact keeps_bind (Hook.keeps_incrementAll ..) fun _ => trivial
  | discarded | decorationFailed | stopped =>
      apply keeps_bind dropped
      intro _
      exact keeps_bind (keeps_request _) fun _ => trivial

/-- An enqueue changes nothing but the disk and its own pool. -/
theorem keeps_enqueue : (publication.enqueue parcel).Keeps view := by
  apply keeps_bind keeps_look
  intro outbound
  show Keeps view (if publication.isStopped outbound then _ else _)
  split
  · apply keeps_bind (keeps_request _)
    intro _
    exact keeps_bind (keeps_within disk _) fun _ => trivial
  · apply keeps_bind (keeps_within disk _)
    intro result
    cases result with
    | error error =>
        apply keeps_bind (keeps_request _)
        intro _
        exact keeps_bind (Hook.keeps_incrementAll ..) fun _ => trivial
    | ok left =>
        cases left with
        | none => exact trivial
        | some decorated => exact publication.keeps_queue decorated disk pool

end Keeping

section Asking

variable {seen : Request → Option Seen} (decorating : Request.DecoratingUnseen seen)
  (counting : ∀ hook ∈ publication.statisticsError, ∀ origin metadata,
    seen (.increment hook origin metadata) = none)

include decorating counting

theorem unseen_queue : (publication.queue parcel).Unseen seen := by
  have dropped : (Outbound.onDisk (change fun disk => disk.delete parcel.file)).Unseen seen :=
    unseen_within fun _ => trivial
  have offered : (publication.offer parcel).Unseen seen := by
    apply unseen_bind unseen_look
    intro outbound
    show Unseen seen (if publication.isStopped outbound then _ else _)
    split
    · exact trivial
    · exact fun _ => trivial
  apply unseen_bind offered
  intro outcome
  cases outcome with
  | queued => exact unseen_bind (unseen_request (decorating.note _)) fun _ => trivial
  | queueFull =>
      apply unseen_bind dropped
      intro _
      apply unseen_bind (unseen_request (decorating.note _))
      intro _
      exact unseen_bind (Hook.unseen_incrementAll decorating.note _ _ _ _ counting) fun _ => trivial
  | discarded | decorationFailed | stopped =>
      apply unseen_bind dropped
      intro _
      exact unseen_bind (unseen_request (decorating.note _)) fun _ => trivial

/-- An enqueue asks for nothing but what decorators and its own hooks are asked. -/
theorem unseen_enqueue : (publication.enqueue parcel).Unseen seen := by
  apply unseen_bind unseen_look
  intro outbound
  show Unseen seen (if publication.isStopped outbound then _ else _)
  split
  · apply unseen_bind (unseen_request (decorating.note _))
    intro _
    exact unseen_bind (unseen_within fun _ => trivial) fun _ => trivial
  · apply unseen_bind (unseen_within (Stage.unseen_runAll decorating ..))
    intro result
    cases result with
    | error error =>
        apply unseen_bind (unseen_request (decorating.note _))
        intro _
        exact unseen_bind (Hook.unseen_incrementAll decorating.note _ _ _ _ counting)
          fun _ => trivial
    | ok left =>
        cases left with
        | none => exact trivial
        | some decorated => exact publication.unseen_queue decorated decorating counting

end Asking

end Publication

/-! ## Files that were there before -/

/-- These files are still there, and every file that is made from now on is a later one. -/
structure Disk.Spares (bound : Nat) (files : List TemporaryFile) (disk : Disk) : Prop where
  present : ∀ file ∈ files, file ∈ disk.present
  older : ∀ file ∈ files, file.serial < bound
  next : bound ≤ disk.next

namespace Disk.Spares

variable {bound : Nat} {files : List TemporaryFile} {disk : Disk}

theorem create (spares : disk.Spares bound files) (inFolder : Bool) (content : File) :
    (disk.create inFolder content).2.Spares bound files where
  present file known := List.mem_cons_of_mem _ (spares.present file known)
  older := spares.older
  next := Nat.le_succ_of_le spares.next

theorem delete (spares : disk.Spares bound files) {file : TemporaryFile}
    (later : bound ≤ file.serial) : (disk.delete file).Spares bound files where
  present other known := by
    rw [mem_present_delete]
    have older := spares.older other known
    exact ⟨spares.present other known, by omega⟩
  older := spares.older
  next := spares.next

end Disk.Spares

section Sparing

variable {bound : Nat} {files : List TemporaryFile}

namespace Stage

/-- The file to go on with is a later one. -/
def Newer (bound : Nat) : Except Error (Option Parcel) → Prop
  | .ok (some parcel) => bound ≤ parcel.file.serial
  | _ => True

theorem ensures_run {disk : Disk} (spares : disk.Spares bound files) (publication : String)
    {parcel : Parcel} (later : bound ≤ parcel.file.serial) (stage : Stage) :
    (stage.run publication parcel).Ensures
      (fun result disk => disk.Spares bound files ∧ Newer bound result) disk := by
  have kept : (stage.decorator.decorate parcel.file.file parcel.metadata :
      Activity Disk _).Keeps id := keeps_decorate ..
  have decorated : (stage.decorator.decorate parcel.file.file parcel.metadata :
      Activity Disk _).Ensures (fun _ disk => disk.Spares bound files) disk := kept.ensures spares
  apply ensures_bind decorated
  intro decoration disk spares
  have dropped := spares.delete later
  cases decoration with
  | error error => exact ⟨dropped, trivial⟩
  | ok decoration =>
      cases decoration with
      | unchanged => exact ⟨spares, later⟩
      | replaced content =>
          have made := spares.create false content
          intro answer
          cases answer with
          | error error => exact ⟨(made.delete spares.next).delete later, trivial⟩
          | ok metadata => exact fun _ => ⟨made.delete later, spares.next⟩
      | empty =>
          show Activity.Ensures _ (if stage.allowDiscard then _ else _) _
          split
          · exact fun _ => ⟨dropped, trivial⟩
          · exact fun _ => ⟨spares, later⟩

theorem ensures_runAll {disk : Disk} (spares : disk.Spares bound files) (publication : String)
    {parcel : Parcel} (later : bound ≤ parcel.file.serial) (stages : List Stage) :
    (runAll publication parcel stages).Ensures
      (fun result disk => disk.Spares bound files ∧ Newer bound result) disk := by
  induction stages generalizing parcel disk with
  | nil => exact ⟨spares, later⟩
  | cons stage stages ih =>
      apply ensures_bind (ensures_run spares publication later stage)
      rintro result disk ⟨spares, later⟩
      cases result with
      | error error => exact ⟨spares, trivial⟩
      | ok left =>
          cases left with
          | none => exact ⟨spares, trivial⟩
          | some next => exact ih spares later

end Stage

namespace Publication

variable {publication : Publication} {parcel : Parcel} {outbound : Outbound}
  (spares : outbound.disk.Spares bound files)

include spares

theorem ensures_note (name component : String) (fields : List (String × String)) :
    (note name component fields : Activity Outbound Unit).Ensures
      (fun _ outbound => outbound.disk.Spares bound files) outbound :=
  fun _ => spares

theorem ensures_countError (metadata : Metadata) :
    (publication.countError metadata).Ensures
      (fun _ outbound => outbound.disk.Spares bound files) outbound :=
  (Hook.keeps_incrementAll .. : Keeps Outbound.disk _).ensures spares

variable (later : bound ≤ parcel.file.serial)

include later

theorem ensures_queue :
    (publication.queue parcel).Ensures (fun _ outbound => outbound.disk.Spares bound files)
      outbound := by
  have offered : (publication.offer parcel).Ensures
      (fun _ outbound => outbound.disk.Spares bound files) outbound :=
    (publication.keeps_offer parcel fun _ _ => rfl : Keeps Outbound.disk _).ensures spares
  apply ensures_bind offered
  intro outcome outbound spares
  have dropped : (Outbound.onDisk (change fun disk => disk.delete parcel.file)).Ensures
      (fun _ outbound => outbound.disk.Spares bound files) outbound := spares.delete later
  cases outcome with
  | queued => exact fun _ => spares
  | queueFull =>
      apply ensures_bind dropped
      intro _ outbound spares
      apply ensures_bind (ensures_note spares _ _ _)
      intro _ outbound spares
      exact ensures_bind (ensures_countError spares _) fun _ _ spares => spares
  | discarded | decorationFailed | stopped => exact fun _ => spares.delete later

/-- Whatever becomes of a file, earlier files stay. -/
theorem ensures_enqueue :
    (publication.enqueue parcel).Ensures (fun _ outbound => outbound.disk.Spares bound files)
      outbound := by
  show Activity.Ensures _ (if publication.isStopped outbound then _ else _) _
  split
  · exact fun _ => spares.delete later
  · have decorated := Stage.ensures_runAll spares publication.name later publication.stages
    apply ensures_bind (ensures_within (fun _ _ => rfl) decorated)
    rintro result outbound ⟨spares, later⟩
    cases result with
    | error error =>
        apply ensures_bind (ensures_note spares _ _ _)
        intro _ outbound spares
        exact ensures_bind (ensures_countError spares _) fun _ _ spares => spares
    | ok left =>
        cases left with
        | none => exact spares
        | some decorated => exact ensures_queue spares later

end Publication

end Sparing

/-! ## Publishing -/

namespace Node

variable (origin : Option String) (file : File) (metadata : Metadata)

section Keeping

variable {view : Node → View}
  (disk : ∀ node disk, view { node with outbound := { node.outbound with disk } } = view node)

include disk

theorem keeps_publishTo (publication : Publication)
    (pool : ∀ node pool,
      view { node with outbound := node.outbound.setPool publication.id pool } = view node) :
    (publishTo origin file metadata publication).Keeps view := by
  apply keeps_bind (publication.keeps_eligible origin metadata)
  intro accepted
  cases accepted with
  | false => exact trivial
  | true =>
      apply keeps_bind keeps_look
      intro node
      apply keeps_bind (keeps_request _)
      intro copied
      cases copied with
      | error error => exact keeps_bind (keeps_request _) fun _ => trivial
      | ok content =>
          -- What is seen of a node is seen of its outbound state, whatever else there is.
          have made : (Outbound.onDisk (atomically (Disk.copy content))).Keeps
              fun outbound (node : Node) => view { node with outbound } :=
            keeps_within (fun outbound _ => funext fun node => disk { node with outbound } _) _
          apply keeps_bind (made.within fun node _ same => congrFun same node)
          intro copy
          have enqueued : (publication.enqueue ⟨copy, metadata⟩).Keeps
              fun outbound (node : Node) => view { node with outbound } :=
            publication.keeps_enqueue _
              (fun outbound _ => funext fun node => disk { node with outbound } _)
              (fun outbound _ => funext fun node => pool { node with outbound } _)
          apply keeps_bind (enqueued.within fun node _ same => congrFun same node)
          exact fun _ => trivial

/-- Publishing a file changes nothing but the disk and the pools of those to whom it is
published. -/
theorem keeps_publishToAll (publications : List Publication)
    (pools : ∀ publication ∈ publications, ∀ node pool,
      view { node with outbound := node.outbound.setPool publication.id pool } = view node) :
    (publishToAll origin file metadata publications).Keeps view := by
  induction publications with
  | nil => exact trivial
  | cons publication publications ih =>
      obtain ⟨first, rest⟩ := List.forall_mem_cons.1 pools
      apply keeps_bind (keeps_publishTo origin file metadata disk publication first)
      intro _
      exact keeps_bind (ih rest) fun _ => trivial

end Keeping

section Asking

variable {seen : Request → Option Seen} (decorating : Request.DecoratingUnseen seen)
  (copying : ∀ folder file, seen (.copy folder file) = none)

include decorating copying

theorem unseen_publishTo (publication : Publication)
    (counting : ∀ hook ∈ publication.statisticsError, ∀ origin metadata,
      seen (.increment hook origin metadata) = none) :
    (publishTo origin file metadata publication).Unseen seen := by
  apply unseen_bind (publication.unseen_eligible decorating.note origin metadata)
  intro accepted
  cases accepted with
  | false => exact trivial
  | true =>
      apply unseen_bind unseen_look
      intro node
      apply unseen_bind (unseen_request (copying _ _))
      intro copied
      cases copied with
      | error error => exact unseen_bind (unseen_request (decorating.note _)) fun _ => trivial
      | ok content =>
          apply unseen_bind (unseen_within (by exact fun _ => trivial))
          intro copy
          have enqueued := publication.unseen_enqueue ⟨copy, metadata⟩ decorating counting
          exact unseen_bind (unseen_within enqueued) fun _ => trivial

/-- Publishing a file asks for copies, and for what decorators and the hooks of those to whom it is
published are asked. -/
theorem unseen_publishToAll (publications : List Publication)
    (counting : ∀ publication ∈ publications, ∀ hook ∈ publication.statisticsError,
      ∀ origin metadata, seen (.increment hook origin metadata) = none) :
    (publishToAll origin file metadata publications).Unseen seen := by
  induction publications with
  | nil => exact trivial
  | cons publication publications ih =>
      obtain ⟨first, rest⟩ := List.forall_mem_cons.1 counting
      apply unseen_bind (unseen_publishTo origin file metadata decorating copying publication first)
      intro _
      exact unseen_bind (ih rest) fun _ => trivial

end Asking

end Node

section Sparing

variable {Memory : Type} (around : Surroundings Memory) (memory : Memory) {bound : Nat}
  {files : List TemporaryFile} {node : Node} (origin : Option String) (file : File)
  (metadata : Metadata) (spares : node.outbound.disk.Spares bound files)

include spares

theorem Publication.spares_turn (publication : Publication) :
    (publication.turn around origin file metadata node memory).2.1.outbound.disk.Spares bound
      files := by
  rw [turn]
  split
  · rcases around.answer (.copy node.config.tmpFolder file) memory with ⟨copied, later⟩
    cases copied with
    | error error => exact spares
    | ok content =>
        have made := spares.create true content
        have enqueued :
            (publication.enqueue ⟨(node.outbound.disk.copy content).1, metadata⟩).Ensures
              (fun _ outbound => outbound.disk.Spares bound files)
              { node.outbound with disk := (node.outbound.disk.copy content).2 } :=
          ensures_enqueue made spares.next
        exact enqueued.run around later
  · exact spares

/-- Publishing a file leaves every file that was there before. -/
theorem Node.spares_publishedTo (publications : List Publication) :
    (node.publishedTo around origin file metadata memory
      publications).node.outbound.disk.Spares bound files := by
  induction publications generalizing node memory with
  | nil => exact spares
  | cons publication publications ih =>
      exact ih _ (publication.spares_turn around memory origin file metadata spares)

end Sparing

end RadarRelay
