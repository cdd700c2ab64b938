import Mathlib.Data.List.Nodup
import Mathlib.Data.List.Perm.Basic
import RadarRelay.Proofs.Delivery.Closing
import RadarRelay.Proofs.Handing.Seats

/-!
# What a step does to temporary files

A step makes one file, or deletes files, or hands one on. What is made comes into
the hands of whoever has made it, what is deleted was in hand or waited, and
everything else stays where it is or moves from one place to another.
-/

namespace RadarRelay

/-! ## Files on disk -/

namespace Disk

theorem present_deleteAll (disk : Disk) (files : List TemporaryFile) :
    (disk.deleteAll files).present =
      disk.present.filter fun other => files.all fun file => other.serial != file.serial := by
  induction files generalizing disk with
  | nil => simp [deleteAll]
  | cons file files ih =>
      rw [show disk.deleteAll (file :: files) = (disk.delete file).deleteAll files from rfl, ih,
        delete, List.filter_filter]
      congr
      funext other
      rw [List.all_cons, Bool.and_comm]

/-- Deleting files leaves the others, as no two files have one number. -/
theorem perm_deleteAll {disk : Disk} {files rest : List TemporaryFile}
    (exact : disk.present.Perm (files ++ rest)) (apart : (disk.present.map (·.serial)).Nodup) :
    (disk.deleteAll files).present.Perm rest := by
  have distinct : ((files ++ rest).map (·.serial)).Nodup := (exact.map _).nodup_iff.1 apart
  rw [List.map_append, List.nodup_append] at distinct
  have gone :
      files.filter (fun other => files.all fun file => other.serial != file.serial) = [] := by
    rw [List.filter_eq_nil_iff]
    intro file member kept
    simpa using List.all_eq_true.1 kept file member
  have kept : rest.filter (fun other => files.all fun file => other.serial != file.serial) =
      rest := by
    rw [List.filter_eq_self]
    intro other member
    rw [List.all_eq_true]
    intro file deleted
    have different := distinct.2.2 file.serial (List.mem_map_of_mem deleted) other.serial
      (List.mem_map_of_mem member)
    simpa using Ne.symm different
  rw [present_deleteAll]
  refine (exact.filter _).trans ?_
  rw [List.filter_append, gone, kept, List.nil_append]

theorem not_mem_deleteAll {disk : Disk} {files : List TemporaryFile} {file : TemporaryFile}
    (deleted : file ∈ files) : file ∉ (disk.deleteAll files).present := by
  rw [present_deleteAll, List.mem_filter]
  intro kept
  simpa using List.all_eq_true.1 kept.2 file deleted

end Disk

/-! ## Files in queues -/

namespace Outbound

/-- The files that wait in queues. -/
def waiting (outbound : Outbound) : List Parcel :=
  outbound.pools.flatMap Pool.queue

theorem waiting_of_stock {outbound after : Outbound} (same : after.stock = outbound.stock) :
    after.waiting = outbound.waiting := by
  have told (outbound : Outbound) : outbound.waiting = outbound.stock.1.flatMap (·.1) := by
    rw [waiting, stock, List.flatMap_map]
  rw [told, told, same]

theorem disk_of_stock {outbound after : Outbound} (same : after.stock = outbound.stock) :
    after.disk = outbound.disk :=
  congrArg Prod.snd same

theorem pool_of_stock {outbound after : Outbound} (same : after.stock = outbound.stock)
    (publication : Nat) :
    (after.pool publication).queue = (outbound.pool publication).queue ∧
      (after.pool publication).workers = (outbound.pool publication).workers ∧
      (after.pool publication).closed = (outbound.pool publication).closed := by
  have told (outbound : Outbound) :
      ((outbound.pool publication).queue, (outbound.pool publication).workers,
          (outbound.pool publication).closed) =
        (outbound.stock.1[publication]?).getD ([], 0, true) := by
    rw [stock, List.getElem?_map, pool]
    cases outbound.pools[publication]? with
    | none | some => rfl
  have agree := told after
  rw [same, ← told outbound] at agree
  simpa using agree

/-- A publication that was never started has a pool without workers. -/
theorem pool_of_le {outbound : Outbound} {publication : Nat}
    (unknown : outbound.pools.length ≤ publication) : outbound.pool publication = .gone := by
  rw [pool, List.getElem?_eq_none unknown, Option.getD_none]

theorem setPool_of_le {outbound : Outbound} {publication : Nat}
    (unknown : outbound.pools.length ≤ publication) (pool : Pool) :
    outbound.setPool publication pool = outbound := by
  rw [setPool, List.set_eq_of_length_le unknown]

theorem perm_flatMap_set {Place Item : Type} (part : Place → List Item) {places : List Place}
    {index : Nat} (inside : index < places.length) (place : Place) :
    (part place ++ places.flatMap part).Perm
      (part places[index] ++ (places.set index place).flatMap part) := by
  induction places generalizing index with
  | nil => exact absurd inside (Nat.not_lt_zero index)
  | cons first places ih =>
      cases index with
      | zero =>
          simp only [List.set_cons_zero, List.flatMap_cons, List.getElem_cons_zero,
            ← List.append_assoc]
          exact List.perm_append_comm.append_right _
      | succ index =>
          simp only [List.set_cons_succ, List.flatMap_cons, List.getElem_cons_succ]
          refine (List.perm_append_comm_assoc ..).trans ?_
          refine ((ih (Nat.lt_of_succ_lt_succ inside)).append_left _).trans ?_
          exact List.perm_append_comm_assoc ..

/-- When one queue changes, what waits changes by what is in that queue. -/
theorem perm_waiting_setPool (outbound : Outbound) {publication : Nat} {pool : Pool}
    (unknown : outbound.pools.length ≤ publication → pool.queue = []) :
    (pool.queue ++ outbound.waiting).Perm
      ((outbound.pool publication).queue ++ (outbound.setPool publication pool).waiting) := by
  by_cases inside : publication < outbound.pools.length
  · have found : outbound.pool publication = outbound.pools[publication] := by
      rw [Outbound.pool, List.getElem?_eq_getElem inside, Option.getD_some]
    rw [found]
    exact perm_flatMap_set Pool.queue inside pool
  · have outside := Nat.le_of_not_lt inside
    rw [unknown outside, pool_of_le outside, setPool_of_le outside]
    exact List.Perm.refl _

/-- What a queue loses does not wait any more. -/
theorem perm_waiting_of_setPool (outbound : Outbound) {publication : Nat} {pool : Pool}
    {lost : List Parcel} (unknown : outbound.pools.length ≤ publication → pool.queue = [])
    (split : (outbound.pool publication).queue.Perm (lost ++ pool.queue)) :
    outbound.waiting.Perm (lost ++ (outbound.setPool publication pool).waiting) := by
  have moved := (outbound.perm_waiting_setPool unknown).trans (split.append_right _)
  rw [← List.perm_append_left_iff pool.queue]
  refine moved.trans ?_
  rw [List.append_assoc]
  exact List.perm_append_comm_assoc ..

end Outbound

/-! ## Files in hand -/

namespace Holder

/-- The files that a running enqueue holds. -/
def held : Holder → List TemporaryFile
  | worker _ _ => []
  | caller handling => handling.holding.files

/-- The file that a worker delivers. -/
def delivering : Holder → List Parcel
  | worker _ standing => standing.delivering?.toList
  | caller _ => []

/-- The files in hand. -/
def inHand (holder : Holder) : List TemporaryFile :=
  holder.held ++ holder.delivering.map Parcel.file

/-- Whether it is a worker of a publication who stands here and has not left. -/
def serving (publication : Nat) : Holder → List Unit
  | worker other standing => if other = publication ∧ standing ≠ .gone then [()] else []
  | caller _ => []

/-- Where a step takes the member who takes it. -/
def next (holder : Holder) : Option FileEntry → Holder
  | none => holder
  | some entry => holder.after entry

end Holder

theorem Handling.after_offered_of_ne {outcome : Outcome} (refused : outcome ≠ .queued)
    (handling : Handling) (publication : Nat) (parcel : Parcel) :
    handling.after (.offered publication parcel outcome) = handling := by
  cases outcome with
  | queued => exact absurd rfl refused
  | discarded | decorationFailed | queueFull | stopped => rfl

/-- What may become of the files that exist, those that were somewhere before being somewhere
now. -/
inductive Moved (disk : Disk) (before : List TemporaryFile) : Disk → List TemporaryFile → Prop where
  | kept {now : List TemporaryFile} : now.Perm before → Moved disk before disk now
  | made {now : List TemporaryFile} (inFolder : Bool) (content : File) :
      now.Perm ((disk.create inFolder content).1 :: before) →
      Moved disk before (disk.create inFolder content).2 now
  | deleted {now : List TemporaryFile} (files : List TemporaryFile) :
      (files ++ now).Perm before → Moved disk before (disk.deleteAll files) now

variable {holder : Holder} {outbound after : Outbound} {entry : Option FileEntry}
  {publication : Nat}

/-- The files that a worker abandons are those that nobody will take any more. -/
theorem Pool.queue_leave (pool : Pool) : pool.leave.1 ++ pool.leave.2.queue = pool.queue := by
  by_cases last : pool.workers = 1
  · rw [Pool.leave_of_last last]
    exact List.append_nil _
  · rw [Pool.leave_of_not_last last]
    rfl

theorem Pool.workers_leave (pool : Pool) : pool.leave.2.workers = pool.workers - 1 := by
  by_cases last : pool.workers = 1
  · rw [Pool.leave_of_last last, last]
  · rw [Pool.leave_of_not_last last]

/-- Without workers a pool is closed, and its queue is empty. -/
structure Pool.ClosedWhenLeft (pool : Pool) : Prop where
  closed : pool.closed = true ↔ pool.workers = 0
  empty : pool.closed = true → pool.queue = []

theorem Pool.ClosedWhenLeft.leave {pool : Pool} (sound : pool.ClosedWhenLeft)
    (manned : pool.workers ≠ 0) : pool.leave.2.ClosedWhenLeft := by
  by_cases last : pool.workers = 1
  · rw [Pool.leave_of_last last]
    exact ⟨⟨fun _ => rfl, fun _ => rfl⟩, fun _ => rfl⟩
  · rw [Pool.leave_of_not_last last]
    refine ⟨?_, sound.empty⟩
    show pool.closed = true ↔ pool.workers - 1 = 0
    rw [sound.closed]
    constructor
    · exact fun none => absurd none manned
    · exact fun one => absurd (Nat.le_antisymm (Nat.sub_eq_zero_iff_le.1 one)
        (Nat.pos_of_ne_zero manned)) last

/-- A worker hands on what it has, or loses it together with the file. -/
theorem DeliveryStep.places {standing : Standing} {entry : Option DeliveryEntry}
    (step : DeliveryStep publication standing outbound entry after)
    (works : standing.works = true) :
    ∃ lost : List Parcel, after.disk = outbound.disk.deleteAll (lost.map Parcel.file) ∧
      (standing.delivering?.toList ++ outbound.waiting).Perm
        (lost ++ ((standing.next entry).delivering?.toList ++ after.waiting)) := by
  cases step with
  | silent pools disk =>
      have same : after.waiting = outbound.waiting := by
        rw [Outbound.waiting, pools]
        rfl
      exact ⟨[], disk, by rw [same]; exact List.Perm.refl _⟩
  | made | turnedAway | offered | halted | signalled | joined => cases works
  | noticed | began => exact ⟨[], rfl, List.Perm.refl _⟩
  | left =>
      have split := (outbound.pool publication).queue_leave
      refine ⟨(outbound.pool publication).leave.1, rfl, ?_⟩
      exact outbound.perm_waiting_of_setPool
        (fun outside => by rw [Outbound.pool_of_le outside]; rfl) (List.Perm.of_eq split.symm)
  | @took _ parcel found =>
      have split := Pool.take_of_some found
      refine ⟨[], rfl, ?_⟩
      exact outbound.perm_waiting_of_setPool
        (fun outside => by rw [Outbound.pool_of_le outside]; rfl) (List.Perm.of_eq split)
  | ended parcel reply => exact ⟨[parcel], rfl, List.Perm.refl _⟩
  | settled parcel =>
      refine ⟨[], rfl, ?_⟩
      exact outbound.perm_waiting_of_setPool
        (fun outside => by rw [Outbound.pool_of_le outside]; rfl) (List.Perm.refl _)

/-- What an offer changes: nothing, unless the file waits now. -/
theorem Outbound.offer_cases (outbound : Outbound) (publication : Nat) (parcel : Parcel) :
    (((outbound.pool publication).offer parcel).1 ≠ .queued ∧
      outbound.setPool publication ((outbound.pool publication).offer parcel).2 = outbound) ∨
    (((outbound.pool publication).offer parcel).1 = .queued ∧
      parcel ∈ ((outbound.setPool publication
        ((outbound.pool publication).offer parcel).2).pool publication).queue ∧
      (outbound.setPool publication
        ((outbound.pool publication).offer parcel).2).waiting.Perm
          (parcel :: outbound.waiting)) := by
  rcases (outbound.pool publication).offer_cases parcel with
    ⟨_, offer⟩ | ⟨_, _, offer⟩ | ⟨opened, _, offer⟩
  · rw [offer, Outbound.setPool_pool]
    exact Or.inl ⟨by simp, rfl⟩
  · rw [offer, Outbound.setPool_pool]
    exact Or.inl ⟨by simp, rfl⟩
  · right
    rw [offer]
    have inside : publication < outbound.pools.length := by
      by_contra outside
      rw [Outbound.pool_of_le (Nat.le_of_not_lt outside)] at opened
      cases opened
    refine ⟨rfl, ?_, ?_⟩
    · rw [outbound.pool_setPool_self inside]
      exact List.mem_append_right _ (List.mem_singleton_self parcel)
    · generalize pooled : { outbound.pool publication with
        queue := (outbound.pool publication).queue ++ [parcel] } = pool
      have queue : pool.queue = (outbound.pool publication).queue ++ [parcel] := by rw [← pooled]
      have added := outbound.perm_waiting_setPool (fun outside => absurd inside
        (Nat.not_lt_of_le outside) : outbound.pools.length ≤ publication → pool.queue = [])
      rw [queue, List.append_assoc, List.perm_append_left_iff] at added
      exact added.symm

theorem DiskStep.moved {disk later : Disk} (step : DiskStep holder disk entry later)
    (waiting : List TemporaryFile) :
    Moved disk (holder.inHand ++ waiting) later ((holder.next entry).inHand ++ waiting) := by
  cases step with
  | silent => exact .kept (List.Perm.refl _)
  | @given handling _ _ content metadata free =>
      refine .made true content ?_
      simp [Holder.inHand, Holder.held, Holder.delivering, Holder.next, Holder.after,
        Handling.after, Holding.files, free, Disk.copy]
  | @produced handling _ current content holds =>
      refine .made false content ?_
      simp [Holder.inHand, Holder.held, Holder.delivering, Holder.next, Holder.after,
        Handling.after, Holding.produce, Holding.files, holds, Disk.replacement]
  | @adopted handling _ current replacement holds =>
      refine .deleted [current] ?_
      simp only [Holder.inHand, Holder.held, Holder.delivering, Holder.next, Holder.after,
        Handling.after, Holding.adopt, Holding.files, holds]
      exact List.Perm.swap ..
  | @dropped handling _ =>
      refine .deleted handling.holding.files ?_
      simp [Holder.inHand, Holder.held, Holder.delivering, Holder.next, Holder.after,
        Handling.after, Holding.files]

/-- A step makes one file, or deletes files, or moves files from one place to another. -/
theorem FileStep.moved (step : FileStep holder outbound entry after) :
    Moved outbound.disk (holder.inHand ++ outbound.waiting.map Parcel.file) after.disk
      ((holder.next entry).inHand ++ after.waiting.map Parcel.file) := by
  cases step with
  | silent same =>
      rw [Outbound.disk_of_stock same, Outbound.waiting_of_stock same]
      exact .kept (List.Perm.refl _)
  | @worked _ standing _ _ entry works step =>
      obtain ⟨lost, disk, places⟩ := step.places works
      rw [disk]
      have files := (places.map Parcel.file).symm
      simp only [List.map_append] at files
      cases entry with
      | none | some => exact .deleted (lost.map Parcel.file) files
  | onDisk step => exact step.moved _
  | turnedAway => exact .kept (List.Perm.refl _)
  | @offered handling _ publication parcel holds _ =>
      rcases outbound.offer_cases publication parcel with ⟨refused, same⟩ | ⟨queued, _, added⟩
      · rw [same, Holder.next, Holder.after, Handling.after_offered_of_ne refused]
        exact .kept (List.Perm.refl _)
      · have inHand : (Holder.caller handling).inHand = [parcel.file] := by
          simp [Holder.inHand, Holder.held, Holder.delivering, holds, Holding.files]
        rw [queued, inHand]
        exact .kept (added.map Parcel.file)
  | joined publication none => exact .kept (List.Perm.refl _)

/-! ### What nobody else can do -/

/-- A file that is new on the disk has the next number. -/
theorem Moved.present {disk later : Disk} {before now : List TemporaryFile}
    (moved : Moved disk before later now) :
    disk.next ≤ later.next ∧
      ∀ file ∈ later.present, file ∈ disk.present ∨ file.serial = disk.next := by
  cases moved with
  | kept => exact ⟨Nat.le_refl _, fun _ => Or.inl⟩
  | made inFolder content =>
      refine ⟨Nat.le_succ _, fun file known => ?_⟩
      rcases List.mem_cons.1 known with rfl | known
      · exact Or.inr rfl
      · exact Or.inl known
  | deleted files =>
      refine ⟨Nat.le_of_eq (Disk.next_deleteAll ..).symm, fun file known => Or.inl ?_⟩
      rw [Disk.present_deleteAll] at known
      exact List.mem_of_mem_filter known

/-- A file that comes into the hands of an enqueue is a new one. -/
theorem FileStep.held (step : FileStep holder outbound entry after) :
    ∀ file ∈ (holder.next entry).held,
      file ∈ holder.held ∨ file.serial = outbound.disk.next := by
  cases step with
  | silent => exact fun _ => Or.inl
  | @worked _ standing _ _ entry =>
      cases entry with
      | none | some => exact List.forall_mem_nil _
  | onDisk step =>
      cases step with
      | silent => exact fun _ => Or.inl
      | given publication content metadata =>
          intro file known
          rw [List.mem_singleton.1 known]
          exact Or.inr rfl
      | @produced handling _ current content holds =>
          intro file known
          simp only [Holder.next, Holder.after, Holder.held, Handling.after, holds,
            Holding.produce, Holding.files, List.mem_cons, List.not_mem_nil, or_false] at known ⊢
          rcases known with rfl | known
          · exact Or.inr rfl
          · exact Or.inl known
      | @adopted handling _ current replacement holds =>
          intro file known
          simp only [Holder.next, Holder.after, Holder.held, Handling.after, holds,
            Holding.adopt, Holding.files, List.mem_cons, List.not_mem_nil, or_false] at known ⊢
          exact Or.inl (Or.inl known)
      | dropped => exact List.forall_mem_nil _
  | turnedAway | joined => exact fun _ => Or.inl
  | @offered handling _ publication parcel holds _ =>
      rcases outbound.offer_cases publication parcel with ⟨refused, _⟩ | ⟨queued, _⟩
      · rw [Holder.next, Holder.after, Handling.after_offered_of_ne refused]
        exact fun _ => Or.inl
      · rw [queued]
        exact List.forall_mem_nil _

/-- A file that comes into a queue or into delivery was in a queue, in delivery, or in the hands of
the enqueue that takes the step. -/
theorem FileStep.placed (step : FileStep holder outbound entry after) :
    ∀ item ∈ (holder.next entry).delivering ++ after.waiting,
      item ∈ holder.delivering ++ outbound.waiting ∨ item.file ∈ holder.held := by
  cases step with
  | silent same =>
      rw [Outbound.waiting_of_stock same]
      exact fun _ => Or.inl
  | @worked _ standing _ _ entry works step =>
      obtain ⟨lost, _, places⟩ := step.places works
      intro item known
      refine Or.inl (places.mem_iff.2 (List.mem_append_right _ ?_))
      cases entry with
      | none | some => exact known
  | onDisk step =>
      cases step with
      | silent | given | produced | adopted | dropped => exact fun _ => Or.inl
  | turnedAway | joined => exact fun _ => Or.inl
  | @offered handling _ publication parcel holds _ =>
      rcases outbound.offer_cases publication parcel with ⟨_, same⟩ | ⟨_, _, added⟩
      · rw [same]
        exact fun _ => Or.inl
      · intro item known
        rcases List.mem_cons.1 (added.mem_iff.1 known) with rfl | known
        · right
          simp [Holder.held, holds, Holding.files]
        · exact Or.inl known

/-! ### Who is left -/

/-- A step by which nobody leaves the workers of a publication. -/
structure SameStaff (publication : Nat) (holder : Holder) (outbound : Outbound) (later : Holder)
    (after : Outbound) : Prop where
  workers : (after.pool publication).workers = (outbound.pool publication).workers
  closed : (after.pool publication).closed = (outbound.pool publication).closed
  serving : later.serving publication = holder.serving publication
  /-- Nothing comes into a closed queue. -/
  queue : (outbound.pool publication).closed = true →
    (after.pool publication).queue ⊆ (outbound.pool publication).queue

/-- A step that changes no queue. -/
theorem SameStaff.of_pool {later : Holder}
    (same : after.pool publication = outbound.pool publication)
    (serving : later.serving publication = holder.serving publication) :
    SameStaff publication holder outbound later after where
  workers := by rw [same]
  closed := by rw [same]
  serving := serving
  queue := by
    rw [same]
    exact fun _ => List.Subset.refl _

theorem DeliveryStep.staffing {standing : Standing} {other : Nat} {entry : Option DeliveryEntry}
    (step : DeliveryStep other standing outbound entry after) (works : standing.works = true)
    (publication : Nat) :
    SameStaff publication (.worker other standing) outbound (.worker other (standing.next entry))
        after ∨
      (other = publication ∧ standing = .leaving ∧ standing.next entry = .gone ∧
        after = (Publication.dismiss publication outbound).2) := by
  -- Whoever does not leave is as present as before.
  have present (stays : ∀ parcels, entry ≠ some (.left parcels)) :
      (Holder.worker other (standing.next entry)).serving publication =
        (Holder.worker other standing).serving publication := by
    simp only [Holder.serving, ne_eq, step.gone_next stays]
  have elsewhere (pool : Pool) (different : other ≠ publication) :
      (outbound.setPool other pool).pool publication = outbound.pool publication :=
    outbound.pool_setPool_of_ne (Ne.symm different) pool
  have here {pool : Pool} (workers : pool.workers = (outbound.pool publication).workers)
      (closed : pool.closed = (outbound.pool publication).closed)
      (queue : pool.queue ⊆ (outbound.pool publication).queue)
      (stays : ∀ parcels, entry ≠ some (.left parcels)) :
      SameStaff publication (.worker other standing) outbound
        (.worker other (standing.next entry)) (outbound.setPool publication pool) := by
    by_cases inside : publication < outbound.pools.length
    · have same := outbound.pool_setPool_self inside pool
      exact
        { workers := by rw [same, workers]
          closed := by rw [same, closed]
          serving := present stays
          queue := by
            rw [same]
            exact fun _ => queue }
    · rw [Outbound.setPool_of_le (Nat.le_of_not_lt inside)]
      exact .of_pool rfl (present stays)
  cases step with
  | silent pools disk =>
      have kept : after.pool publication = outbound.pool publication := by
        rw [Outbound.pool, pools, ← Outbound.pool]
      exact Or.inl (.of_pool kept (present fun _ => by simp))
  | made | turnedAway | offered | halted | signalled | joined => cases works
  | noticed | began | ended => exact Or.inl (.of_pool rfl (present fun _ => by simp))
  | left =>
      by_cases same : other = publication
      · subst same
        exact Or.inr ⟨rfl, rfl, rfl, rfl⟩
      · refine Or.inl (.of_pool (elsewhere _ same) ?_)
        simp [Holder.serving, same]
  | @took _ parcel found =>
      by_cases same : other = publication
      · subst same
        have taken := (outbound.pool other).take_eq
        refine Or.inl (here (by rw [taken]) (by rw [taken]) ?_ fun _ => by simp)
        rw [Pool.take_of_some found]
        exact List.subset_cons_self ..
      · exact Or.inl (.of_pool (elsewhere _ same) (present fun _ => by simp))
  | settled parcel =>
      by_cases same : other = publication
      · subst same
        exact Or.inl (here rfl rfl (List.Subset.refl _) fun _ => by simp)
      · exact Or.inl (.of_pool (elsewhere _ same) (present fun _ => by simp))

/-- Nobody leaves the workers of a publication but one of them, when it has been told to. -/
theorem FileStep.staffing (step : FileStep holder outbound entry after) (publication : Nat) :
    SameStaff publication holder outbound (holder.next entry) after ∨
      (holder = .worker publication .leaving ∧ holder.next entry = .worker publication .gone ∧
        after = (Publication.dismiss publication outbound).2) := by
  cases step with
  | silent same =>
      obtain ⟨queue, workers, closed⟩ := Outbound.pool_of_stock same publication
      refine Or.inl ⟨workers, closed, rfl, ?_⟩
      rw [queue]
      exact fun _ => List.Subset.refl _
  | @worked other standing _ _ entry works step =>
      have next : (Holder.worker other standing).next (entry.map (.worked other)) =
          .worker other (standing.next entry) := by
        cases entry with
        | none | some => rfl
      rw [next]
      rcases step.staffing works publication with same | ⟨rfl, rfl, left, dismissed⟩
      · exact Or.inl same
      · exact Or.inr ⟨rfl, by rw [left], dismissed⟩
  | onDisk step =>
      cases step with
      | silent | given | produced | adopted | dropped => exact Or.inl (.of_pool rfl rfl)
  | turnedAway | joined => exact Or.inl (.of_pool rfl rfl)
  | @offered handling _ other parcel =>
      left
      by_cases same : other = publication
      · subst same
        rcases (outbound.pool other).offer_cases parcel with
          ⟨_, offer⟩ | ⟨_, _, offer⟩ | ⟨opened, _, offer⟩
        · rw [offer, Outbound.setPool_pool]
          exact .of_pool rfl rfl
        · rw [offer, Outbound.setPool_pool]
          exact .of_pool rfl rfl
        · have inside : other < outbound.pools.length := by
            by_contra outside
            rw [Outbound.pool_of_le (Nat.le_of_not_lt outside)] at opened
            cases opened
          have pooled := outbound.pool_setPool_self inside
            ((outbound.pool other).offer parcel).2
          refine ⟨?_, ?_, rfl, ?_⟩
          · rw [pooled, offer]
          · rw [pooled, offer]
          · rw [opened]
            intro never
            cases never
      · exact .of_pool (outbound.pool_setPool_of_ne (Ne.symm same) _) rfl

/-- A publication without workers has none ever after. -/
theorem FileStep.workers_zero (step : FileStep holder outbound entry after)
    (none : (outbound.pool publication).workers = 0) : (after.pool publication).workers = 0 := by
  rcases step.staffing publication with same | ⟨_, _, rfl⟩
  · rw [same.workers, none]
  · by_cases known : publication < outbound.pools.length
    · have pooled : (Publication.dismiss publication outbound).2.pool publication =
          (outbound.pool publication).leave.2 := outbound.pool_setPool_self known _
      rw [pooled, Pool.leave_of_not_last (by omega)]
      show (outbound.pool publication).workers - 1 = 0
      omega
    · have unknown : (Publication.dismiss publication outbound).2.pools.length ≤ publication := by
        rw [show (Publication.dismiss publication outbound).2.pools.length =
          outbound.pools.length from Outbound.length_pools_setPool ..]
        exact Nat.le_of_not_lt known
      rw [Outbound.pool_of_le unknown]
      rfl

/-- A step of which nothing is recorded changes nothing that matters here. -/
theorem FileStep.stock_of_none (step : FileStep holder outbound none after) :
    after.stock = outbound.stock := by
  generalize silent : (none : Option FileEntry) = entry at step
  cases step with
  | silent same => exact same
  | @worked other standing _ _ entry works step =>
      cases entry with
      | some => cases silent
      | none => cases step with
        | silent pools disk => exact Publication.stock_of_pools pools disk
  | onDisk step => cases step with
    | silent => rfl
    | given | produced | adopted | dropped => cases silent
  | turnedAway | offered | joined => cases silent

end RadarRelay
