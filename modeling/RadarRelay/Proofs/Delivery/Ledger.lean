import Mathlib.Data.List.Perm.Basic
import RadarRelay.Proofs.Activity.Dues
import RadarRelay.Proofs.Delivery.Workforce

/-!
# The ledger of a publication

The log of a publication's crew tells which files were accepted, taken, transmitted
and abandoned. Four things hold of it after every step. The accepted files are
those that were taken, those that were abandoned and those that wait, in this
order. A file that was taken is in the hands of a worker or has been transmitted.
No file is accepted twice, because each has a number of its own. And nobody leaves
or is told to leave before the publication was stopped.
-/

namespace RadarRelay

/-! ## What a log tells of files -/

namespace DeliveryEntry

/-- The file that waits from now on. -/
def accepted : DeliveryEntry → List Parcel
  | answered parcel .queued => [parcel]
  | _ => []

def taken : DeliveryEntry → List Parcel
  | took parcel => [parcel]
  | _ => []

def begun : DeliveryEntry → List Parcel
  | began parcel => [parcel]
  | _ => []

/-- The file whose transmission has ended, however it did. -/
def completed : DeliveryEntry → List Parcel
  | ended parcel _ => [parcel]
  | _ => []

def abandoned : DeliveryEntry → List Parcel
  | left parcels => parcels
  | _ => []

end DeliveryEntry

/-- What a log tells of files, oldest first. -/
def gather (part : DeliveryEntry → List Parcel) (log : List (Nat × DeliveryEntry)) : List Parcel :=
  log.flatMap fun entry => part entry.2

@[simp] theorem gather_entered (part : DeliveryEntry → List Parcel)
    (log : List (Nat × DeliveryEntry)) (member : Nat) (entry : Option DeliveryEntry) :
    gather part (entered log member entry) = gather part log ++ entry.elim [] part := by
  cases entry with
  | none | some => simp [gather, entered]

/-- The publication was stopped, by the first or by a later call. -/
def Halted (log : List (Nat × DeliveryEntry)) : Prop :=
  ∃ member first, (member, DeliveryEntry.halted first) ∈ log

theorem Halted.entered {log : List (Nat × DeliveryEntry)} (halted : Halted log) (member : Nat)
    (entry : Option DeliveryEntry) : Halted (entered log member entry) := by
  obtain ⟨caller, first, logged⟩ := halted
  exact ⟨caller, first, mem_entered logged member entry⟩

namespace Publication

open DeliveryEntry (accepted taken begun completed abandoned)

variable {publication : Publication} {workers capacity : Nat} {outbound after : Outbound}
  {log : List (Nat × DeliveryEntry)} {member : Nat} {entry : Option DeliveryEntry}

/-! ## Files that wait -/

/-- What is in the queue, and why. -/
structure Stocked (publication : Publication) (capacity : Nat) (outbound : Outbound)
    (log : List (Nat × DeliveryEntry)) : Prop where
  started : publication.id < outbound.pools.length
  size : (outbound.pool publication.id).capacity = capacity
  room : (outbound.pool publication.id).queue.length ≤ capacity
  order : gather accepted log =
    gather taken log ++ gather abandoned log ++ (outbound.pool publication.id).queue
  emptied : (outbound.pool publication.id).closed = true →
    (outbound.pool publication.id).queue = []
  kept : (outbound.pool publication.id).closed = false → gather abandoned log = []

/-- What neither concerns the queue nor is told of files keeps the queue as it was. -/
theorem Stocked.quiet (stocked : Stocked publication capacity outbound log)
    (started : after.pools.length = outbound.pools.length)
    (size : (after.pool publication.id).capacity = (outbound.pool publication.id).capacity)
    (queue : (after.pool publication.id).queue = (outbound.pool publication.id).queue)
    (closed : (after.pool publication.id).closed = (outbound.pool publication.id).closed)
    (accepted : entry.elim [] DeliveryEntry.accepted = [])
    (taken : entry.elim [] DeliveryEntry.taken = [])
    (abandoned : entry.elim [] DeliveryEntry.abandoned = []) :
    Stocked publication capacity after (entered log member entry) where
  started := by rw [started]; exact stocked.started
  size := by rw [size]; exact stocked.size
  room := by rw [queue]; exact stocked.room
  order := by
    rw [gather_entered, gather_entered, gather_entered, accepted, taken, abandoned, queue]
    simpa using stocked.order
  emptied := by rw [closed, queue]; exact stocked.emptied
  kept := by
    rw [closed, gather_entered, abandoned, List.append_nil]
    exact stocked.kept

theorem Stocked.pool_setPool (stocked : Stocked publication capacity outbound log) (pool : Pool) :
    (outbound.setPool publication.id pool).pool publication.id = pool :=
  outbound.pool_setPool_self stocked.started pool

theorem Stocked.offer (stocked : Stocked publication capacity outbound log) (parcel : Parcel) :
    Stocked publication capacity
      (outbound.setPool publication.id ((outbound.pool publication.id).offer parcel).2)
      (entered log member
        (some (.answered parcel ((outbound.pool publication.id).offer parcel).1))) := by
  rcases (outbound.pool publication.id).offer_cases parcel with
    ⟨closed, offer⟩ | ⟨opened, full, offer⟩ | ⟨opened, free, offer⟩
  · rw [offer, Outbound.setPool_pool]
    exact stocked.quiet rfl rfl rfl rfl rfl rfl rfl
  · rw [offer, Outbound.setPool_pool]
    exact stocked.quiet rfl rfl rfl rfl rfl rfl rfl
  · have nothingAbandoned : gather abandoned log = [] := stocked.kept opened
    rw [offer]
    constructor
    · rw [Outbound.length_pools_setPool]
      exact stocked.started
    · rw [stocked.pool_setPool]
      exact stocked.size
    · rw [stocked.pool_setPool, List.length_append, List.length_singleton, ← stocked.size]
      exact free
    · rw [stocked.pool_setPool, gather_entered, gather_entered, gather_entered, stocked.order]
      simp [nothingAbandoned, accepted, taken, abandoned]
    · rw [stocked.pool_setPool]
      intro closed
      rw [opened] at closed
      cases closed
    · intro _
      rw [gather_entered, nothingAbandoned]
      rfl

theorem Stocked.take (stocked : Stocked publication capacity outbound log) {parcel : Parcel}
    (found : (outbound.pool publication.id).take.1 = some parcel) :
    Stocked publication capacity
      (outbound.setPool publication.id (outbound.pool publication.id).take.2)
      (entered log member (some (.took parcel))) := by
  have oldest := Pool.take_of_some found
  have same := (outbound.pool publication.id).take_eq
  have opened : ¬ (outbound.pool publication.id).closed = true := by
    intro closed
    rw [stocked.emptied closed] at oldest
    cases oldest
  have nothingAbandoned : gather abandoned log = [] := stocked.kept (by simpa using opened)
  constructor
  · rw [Outbound.length_pools_setPool]
    exact stocked.started
  · rw [stocked.pool_setPool]
    exact (congrArg Pool.capacity same).trans stocked.size
  · have room := stocked.room
    rw [oldest, List.length_cons] at room
    rw [stocked.pool_setPool]
    exact Nat.le_of_succ_le room
  · rw [stocked.pool_setPool, gather_entered, gather_entered, gather_entered, stocked.order, oldest]
    simp [nothingAbandoned, accepted, taken, abandoned]
  · rw [stocked.pool_setPool, congrArg Pool.closed same]
    intro closed
    exact absurd closed opened
  · intro _
    rw [gather_entered, nothingAbandoned]
    rfl

theorem Stocked.leave (stocked : Stocked publication capacity outbound log) :
    Stocked publication capacity (dismiss publication.id outbound).2
      (entered log member (some (.left (dismiss publication.id outbound).1))) := by
  have pools : (dismiss publication.id outbound).2.pools.length = outbound.pools.length :=
    Outbound.length_pools_setPool ..
  have pool : (dismiss publication.id outbound).2.pool publication.id =
      (outbound.pool publication.id).leave.2 := stocked.pool_setPool _
  have given : (dismiss publication.id outbound).1 = (outbound.pool publication.id).leave.1 := rfl
  by_cases last : (outbound.pool publication.id).workers = 1
  · rw [Pool.leave_of_last last] at pool given
    rw [given]
    constructor
    · rw [pools]
      exact stocked.started
    · rw [pool]
      exact stocked.size
    · rw [pool]
      exact Nat.zero_le capacity
    · rw [pool, gather_entered, gather_entered, gather_entered, stocked.order]
      simp [accepted, taken, abandoned]
    · rw [pool]
      intro _
      rfl
    · rw [pool]
      intro opened
      cases opened
  · rw [Pool.leave_of_not_last last] at pool given
    rw [given]
    refine stocked.quiet pools ?_ ?_ ?_ rfl rfl rfl <;> rw [pool]

theorem Stocked.step {standing : Standing} (stocked : Stocked publication capacity outbound log)
    (step : DeliveryStep publication.id standing outbound entry after) :
    Stocked publication capacity after (entered log member entry) := by
  cases step with
  | silent pools disk =>
      have same : after.pool publication.id = outbound.pool publication.id := by
        rw [Outbound.pool, pools, ← Outbound.pool]
      exact stocked.quiet (by rw [pools]) (by rw [same]) (by rw [same]) (by rw [same]) rfl rfl rfl
  | made | turnedAway | joined | noticed | began | ended =>
      exact stocked.quiet rfl rfl rfl rfl rfl rfl rfl
  | halted | signalled | settled =>
      refine stocked.quiet (by simp) ?_ ?_ ?_ rfl rfl rfl <;> rw [stocked.pool_setPool] <;> rfl
  | offered parcel => exact stocked.offer parcel
  | took found => exact stocked.take found
  | left => exact stocked.leave

end Publication

/-! ## Files in hand -/

section InHand

open DeliveryEntry (accepted taken begun completed abandoned)

variable {publication workers member : Nat} {outbound after : Outbound}
  {log : List (Nat × DeliveryEntry)} {entry : Option DeliveryEntry}

/-- The files that workers have in hand, worker by worker, in the sense of `hand`. -/
def inHand (hand : Standing → Option Parcel) (workers : Nat) (log : List (Nat × DeliveryEntry)) :
    List Parcel :=
  (List.range workers).filterMap fun worker => hand (standing workers worker log)

/-- The workers work, and nobody else does. -/
def Manned (workers : Nat) (log : List (Nat × DeliveryEntry)) : Prop :=
  ∀ member, (standing workers member log).works = true ↔ member < workers

/-- What was gained and has not been completed is in hand. -/
def Balanced (hand : Standing → Option Parcel) (gained : DeliveryEntry → List Parcel)
    (workers : Nat) (log : List (Nat × DeliveryEntry)) : Prop :=
  (gather gained log).Perm (inHand hand workers log ++ gather completed log)

theorem DeliveryStep.works_next {standing : Standing}
    (step : DeliveryStep publication standing outbound entry after) :
    (standing.next entry).works = standing.works := by
  cases step with
  | halted =>
      cases first : (outbound.pool publication).halt.1 with
      | true | false => simp [Standing.next, Standing.after, Standing.works]
  | _ => rfl

theorem Manned.step (manned : Manned workers log)
    (works :
      ((standing workers member log).next entry).works = (standing workers member log).works) :
    Manned workers (entered log member entry) := by
  intro other
  rw [standing_entered]
  by_cases same : member = other
  · rw [if_pos same, works, ← same]
    exact manned member
  · rw [if_neg same]
    exact manned other

/-- At first no worker has anything in hand. -/
theorem balanced_nil {hand : Standing → Option Parcel} (idle : hand .idle = none)
    (gained : DeliveryEntry → List Parcel) (workers : Nat) : Balanced hand gained workers [] := by
  have empty : inHand hand workers [] = [] := by
    refine List.filterMap_eq_nil_iff.2 fun worker works => ?_
    rw [standing, List.foldl_nil, if_pos (List.mem_range.1 works)]
    exact idle
  rw [Balanced, empty]
  exact List.Perm.refl []

/-- A step changes what is in hand by what the member has in hand before and afterwards. -/
theorem inHand_entered {hand : Standing → Option Parcel}
    (emptyHanded : ∀ standing : Standing, standing.works = false → hand standing = none)
    (manned : Manned workers log)
    (works :
      ((standing workers member log).next entry).works = (standing workers member log).works) :
    ((hand ((standing workers member log).next entry)).toList ++ inHand hand workers log).Perm
      ((hand (standing workers member log)).toList ++
        inHand hand workers (entered log member entry)) := by
  have others : ∀ other, other ≠ member →
      hand (standing workers other (entered log member entry)) =
        hand (standing workers other log) := by
    intro other different
    rw [standing_entered, if_neg (Ne.symm different)]
  by_cases inside : member < workers
  · have moved := perm_flatMap_range inside fun other different =>
      congrArg Option.toList (others other different)
    rw [standing_entered, if_pos rfl, ← List.filterMap_eq_flatMap_toList,
      ← List.filterMap_eq_flatMap_toList] at moved
    exact moved
  · have outside : (standing workers member log).works = false := by
      have notManned := mt (manned member).1 inside
      simpa using notManned
    have stillOutside : ((standing workers member log).next entry).works = false :=
      works.trans outside
    have same : inHand hand workers (entered log member entry) =
        inHand hand workers log := by
      apply List.filterMap_congr
      intro worker works
      apply others worker
      intro mine
      rw [mine] at works
      exact inside (List.mem_range.1 works)
    rw [emptyHanded _ outside, emptyHanded _ stillOutside, same]

/-- What a step gains or takes out of a hand is completed or in a hand afterwards. -/
theorem Balanced.step {hand : Standing → Option Parcel} {gained : DeliveryEntry → List Parcel}
    (balanced : Balanced hand gained workers log) (manned : Manned workers log)
    (emptyHanded : ∀ standing : Standing, standing.works = false → hand standing = none)
    (works :
      ((standing workers member log).next entry).works = (standing workers member log).works)
    (balance : (hand (standing workers member log)).toList ++ entry.elim [] gained =
      (hand ((standing workers member log).next entry)).toList ++ entry.elim [] completed) :
    Balanced hand gained workers (entered log member entry) := by
  have moved := inHand_entered emptyHanded manned works
  rw [Balanced, List.perm_iff_count] at balanced ⊢
  rw [List.perm_iff_count] at moved
  intro parcel
  have before := balanced parcel
  have change := moved parcel
  have equal := congrArg (List.count parcel) balance
  simp only [gather_entered, List.count_append] at before change equal ⊢
  omega

/-- Whoever takes a file has it in hand until its transmission has ended. -/
theorem DeliveryStep.balance_delivering {standing : Standing}
    (step : DeliveryStep publication standing outbound entry after) :
    standing.delivering?.toList ++ entry.elim [] taken =
      (standing.next entry).delivering?.toList ++ entry.elim [] completed := by
  cases step with
  | halted =>
      cases first : (outbound.pool publication).halt.1 with
      | true | false => simp [Standing.next, Standing.after, Standing.delivering?, taken, completed]
  | _ => simp [Standing.next, Standing.after, Standing.delivering?, taken, completed]

/-- Whoever begins a transmission has the file in hand until it has ended. -/
theorem DeliveryStep.balance_publishing {standing : Standing}
    (step : DeliveryStep publication standing outbound entry after) :
    standing.publishing?.toList ++ entry.elim [] begun =
      (standing.next entry).publishing?.toList ++ entry.elim [] completed := by
  cases step with
  | halted =>
      cases first : (outbound.pool publication).halt.1 with
      | true | false => simp [Standing.next, Standing.after, Standing.publishing?, begun, completed]
  | _ => simp [Standing.next, Standing.after, Standing.publishing?, begun, completed]

/-- Who does not work has nothing in hand. -/
theorem Standing.delivering?_eq_none {standing : Standing} (rests : standing.works = false) :
    standing.delivering? = none := by
  cases standing with
  | free | carrying | stopping | waiting | idle | counting | leaving | gone => rfl
  | holding | publishing => cases rests

theorem Standing.publishing?_eq_none {standing : Standing} (rests : standing.works = false) :
    standing.publishing? = none := by
  cases standing with
  | free | carrying | stopping | waiting | idle | holding | counting | leaving | gone => rfl
  | publishing => cases rests

end InHand

/-! ## Stopping -/

namespace Standing

/-- Whether a member stands here only because the publication was stopped. -/
def knows : Standing → Bool
  | stopping | waiting | leaving | gone => true
  | _ => false

end Standing

namespace Publication

open DeliveryEntry (accepted abandoned)

variable {publication : Publication} {workers capacity member : Nat} {outbound after : Outbound}
  {log : List (Nat × DeliveryEntry)} {entry : Option DeliveryEntry}

/-- Nobody is told to leave, leaves or abandons files unless the publication was stopped. -/
structure StoppedFirst (publication : Publication) (workers : Nat) (outbound : Outbound)
    (log : List (Nat × DeliveryEntry)) : Prop where
  signalled : (outbound.pool publication.id).signalled = true → Halted log
  knows : ∀ member, (standing workers member log).knows = true → Halted log
  abandoned : gather abandoned log ≠ [] → Halted log

theorem StoppedFirst.of_halted (halted : Halted log) :
    StoppedFirst publication workers outbound log :=
  ⟨fun _ => halted, fun _ _ => halted, fun _ => halted⟩

/-- A step that has nothing to do with stopping. -/
theorem StoppedFirst.quiet (stopped : StoppedFirst publication workers outbound log)
    (signalled : (after.pool publication.id).signalled = (outbound.pool publication.id).signalled)
    (knows : ((standing workers member log).next entry).knows = (standing workers member log).knows)
    (nothingAbandoned : entry.elim [] DeliveryEntry.abandoned = []) :
    StoppedFirst publication workers after (entered log member entry) where
  signalled := by
    rw [signalled]
    exact fun told => (stopped.signalled told).entered _ _
  knows := by
    intro other knowing
    rw [standing_entered] at knowing
    refine Halted.entered ?_ _ _
    by_cases same : member = other
    · rw [if_pos same, knows] at knowing
      exact stopped.knows member knowing
    · rw [if_neg same] at knowing
      exact stopped.knows other knowing
  abandoned := by
    rw [gather_entered, nothingAbandoned, List.append_nil]
    exact fun lost => (stopped.abandoned lost).entered _ _

theorem StoppedFirst.step (stopped : StoppedFirst publication workers outbound log)
    (started : publication.id < outbound.pools.length)
    (step : DeliveryStep publication.id (standing workers member log) outbound entry after) :
    StoppedFirst publication workers after (entered log member entry) := by
  have put (pool : Pool) : (outbound.setPool publication.id pool).pool publication.id = pool :=
    outbound.pool_setPool_self started pool
  have known (knows : (standing workers member log).knows = true) :
      StoppedFirst publication workers after (entered log member entry) :=
    .of_halted ((stopped.knows member knows).entered _ _)
  generalize place : standing workers member log = current at step
  cases step with
  | silent pools disk =>
      refine stopped.quiet ?_ rfl rfl
      rw [Outbound.pool, pools, ← Outbound.pool]
  | made | turnedAway | began | ended =>
      exact stopped.quiet rfl (by rw [place]; rfl) rfl
  | offered parcel =>
      exact stopped.quiet (by rw [put]; exact Pool.signalled_offer ..) (by rw [place]; rfl) rfl
  | took found =>
      have same := congrArg Pool.signalled (outbound.pool publication.id).take_eq
      exact stopped.quiet (by rw [put]; exact same) (by rw [place]; rfl) rfl
  | settled parcel => exact stopped.quiet (by rw [put]; rfl) (by rw [place]; rfl) rfl
  | halted =>
      exact .of_halted ⟨member, (outbound.pool publication.id).halt.1, by simp [entered]⟩
  | noticed signalled => exact .of_halted ((stopped.signalled signalled).entered _ _)
  | signalled | joined | left => exact known (by rw [place]; rfl)

/-! ## Distinct files -/

/-- Every file in play is older than the next one to be made, and no two of them have one number. -/
structure Distinct (workers : Nat) (outbound : Outbound) (log : List (Nat × DeliveryEntry)) :
    Prop where
  once : ((gather accepted log).map (·.file.serial)).Nodup
  older : ∀ parcel ∈ gather accepted log, parcel.file.serial < outbound.disk.next
  carried : ∀ member file, standing workers member log = .carrying file →
    file.serial < outbound.disk.next ∧
      ∀ parcel ∈ gather accepted log, parcel.file.serial ≠ file.serial
  apart : ∀ member other file another, member ≠ other →
    standing workers member log = .carrying file → standing workers other log = .carrying another →
    file.serial ≠ another.serial

/-- A step by which nobody comes to carry a file and no file is accepted. -/
theorem Distinct.quiet (distinct : Distinct workers outbound log)
    (next : after.disk.next = outbound.disk.next)
    (carries : ∀ file, (standing workers member log).next entry = .carrying file →
      standing workers member log = .carrying file)
    (nothingAccepted : entry.elim [] DeliveryEntry.accepted = []) :
    Distinct workers after (entered log member entry) := by
  have before : ∀ other file,
      standing workers other (entered log member entry) = .carrying file →
        standing workers other log = .carrying file := by
    intro other file carried
    rw [standing_entered] at carried
    by_cases same : member = other
    · rw [if_pos same] at carried
      rw [← same]
      exact carries file carried
    · rw [if_neg same] at carried
      exact carried
  have same : gather accepted (entered log member entry) = gather accepted log := by
    rw [gather_entered, nothingAccepted, List.append_nil]
  constructor
  · rw [same]
    exact distinct.once
  · rw [same, next]
    exact distinct.older
  · rw [same, next]
    exact fun other file carried => distinct.carried other file (before other file carried)
  · intro other another file second different carried alsoCarried
    exact distinct.apart other another file second different (before other file carried)
      (before another second alsoCarried)

/-- A file that is made has a number that no other file has. -/
theorem Distinct.make (distinct : Distinct workers outbound log) (inFolder : Bool) (file : File) :
    Distinct workers (outbound.makeFile inFolder file).2
      (entered log member (some (.made (outbound.makeFile inFolder file).1))) := by
  have next : (outbound.makeFile inFolder file).2.disk.next = outbound.disk.next + 1 := rfl
  have same : gather accepted (entered log member
      (some (.made (outbound.makeFile inFolder file).1))) = gather accepted log := by
    rw [gather_entered]
    exact List.append_nil _
  have carried : ∀ other found, standing workers other (entered log member
      (some (.made (outbound.makeFile inFolder file).1))) = .carrying found →
      (other = member ∧ found.serial = outbound.disk.next) ∨
        (other ≠ member ∧ standing workers other log = .carrying found) := by
    intro other found carrying
    rw [standing_entered] at carrying
    by_cases same : member = other
    · rw [if_pos same] at carrying
      cases carrying
      exact Or.inl ⟨same.symm, rfl⟩
    · rw [if_neg same] at carrying
      exact Or.inr ⟨Ne.symm same, carrying⟩
  constructor
  · rw [same]
    exact distinct.once
  · rw [same, next]
    exact fun parcel known => Nat.lt_succ_of_lt (distinct.older parcel known)
  · rw [same, next]
    intro other found carrying
    rcases carried other found carrying with ⟨_, fresh⟩ | ⟨_, carrying⟩
    · rw [fresh]
      exact ⟨Nat.lt_succ_self _, fun parcel known => Nat.ne_of_lt (distinct.older parcel known)⟩
    · obtain ⟨older, unlike⟩ := distinct.carried other found carrying
      exact ⟨Nat.lt_succ_of_lt older, unlike⟩
  · intro other another found second different carrying alsoCarrying
    rcases carried other found carrying with ⟨mine, fresh⟩ | ⟨_, stillCarried⟩ <;>
      rcases carried another second alsoCarrying with ⟨alsoMine, alsoFresh⟩ | ⟨_, alsoCarried⟩
    · exact absurd (mine.trans alsoMine.symm) different
    · rw [fresh]
      exact Nat.ne_of_gt (distinct.carried another second alsoCarried).1
    · rw [alsoFresh]
      exact Nat.ne_of_lt (distinct.carried other found stillCarried).1
    · exact distinct.apart other another found second different stillCarried alsoCarried

/-- A file that is accepted was carried by one member only, who carries it no more. -/
theorem Distinct.accept (distinct : Distinct workers outbound log) {parcel : Parcel}
    (carrying : standing workers member log = .carrying parcel.file)
    (next : after.disk.next = outbound.disk.next) :
    Distinct workers after
      (entered log member (some (.answered parcel .queued))) := by
  obtain ⟨older, unlike⟩ := distinct.carried member parcel.file carrying
  have more : gather accepted (entered log member
      (some (.answered parcel .queued))) = gather accepted log ++ [parcel] := by
    rw [gather_entered]
    rfl
  have others : ∀ other found, standing workers other (entered log member
      (some (.answered parcel .queued))) = .carrying found →
      member ≠ other ∧ standing workers other log = .carrying found := by
    intro other found carried
    rw [standing_entered] at carried
    by_cases same : member = other
    · rw [if_pos same] at carried
      cases carried
    · rw [if_neg same] at carried
      exact ⟨same, carried⟩
  constructor
  · rw [more, List.map_append, List.nodup_append]
    refine ⟨distinct.once, by simp, ?_⟩
    intro serial known another new
    obtain ⟨earlier, accepted, rfl⟩ := List.mem_map.1 known
    rw [List.mem_singleton.1 new]
    exact unlike earlier accepted
  · rw [more, next]
    intro other known
    rcases List.mem_append.1 known with known | new
    · exact distinct.older other known
    · rw [List.mem_singleton.1 new]
      exact older
  · rw [more, next]
    intro other found carried
    obtain ⟨different, stillCarried⟩ := others other found carried
    obtain ⟨foundOlder, foundUnlike⟩ := distinct.carried other found stillCarried
    refine ⟨foundOlder, fun known member => ?_⟩
    rcases List.mem_append.1 member with earlier | new
    · exact foundUnlike known earlier
    · rw [List.mem_singleton.1 new]
      exact distinct.apart _ other parcel.file found different carrying stillCarried
  · intro other another found second different carried alsoCarried
    exact distinct.apart other another found second different (others other found carried).2
      (others another second alsoCarried).2

theorem Distinct.step (distinct : Distinct workers outbound log)
    (step : DeliveryStep publication.id (standing workers member log) outbound entry after) :
    Distinct workers after (entered log member entry) := by
  generalize place : standing workers member log = current at step
  cases step with
  | silent pools disk => exact distinct.quiet (by rw [disk]) (fun _ carries => carries) rfl
  | made inFolder file => exact distinct.make inFolder file
  | offered parcel =>
      cases outcome : ((outbound.pool publication.id).offer parcel).1 with
      | queued => exact distinct.accept place rfl
      | discarded | decorationFailed | queueFull | stopped =>
          exact distinct.quiet rfl (fun _ => nofun) rfl
  | halted =>
      refine distinct.quiet rfl (fun file carries => ?_) rfl
      cases first : (outbound.pool publication.id).halt.1 with
      | true | false => simp [Standing.next, Standing.after, first] at carries
  | left => exact distinct.quiet (Disk.next_deleteAll ..) (fun _ => nofun) rfl
  | _ => exact distinct.quiet rfl (fun _ => nofun) rfl

/-! ## The whole ledger -/

/-- What holds of a publication at every moment. -/
structure Ledger (publication : Publication) (workers capacity : Nat) (outbound : Outbound)
    (log : List (Nat × DeliveryEntry)) : Prop where
  stocked : Stocked publication capacity outbound log
  manned : Manned workers log
  delivering : Balanced Standing.delivering? DeliveryEntry.taken workers log
  publishing : Balanced Standing.publishing? DeliveryEntry.begun workers log
  stoppedFirst : StoppedFirst publication workers outbound log
  distinct : Distinct workers outbound log

theorem Ledger.step (ledger : Ledger publication workers capacity outbound log)
    (step : DeliveryStep publication.id (standing workers member log) outbound entry after) :
    Ledger publication workers capacity after (entered log member entry) where
  stocked := ledger.stocked.step step
  manned := ledger.manned.step step.works_next
  delivering := ledger.delivering.step ledger.manned (fun _ => Standing.delivering?_eq_none)
    step.works_next step.balance_delivering
  publishing := ledger.publishing.step ledger.manned (fun _ => Standing.publishing?_eq_none)
    step.works_next step.balance_publishing
  stoppedFirst := ledger.stoppedFirst.step ledger.stocked.started step
  distinct := ledger.distinct.step step

theorem standing_nil (workers member : Nat) :
    standing workers member [] = if member < workers then .idle else .free := rfl

/-- At first every worker is idle and nobody else has done anything. -/
theorem Ledger.of_new (started : publication.id < outbound.pools.length)
    (new : outbound.pool publication.id = ⟨capacity, workers, [], [], false, false, false⟩) :
    Ledger publication workers capacity outbound [] where
  stocked :=
    { started
      size := by rw [new]
      room := by rw [new]; exact Nat.zero_le capacity
      order := by rw [new]; rfl
      emptied := by rw [new]; exact fun _ => rfl
      kept := fun _ => rfl }
  manned := by
    intro member
    rw [standing_nil]
    split <;> simp_all [Standing.works]
  delivering := balanced_nil rfl _ _
  publishing := balanced_nil rfl _ _
  stoppedFirst :=
    { signalled := by rw [new]; exact nofun
      knows := by
        intro member
        rw [standing_nil]
        split <;> exact nofun
      abandoned := fun lost => absurd rfl lost }
  distinct :=
    { once := List.nodup_nil
      older := nofun
      carried := by
        intro member
        rw [standing_nil]
        split <;> exact nofun
      apart := by
        intro member other file another different
        rw [standing_nil]
        split <;> exact nofun }

end Publication

end RadarRelay
