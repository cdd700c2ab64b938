import RadarRelay.Proofs.Delivery.NoLoss

/-!
# How a publication closes

A worker that leaves never comes back, and the last one closes the queue. Whoever
was first to stop the publication goes on when no worker is left, so from then on
no file is taken and none is accepted, and whatever a worker had in hand has been
transmitted and counted before.
-/

namespace RadarRelay

open DeliveryEntry (accepted taken begun completed abandoned)

variable {workers capacity member : Nat} {outbound after : Outbound}
  {log : List (Nat × DeliveryEntry)} {entry : Option DeliveryEntry}

/-! ## Who is left -/

/-- The workers that have not left. -/
def present (workers : Nat) (log : List (Nat × DeliveryEntry)) : List Nat :=
  (List.range workers).flatMap fun worker =>
    if standing workers worker log = .gone then [] else [worker]

/-- Somebody stopped the publication and has waited for its workers. -/
def Joined (log : List (Nat × DeliveryEntry)) : Prop :=
  ∃ caller, (caller, DeliveryEntry.joined) ∈ log

theorem present_nil (workers : Nat) : present workers [] = List.range workers := by
  have idle : ∀ worker ∈ List.range workers,
      (if standing workers worker [] = .gone then [] else [worker]) = [worker] := by
    intro worker inside
    rw [Publication.standing_nil, if_pos (List.mem_range.1 inside), if_neg nofun]
  rw [present, List.flatMap_congr idle, List.flatMap_singleton']

theorem gone_of_present_nil (none : present workers log = []) {worker : Nat}
    (inside : worker < workers) : standing workers worker log = .gone := by
  have alone := List.flatMap_eq_nil_iff.1 none worker (List.mem_range.2 inside)
  by_contra here
  rw [if_neg here] at alone
  cases alone

/-- Nobody is gone but by leaving, and nobody comes back. -/
theorem DeliveryStep.gone_next {publication : Nat} {standing : Standing}
    (step : DeliveryStep publication standing outbound entry after)
    (stays : ∀ parcels, entry ≠ some (.left parcels)) :
    standing.next entry = .gone ↔ standing = .gone := by
  cases step with
  | silent => exact Iff.rfl
  | left => exact absurd rfl (stays _)
  | halted =>
      cases (outbound.pool publication).halt.1 with
      | true | false => simp [Standing.next, Standing.after]
  | _ => simp [Standing.next, Standing.after]

/-- A worker is present until it leaves. -/
theorem present_entered (gone : (standing workers member log).next entry = .gone ↔
    standing workers member log = .gone) :
    present workers (entered log member entry) = present workers log := by
  refine List.flatMap_congr fun worker _ => ?_
  rw [standing_entered]
  by_cases same : member = worker
  · subst same
    simp only [if_true, gone]
  · rw [if_neg same]

/-- Who leaves was present and is no more. -/
theorem length_present_left (parcels : List Parcel) (inside : member < workers)
    (leaving : standing workers member log = .leaving) :
    (present workers log).length =
      (present workers (entered log member (some (.left parcels)))).length + 1 := by
  have others : ∀ other, other ≠ member →
      (if standing workers other (entered log member (some (.left parcels))) = .gone then []
        else [other]) = if standing workers other log = .gone then [] else [other] := by
    intro other different
    rw [standing_entered, if_neg (Ne.symm different)]
  have moved := (perm_flatMap_range inside others).length_eq
  have left : Standing.leaving.next (some (.left parcels)) = .gone := rfl
  rw [standing_entered, if_pos rfl, leaving, if_pos left, if_neg nofun] at moved
  simpa [present, Nat.add_comm] using moved

/-! ## The last worker closes the queue -/

namespace Publication

variable {publication : Publication}

/-- The pool counts the workers that are present; the queue is open as long as there is one. -/
structure Closing (publication : Publication) (workers : Nat) (outbound : Outbound)
    (log : List (Nat × DeliveryEntry)) : Prop where
  staff : (outbound.pool publication.id).workers = (present workers log).length
  closed : (outbound.pool publication.id).closed = true ↔
    (outbound.pool publication.id).workers = 0
  joined : Joined log → (outbound.pool publication.id).workers = 0

/-- A step by which nobody leaves and nobody's waiting ends. -/
theorem Closing.quiet (closing : Closing publication workers outbound log)
    (staff : (after.pool publication.id).workers = (outbound.pool publication.id).workers)
    (closed : (after.pool publication.id).closed = (outbound.pool publication.id).closed)
    (gone : (standing workers member log).next entry = .gone ↔
      standing workers member log = .gone)
    (waits : entry ≠ some .joined) :
    Closing publication workers after (entered log member entry) where
  staff := by rw [staff, present_entered gone]; exact closing.staff
  closed := by rw [staff, closed]; exact closing.closed
  joined := by
    rw [staff]
    rintro ⟨caller, logged⟩
    cases entry with
    | none => exact closing.joined ⟨caller, logged⟩
    | some entry =>
        rcases List.mem_append.1 logged with earlier | last
        · exact closing.joined ⟨caller, earlier⟩
        · cases List.mem_singleton.1 last
          exact absurd rfl waits

/-- A worker that is present cannot be missing from the pool. -/
theorem Closing.workers_pos (closing : Closing publication workers outbound log)
    (inside : member < workers) (here : standing workers member log ≠ .gone) :
    0 < (outbound.pool publication.id).workers := by
  rw [closing.staff]
  refine Nat.pos_of_ne_zero fun none => here ?_
  exact gone_of_present_nil (List.eq_nil_of_length_eq_zero none) inside

theorem Closing.leave (closing : Closing publication workers outbound log)
    (started : publication.id < outbound.pools.length) (inside : member < workers)
    (leaving : standing workers member log = .leaving) :
    Closing publication workers (dismiss publication.id outbound).2
      (entered log member (some (.left (dismiss publication.id outbound).1))) := by
  have here := closing.workers_pos inside (by rw [leaving]; exact nofun)
  have fewer := length_present_left (dismiss publication.id outbound).1 inside leaving
  have pool : (dismiss publication.id outbound).2.pool publication.id =
      (outbound.pool publication.id).leave.2 := outbound.pool_setPool_self started _
  have staff := closing.staff
  have unjoined :
      ¬ Joined (entered log member (some (.left (dismiss publication.id outbound).1))) := by
    rintro ⟨caller, logged⟩
    rcases List.mem_append.1 logged with earlier | last
    · have none := closing.joined ⟨caller, earlier⟩
      omega
    · cases List.mem_singleton.1 last
  by_cases last : (outbound.pool publication.id).workers = 1
  · rw [Pool.leave_of_last last] at pool
    constructor
    · rw [pool]
      show 0 = _
      omega
    · rw [pool]
      exact ⟨fun _ => rfl, fun _ => rfl⟩
    · exact fun joined => absurd joined unjoined
  · rw [Pool.leave_of_not_last last] at pool
    constructor
    · rw [pool]
      show (outbound.pool publication.id).workers - 1 = _
      omega
    · rw [pool]
      show (outbound.pool publication.id).closed = true ↔
        (outbound.pool publication.id).workers - 1 = 0
      rw [closing.closed]
      omega
    · exact fun joined => absurd joined unjoined

theorem Closing.step (closing : Closing publication workers outbound log)
    (started : publication.id < outbound.pools.length) (manned : Manned workers log)
    (step : DeliveryStep publication.id (standing workers member log) outbound entry after) :
    Closing publication workers after (entered log member entry) := by
  have put (pool : Pool) : (outbound.setPool publication.id pool).pool publication.id = pool :=
    outbound.pool_setPool_self started pool
  have works := manned member
  have stays := step.gone_next
  generalize place : standing workers member log = current at step works
  cases step with
  | silent pools disk =>
      have same : after.pool publication.id = outbound.pool publication.id := by
        rw [Outbound.pool, pools, ← Outbound.pool]
      exact closing.quiet (by rw [same]) (by rw [same]) (stays (by simp)) (by simp)
  | made | turnedAway | noticed | began | ended =>
      exact closing.quiet rfl rfl (stays (by simp)) (by simp)
  | offered parcel =>
      rcases (outbound.pool publication.id).offer_cases parcel with
        ⟨_, offer⟩ | ⟨_, _, offer⟩ | ⟨_, _, offer⟩ <;>
      · rw [offer]
        exact closing.quiet (by rw [put]) (by rw [put]) (stays (by simp)) (by simp)
  | halted | signalled | settled =>
      exact closing.quiet (by rw [put]; rfl) (by rw [put]; rfl) (stays (by simp)) (by simp)
  | took found =>
      have same := (outbound.pool publication.id).take_eq
      exact closing.quiet (by rw [put, congrArg Pool.workers same])
        (by rw [put, congrArg Pool.closed same]) (stays (by simp)) (by simp)
  | left => exact closing.leave started (works.1 rfl) place
  | joined none =>
      have quiet : present workers (entered log member (some .joined)) = present workers log :=
        present_entered (stays (by simp))
      exact
        { staff := by rw [quiet]; exact closing.staff
          closed := closing.closed
          joined := fun _ => none }

end Publication

/-! ## The first to stop a publication -/

/-- Whoever was first to stop a publication waits for its workers here, or will. -/
def Standing.awaits : Standing → List Unit
  | stopping | waiting => [()]
  | _ => []

/-- No step takes a stop back. -/
theorem DeliveryStep.stopped_of_stopped {publication : Nat} {standing : Standing}
    (step : DeliveryStep publication standing outbound entry after)
    (started : publication < outbound.pools.length)
    (stopped : (outbound.pool publication).stopped = true) :
    (after.pool publication).stopped = true := by
  have put (pool : Pool) : (outbound.setPool publication pool).pool publication = pool :=
    outbound.pool_setPool_self started pool
  cases step with
  | silent pools disk =>
      rw [Outbound.pool, pools]
      exact stopped
  | made | turnedAway | joined | noticed | began | ended => exact stopped
  | offered parcel =>
      rcases (outbound.pool publication).offer_cases parcel with
        ⟨_, offer⟩ | ⟨_, _, offer⟩ | ⟨_, _, offer⟩ <;>
      · rw [offer, put]
        exact stopped
  | halted => rw [put]; rfl
  | signalled | settled => rw [put]; exact stopped
  | took found =>
      rw [put, congrArg Pool.stopped (outbound.pool publication).take_eq]
      exact stopped
  | left =>
      have pool : (Publication.dismiss publication outbound).2.pool publication =
          (outbound.pool publication).leave.2 := put _
      rw [pool, Pool.leave]
      split
      · exact stopped
      · exact stopped

namespace Publication

variable {publication : Publication}

/-- Whoever stops a publication leaves it stopped. -/
theorem stopped_of_halted_step (marked : Halted log → (outbound.pool publication.id).stopped = true)
    (started : publication.id < outbound.pools.length)
    (step : DeliveryStep publication.id (standing workers member log) outbound entry after)
    (halted : Halted (entered log member entry)) :
    (after.pool publication.id).stopped = true := by
  by_cases earlier : Halted log
  · exact step.stopped_of_stopped started (marked earlier)
  obtain ⟨caller, first, logged⟩ := halted
  cases entry with
  | none => exact absurd ⟨caller, first, logged⟩ earlier
  | some entry =>
      rcases List.mem_append.1 logged with known | last
      · exact absurd ⟨caller, first, known⟩ earlier
      have same := (Prod.mk.inj (List.mem_singleton.1 last)).2
      generalize standing workers member log = place at step
      cases step with
      | halted =>
          rw [outbound.pool_setPool_self started]
          rfl
      | _ => cases same

/-- What holds of workers and of everybody else at first. -/
theorem owing_start {Item : Type} (owing : Standing → List Item) (idle : owing .idle = [])
    (free : owing .free = []) (workers member : Nat) :
    owing ((publication.protocol workers).start member) = [] := by
  show owing (if member < workers then .idle else .free) = []
  split
  · exact idle
  · exact free

/-- The first to stop a publication is to wait for its workers. -/
def waitingDues (publication : Publication) (workers : Nat) :
    Dues (publication.protocol workers) Unit where
  due
    | .halted true => [()]
    | _ => []
  paid
    | .joined => [()]
    | _ => []
  owing := Standing.awaits
  start := owing_start Standing.awaits rfl rfl workers
  balance := by
    intro standing outbound entry after step
    cases step with
    | halted => cases (outbound.pool publication.id).halt.1 <;> rfl
    | _ => rfl

end Publication

/-! ## What workers see through -/

namespace Standing

/-- The file that a worker has taken and is not done with. -/
def busy? : Standing → Option Parcel
  | holding parcel | publishing parcel | counting parcel => some parcel
  | _ => none

end Standing

/-- The file that a worker is done with. -/
def DeliveryEntry.finished : DeliveryEntry → List Parcel
  | settled parcel => [parcel]
  | _ => []

namespace Publication

open DeliveryEntry (finished)

variable {publication : Publication}

/-- A worker that has taken a file is to transmit it. -/
def transmittingDues (publication : Publication) (workers : Nat) :
    Dues (publication.protocol workers) Parcel where
  due := taken
  paid := completed
  owing standing := standing.delivering?.toList
  start := owing_start (fun standing => standing.delivering?.toList) rfl rfl workers
  balance := by
    intro standing outbound entry after step
    cases step with
    | halted => cases (outbound.pool publication.id).halt.1 <;> rfl
    | _ => rfl

/-- A worker that has taken a file is to count how its transmission ended. -/
def finishingDues (publication : Publication) (workers : Nat) :
    Dues (publication.protocol workers) Parcel where
  due := taken
  paid := finished
  owing standing := standing.busy?.toList
  start := owing_start (fun standing => standing.busy?.toList) rfl rfl workers
  balance := by
    intro standing outbound entry after step
    cases step with
    | halted => cases (outbound.pool publication.id).halt.1 <;> rfl
    | _ => rfl

/-! ## Entries and what went before -/

/-- What holds before an entry is left. When somebody has waited for the workers, all have left;
from then on nobody but callers leaves entries, and they are turned away. -/
structure Foregone (publication : Publication) (workers : Nat) (before : List (Nat × DeliveryEntry))
    (entry : Nat × DeliveryEntry) : Prop where
  transmitting : (transmittingDues publication workers).Settled before
  finishing : (finishingDues publication workers).Settled before
  /-- What is a worker's to do is done by workers. -/
  works : (Standing.after entry.2).works = true ↔ entry.1 < workers
  first : entry.2 = .halted true → ¬ Halted before
  waits : entry.2 = .joined → (entry.1, .halted true) ∈ before
  gone : entry.2 = .joined → ∀ worker < workers, standing workers worker before = .gone
  callers : Joined before → workers ≤ entry.1
  refused : Joined before → ∀ parcel outcome, entry.2 = .answered parcel outcome →
    outcome = .stopped

/-- What holds of a publication that may be stopped, at every moment. -/
structure Stopping (publication : Publication) (workers capacity : Nat) (outbound : Outbound)
    (log : List (Nat × DeliveryEntry)) : Prop where
  ledger : Ledger publication workers capacity outbound log
  closing : Closing publication workers outbound log
  marked : Halted log → (outbound.pool publication.id).stopped = true
  waiting : (waitingDues publication workers).Settled log
  transmitting : (transmittingDues publication workers).Settled log
  finishing : (finishingDues publication workers).Settled log
  foregone : Justified (Foregone publication workers) log

/-- When somebody has waited for the workers, all have left. -/
theorem Closing.gone (closing : Closing publication workers outbound log)
    (none : (outbound.pool publication.id).workers = 0) {worker : Nat} (inside : worker < workers) :
    standing workers worker log = .gone := by
  rw [closing.staff] at none
  exact gone_of_present_nil (List.eq_nil_of_length_eq_zero none) inside

theorem Stopping.foregone_step (stopping : Stopping publication workers capacity outbound log)
    {entry : DeliveryEntry}
    (step : DeliveryStep publication.id (standing workers member log) outbound (some entry)
      after) : Foregone publication workers log (member, entry) where
  transmitting := stopping.transmitting
  finishing := stopping.finishing
  works := by
    rw [← stopping.ledger.manned member]
    exact Iff.of_eq (congrArg (· = true) step.works_next)
  first := by
    rintro same earlier
    have stopped := stopping.marked earlier
    generalize standing workers member log = place at step
    cases step with
    | halted =>
        rw [Pool.halt, stopped] at same
        cases same
    | _ => cases same
  waits := by
    rintro rfl
    have settled := stopping.waiting member
    rw [phase_protocol] at settled
    generalize standing workers member log = place at step settled
    cases step with
    | joined =>
        have owed : () ∈ (entriesOf member log).flatMap (waitingDues publication workers).due := by
          rw [← settled]
          exact List.mem_append_right _ (List.mem_singleton.2 rfl)
        obtain ⟨entry, logged, due⟩ := List.mem_flatMap.1 owed
        cases entry with
        | halted first =>
            cases first with
            | true => exact mem_entriesOf.1 logged
            | false => cases due
        | _ => cases due
  gone := by
    rintro rfl worker inside
    generalize standing workers member log = place at step
    cases step with
    | joined none => exact stopping.closing.gone none inside
  callers joined := by
    by_contra outside
    have gone := stopping.closing.gone (stopping.closing.joined joined) (Nat.lt_of_not_le outside)
    rw [gone] at step
    cases step
  refused joined := by
    rintro parcel outcome rfl
    have closed := stopping.closing.closed.2 (stopping.closing.joined joined)
    generalize standing workers member log = place at step
    generalize answered : DeliveryEntry.answered parcel outcome = entry at step
    cases step with
    | turnedAway => exact (DeliveryEntry.answered.inj answered).2
    | offered other =>
        rw [(DeliveryEntry.answered.inj answered).2, Pool.offer, if_pos closed]
    | _ => cases answered

theorem Stopping.step (stopping : Stopping publication workers capacity outbound log)
    (step : DeliveryStep publication.id (standing workers member log) outbound entry after) :
    Stopping publication workers capacity after (entered log member entry) where
  ledger := stopping.ledger.step step
  closing := stopping.closing.step stopping.ledger.stocked.started stopping.ledger.manned step
  marked := stopped_of_halted_step stopping.marked stopping.ledger.stocked.started step
  waiting := stopping.waiting.step step
  transmitting := stopping.transmitting.step step
  finishing := stopping.finishing.step step
  foregone := by
    cases entry with
    | none => exact stopping.foregone
    | some entry => exact stopping.foregone.append (stopping.foregone_step step)

theorem Stopping.of_new (started : publication.id < outbound.pools.length) (some : 0 < workers)
    (new : outbound.pool publication.id = ⟨capacity, workers, [], [], false, false, false⟩) :
    Stopping publication workers capacity outbound [] where
  ledger := .of_new started new
  closing :=
    { staff := by rw [new, present_nil, List.length_range]
      closed := by
        rw [new]
        exact ⟨nofun, fun none => absurd none (Nat.ne_of_gt some)⟩
      joined := by
        rintro ⟨caller, logged⟩
        cases logged }
  marked := nofun
  waiting := (waitingDues publication workers).settled_nil
  transmitting := (transmittingDues publication workers).settled_nil
  finishing := (finishingDues publication workers).settled_nil
  foregone := justified_nil

/-! ## After the workers have left -/

section Since

variable {before since : List (Nat × DeliveryEntry)} {caller : Nat}

theorem Stopping.foregone_joined (stopping : Stopping publication workers capacity outbound log)
    (split : log = before ++ (caller, .joined) :: since) :
    Foregone publication workers before (caller, .joined) :=
  stopping.foregone _ _ _ split

theorem Stopping.foregone_since (stopping : Stopping publication workers capacity outbound log)
    (split : log = before ++ (caller, .joined) :: since) {entry : Nat × DeliveryEntry}
    (among : entry ∈ since) :
    ∃ earlier, Joined earlier ∧ Foregone publication workers earlier entry := by
  obtain ⟨middle, rest, rfl⟩ := List.append_of_mem among
  refine ⟨before ++ (caller, .joined) :: middle, ⟨caller, by simp⟩, ?_⟩
  exact stopping.foregone _ entry rest (by rw [split]; simp)

/-- Who has left stays away. -/
theorem Stopping.gone_since (stopping : Stopping publication workers capacity outbound log)
    {rest : List (Nat × DeliveryEntry)}
    (split : log = before ++ (caller, .joined) :: (since ++ rest)) {worker : Nat}
    (works : worker < workers) :
    standing workers worker (before ++ (caller, .joined) :: since) = .gone := by
  have joined := stopping.foregone_joined split
  have others : entriesOf worker ((caller, .joined) :: since) = [] := by
    refine List.eq_nil_iff_forall_not_mem.2 fun entry mine => ?_
    rcases List.mem_cons.1 (mem_entriesOf.1 mine) with same | later
    · cases same
      exact Bool.noConfusion (joined.works.2 works)
    · obtain ⟨earlier, left, foregone⟩ :=
        stopping.foregone_since split (List.mem_append_left rest later)
      exact absurd works (Nat.not_lt.2 (foregone.callers left))
  have stays : standing workers worker (before ++ (caller, .joined) :: since) =
      standing workers worker before :=
    (publication.protocol workers).phase_append_of_entriesOf_nil others
  rw [stays]
  exact joined.gone rfl worker works

theorem Stopping.began_since (stopping : Stopping publication workers capacity outbound log)
    (split : log = before ++ (caller, .joined) :: since) : gather begun since = [] := by
  refine List.flatMap_eq_nil_iff.2 fun entry among => ?_
  obtain ⟨earlier, joined, foregone⟩ := stopping.foregone_since split among
  have callers := foregone.callers joined
  obtain ⟨author, entry⟩ := entry
  cases entry with
  | began parcel => exact absurd (foregone.works.1 rfl) (Nat.not_lt.2 callers)
  | _ => rfl

/-- What was settled at the end of a log was settled at every earlier moment. -/
theorem Stopping.settled_first (stopping : Stopping publication workers capacity outbound log)
    {first rest : List (Nat × DeliveryEntry)} (split : log = first ++ rest) (more : rest ≠ []) :
    (transmittingDues publication workers).Settled first ∧
      (finishingDues publication workers).Settled first := by
  obtain ⟨entry, foregone⟩ := stopping.foregone.of_append split more
  exact ⟨foregone.transmitting, foregone.finishing⟩

/-- A transmission in progress ends, and is settled, before the workers have left. -/
theorem Stopping.finished (stopping : Stopping publication workers capacity outbound log)
    {first between : List (Nat × DeliveryEntry)}
    (split : log = first ++ between ++ (caller, .joined) :: since) {worker : Nat}
    (works : worker < workers) {parcel : Parcel} :
    ((standing workers worker first).delivering? = some parcel →
        ∃ reply, (worker, .ended parcel reply) ∈ between) ∧
      ((standing workers worker first).busy? = some parcel →
        (worker, .settled parcel) ∈ between) := by
  have joined := stopping.foregone_joined split
  have left : (publication.protocol workers).phase worker (first ++ between) = .gone :=
    joined.gone rfl worker works
  obtain ⟨transmitting, finishing⟩ :=
    stopping.settled_first (split.trans (List.append_assoc ..)) (by simp)
  constructor
  · intro delivering
    have owed : parcel ∈ (transmittingDues publication workers).owing
        ((publication.protocol workers).phase worker first) :=
      Option.mem_toList.2 delivering
    obtain ⟨entry, logged, paid⟩ :=
      transmitting.exists_paid_since joined.transmitting (by rw [left]; rfl) owed
    cases entry with
    | ended other reply =>
        cases List.mem_singleton.1 paid
        exact ⟨reply, logged⟩
    | _ => cases paid
  · intro busy
    have owed : parcel ∈ (finishingDues publication workers).owing
        ((publication.protocol workers).phase worker first) :=
      Option.mem_toList.2 busy
    obtain ⟨entry, logged, paid⟩ :=
      finishing.exists_paid_since joined.finishing (by rw [left]; rfl) owed
    cases entry with
    | settled other =>
        cases List.mem_singleton.1 paid
        exact logged
    | _ => cases paid

/-- The first call to stop the publication is the one that has waited. -/
theorem Stopping.first_joined (stopping : Stopping publication workers capacity outbound log)
    (split : log = before ++ (caller, .joined) :: since) :
    ∃ earlier later, before = earlier ++ (caller, .halted true) :: later ∧ ¬ Halted earlier := by
  obtain ⟨earlier, later, same⟩ :=
    List.append_of_mem ((stopping.foregone_joined split).waits rfl)
  refine ⟨earlier, later, same, ?_⟩
  exact (stopping.foregone earlier (caller, .halted true) (later ++ (caller, .joined) :: since)
    (by rw [split, same]; simp)).first rfl

/-- Whoever stopped the publication first has waited when it has nothing to wait for. -/
theorem Stopping.joined_of_halted (stopping : Stopping publication workers capacity outbound log)
    {caller : Nat} (first : (caller, .halted true) ∈ log)
    (nothing : (waitingDues publication workers).owing (standing workers caller log) = []) :
    (caller, .joined) ∈ log := by
  have settled := stopping.waiting caller
  rw [phase_protocol, nothing, List.append_nil] at settled
  have due : () ∈ (entriesOf caller log).flatMap (waitingDues publication workers).due :=
    List.mem_flatMap.2 ⟨_, mem_entriesOf.2 first, List.mem_singleton.2 rfl⟩
  rw [← settled] at due
  obtain ⟨entry, mine, paid⟩ := List.mem_flatMap.1 due
  cases entry with
  | joined => exact mem_entriesOf.1 mine
  | _ => cases paid

end Since

/-- What was abandoned was never to be transmitted. -/
theorem Ledger.serial_ne_of_begun
    (ledger : Ledger publication workers capacity outbound log) {parcel other : Parcel}
    (lost : parcel ∈ gather abandoned log) (transmitted : other ∈ gather begun log) :
    other.file.serial ≠ parcel.file.serial := by
  have once := ledger.distinct.once
  rw [ledger.stocked.order, List.append_assoc, List.map_append, List.nodup_append] at once
  refine once.2.2 _ (List.mem_map_of_mem (ledger.begun_subperm.subset transmitted)) _ ?_
  exact List.mem_map_of_mem (List.mem_append_left _ lost)

/-- Workers that have left have nothing in hand, in whatever sense. -/
theorem inHand_of_gone {hand : Standing → Option Parcel} (emptyHanded : hand .gone = none)
    (gone : ∀ worker < workers, standing workers worker log = .gone) :
    inHand hand workers log = [] :=
  List.filterMap_eq_nil_iff.2 fun worker inside => by
    rw [gone worker (List.mem_range.1 inside), emptyHanded]

end Publication

end RadarRelay
