import Mathlib.Data.List.Nodup
import RadarRelay.Proofs.Delivery.Ledger

/-!
# No file is lost or delivered twice

Whatever producers, workers and those who stop a publication do at the same time,
every file that was accepted is in exactly one place: it waits, it is in delivery,
it has been transmitted, or it was abandoned because the publication was stopped.
-/

namespace RadarRelay

open DeliveryEntry (accepted taken begun completed abandoned)

variable {Memory : Type} {publication : Publication} {workers capacity : Nat}

namespace Publication

/-- Where the files are that a publication has accepted. -/
structure Accounted (publication : Publication) (workers capacity : Nat)
    (crew : Crew Outbound DeliveryEntry) : Prop where
  together : (gather accepted crew.log).Perm
    ((crew.state.pool publication.id).queue ++ inHand Standing.delivering? workers crew.log ++
      gather completed crew.log ++ gather abandoned crew.log)
  /-- No two of them are one file. -/
  apart : ((gather accepted crew.log).map (·.file.serial)).Nodup
  stoppedFirst : gather abandoned crew.log ≠ [] → Halted crew.log
  /-- No file is handed to the connection twice. -/
  begunOnce : ((gather begun crew.log).map (·.file.serial)).Nodup
  completedOnce : ∀ parcel ∈ gather completed crew.log,
    (gather begun crew.log).count parcel = 1 ∧ (gather completed crew.log).count parcel = 1
  waiting : (crew.state.pool publication.id).queue.length ≤ capacity
  delivering : (inHand Standing.delivering? workers crew.log).length ≤ workers
  /-- A file is dropped only when there is no room, and that changes nothing. -/
  full : ∀ choice parcel, (crew.step Outbound.ready choice).log =
      crew.log ++ [(choice.member, .answered parcel .queueFull)] →
    (crew.state.pool publication.id).queue.length = capacity ∧
      (crew.step Outbound.ready choice).state = crew.state
  /-- Every turn of a worker is followed by another one, whatever became of a delivery, unless the
  worker left because the publication was stopped. -/
  goesOn : ∀ worker member again, worker < workers → crew.members[worker]? = some member →
    member.rest = .done again →
    again = true ∨ (standing workers worker crew.log = .gone ∧ Halted crew.log)

/-- A started publication has an empty pool with its workers and its room. -/
theorem pool_of_start {around : Surroundings Memory} {memory later : Memory}
    {plan : PublicationPlan} {outbound started : Outbound}
    (opened : (start plan).run around outbound memory = (.ok publication, started, later)) :
    publication.id < started.pools.length ∧
      started.pool publication.id =
        ⟨max plan.queueSize 1, max plan.threads 1, [], [], false, false, false⟩ := by
  cases made : Pool.start plan.threads plan.queueSize with
  | error failure =>
      rw [start, made] at opened
      cases opened
  | ok pool =>
      rw [start, made] at opened
      cases opened
      have fresh := Pool.eq_of_start made
      constructor
      · simp
      · simp [Outbound.pool, fresh]

/-- The crew of a started publication keeps to the protocol and its ledger is right, whatever the
schedule. -/
theorem ledger_of_start {around : Surroundings Memory} {memory later : Memory}
    {plan : PublicationPlan} {outbound started : Outbound}
    (opened : (start plan).run around outbound memory = (.ok publication, started, later))
    (errands : List Errand) (schedule : List Choice) :
    let workers := max plan.threads 1
    let crew := (publication.staffed workers errands started).run Outbound.ready schedule
    crew.Obeys (publication.protocol workers) Outbound.ready ∧
      Ledger publication workers (max plan.queueSize 1) crew.state crew.log := by
  intro workers crew
  obtain ⟨inside, new⟩ := pool_of_start opened
  refine (obeys_staffed publication workers errands started).run ?_ (Ledger.of_new inside new)
    schedule
  intro outbound log member entry after ledger step
  exact ledger.step step

variable {crew : Crew Outbound DeliveryEntry}

/-- What has been accepted waits, is in delivery, has been transmitted, or was abandoned. -/
theorem Stocked.together {outbound : Outbound} {log : List (Nat × DeliveryEntry)}
    (stocked : Stocked publication capacity outbound log)
    (delivering : Balanced Standing.delivering? taken workers log) :
    (gather accepted log).Perm
      ((outbound.pool publication.id).queue ++ inHand Standing.delivering? workers log ++
        gather completed log ++ gather abandoned log) := by
  rw [Balanced, List.perm_iff_count] at delivering
  rw [List.perm_iff_count]
  intro parcel
  have taken := delivering parcel
  rw [stocked.order]
  simp only [List.count_append] at taken ⊢
  omega

/-- Who transmits a file is delivering it. -/
theorem sublist_publishing (workers : Nat) (log : List (Nat × DeliveryEntry)) :
    (inHand Standing.publishing? workers log).Sublist
      (inHand Standing.delivering? workers log) := by
  rw [inHand, inHand]
  induction List.range workers with
  | nil => exact List.Sublist.refl []
  | cons worker others ih =>
      rw [List.filterMap_cons, List.filterMap_cons]
      cases standing workers worker log with
      | holding parcel => exact ih.cons parcel
      | publishing parcel => exact ih.cons_cons parcel
      | free | carrying | stopping | waiting | idle | counting | leaving | gone => exact ih

/-- Transmissions are begun for files that were taken. -/
theorem Ledger.begun_subperm {outbound : Outbound} {log : List (Nat × DeliveryEntry)}
    (ledger : Ledger publication workers capacity outbound log) :
    (gather begun log).Subperm (gather taken log) :=
  ledger.publishing.subperm.trans
    (((sublist_publishing workers log).append_right _).subperm.trans
      ledger.delivering.symm.subperm)

/-- Transmissions are begun for accepted files only, and for each of them once at most. -/
theorem Ledger.nodup_begun {outbound : Outbound} {log : List (Nat × DeliveryEntry)}
    (ledger : Ledger publication workers capacity outbound log) :
    ((gather begun log).map (·.file.serial)).Nodup := by
  have inAccepted : (gather taken log).Sublist (gather accepted log) := by
    rw [ledger.stocked.order, List.append_assoc]
    exact List.sublist_append_left _ _
  obtain ⟨part, same, inside⟩ := ledger.begun_subperm.trans inAccepted.subperm
  exact (same.map _).nodup_iff.1 ((inside.map _).nodup ledger.distinct.once)

/-- What has been transmitted was transmitted once. -/
theorem Ledger.count_completed {outbound : Outbound} {log : List (Nat × DeliveryEntry)}
    (ledger : Ledger publication workers capacity outbound log) {parcel : Parcel}
    (done : parcel ∈ gather completed log) :
    (gather begun log).count parcel = 1 ∧ (gather completed log).count parcel = 1 := by
  have once : (gather begun log).count parcel ≤ 1 :=
    List.nodup_iff_count.1 (List.Nodup.of_map _ ledger.nodup_begun) parcel
  have some := List.count_pos_iff.2 done
  have publishing := ledger.publishing
  rw [Balanced, List.perm_iff_count] at publishing
  have sum := publishing parcel
  rw [List.count_append] at sum
  omega

/-- A step that answers that the queue is full finds it full, and changes nothing. -/
theorem full_of_step {outbound after : Outbound} {standing : Standing} {parcel : Parcel}
    (step : DeliveryStep publication.id standing outbound
      (some (.answered parcel .queueFull)) after)
    (room : (outbound.pool publication.id).queue.length ≤
      (outbound.pool publication.id).capacity) :
    (outbound.pool publication.id).queue.length = (outbound.pool publication.id).capacity ∧
      after = outbound := by
  generalize answered : some (DeliveryEntry.answered parcel .queueFull) = entry at step
  cases step with
  | offered other =>
      obtain ⟨rfl, outcome⟩ := DeliveryEntry.answered.inj (Option.some.inj answered)
      rcases (outbound.pool publication.id).offer_cases parcel with
        ⟨_, offer⟩ | ⟨_, full, offer⟩ | ⟨_, _, offer⟩
      · rw [offer] at outcome
        cases outcome
      · rw [offer, Outbound.setPool_pool]
        exact ⟨Nat.le_antisymm room full, rfl⟩
      · rw [offer] at outcome
        cases outcome
  | _ => cases answered

theorem accounted_of_ledger (obeys : crew.Obeys (publication.protocol workers) Outbound.ready)
    (ledger : Ledger publication workers capacity crew.state crew.log) :
    Accounted publication workers capacity crew where
  together := ledger.stocked.together ledger.delivering
  apart := ledger.distinct.once
  stoppedFirst := ledger.stoppedFirst.abandoned
  begunOnce := ledger.nodup_begun
  completedOnce _ := ledger.count_completed
  waiting := ledger.stocked.room
  delivering := by
    have bound := List.length_filterMap_le
      (fun worker => (standing workers worker crew.log).delivering?) (List.range workers)
    rw [List.length_range] at bound
    exact bound
  full := by
    intro choice parcel logged
    obtain ⟨_, ⟨_, unchanged⟩ | ⟨entry, step, written⟩⟩ := obeys.step choice
    · rw [unchanged] at logged
      simp at logged
    · have same : entry = some (.answered parcel .queueFull) := by
        rw [logged] at written
        cases entry with
        | none => simp [entered] at written
        | some entry => simpa [entered, eq_comm] using written
      subst same
      have room := ledger.stocked.room
      rw [← ledger.stocked.size] at room ⊢
      exact full_of_step step room
  goesOn := by
    intro worker member again works chosen ended
    have ends := (obeys worker member chosen).ends ended
    rw [phase_protocol] at ends
    have working := (ledger.manned worker).2 works
    generalize place : standing workers worker crew.log = current at ends working
    cases current with
    | idle => exact Or.inl ends
    | gone => exact Or.inr ⟨rfl, ledger.stoppedFirst.knows worker (by rw [place]; rfl)⟩
    | free => cases working
    | carrying | stopping | waiting | holding | publishing | counting | leaving => cases ends

/-- For every plan from which a publication can be started, whoever hands files to it or stops it
at the same time, and in whatever order the steps of all of them and of the workers follow one
another: each accepted file waits, is in delivery, has been transmitted exactly once, or was
abandoned after a stop, and the bounds on waiting files and on deliveries are kept. -/
theorem accounted (around : Surroundings Memory) (memory later : Memory) (plan : PublicationPlan)
    (outbound started : Outbound) (publication : Publication)
    (opened : (start plan).run around outbound memory = (.ok publication, started, later))
    (errands : List Errand) (schedule : List Choice) :
    let workers := max plan.threads 1
    let crew := publication.staffed workers errands started
    crew.forget.members = List.replicate workers (.new (.silent publication.work)) ++
        errands.map (fun errand => .new (.silent (errand.activity publication))) ∧
      Accounted publication workers (max plan.queueSize 1)
        (crew.run Outbound.ready schedule) := by
  intro workers crew
  obtain ⟨obeys, ledger⟩ := ledger_of_start opened errands schedule
  exact ⟨members_forget_staffed publication workers errands started,
    accounted_of_ledger obeys ledger⟩

/-- A publication that is stopped during a delivery, with one file waiting and another one dropped
for want of room. -/
theorem accounted_of_stop_during_delivery :
    let around : Surroundings Unit := ⟨fun request _ => (request.granted, ()), fun _ _ => false⟩
    let plan : PublicationPlan :=
      { PublicationPlan.new "archive" (.simple (.external "ftp" 0)) with queueSize := 1 }
    let publication : Publication :=
      ⟨0, "archive", true, [], .always, [], .simple (.external "ftp" 0), 1, [], []⟩
    let started : Outbound :=
      { Outbound.empty with pools := [⟨1, 1, [], [], false, false, false⟩] }
    let errands : List Errand :=
      [ .hand true ⟨some "first"⟩ .empty,
        .hand true ⟨some "second"⟩ .empty,
        .hand true ⟨some "third"⟩ .empty,
        .stop ]
    let turns : List (Nat × Nat) := [(1, 4), (0, 4), (2, 4), (3, 4), (4, 4), (0, 9), (4, 1)]
    let schedule : List Choice :=
      turns.flatMap fun turn => List.replicate turn.2 ⟨turn.1, Request.granted⟩
    let crew := (publication.staffed (max plan.threads 1) errands started).run Outbound.ready
      schedule
    (start plan).run around .empty () = (.ok publication, started, ()) ∧
      gather completed crew.log = [⟨⟨0, ⟨some "first"⟩, true⟩, .empty⟩] ∧
      gather abandoned crew.log = [⟨⟨1, ⟨some "second"⟩, true⟩, .empty⟩] ∧
      Accounted publication (max plan.threads 1) (max plan.queueSize 1) crew := by
  intro around plan publication started errands turns schedule crew
  have opened : (start plan).run around .empty () = (.ok publication, started, ()) := rfl
  have account := accounted around () () plan .empty started publication opened errands schedule
  exact ⟨opened, by decide +kernel, by decide +kernel, account.2⟩

end Publication

end RadarRelay
