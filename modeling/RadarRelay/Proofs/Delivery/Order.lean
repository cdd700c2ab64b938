import RadarRelay.Proofs.Delivery.NoLoss

/-!
# Files are delivered in their order

Files enter a queue at its end and leave it at its beginning, so they are taken in
the order in which they were accepted. Each worker has transmitted the files that
it took, in this order, but for the one in its hands. A worker that is alone takes
every file, so what it has transmitted is what was accepted first.
-/

namespace RadarRelay

open DeliveryEntry (accepted taken begun completed abandoned)

variable {Memory : Type} {workers capacity member : Nat}

/-! ## Who tells what -/

/-- What only one member tells is what is told. -/
theorem told_eq_entriesOf {Entry Item : Type} {part : Entry → List Item} {log : List (Nat × Entry)}
    (alone : ∀ known ∈ log, part known.2 ≠ [] → known.1 = member) :
    told part log = (entriesOf member log).flatMap part := by
  induction log with
  | nil => rfl
  | cons first log ih =>
      obtain ⟨author, entry⟩ := first
      rw [List.forall_mem_cons] at alone
      have rest := ih alone.2
      by_cases mine : author = member
      · subst mine
        rw [entriesOf_cons_self, List.flatMap_cons, ← rest]
        rfl
      · have nothing : part entry = [] := by
          by_contra something
          exact mine (alone.1 something)
        rw [entriesOf_cons_of_ne mine, ← rest, told, List.flatMap_cons, nothing]
        rfl

namespace Publication

variable {publication : Publication} {outbound after : Outbound}
  {log : List (Nat × DeliveryEntry)} {entry : Option DeliveryEntry}

/-- Nobody but the workers takes files and transmits them. -/
def Handled (workers : Nat) (log : List (Nat × DeliveryEntry)) : Prop :=
  ∀ known ∈ log, taken known.2 ≠ [] ∨ completed known.2 ≠ [] → known.1 < workers

theorem Handled.step (handled : Handled workers log) (manned : Manned workers log)
    (step : DeliveryStep publication.id (standing workers member log) outbound entry after) :
    Handled workers (entered log member entry) := by
  have works := (manned member).1
  generalize standing workers member log = current at step works
  cases entry with
  | none => exact handled
  | some entry =>
      intro known logged tells
      rcases List.mem_append.1 logged with earlier | last
      · exact handled known earlier tells
      · cases List.mem_singleton.1 last
        cases step with
        | took | ended => exact works rfl
        | made | turnedAway | offered | halted | signalled | joined | noticed | left | began
        | settled => simp [taken, completed] at tells

/-! ## One file after the other -/

theorem delivering?_start (publication : Publication) (workers member : Nat) :
    ((publication.protocol workers).start member).delivering?.toList = [] := by
  show (if member < workers then Standing.idle else .free).delivering?.toList = []
  split <;> rfl

theorem delivering?_after {publication : Publication} {workers : Nat} {standing : Standing}
    {outbound after : Outbound} {entry : DeliveryEntry}
    (step : (publication.protocol workers).Allows standing outbound (some entry) after) :
    standing.delivering?.toList ++ taken entry =
      completed entry ++
        ((publication.protocol workers).advance standing entry).delivering?.toList := by
  cases step with
  | halted =>
      cases first : (outbound.pool publication.id).halt.1 with
      | true | false => simp [protocol, Standing.after, Standing.delivering?, taken, completed]
  | _ => rfl

/-- Whoever takes a file transmits it before it takes another one. -/
def deliveryDues (publication : Publication) (workers : Nat) :
    Dues (publication.protocol workers) Parcel where
  due := taken
  paid := completed
  owing standing := standing.delivering?.toList
  start := delivering?_start publication workers
  balance _ _ _ _ := delivering?_after

/-- In which order a publication delivers its files. -/
structure Orderly (publication : Publication) (workers : Nat) (crew : Crew Outbound DeliveryEntry) :
    Prop where
  /-- Files are taken in the order in which they were accepted. -/
  inOrder : gather taken crew.log <+: gather accepted crew.log
  /-- Those that were not taken were abandoned, or wait in this order. -/
  untaken : gather accepted crew.log = gather taken crew.log ++
    (gather abandoned crew.log ++ (crew.state.pool publication.id).queue)
  /-- Each worker transmits its files in the order in which it takes them, and holds one at most. -/
  each : ∀ worker, (entriesOf worker crew.log).flatMap completed ++
      (standing workers worker crew.log).delivering?.toList =
    (entriesOf worker crew.log).flatMap taken
  /-- A worker that is alone has transmitted what was taken, but for the file that it holds. -/
  alone : workers = 1 → gather completed crew.log ++
      (standing workers 0 crew.log).delivering?.toList =
    gather taken crew.log

theorem orderly_of_ledger {crew : Crew Outbound DeliveryEntry}
    (ledger : Ledger publication workers capacity crew.state crew.log)
    (handled : Handled workers crew.log)
    (settled : (publication.deliveryDues workers).Settled crew.log) :
    Orderly publication workers crew where
  inOrder := by
    rw [ledger.stocked.order, List.append_assoc]
    exact List.prefix_append _ _
  untaken := by
    rw [ledger.stocked.order, List.append_assoc]
  each := settled
  alone := by
    rintro rfl
    have taken : gather taken crew.log = (entriesOf 0 crew.log).flatMap taken :=
      told_eq_entriesOf fun known logged tells =>
        Nat.lt_one_iff.1 (handled known logged (Or.inl tells))
    have completed : gather completed crew.log = (entriesOf 0 crew.log).flatMap completed :=
      told_eq_entriesOf fun known logged tells =>
        Nat.lt_one_iff.1 (handled known logged (Or.inr tells))
    rw [taken, completed]
    exact settled 0

/-- For every plan from which a publication can be started, whoever hands files to it or stops it
at the same time, and in whatever order the steps of all of them and of the workers follow one
another: files are taken in the order in which they were accepted, and a worker that is alone
transmits them in this order, however each transmission ends. -/
theorem delivered_in_order (around : Surroundings Memory) (memory later : Memory)
    (plan : PublicationPlan) (outbound started : Outbound) (publication : Publication)
    (opened : (start plan).run around outbound memory = (.ok publication, started, later))
    (errands : List Errand) (schedule : List Choice) :
    let workers := max plan.threads 1
    let crew := publication.staffed workers errands started
    crew.forget.members = List.replicate workers (.new (.silent publication.work)) ++
        errands.map (fun errand => .new (.silent (errand.activity publication))) ∧
      Orderly publication workers (crew.run Outbound.ready schedule) := by
  intro workers crew
  refine ⟨members_forget_staffed publication workers errands started, ?_⟩
  obtain ⟨inside, new⟩ := pool_of_start opened
  let invariant (outbound : Outbound) (log : List (Nat × DeliveryEntry)) : Prop :=
    Ledger publication workers (max plan.queueSize 1) outbound log ∧ Handled workers log ∧
      (publication.deliveryDues workers).Settled log
  have stepped : ∀ outbound log member entry after, invariant outbound log →
      (publication.protocol workers).Allows
        ((publication.protocol workers).phase member log) outbound entry after →
      invariant after (entered log member entry) := by
    rintro outbound log member entry after ⟨ledger, handled, settled⟩ step
    exact ⟨ledger.step step, handled.step ledger.manned step, settled.step step⟩
  have first : invariant crew.state crew.log :=
    ⟨Ledger.of_new inside new, nofun, (publication.deliveryDues workers).settled_nil⟩
  obtain ⟨_, ledger, handled, settled⟩ :=
    (obeys_staffed publication workers errands started).run stepped first schedule
  exact orderly_of_ledger ledger handled settled

/-- The only worker fails to transmit the first file and is stopped with the second one in its
hands, while the third one waits. -/
theorem delivered_in_order_of_failure :
    let around : Surroundings Unit := ⟨fun request _ => (request.granted, ()), fun _ _ => false⟩
    let plan : PublicationPlan :=
      { PublicationPlan.new "archive" (.simple (.external "ftp" 0)) with queueSize := 2 }
    let publication : Publication :=
      ⟨0, "archive", true, [], .always, [], .simple (.external "ftp" 0), 2, [], []⟩
    let started : Outbound :=
      { Outbound.empty with pools := [⟨2, 1, [], [], false, false, false⟩] }
    let errands : List Errand :=
      [ .hand true ⟨some "first"⟩ .empty,
        .hand true ⟨some "second"⟩ .empty,
        .hand true ⟨some "third"⟩ .empty,
        .stop ]
    let failing : (request : Request) → request.Answer
      | .send _ _ _ _ => .failed (.delivery "ftp" "connection lost")
      | request => request.granted
    let turns : List (Nat × Nat) := [(1, 4), (2, 4), (0, 13), (3, 4), (4, 4)]
    let schedule : List Choice :=
      turns.flatMap fun turn => List.replicate turn.2 ⟨turn.1, failing⟩
    let crew := (publication.staffed (max plan.threads 1) errands started).run Outbound.ready
      schedule
    let parcel (serial : Nat) (content : String) : Parcel :=
      ⟨⟨serial, ⟨some content⟩, true⟩, .empty⟩
    (start plan).run around .empty () = (.ok publication, started, ()) ∧
      gather accepted crew.log = [parcel 0 "first", parcel 1 "second", parcel 2 "third"] ∧
      gather taken crew.log = [parcel 0 "first", parcel 1 "second"] ∧
      gather completed crew.log = [parcel 0 "first"] ∧
      (standing 1 0 crew.log).delivering? = some (parcel 1 "second") ∧
      Orderly publication (max plan.threads 1) crew := by
  intro around plan publication started errands failing turns schedule crew parcel
  have opened : (start plan).run around .empty () = (.ok publication, started, ()) := rfl
  have order := delivered_in_order around () () plan .empty started publication opened errands
    schedule
  exact ⟨opened, by decide +kernel, by decide +kernel, by decide +kernel, by decide +kernel,
    order.2⟩

end Publication

end RadarRelay
