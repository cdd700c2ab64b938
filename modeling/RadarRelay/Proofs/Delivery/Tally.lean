import Mathlib.Data.List.Induction
import RadarRelay.Proofs.Delivery.Accounts
import RadarRelay.Proofs.Delivery.NoLoss

/-!
# The tally of a publication

Each hook of a publication is told of every delivery that has ended and of every
call that came to nothing, and of nothing else. Whoever has ended a transmission or
could not queue a file owes its hooks until it has told them, so at any moment what
was told and what is owed is what was due.
-/

namespace RadarRelay

/-! ## What the accounts tell -/

/-- Whether a file has been delivered. -/
def Reply.succeeded : Reply → Bool
  | sent => true
  | failed _ | panicked _ => false

namespace AccountLine

def hooks (line : AccountLine) : List Hook :=
  line.1.toList

/-- How a transmission ended. -/
def replies : AccountLine → List Reply
  | (_, some (.delivery (.ended _ reply))) => [reply]
  | _ => []

/-- What became of a call whose file no decorator discarded. -/
def decisions : AccountLine → List Outcome
  | (_, some (.offered _ outcome)) | (_, some (.decided outcome)) => [outcome]
  | _ => []

/-- What a caller was answered. -/
def answers : AccountLine → List Outcome
  | (_, some (.returned outcome)) => [outcome]
  | _ => []

end AccountLine

/-- What the accounts tell of deliveries. -/
def deliveries (log : List (Nat × AccountLine)) : List (Nat × DeliveryEntry) :=
  retoldLog AccountLine.delivery? log

namespace Publication

open AccountLine (hooks replies decisions answers)

variable {publication : Publication} {workers capacity member : Nat} {outbound after : Outbound}
  {log : List (Nat × AccountLine)} {line : AccountLine} {duty : Duty}

/-- Where the accounts say that a member stands is where the deliveries in them say so. -/
theorem standing_phase (publication : Publication) (workers member : Nat) (direct : Bool)
    (log : List (Nat × AccountLine)) :
    ((publication.accounting workers direct).phase member log).standing =
      standing workers member (deliveries log) := by
  induction log using List.reverseRecOn with
  | nil => rfl
  | append_singleton log entry ih =>
      obtain ⟨author, line⟩ := entry
      show ((publication.accounting workers direct).phase member
          (entered log author (some line))).standing =
        standing workers member (retoldLog AccountLine.delivery? (entered log author (some line)))
      rw [Protocol.phase_entered, retoldLog_entered, standing_entered]
      by_cases same : author = member
      · subst same
        rw [if_pos rfl, if_pos rfl]
        exact congrArg (Standing.next · line.delivery?) ih
      · rw [if_neg same, if_neg same]
        exact ih

theorem deliveries_entered (log : List (Nat × AccountLine)) (member : Nat)
    (line : Option AccountLine) :
    deliveries (entered log member line) =
      entered (deliveries log) member (line.bind AccountLine.delivery?) :=
  retoldLog_entered _ log member line

theorem deliveries_append (first second : List (Nat × AccountLine)) :
    deliveries (first ++ second) = deliveries first ++ deliveries second :=
  retoldLog_append _ first second

/-- Where deliveries are told of in the accounts. -/
theorem deliveries_split {log before since : List (Nat × AccountLine)} {author : Nat}
    {line : AccountLine} {entry : DeliveryEntry} (split : log = before ++ (author, line) :: since)
    (told : line.delivery? = some entry) :
    deliveries log = deliveries before ++ (author, entry) :: deliveries since := by
  rw [split, deliveries_append, deliveries, deliveries, deliveries, retoldLog, retoldLog, retoldLog,
    List.filterMap_cons, told]
  rfl

end Publication

/-! ## What steps do -/

namespace AccountStep

open DeliveryEntry (taken completed)
open AccountLine (replies)

variable {publication : Publication} {workers capacity member : Nat} {outbound after : Outbound}
  {log : List (Nat × DeliveryEntry)} {duty : Duty} {line : Option AccountLine} {direct : Bool}

theorem works_next (step : AccountStep publication direct duty outbound line after) :
    (duty.standing.next (line.bind AccountLine.delivery?)).works = duty.standing.works := by
  cases step with
  | delivery _ step => exact step.works_next
  | _ => rfl

theorem balance_delivering (step : AccountStep publication direct duty outbound line after) :
    duty.standing.delivering?.toList ++ (line.bind AccountLine.delivery?).elim [] taken =
      (duty.standing.next (line.bind AccountLine.delivery?)).delivering?.toList ++
        (line.bind AccountLine.delivery?).elim [] completed := by
  cases step with
  | delivery _ step => exact step.balance_delivering
  | silent | told => exact rfl
  | turnedAway | offered | decided | returned | discarded => rfl

theorem stocked (step : AccountStep publication direct duty outbound line after)
    (stocked : Publication.Stocked publication capacity outbound log) :
    Publication.Stocked publication capacity after
      (entered log member (line.bind AccountLine.delivery?)) := by
  cases step with
  | silent present pools =>
      have same : after.pool publication.id = outbound.pool publication.id := by
        rw [Outbound.pool, pools, ← Outbound.pool]
      exact stocked.quiet (by rw [pools]) (by rw [same]) (by rw [same]) (by rw [same]) rfl rfl rfl
  | delivery _ step => exact stocked.step step
  | offered parcel => exact stocked.offer parcel
  | told | turnedAway | decided | returned | discarded =>
      exact stocked.quiet rfl rfl rfl rfl rfl rfl rfl

end AccountStep

namespace Publication

open DeliveryEntry (accepted taken completed abandoned)
open AccountLine (hooks replies decisions answers)

/-- The hooks that are due because of a line. -/
def lineDues (publication : Publication) (line : AccountLine) : List Hook :=
  line.2.elim [] publication.dueHooks

/-- Hooks are to be told of deliveries that ended and of calls that came to nothing. -/
def hookDues (publication : Publication) (workers : Nat) (direct : Bool) :
    Dues (publication.accounting workers direct) Hook where
  due := publication.lineDues
  paid := hooks
  owing := Duty.hooks
  start _ := rfl
  balance := by
    intro duty outbound line after step
    cases step with
    | told => exact List.append_nil _
    | delivery | turnedAway | offered | decided | returned | discarded => rfl

/-- Callers are to be answered what became of their files. -/
def answerDues (publication : Publication) (workers : Nat) (direct : Bool) :
    Dues (publication.accounting workers direct) Outcome where
  due := decisions
  paid line := (answers line).filter (· != .discarded)
  owing duty := duty.outcome.toList
  start _ := rfl
  balance := by
    intro duty outbound line after step
    cases step with
    | told => exact List.append_nil _
    | returned known => simp [decisions, answers, known, accounting, Duty.after]
    | delivery | turnedAway | offered | decided | discarded => rfl

/-- A line tells of one event at most, and makes the hooks of that event due. -/
theorem count_lineDues (publication : Publication) (line : AccountLine) (hook : Hook) :
    (publication.lineDues line).count hook =
      publication.statisticsOk.count hook * (replies line).countP Reply.succeeded +
        publication.statisticsError.count hook *
          ((replies line).countP (fun reply => !reply.succeeded) +
            (decisions line).count .decorationFailed + (decisions line).count .queueFull) := by
  obtain ⟨told, entry⟩ := line
  cases entry with
  | none => rfl
  | some entry =>
      cases entry with
      | delivery entry =>
          cases entry with
          | ended parcel reply =>
              cases reply with
              | sent | failed | panicked =>
                  simp [lineDues, dueHooks, replyHooks, replies, decisions, Reply.succeeded]
          | _ => rfl
      | offered parcel outcome =>
          cases outcome with
          | _ => simp [lineDues, dueHooks, outcomeHooks, replies, decisions]
      | decided outcome =>
          cases outcome with
          | _ => simp [lineDues, dueHooks, outcomeHooks, replies, decisions]
      | returned outcome => rfl

/-- So do all lines together. -/
theorem count_told_lineDues (publication : Publication) (hook : Hook)
    (log : List (Nat × AccountLine)) :
    (told publication.lineDues log).count hook =
      publication.statisticsOk.count hook * (told replies log).countP Reply.succeeded +
        publication.statisticsError.count hook *
          ((told replies log).countP (fun reply => !reply.succeeded) +
            (told decisions log).count .decorationFailed +
            (told decisions log).count .queueFull) := by
  induction log with
  | nil => rfl
  | cons first log ih =>
      have line := publication.count_lineDues first.2 hook
      simp only [told, List.flatMap_cons, List.count_append, List.countP_append, Nat.mul_add]
        at ih line ⊢
      omega

/-! ## The books -/

variable {Memory : Type} {publication : Publication} {workers capacity member : Nat}
  {outbound after : Outbound} {log : List (Nat × AccountLine)} {line : Option AccountLine}

/-- What holds of the accounts at every moment. -/
structure Books (publication : Publication) (workers capacity : Nat) (outbound : Outbound)
    (log : List (Nat × AccountLine)) : Prop where
  stocked : Stocked publication capacity outbound (deliveries log)
  manned : Manned workers (deliveries log)
  delivering : Balanced Standing.delivering? taken workers (deliveries log)
  hooks : (hookDues publication workers false).Settled log
  answers : (answerDues publication workers false).Settled log
  /-- Calls are the only ones who hand files to the queue. -/
  called : (told decisions log).count .queued = (gather accepted (deliveries log)).length
  /-- Nobody but the workers transmits files. -/
  transmitting : ∀ known ∈ log, replies known.2 ≠ [] → known.1 < workers

/-- Who has ended a transmission works for the publication. -/
theorem Books.transmitting_step (books : Books publication workers capacity outbound log)
    (step : AccountStep publication false ((publication.accounting workers false).phase member log)
      outbound line after) :
    ∀ known ∈ entered log member line, replies known.2 ≠ [] → known.1 < workers := by
  intro known logged transmitted
  cases line with
  | none => exact books.transmitting known logged transmitted
  | some line =>
      rcases List.mem_append.1 logged with earlier | last
      · exact books.transmitting known earlier transmitted
      rw [List.mem_singleton.1 last] at transmitted ⊢
      refine (books.manned member).1 ?_
      rw [← standing_phase publication workers member false]
      generalize (publication.accounting workers false).phase member log = duty at step
      cases step with
      | delivery _ step =>
          cases step with
          | ended => rfl
          | _ => exact absurd rfl transmitted
      | _ => exact absurd rfl transmitted

theorem Books.called_step (books : Books publication workers capacity outbound log)
    (step : AccountStep publication false ((publication.accounting workers false).phase member log)
      outbound line after) :
    (told decisions (entered log member line)).count .queued =
      (gather accepted (deliveries (entered log member line))).length := by
  rw [deliveries_entered, told_entered, gather_entered, List.count_append, List.length_append,
    books.called, Nat.add_left_cancel_iff]
  generalize (publication.accounting workers false).phase member log = duty at step
  cases step with
  | silent | told | turnedAway | returned | discarded => rfl
  | decided decided =>
      rcases decided with rfl | rfl
      · rfl
      · rfl
  | offered parcel =>
      cases ((outbound.pool publication.id).offer parcel).1 with
      | queued | discarded | decorationFailed | queueFull | stopped => rfl
  | delivery acts step =>
      cases step with
      | turnedAway | offered => cases acts
      | made | halted | signalled | joined | noticed | left | took | began | ended | settled => rfl

theorem Books.step (books : Books publication workers capacity outbound log)
    (step : AccountStep publication false ((publication.accounting workers false).phase member log)
      outbound line after) :
    Books publication workers capacity after (entered log member line) where
  stocked := by
    rw [deliveries_entered]
    exact step.stocked books.stocked
  manned := by
    have works := step.works_next
    rw [standing_phase] at works
    rw [deliveries_entered]
    exact books.manned.step works
  delivering := by
    have works := step.works_next
    have balance := step.balance_delivering
    rw [standing_phase] at works balance
    rw [deliveries_entered]
    exact books.delivering.step books.manned (fun _ => Standing.delivering?_eq_none) works balance
  hooks := books.hooks.step step
  answers := books.answers.step step
  called := books.called_step step
  transmitting := books.transmitting_step step

theorem Books.of_new (started : publication.id < outbound.pools.length)
    (new : outbound.pool publication.id = ⟨capacity, workers, [], [], false, false, false⟩) :
    Books publication workers capacity outbound [] :=
  have ledger : Ledger publication workers capacity outbound [] := .of_new started new
  { stocked := ledger.stocked
    manned := ledger.manned
    delivering := ledger.delivering
    hooks := (hookDues publication workers false).settled_nil
    answers := (answerDues publication workers false).settled_nil
    called := rfl
    transmitting := nofun }

/-! ## The tally -/

/-- What the accounts of a publication come to, at every moment. -/
structure Tallied (publication : Publication) (workers : Nat) (crew : Crew Outbound AccountLine) :
    Prop where
  /-- What a hook was told, with what it is about to be told, is told of each delivery that has
  ended and of each call that came to nothing. -/
  counted : ∀ hook,
    (told hooks crew.log).count hook +
        ((hookDues publication workers false).outstanding crew.members.length crew.log).count hook =
      publication.statisticsOk.count hook * (told replies crew.log).countP Reply.succeeded +
        publication.statisticsError.count hook *
          ((told replies crew.log).countP (fun reply => !reply.succeeded) +
            (told decisions crew.log).count .decorationFailed +
            (told decisions crew.log).count .queueFull)
  /-- A caller tells the hooks of what became of its call, and no others. -/
  calls : ∀ caller, workers ≤ caller →
    (entriesOf caller crew.log).flatMap hooks ++
        ((publication.accounting workers false).phase caller crew.log).hooks =
      ((entriesOf caller crew.log).flatMap decisions).flatMap publication.outcomeHooks
  /-- A caller is answered what became of its call; a file that was discarded became nothing. -/
  answered : ∀ caller,
    ((entriesOf caller crew.log).flatMap answers).filter (· != .discarded) ++
        ((publication.accounting workers false).phase caller crew.log).outcome.toList =
      (entriesOf caller crew.log).flatMap decisions
  queued : (told decisions crew.log).count .queued =
    (told replies crew.log).length + (crew.state.pool publication.id).queue.length +
      (inHand Standing.delivering? workers (deliveries crew.log)).length +
      (gather abandoned (deliveries crew.log)).length
  /-- When every call has returned and every worker is between two turns or has left, nothing is
  about to be told or answered, and no file is in delivery. -/
  rested : (∀ (index : Nat) (member : Member Outbound AccountLine),
      crew.members[index]? = some member → ∃ again, member.rest = .done again) →
    (∀ hook, (told hooks crew.log).count hook =
      publication.statisticsOk.count hook * (told replies crew.log).countP Reply.succeeded +
        publication.statisticsError.count hook *
          ((told replies crew.log).countP (fun reply => !reply.succeeded) +
            (told answers crew.log).count .decorationFailed +
            (told answers crew.log).count .queueFull)) ∧
    (told answers crew.log).count .queued =
      (told replies crew.log).length + (crew.state.pool publication.id).queue.length +
        (gather abandoned (deliveries crew.log)).length

/-- Lines that tell of no transmission make hooks due by what became of a call only. -/
theorem lineDues_of_no_reply (publication : Publication) {line : AccountLine}
    (none : replies line = []) :
    publication.lineDues line = (decisions line).flatMap publication.outcomeHooks := by
  obtain ⟨hook, entry⟩ := line
  cases entry with
  | none => rfl
  | some entry =>
      cases entry with
      | delivery entry =>
          cases entry with
          | ended => cases none
          | _ => rfl
      | offered parcel outcome => simp [lineDues, dueHooks, decisions]
      | decided outcome => simp [lineDues, dueHooks, decisions]
      | returned => rfl

/-- Transmissions that ended are told of by the accounts and by the deliveries in them. -/
theorem length_completed (log : List (Nat × AccountLine)) :
    (gather completed (deliveries log)).length = (told replies log).length := by
  have line (line : AccountLine) :
      ((line.delivery?).elim [] completed).length = (replies line).length := by
    obtain ⟨hook, entry⟩ := line
    cases entry with
    | none => rfl
    | some entry =>
        cases entry with
        | delivery entry => cases entry <;> rfl
        | offered | decided | returned => rfl
  induction log using List.reverseRecOn with
  | nil => rfl
  | append_singleton log entry ih =>
      show (gather completed (deliveries (entered log entry.1 (some entry.2)))).length =
        (told replies (entered log entry.1 (some entry.2))).length
      rw [deliveries_entered, gather_entered, told_entered, List.length_append, List.length_append,
        ih, Option.elim_some]
      exact congrArg _ (line entry.2)

variable {crew : Crew Outbound AccountLine}

/-- Nothing is owed or in delivery where everybody rests. -/
theorem resting (obeys : crew.Obeys (publication.accounting workers false) Outbound.ready)
    (rests : ∀ (index : Nat) (member : Member Outbound AccountLine),
      crew.members[index]? = some member → ∃ again, member.rest = .done again)
    {index : Nat} (inside : index < crew.members.length) :
    ((publication.accounting workers false).phase index crew.log).hooks = [] ∧
      ((publication.accounting workers false).phase index crew.log).outcome = none ∧
      (standing workers index (deliveries crew.log)).delivering? = none := by
  have chosen := List.getElem?_eq_getElem inside
  obtain ⟨again, ended⟩ := rests index _ chosen
  obtain ⟨stands, hooks, outcome⟩ := (obeys index _ chosen).ends ended
  rw [standing_phase] at stands
  refine ⟨hooks, outcome, ?_⟩
  generalize standing workers index (deliveries crew.log) = place at stands
  cases place with
  | free | idle | gone => rfl
  | carrying | stopping | waiting | holding | publishing | counting | leaving => exact stands.elim

theorem Books.queued (books : Books publication workers capacity outbound log) :
    (told decisions log).count .queued =
      (told replies log).length + (outbound.pool publication.id).queue.length +
        (inHand Standing.delivering? workers (deliveries log)).length +
        (gather abandoned (deliveries log)).length := by
  have together := (books.stocked.together books.delivering).length_eq
  simp only [List.length_append] at together
  rw [books.called, together, length_completed]
  omega

theorem tallied_of_books (obeys : crew.Obeys (publication.accounting workers false) Outbound.ready)
    (books : Books publication workers capacity crew.state crew.log)
    (authors : ∀ entry ∈ crew.log, entry.1 < crew.members.length)
    (size : workers ≤ crew.members.length) : Tallied publication workers crew where
  counted hook := by
    have settled := (books.hooks.perm authors).count_eq hook
    rw [List.count_append] at settled
    rw [← publication.count_told_lineDues hook crew.log]
    exact settled
  calls caller outside := by
    have settled := books.hooks caller
    have due : (entriesOf caller crew.log).flatMap publication.lineDues =
        (entriesOf caller crew.log).flatMap fun line =>
          (decisions line).flatMap publication.outcomeHooks := by
      refine List.flatMap_congr fun line told => publication.lineDues_of_no_reply ?_
      by_contra transmitted
      have works := books.transmitting (caller, line) (mem_entriesOf.1 told) transmitted
      exact absurd works (Nat.not_lt.2 outside)
    rw [List.flatMap_assoc, ← due]
    exact settled
  answered caller := by
    have settled := books.answers caller
    rw [List.filter_flatMap]
    exact settled
  queued := books.queued
  rested rests := by
    have nothing {Item : Type} (dues : Dues (publication.accounting workers false) Item)
        (none : ∀ duty : Duty, duty.hooks = [] → duty.outcome = none → dues.owing duty = []) :
        dues.outstanding crew.members.length crew.log = [] :=
      List.flatMap_eq_nil_iff.2 fun index inside => by
        obtain ⟨hooks, outcome, _⟩ := resting obeys rests (List.mem_range.1 inside)
        exact none _ hooks outcome
    have counted := books.hooks.perm authors
    have answered := books.answers.perm authors
    rw [nothing _ fun _ hooks _ => hooks, List.append_nil] at counted
    rw [nothing _ fun _ _ outcome => congrArg Option.toList outcome, List.append_nil] at answered
    have answer {outcome : Outcome} (known : (outcome != .discarded) = true) :
        (told answers crew.log).count outcome = (told decisions crew.log).count outcome := by
      have filtered : ((told answers crew.log).filter (· != .discarded)).count outcome =
          (told answers crew.log).count outcome := List.count_filter known
      rw [← filtered, told, List.filter_flatMap]
      exact answered.count_eq outcome
    constructor
    · intro hook
      rw [answer rfl, answer rfl, ← publication.count_told_lineDues hook crew.log]
      exact counted.count_eq hook
    · have free : inHand Standing.delivering? workers (deliveries crew.log) = [] :=
        List.filterMap_eq_nil_iff.2 fun worker inside =>
          (resting obeys rests (Nat.lt_of_lt_of_le (List.mem_range.1 inside) size)).2.2
      rw [answer rfl, books.queued, free]
      rfl

/-- For every plan from which a publication can be started, whoever hands files to it or stops it
at the same time, and in whatever order the steps of all of them and of the workers follow one
another: the hooks of the publication are told of each delivery that ends and of each call that
comes to nothing, and of nothing else. -/
theorem statistics_tally (around : Surroundings Memory) (memory later : Memory)
    (plan : PublicationPlan) (outbound started : Outbound) (publication : Publication)
    (opened : (start plan).run around outbound memory = (.ok publication, started, later))
    (tasks : List PublicationTask) (schedule : List Choice) :
    let workers := max plan.threads 1
    let crew := publication.overseen workers (tasks.map (·.recorded publication)) started
    crew.forget.members = List.replicate workers (.new (.silent publication.work)) ++
        tasks.map (fun task => .new (.silent (task.activity publication))) ∧
      -- Told are all requests that tell a hook.
      (crew.retell Prod.fst).members =
        List.replicate workers (.new (.sights Request.hook? publication.work)) ++
          tasks.map (fun task => .new (.sights Request.hook? (task.activity publication))) ∧
      Tallied publication workers (crew.run Outbound.ready schedule) := by
  intro workers crew
  obtain ⟨inside, new⟩ := pool_of_start opened
  have follows : ∀ other ∈ tasks.map (·.recorded publication),
      (other.watched Request.hook?).Follows (publication.accounting workers false) Outbound.ready
        CallEnds ⟨.free, [], none⟩ := by
    intro other among
    obtain ⟨task, _, rfl⟩ := List.mem_map.1 among
    exact follows_task task
  have books : Books publication workers (max plan.queueSize 1) crew.state crew.log :=
    .of_new inside new
  have stepped : ∀ state log member line after,
      Books publication workers (max plan.queueSize 1) state log →
      (publication.accounting workers false).Allows
        ((publication.accounting workers false).phase member log) state line after →
      Books publication workers (max plan.queueSize 1) after (entered log member line) :=
    fun _ _ _ _ _ books step => books.step step
  obtain ⟨obeys, kept⟩ := (obeys_overseen publication workers started follows).run stepped books
    schedule
  refine ⟨?_, ?_, tallied_of_books obeys kept ?_ ?_⟩
  · simp only [crew, members_forget_overseen, List.map_map, Function.comp_def,
      PublicationTask.plain_recorded]
  · simp only [crew, members_sights_overseen, List.map_map, Function.comp_def,
      PublicationTask.plain_recorded]
  · rw [Crew.length_members_run]
    exact Crew.lt_of_mem_log rfl schedule
  · rw [Crew.length_members_run]
    simp [crew, overseen]

/-- Two files are delivered and a third one finds no room, before the publication is stopped. -/
theorem statistics_tally_of_full_queue :
    let around : Surroundings Unit := ⟨fun request _ => (request.granted, ()), fun _ _ => false⟩
    let plan : PublicationPlan :=
      { PublicationPlan.new "archive" (.simple (.external "ftp" 0)) with
        queueSize := 1
        statisticsOk := [⟨"delivered", 0⟩]
        statisticsError := [⟨"lost", 0⟩] }
    let publication : Publication :=
      ⟨0, "archive", true, [], .always, [], .simple (.external "ftp" 0), 1, [⟨"delivered", 0⟩],
        [⟨"lost", 0⟩]⟩
    let started : Outbound :=
      { Outbound.empty with pools := [⟨1, 1, [], [], false, false, false⟩] }
    let file (serial : Nat) : Parcel := ⟨⟨serial, ⟨some "content"⟩, true⟩, .empty⟩
    let tasks : List PublicationTask :=
      [.enqueue (file 0), .enqueue (file 1), .enqueue (file 2), .stop]
    let turns : List (Nat × Nat) := [(1, 6), (0, 4), (2, 6), (3, 8), (0, 18), (4, 4), (0, 4), (4, 2)]
    let schedule : List Choice :=
      turns.flatMap fun turn => List.replicate turn.2 ⟨turn.1, Request.granted⟩
    let crew := (publication.overseen (max plan.threads 1) (tasks.map (·.recorded publication))
      started).run Outbound.ready schedule
    (start plan).run around .empty () = (.ok publication, started, ()) ∧
      told hooks crew.log = [⟨"lost", 0⟩, ⟨"delivered", 0⟩, ⟨"delivered", 0⟩] ∧
      told answers crew.log = [.queued, .queued, .queueFull] ∧
      Tallied publication (max plan.threads 1) crew := by
  intro around plan publication started file tasks turns schedule crew
  have opened : (start plan).run around .empty () = (.ok publication, started, ()) := rfl
  have tally := statistics_tally around () () plan .empty started publication opened tasks schedule
  exact ⟨opened, by decide +kernel, by decide +kernel, tally.2.2⟩

end Publication

end RadarRelay
