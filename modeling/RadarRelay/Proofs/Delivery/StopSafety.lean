import RadarRelay.Proofs.Delivery.Closing
import RadarRelay.Proofs.Delivery.Tally

/-!
# Nothing happens after a publication has been stopped

Whoever stops a publication first returns when its workers have left. They leave
between two files only, so every delivery in progress has run to its end by then and
has been counted; and since the last of them closes the queue, nothing is accepted
any more, whenever a call looked whether the publication was stopped.

The argument has two halves. What becomes of files is told by the log of deliveries,
which has its ledger already; who tells which hook is told by the accounts. Both are
records of one crew, so what was found of either holds of it.
-/

namespace RadarRelay

/-- What is accounted for tells of deliveries what was recorded of them. -/
theorem Recorded.retell_accounted {Result : Type}
    (recorded : Recorded Outbound DeliveryEntry Result) :
    recorded.accounted.retell AccountLine.delivery? = recorded := by
  have first := recorded.accounted.retell_retell Prod.snd AccountEntry.delivery?
  rw [accounted, retell_snd_watched, retell_retell] at first
  exact first.symm.trans recorded.retell_some

namespace Publication

open DeliveryEntry (accepted begun completed abandoned)
open AccountLine (hooks)

variable {Memory : Type} {publication : Publication} {workers capacity member : Nat}
  {direct : Bool} {outbound after : Outbound} {log : List (Nat × AccountLine)}

/-! ## One crew, two records -/

/-- A publication whose accounts are kept while others have errands. -/
def attended (publication : Publication) (workers : Nat) (errands : List Errand)
    (outbound : Outbound) : Crew Outbound AccountLine :=
  publication.overseen workers
    (errands.map fun errand =>
      (errand.recorded publication).retell fun entry => some (.delivery entry)) outbound

theorem retell_attended (publication : Publication) (workers : Nat) (errands : List Errand)
    (outbound : Outbound) :
    (publication.attended workers errands outbound).retell AccountLine.delivery? =
      publication.staffed workers errands outbound := by
  have told (errand : Errand) : (((errand.recorded publication).retell fun entry =>
      some (AccountEntry.delivery entry)).watched Request.hook?).retell AccountLine.delivery? =
        errand.recorded publication := (errand.recorded publication).retell_accounted
  simp only [attended, overseen, staffed, Crew.retell, retoldLog, List.filterMap_nil,
    List.map_append, List.map_replicate, List.map_map, Member.new, Member.retell,
    Recorded.retell_accounted, Function.comp_def, told]

theorem obeys_attended (publication : Publication) (workers : Nat) (errands : List Errand)
    (outbound : Outbound) :
    (publication.attended workers errands outbound).Obeys (publication.accounting workers true)
      Outbound.ready := by
  refine obeys_overseen publication workers outbound fun other among => ?_
  obtain ⟨errand, _, rfl⟩ := List.mem_map.1 among
  exact follows_accounted_errand errand

/-! ## Who has left does nothing -/

theorem acts_of_step {duty : Duty} {line : Option AccountLine}
    (step : AccountStep publication direct duty outbound line after) : duty.standing ≠ .gone := by
  intro gone
  cases step with
  | silent acts =>
      rw [gone] at acts
      cases acts
  | told _ _ acts | delivery acts =>
      cases gone
      cases acts
  | turnedAway | offered | decided | returned | discarded => cases gone

/-- Nothing is left to do for who has left. -/
theorem done_of_gone {duty : Duty} {member : Member Outbound AccountLine}
    (obeys : member.Obeys (publication.accounting workers direct) Outbound.ready duty)
    (gone : duty.standing = .gone) : member.rest = .done false := by
  cases left : member.rest with
  | done again =>
      obtain ⟨stands, _⟩ := obeys.ends left
      rw [gone] at stands
      exact congrArg Recorded.done stands
  | act update entry next =>
      obtain ⟨ends, _, follows, _⟩ := obeys
      rw [left] at follows
      exact absurd gone (acts_of_step (follows .empty).1)
  | ask request entry next =>
      obtain ⟨ends, _, follows, _⟩ := obeys
      rw [left] at follows
      -- Where nothing has been started, no request has to wait.
      have ready : Outbound.ready request .empty = true := by
        cases request with
        | join other => rfl
        | _ => rfl
      exact absurd gone (acts_of_step ((follows request.granted).1 .empty ready))

/-- Workers have told all hooks that were due before they leave. -/
structure Counted (publication : Publication) (workers : Nat) (log : List (Nat × AccountLine)) :
    Prop where
  hooks : (hookDues publication workers true).Settled log
  gone : ∀ member, ((publication.accounting workers true).phase member log).standing = .gone →
    ((publication.accounting workers true).phase member log).hooks = []

theorem Counted.step (counted : Counted publication workers log) {line : Option AccountLine}
    (step : AccountStep publication true ((publication.accounting workers true).phase member log)
      outbound line after) : Counted publication workers (entered log member line) where
  hooks := counted.hooks.step step
  gone := by
    intro other
    rw [Protocol.phase_entered]
    by_cases same : member = other
    · rw [if_pos same]
      have before := counted.gone member
      have acts := acts_of_step step
      generalize (publication.accounting workers true).phase member log = duty at step before acts
      cases step with
      | silent => exact before
      | told => exact fun gone => absurd gone acts
      | delivery _ step =>
          cases step with
          | left => exact fun _ => rfl
          | halted =>
              intro gone
              cases first : (outbound.pool publication.id).halt.1 <;>
                simp [Protocol.after, accounting, Duty.after, AccountLine.delivery?,
                  AccountEntry.delivery?, Standing.next, Standing.after, first] at gone
          | _ =>
              intro gone
              cases gone
      | turnedAway | offered | decided | returned | discarded =>
          intro gone
          cases gone
    · rw [if_neg same]
      exact counted.gone other

theorem counted_nil : Counted publication workers [] where
  hooks := (hookDues publication workers true).settled_nil
  gone _ _ := rfl

/-- What holds before a line is written. -/
structure Foretold (publication : Publication) (workers : Nat) (before : List (Nat × AccountLine))
    (line : Nat × AccountLine) : Prop where
  counted : Counted publication workers before
  acts : ((publication.accounting workers true).phase line.1 before).standing ≠ .gone

/-- The crew keeps to the protocol, and each line of its accounts was foretold. -/
theorem foretold_attended (publication : Publication) (workers : Nat) (errands : List Errand)
    (started : Outbound) (schedule : List Choice) :
    let crew := (publication.attended workers errands started).run Outbound.ready schedule
    crew.Obeys (publication.accounting workers true) Outbound.ready ∧
      Counted publication workers crew.log ∧ Justified (Foretold publication workers) crew.log := by
  have stepped : ∀ (state : Outbound) log member line after,
      Counted publication workers log ∧ Justified (Foretold publication workers) log →
      (publication.accounting workers true).Allows
        ((publication.accounting workers true).phase member log) state line after →
      Counted publication workers (entered log member line) ∧
        Justified (Foretold publication workers) (entered log member line) := by
    rintro state log member line after ⟨counted, justified⟩ step
    refine ⟨counted.step step, ?_⟩
    cases line with
    | none => exact justified
    | some line => exact justified.append ⟨counted, acts_of_step step⟩
  exact (obeys_attended publication workers errands started).run stepped
    ⟨counted_nil, justified_nil⟩ schedule

/-! ## Safety -/

/-- What holds of a publication after the first call to stop it has returned to its caller: what had
been recorded by then, and what has been recorded since. -/
structure StopSafe (publication : Publication) (workers caller : Nat)
    (crew : Crew Outbound AccountLine) (before since : List (Nat × AccountLine)) : Prop where
  first : ∃ earlier later, deliveries before = earlier ++ (caller, .halted true) :: later ∧
    ¬ Halted earlier
  /-- No worker runs any more. -/
  ended : ∀ worker < workers, ∀ member, crew.members[worker]? = some member →
    member.rest = .done false
  silent : ∀ line ∈ since, workers ≤ line.1
  /-- No file is in delivery, and no transmission begins. -/
  still : inHand Standing.busy? workers (deliveries crew.log) = []
  unbegun : gather begun (deliveries since) = []
  /-- Who hands over a file is turned away, whatever was seen before. -/
  refused : ∀ author parcel outcome, (author, .answered parcel outcome) ∈ deliveries since →
    outcome = .stopped
  emptied : (crew.state.pool publication.id).queue = []
  /-- Each accepted file was transmitted or abandoned. -/
  together : (gather accepted (deliveries crew.log)).Perm
    (gather completed (deliveries crew.log) ++ gather abandoned (deliveries crew.log))
  /-- No abandoned file is among those whose transmission was begun. -/
  undelivered : ∀ parcel ∈ gather abandoned (deliveries crew.log),
    ∀ other ∈ gather begun (deliveries crew.log), other.file.serial ≠ parcel.file.serial
  /-- Whatever was in delivery at an earlier moment was transmitted and settled by then. -/
  finished : ∀ earlier later, before = earlier ++ later → ∀ worker < workers, ∀ parcel,
    ((standing workers worker (deliveries earlier)).delivering? = some parcel →
        ∃ reply, (worker, .ended parcel reply) ∈ deliveries later) ∧
      ((standing workers worker (deliveries earlier)).busy? = some parcel →
        (worker, .settled parcel) ∈ deliveries later)
  /-- All hooks that a worker had to tell at an earlier moment, and all that became due because
  of it since then, were told by then. -/
  counted : ∀ earlier later, before = earlier ++ later → ∀ worker < workers,
    (entriesOf worker later).flatMap hooks =
      ((publication.accounting workers true).phase worker earlier).hooks ++
        (entriesOf worker later).flatMap publication.lineDues

variable {crew : Crew Outbound AccountLine}

theorem stopSafe_of_stopping {before since : List (Nat × AccountLine)} {caller : Nat}
    {line : AccountLine}
    (obeys : crew.Obeys (publication.accounting workers true) Outbound.ready)
    (foretold : Justified (Foretold publication workers) crew.log)
    (stopping : Stopping publication workers capacity crew.state (deliveries crew.log))
    (split : crew.log = before ++ (caller, line) :: since)
    (told : line.delivery? = some .joined) :
    StopSafe publication workers caller crew before since := by
  have apart := deliveries_split split told
  have joined := stopping.foregone_joined apart
  have gone : ∀ worker < workers, standing workers worker (deliveries crew.log) = .gone := by
    intro worker works
    have whole : deliveries crew.log =
        deliveries before ++ (caller, .joined) :: (deliveries since ++ []) := by
      rw [List.append_nil, apart]
    rw [apart]
    exact stopping.gone_since whole works
  have none : (crew.state.pool publication.id).workers = 0 :=
    stopping.closing.joined ⟨caller, by rw [apart]; simp⟩
  have emptied := stopping.ledger.stocked.emptied (stopping.closing.closed.2 none)
  constructor
  case first => exact stopping.first_joined apart
  case ended =>
    intro worker works member chosen
    refine done_of_gone (obeys worker member chosen) ?_
    rw [standing_phase]
    exact gone worker works
  case silent =>
    intro known among
    by_contra outside
    obtain ⟨middle, rest, rfl⟩ := List.append_of_mem among
    have acts := (foretold (before ++ (caller, line) :: middle) known rest (by simp [split])).acts
    rw [standing_phase, deliveries_split rfl told] at acts
    rw [deliveries_append] at apart
    exact acts (stopping.gone_since apart (Nat.lt_of_not_le outside))
  case still => exact inHand_of_gone rfl gone
  case unbegun => exact stopping.began_since apart
  case refused =>
    intro author parcel outcome answered
    obtain ⟨earlier, left, foregone⟩ := stopping.foregone_since apart answered
    exact foregone.refused left parcel outcome rfl
  case emptied => exact emptied
  case together =>
    have together := stopping.ledger.stocked.together stopping.ledger.delivering
    rw [emptied, inHand_of_gone rfl gone] at together
    exact together
  case undelivered =>
    intro parcel lost other transmitted
    exact stopping.ledger.serial_ne_of_begun lost transmitted
  case finished =>
    rintro earlier later rfl worker works parcel
    rw [deliveries_append] at apart
    exact stopping.finished apart works
  case counted =>
    rintro earlier later rfl worker works
    have counted := (foretold _ _ _ split).counted
    obtain ⟨_, first⟩ := foretold.of_append (split.trans (List.append_assoc ..)) (by simp)
    refine first.counted.hooks.paid_since counted.hooks (counted.gone worker ?_)
    rw [standing_phase]
    exact joined.gone rfl worker works

/-- The first call to stop a publication has waited when it has returned. -/
theorem joined_of_returned
    (obeys : crew.Obeys (publication.accounting workers true) Outbound.ready)
    (stopping : Stopping publication workers capacity crew.state (deliveries crew.log))
    {caller : Nat} {member : Member Outbound AccountLine} {again : Bool}
    (first : (caller, .halted true) ∈ deliveries crew.log)
    (chosen : crew.members[caller]? = some member) (returned : member.rest = .done again) :
    (caller, .joined) ∈ deliveries crew.log := by
  have stands := ((obeys caller member chosen).ends returned).1
  rw [standing_phase] at stands
  refine stopping.joined_of_halted first ?_
  generalize standing workers caller (deliveries crew.log) = place at stands ⊢
  cases place with
  | free | idle | gone => rfl
  | carrying | stopping | waiting | holding | publishing | counting | leaving => cases stands

/-- For every plan from which a publication can be started, whoever hands files to it or stops it
at the same time, and in whatever order the steps of all of them and of the workers follow one
another: when the first call to stop the publication has returned, all deliveries in progress have
ended and have been counted, no worker runs, nothing is transmitted any more, and no file is
accepted. -/
theorem stop_safe (around : Surroundings Memory) (memory later : Memory) (plan : PublicationPlan)
    (outbound started : Outbound) (publication : Publication)
    (opened : (start plan).run around outbound memory = (.ok publication, started, later))
    (errands : List Errand) (schedule : List Choice) :
    let workers := max plan.threads 1
    let crew := publication.attended workers errands started
    let ran := crew.run Outbound.ready schedule
    crew.forget.members = List.replicate workers (.new (.silent publication.work)) ++
        errands.map (fun errand => .new (.silent (errand.activity publication))) ∧
      -- Told are all requests that tell a hook.
      (crew.retell Prod.fst).members =
        List.replicate workers (.new (.sights Request.hook? publication.work)) ++
          errands.map (fun errand =>
            .new (.sights Request.hook? (errand.activity publication))) ∧
      (∀ caller member again, (caller, .halted true) ∈ deliveries ran.log →
        ran.members[caller]? = some member → member.rest = .done again →
        (caller, .joined) ∈ deliveries ran.log) ∧
      ∀ before caller line since, ran.log = before ++ (caller, line) :: since →
        line.delivery? = some .joined → StopSafe publication workers caller ran before since := by
  intro workers crew ran
  obtain ⟨inside, new⟩ := pool_of_start opened
  obtain ⟨obeys, _, foretold⟩ := foretold_attended publication workers errands started schedule
  have retold : ran.retell AccountLine.delivery? =
      (publication.staffed workers errands started).run Outbound.ready schedule := by
    rw [← Crew.run_retell, retell_attended]
  have stopping : Stopping publication workers (max plan.queueSize 1) ran.state
      (deliveries ran.log) := by
    have stepped : ∀ state log member entry after,
        Stopping publication workers (max plan.queueSize 1) state log →
        (publication.protocol workers).Allows
          ((publication.protocol workers).phase member log) state entry after →
        Stopping publication workers (max plan.queueSize 1) after (entered log member entry) :=
      fun _ _ _ _ _ stopping step => stopping.step step
    have kept := ((obeys_staffed publication workers errands started).run stepped
      (.of_new inside (Nat.le_max_right _ _) new) schedule).2
    rw [← retold] at kept
    exact kept
  refine ⟨?_, ?_, ?_, ?_⟩
  · simp only [crew, attended, members_forget_overseen, List.map_map, Function.comp_def,
      Recorded.plain_retell, Errand.plain_recorded]
  · simp only [crew, attended, members_sights_overseen, List.map_map, Function.comp_def,
      Recorded.plain_retell, Errand.plain_recorded]
  · intro caller member again first chosen returned
    exact joined_of_returned obeys stopping first chosen returned
  · intro before caller line since split told
    exact stopSafe_of_stopping obeys foretold stopping split told

/-- A publication that is stopped during a delivery, with one file waiting; whoever hands over a
third one has looked before the stop, and comes too late. -/
theorem stop_safe_of_late_offer :
    let around : Surroundings Unit := ⟨fun request _ => (request.granted, ()), fun _ _ => false⟩
    let plan : PublicationPlan :=
      { PublicationPlan.new "archive" (.simple (.external "ftp" 0)) with
        queueSize := 1
        statisticsOk := [⟨"delivered", 0⟩] }
    let publication : Publication :=
      ⟨0, "archive", true, [], .always, [], .simple (.external "ftp" 0), 1, [⟨"delivered", 0⟩], []⟩
    let started : Outbound :=
      { Outbound.empty with pools := [⟨1, 1, [], [], false, false, false⟩] }
    let errands : List Errand :=
      [ .hand true ⟨some "first"⟩ .empty,
        .hand true ⟨some "second"⟩ .empty,
        .stop,
        .hand true ⟨some "third"⟩ .empty ]
    let turns : List (Nat × Nat) :=
      [(1, 3), (0, 3), (2, 3), (4, 2), (3, 4), (0, 9), (3, 1), (4, 1)]
    let schedule : List Choice :=
      turns.flatMap fun turn => List.replicate turn.2 ⟨turn.1, Request.granted⟩
    let crew := (publication.attended (max plan.threads 1) errands started).run Outbound.ready
      schedule
    let before := crew.log.take 14
    let since := crew.log.drop 15
    (start plan).run around .empty () = (.ok publication, started, ()) ∧
      (∃ line : AccountLine, crew.log = before ++ (3, line) :: since ∧
        line.delivery? = some .joined) ∧
      told hooks before = [⟨"delivered", 0⟩] ∧
      (deliveries since).map Prod.fst = [4] ∧
      gather begun (deliveries crew.log) = [⟨⟨0, ⟨some "first"⟩, true⟩, .empty⟩] ∧
      gather abandoned (deliveries crew.log) = [⟨⟨1, ⟨some "second"⟩, true⟩, .empty⟩] ∧
      StopSafe publication (max plan.threads 1) 3 crew before since := by
  intro around plan publication started errands turns schedule crew before since
  have opened : (start plan).run around .empty () = (.ok publication, started, ()) := rfl
  have logged : ∃ line : AccountLine, crew.log[14]? = some (3, line) ∧
      line.delivery? = some .joined := by
    have author : crew.log[14]?.map Prod.fst = some 3 := by decide +kernel
    have joins : (crew.log[14]?.bind fun line => line.2.delivery?).map
        (waitingDues publication 1).paid = some [()] := by decide +kernel
    generalize crew.log[14]? = found at author joins ⊢
    obtain ⟨⟨_, line⟩, rfl, rfl⟩ := Option.map_eq_some_iff.1 author
    obtain ⟨entry, told, paid⟩ := Option.map_eq_some_iff.1 joins
    refine ⟨line, rfl, ?_⟩
    cases entry with
    | joined => exact told
    | _ => cases paid
  obtain ⟨line, found, told⟩ := logged
  have split : crew.log = before ++ (3, line) :: since := by
    obtain ⟨inside, same⟩ := List.getElem?_eq_some_iff.1 found
    have rest := List.drop_eq_getElem_cons inside
    rw [same] at rest
    exact (List.take_append_drop 14 _).symm.trans (congrArg (before ++ ·) rest)
  have safe := (stop_safe around () () plan .empty started publication opened errands
    schedule).2.2.2 before 3 line since split told
  exact ⟨opened, ⟨line, split, told⟩, by decide +kernel, by decide +kernel, by decide +kernel,
    by decide +kernel, safe⟩

end Publication

end RadarRelay
