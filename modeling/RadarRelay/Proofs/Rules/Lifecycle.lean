import RadarRelay.Proofs.Activity.Dues
import RadarRelay.Proofs.Rules.Custody
import RadarRelay.Proofs.Rules.Inserted

/-!
# The life of a publication

A publication is started, registered, handed back to one call when it leaves the
registry, and stopped by that call. Whatever calls are made at the same time, each
publication that was ever started is in exactly one of these places, because names
are distinct in the registry and because a call stops whatever it was handed.
-/

namespace RadarRelay

/-! ## What a log tells of publications -/

namespace CustodyEntry

def begun : CustodyEntry → List Publication
  | started publication => [publication]
  | _ => []

def added : CustodyEntry → List Publication
  | registered publication _ => [publication]
  | _ => []

/-- The publications that have left the registry. -/
def handedBack : CustodyEntry → List Publication
  | registered _ replaced => replaced.toList
  | removed _ publication => publication.toList
  | drained publications => publications
  | _ => []

def marked : CustodyEntry → List Publication
  | halted publication _ => [publication]
  | _ => []

/-- The publication that was marked as stopped for the first time. -/
def markedFirst : CustodyEntry → List Publication
  | halted publication first => if first then [publication] else []
  | _ => []

/-- The publication whose workers have left. -/
def ended : CustodyEntry → List Publication
  | stopped publication => [publication]
  | _ => []

end CustodyEntry

open CustodyEntry (begun added handedBack marked markedFirst ended)

namespace Custody

def brought : Custody → List Publication
  | bringing publication => [publication]
  | _ => []

/-- What is still to be marked as stopped. -/
def toMark : Custody → List Publication
  | owing publications => publications
  | awaiting _ later => later
  | _ => []

def awaited : Custody → List Publication
  | awaiting publication _ => [publication]
  | _ => []

end Custody

variable {calls member : Nat} {holdings after : Holdings} {log : List (Nat × CustodyEntry)}
  {entry : CustodyEntry} {phase : Custody}

namespace CustodyStep

/-- What has been started is brought until it is registered. -/
theorem balance_brought (step : CustodyStep phase holdings (some entry) after) :
    phase.brought ++ begun entry = added entry ++ (phase.after entry).brought := by
  cases step with
  | halted publication later => cases holdings.isStopped publication <;> rfl
  | started | registered | removed | drained | stopped => rfl

/-- What has left the registry is to be marked as stopped until it is. -/
theorem balance_toMark (step : CustodyStep phase holdings (some entry) after) :
    phase.toMark ++ handedBack entry = marked entry ++ (phase.after entry).toMark := by
  cases step with
  | halted publication later =>
      cases first : holdings.isStopped publication with
      | true | false => simp [Custody.toMark, Custody.after, handedBack, marked]
  | stopped publication later => exact List.append_nil later
  | started | registered | removed | drained => rfl

/-- Whoever marks a publication first waits for its workers. -/
theorem balance_awaited (step : CustodyStep phase holdings (some entry) after) :
    phase.awaited ++ markedFirst entry = ended entry ++ (phase.after entry).awaited := by
  cases step with
  | halted publication later => cases holdings.isStopped publication <;> rfl
  | started | registered | removed | drained | stopped => rfl

end CustodyStep

/-- What holds at first of where members stand. -/
theorem Custody.start_nil {owes : Custody → List Publication} (resting : owes (.owing []) = [])
    (apart : owes .bystander = []) (calls member : Nat) :
    owes ((custody calls).start member) = [] := by
  show owes (if member < calls then .owing [] else .bystander) = []
  split
  · exact resting
  · exact apart

/-- Publications that have been started are to be registered. -/
def bringingDues (calls : Nat) : Dues (custody calls) Publication where
  due := begun
  paid := added
  owing := Custody.brought
  start := Custody.start_nil rfl rfl calls
  balance _ _ _ _ step := CustodyStep.balance_brought step

/-- Publications that have left the registry are to be marked as stopped. -/
def markingDues (calls : Nat) : Dues (custody calls) Publication where
  due := handedBack
  paid := marked
  owing := Custody.toMark
  start := Custody.start_nil rfl rfl calls
  balance _ _ _ _ step := CustodyStep.balance_toMark step

/-- The workers of publications that have been marked as stopped are to leave. -/
def awaitingDues (calls : Nat) : Dues (custody calls) Publication where
  due := markedFirst
  paid := ended
  owing := Custody.awaited
  start := Custody.start_nil rfl rfl calls
  balance _ _ _ _ step := CustodyStep.balance_awaited step

/-! ## The registry -/

namespace PublicationRegistry

/-- What is registered is there in the place of what it replaces. -/
theorem perm_insert (registry : PublicationRegistry) (publication : Publication) :
    ((registry.insert publication).1.toList ++ (registry.insert publication).2.publications).Perm
      (publication :: registry.publications) := by
  obtain ⟨publications⟩ := registry
  rw [insert, get?]
  induction publications with
  | nil => exact List.Perm.refl _
  | cons other rest ih =>
      by_cases same : other.name = publication.name
      · rw [List.find?_cons_of_pos (by simpa using same), place, if_pos same]
        exact List.Perm.swap publication other rest
      · rw [List.find?_cons_of_neg (by simpa using same), place, if_neg same]
        refine List.perm_middle.trans ?_
        exact (ih.cons other).trans (List.Perm.swap publication other rest)

variable {registry : PublicationRegistry}

/-- What is removed is the one publication of its name. -/
theorem perm_remove (distinct : registry.names.Nodup) (name : String) :
    ((registry.remove name).1.toList ++ (registry.remove name).2.publications).Perm
      registry.publications := by
  obtain ⟨publications⟩ := registry
  rw [remove, get?]
  induction publications with
  | nil => exact List.Perm.refl _
  | cons other rest ih =>
      obtain ⟨unlike, distinctRest⟩ := List.nodup_cons.1 distinct
      by_cases same : other.name = name
      · have others : rest.filter (fun publication => publication.name != name) = rest := by
          refine List.filter_eq_self.2 fun publication known => ?_
          have different : publication.name ≠ other.name := fun equal =>
            unlike (List.mem_map.2 ⟨publication, known, equal⟩)
          simpa [← same] using different
        rw [List.find?_cons_of_pos (by simpa using same),
          List.filter_cons_of_neg (by simpa using same), others]
        exact List.Perm.refl _
      · rw [List.find?_cons_of_neg (by simpa using same),
          List.filter_cons_of_pos (by simpa using same)]
        exact List.perm_middle.trans ((ih distinctRest).cons other)

theorem nodup_names_insert (distinct : registry.names.Nodup) (publication : Publication) :
    (registry.insert publication).2.names.Nodup := by
  rw [names, ← List.filterMap_eq_map] at distinct ⊢
  exact (inserted_place publication registry.publications).nodup distinct

theorem nodup_names_remove (distinct : registry.names.Nodup) (name : String) :
    (registry.remove name).2.names.Nodup :=
  (List.filter_sublist.map _).nodup distinct

end PublicationRegistry

/-! ## The invariant -/

/-- Where publications are, and what is known of them there. -/
structure Kept (calls : Nat) (holdings : Holdings) (log : List (Nat × CustodyEntry)) : Prop where
  authors : ∀ known ∈ log, known.1 < calls
  bystanders : ∀ member, calls ≤ member → (custody calls).phase member log = .bystander
  bringing : (bringingDues calls).Settled log
  marking : (markingDues calls).Settled log
  awaiting : (awaitingDues calls).Settled log
  distinct : holdings.registry.names.Nodup
  conserved : (told added log).Perm (told handedBack log ++ holdings.registry.publications)
  numbered : ((told begun log).map Publication.id).Nodup
  older : ∀ publication ∈ told begun log, publication.id < holdings.stopped.length
  /-- A publication has been stopped when somebody has marked it. -/
  known : ∀ publication ∈ told begun log,
    holdings.isStopped publication = decide (publication.id ∈ (told marked log).map Publication.id)
  first : ∀ author publication first,
    (author, CustodyEntry.halted publication first) ∈ log → first = true

namespace Kept

variable {entry : Option CustodyEntry}

/-- Every publication that was ever started is on its way to the registry, registered, marked as
stopped, or to be marked. -/
theorem places (kept : Kept calls holdings log) :
    (told added log ++ (bringingDues calls).outstanding calls log).Perm (told begun log) ∧
    (told marked log ++ (markingDues calls).outstanding calls log ++
      holdings.registry.publications).Perm (told added log) :=
  ⟨kept.bringing.perm kept.authors,
    ((kept.marking.perm kept.authors).append_right _).trans kept.conserved.symm⟩

/-- No two of them have one number. -/
theorem apart (kept : Kept calls holdings log) :
    ((told marked log ++ (markingDues calls).outstanding calls log ++
      holdings.registry.publications).map Publication.id).Nodup := by
  obtain ⟨begun, added⟩ := kept.places
  have within := (List.sublist_append_left (told CustodyEntry.added log)
    ((bringingDues calls).outstanding calls log)).subperm.trans begun.subperm
  obtain ⟨part, same, inside⟩ := added.subperm.trans within
  exact (same.map _).nodup_iff.1 ((inside.map _).nodup kept.numbered)

theorem begun_of_marked (kept : Kept calls holdings log) {publication : Publication}
    (marked : publication ∈ told CustodyEntry.marked log) : publication ∈ told begun log := by
  obtain ⟨begun, added⟩ := kept.places
  exact begun.subset (List.mem_append_left _ (added.subset
    (List.mem_append_left _ (List.mem_append_left _ marked))))

/-- Nobody else than a call leaves entries. -/
theorem member_lt (kept : Kept calls holdings log) {only : CustodyEntry}
    (step : CustodyStep ((custody calls).phase member log) holdings (some only) after) :
    member < calls := by
  by_contra outside
  rw [kept.bystanders member (Nat.le_of_not_lt outside)] at step
  cases step

/-- What a call is about to mark has been started, and nobody has marked it. -/
theorem unmarked (kept : Kept calls holdings log) {publication : Publication}
    {others : List Publication} (stands : (custody calls).phase member log =
      .owing (publication :: others)) (inside : member < calls) :
    publication ∈ told begun log ∧ publication.id ∉ (told marked log).map Publication.id := by
  have owed : publication ∈ (markingDues calls).outstanding calls log := by
    refine (markingDues calls).mem_outstanding inside ?_
    rw [stands]
    exact List.mem_cons_self
  obtain ⟨begun, added⟩ := kept.places
  constructor
  · exact begun.subset (List.mem_append_left _ (added.subset
      (List.mem_append_left _ (List.mem_append_right _ owed))))
  · have apart := kept.apart
    rw [List.map_append, List.map_append, List.append_assoc] at apart
    intro marked
    exact (List.nodup_append.1 apart).2.2 _ marked _
      (List.mem_append_left _ (List.mem_map_of_mem owed)) rfl

theorem authors_step (kept : Kept calls holdings log)
    (step : CustodyStep ((custody calls).phase member log) holdings entry after) :
    ∀ known ∈ entered log member entry, known.1 < calls := by
  cases entry with
  | none => exact kept.authors
  | some entry =>
      intro known logged
      rcases List.mem_append.1 logged with earlier | last
      · exact kept.authors known earlier
      · rw [List.mem_singleton.1 last]
        exact kept.member_lt step

theorem bystanders_step (kept : Kept calls holdings log)
    (step : CustodyStep ((custody calls).phase member log) holdings entry after) (other : Nat)
    (outside : calls ≤ other) :
    (custody calls).phase other (entered log member entry) = .bystander := by
  rw [Protocol.phase_entered]
  by_cases same : member = other
  · rw [if_pos same]
    rw [← same] at outside
    cases entry with
    | none => exact kept.bystanders member outside
    | some entry => exact absurd (kept.member_lt step) (Nat.not_lt.2 outside)
  · rw [if_neg same]
    exact kept.bystanders other outside

theorem distinct_step (kept : Kept calls holdings log)
    (step : CustodyStep phase holdings entry after) : after.registry.names.Nodup := by
  cases step with
  | silent same => rw [same]; exact kept.distinct
  | started | halted | stopped => exact kept.distinct
  | registered publication => exact PublicationRegistry.nodup_names_insert kept.distinct publication
  | removed name => exact PublicationRegistry.nodup_names_remove kept.distinct name
  | drained => exact List.nodup_nil

theorem conserved_step (kept : Kept calls holdings log)
    (step : CustodyStep phase holdings entry after) :
    (told added (entered log member entry)).Perm
      (told handedBack (entered log member entry) ++ after.registry.publications) := by
  rw [told_entered, told_entered]
  have conserved := kept.conserved
  cases step with
  | silent same =>
      rw [same]
      simpa using conserved
  | started | halted | stopped => simpa [added, handedBack] using conserved
  | registered publication =>
      have inserted := holdings.registry.perm_insert publication
      calc told added log ++ [publication]
        _ |>.Perm (told handedBack log ++ holdings.registry.publications ++ [publication]) :=
            conserved.append_right _
        _ |>.Perm (told handedBack log ++ (publication :: holdings.registry.publications)) := by
            rw [List.append_assoc]
            exact List.perm_append_singleton _ _ |>.append_left _
        _ |>.Perm _ := by
            rw [List.append_assoc]
            exact inserted.symm.append_left _
  | removed name =>
      have removed := PublicationRegistry.perm_remove kept.distinct name
      show (told added log ++ []).Perm
        (told handedBack log ++ (holdings.registry.remove name).1.toList ++ _)
      rw [List.append_nil, List.append_assoc]
      exact conserved.trans (removed.symm.append_left _)
  | drained =>
      show (told added log ++ []).Perm
        (told handedBack log ++ holdings.registry.publications ++ [])
      rw [List.append_nil, List.append_nil]
      exact conserved

theorem numbered_step (kept : Kept calls holdings log)
    (step : CustodyStep phase holdings entry after) :
    ((told begun (entered log member entry)).map Publication.id).Nodup ∧
      ∀ publication ∈ told begun (entered log member entry),
        publication.id < after.stopped.length := by
  rw [told_entered]
  cases step with
  | silent same =>
      rw [same]
      simpa using ⟨kept.numbered, kept.older⟩
  | registered | removed | drained | stopped | halted =>
      simpa [begun] using ⟨kept.numbered, kept.older⟩
  | started publication next =>
      show ((told begun log ++ [publication]).map Publication.id).Nodup ∧
        ∀ other ∈ told begun log ++ [publication],
          other.id < (holdings.stopped ++ [false]).length
      rw [List.length_append, List.length_singleton]
      constructor
      · rw [List.map_append, List.nodup_append]
        refine ⟨kept.numbered, by simp, ?_⟩
        intro id known last new
        obtain ⟨other, begun, rfl⟩ := List.mem_map.1 known
        have older := kept.older other begun
        rw [List.mem_singleton.1 new]
        show other.id ≠ publication.id
        omega
      · intro other known
        rcases List.mem_append.1 known with known | new
        · exact Nat.lt_succ_of_lt (kept.older other known)
        · rw [List.mem_singleton.1 new, next]
          exact Nat.lt_succ_self _

theorem known_step (kept : Kept calls holdings log)
    (step : CustodyStep ((custody calls).phase member log) holdings entry after) :
    ∀ publication ∈ told begun (entered log member entry),
      after.isStopped publication =
        decide (publication.id ∈ (told marked (entered log member entry)).map Publication.id) := by
  have known := kept.known
  have older := kept.older
  rw [told_entered, told_entered]
  generalize place : (custody calls).phase member log = phase at step
  cases step with
  | silent same =>
      rw [same]
      simpa using known
  | registered | removed | drained | stopped =>
      show ∀ publication ∈ told begun log ++ [], holdings.isStopped publication =
        decide (publication.id ∈ (told marked log ++ []).map Publication.id)
      rw [List.append_nil, List.append_nil]
      exact known
  | started publication next =>
      intro other begun
      show ((holdings.stopped ++ [false])[other.id]?).getD true =
        decide (other.id ∈ (told marked log ++ []).map Publication.id)
      rw [List.append_nil]
      rcases List.mem_append.1 begun with begun | new
      · rw [List.getElem?_append_left (older other begun)]
        exact known other begun
      · rw [List.mem_singleton.1 new, next, List.getElem?_concat_length]
        refine (decide_eq_false fun marked => ?_).symm
        obtain ⟨another, marked, same⟩ := List.mem_map.1 marked
        have earlier := older another (kept.begun_of_marked marked)
        omega
  | halted publication later =>
      show ∀ other ∈ told begun log ++ [],
        ((holdings.stopped.set publication.id true)[other.id]?).getD true =
          decide (other.id ∈ (told marked log ++ [publication]).map Publication.id)
      rw [List.append_nil]
      intro other begun
      by_cases same : other.id = publication.id
      · rw [same, List.getElem?_set_self (same ▸ older other begun)]
        simp
      · rw [List.getElem?_set_ne (Ne.symm same)]
        have unmarked := known other begun
        rw [Holdings.isStopped] at unmarked
        simp [same, unmarked]

theorem first_step (kept : Kept calls holdings log)
    (step : CustodyStep ((custody calls).phase member log) holdings entry after) :
    ∀ author publication first,
      (author, CustodyEntry.halted publication first) ∈ entered log member entry →
        first = true := by
  intro author publication first logged
  cases entry with
  | none => exact kept.first author publication first logged
  | some entry =>
      rcases List.mem_append.1 logged with earlier | last
      · exact kept.first author publication first earlier
      · have inside := kept.member_lt step
        obtain ⟨rfl, rfl⟩ := Prod.mk.inj (List.mem_singleton.1 last)
        generalize place : (custody calls).phase author log = phase at step
        cases step with
        | halted _ later =>
            obtain ⟨begun, fresh⟩ := kept.unmarked place inside
            rw [kept.known publication begun]
            simpa using fresh

/-- Every allowed step keeps all of this. -/
theorem step {node after : Node} (kept : Kept calls node.holdings log)
    (allowed : (custody calls).Allows ((custody calls).phase member log) node entry after) :
    Kept calls after.holdings (entered log member entry) where
  authors := kept.authors_step allowed
  bystanders := kept.bystanders_step allowed
  bringing := kept.bringing.step allowed
  marking := kept.marking.step allowed
  awaiting := kept.awaiting.step allowed
  distinct := kept.distinct_step allowed
  conserved := kept.conserved_step allowed
  numbered := (kept.numbered_step allowed).1
  older := (kept.numbered_step allowed).2
  known := kept.known_step allowed
  first := kept.first_step allowed

theorem of_empty (calls : Nat) (empty : holdings.registry = .empty) : Kept calls holdings [] where
  authors := nofun
  bystanders _ outside := if_neg (Nat.not_lt.2 outside)
  bringing := (bringingDues calls).settled_nil
  marking := (markingDues calls).settled_nil
  awaiting := (awaitingDues calls).settled_nil
  distinct := by rw [empty]; exact List.nodup_nil
  conserved := by rw [empty]; exact List.Perm.refl []
  numbered := List.nodup_nil
  older := nofun
  known := nofun
  first := nofun

end Kept

/-! ## What an entry tells of the registry -/

/-- What has become of the registry when an entry is left, or none. -/
def CustodyEntry.Tells : Option CustodyEntry → PublicationRegistry → PublicationRegistry → Prop
  | some (.registered publication replaced), before, after =>
      replaced = before.get? publication.name ∧
        Inserted (fun other => some other.name) publication before.publications after.publications
  | some (.removed name publication), before, after =>
      publication = before.get? name ∧
        after.publications = before.publications.filter fun other => other.name != name
  | some (.drained publications), before, after =>
      publications = before.publications ∧ after.publications = []
  | _, before, after => after = before

theorem CustodyStep.tells {entry : Option CustodyEntry}
    (step : CustodyStep phase holdings entry after) :
    CustodyEntry.Tells entry holdings.registry after.registry := by
  cases step with
  | silent same => rw [same]; rfl
  | started | halted | stopped => exact rfl
  | registered publication => exact ⟨rfl, PublicationRegistry.inserted_place _ _⟩
  | removed | drained => exact ⟨rfl, rfl⟩

/-- A name that is registered stays registered until it is removed or all are. -/
theorem CustodyEntry.Tells.stays {entry : Option CustodyEntry} {before after : PublicationRegistry}
    (tells : Tells entry before after) {name : String} (known : name ∈ before.names) :
    name ∈ after.names ∨ (∃ publication, entry = some (.removed name publication)) ∨
      ∃ publications, entry = some (.drained publications) := by
  cases entry with
  | none => exact Or.inl (tells ▸ known)
  | some entry =>
      cases entry with
      | started | halted | stopped => exact Or.inl (tells ▸ known)
      | registered publication replaced =>
          left
          rw [PublicationRegistry.names, ← List.filterMap_eq_map] at known ⊢
          exact tells.2.keys_subset known
      | removed other publication =>
          by_cases same : other = name
          · exact Or.inr (Or.inl ⟨publication, by rw [same]⟩)
          · left
            obtain ⟨kept, among, rfl⟩ := List.mem_map.1 known
            rw [PublicationRegistry.names, tells.2]
            exact List.mem_map_of_mem (List.mem_filter.2 ⟨among, by simpa using Ne.symm same⟩)
      | drained publications => exact Or.inr (Or.inr ⟨publications, rfl⟩)

/-! ## The whole life -/

variable {ready : Request → Node → Bool}

/-- What holds of the publications of a node while calls are handled, at every moment and for every
next step. -/
structure Lifecycle (ready : Request → Node → Bool) (calls : Nat)
    (crew : Crew Node CustodyEntry) : Prop where
  names : crew.state.registry.names.Nodup
  /-- Every publication that was ever added is registered or was handed back. -/
  conserved : (told added crew.log).Perm
    (told handedBack crew.log ++ crew.state.registry.publications)
  /-- Never both, and to one call only. -/
  once : ((told handedBack crew.log ++ crew.state.registry.publications).map
    Publication.id).Nodup
  running : ∀ publication ∈ crew.state.registry.publications,
    publication.isStopped crew.state.outbound = false
  /-- One step changes the registry as its entry tells, and no registered name is ever missing
  before it is removed. -/
  steps : ∀ choice, ∃ entry,
    (crew.step ready choice).log = entered crew.log choice.member entry ∧
    CustodyEntry.Tells entry crew.state.registry (crew.step ready choice).state.registry ∧
    ∀ name ∈ crew.state.registry.names,
      name ∈ (crew.step ready choice).state.registry.names ∨
        (∃ publication, entry = some (.removed name publication)) ∨
        ∃ publications, entry = some (.drained publications)
  /-- Nobody stops a publication that has been stopped. -/
  firstOnly : ∀ call publication first,
    (call, CustodyEntry.halted publication first) ∈ crew.log → first = true
  /-- When all calls have returned, every publication that was started was added, and those that
  are no longer registered have been stopped, each once. -/
  returned : (∀ call < calls, ∀ member, crew.members[call]? = some member →
      member.rest = .done false) →
    (told added crew.log).Perm (told begun crew.log) ∧
    (told marked crew.log).Perm (told handedBack crew.log) ∧
    (told ended crew.log).Perm (told handedBack crew.log) ∧
    ∀ publication ∈ told added crew.log,
      publication.isStopped crew.state.outbound = true ↔
        publication ∉ crew.state.registry.publications

namespace Kept

variable {crew : Crew Node CustodyEntry}

theorem once (kept : Kept calls holdings log) :
    ((told handedBack log ++ holdings.registry.publications).map Publication.id).Nodup := by
  have handed := (kept.marking.perm kept.authors).append_right holdings.registry.publications
  exact (handed.map _).nodup_iff.1 kept.apart

/-- No publication that is registered has been stopped. -/
theorem running (kept : Kept calls holdings log) {publication : Publication}
    (registered : publication ∈ holdings.registry.publications) :
    holdings.isStopped publication = false := by
  obtain ⟨begun, added⟩ := kept.places
  have started : publication ∈ told CustodyEntry.begun log :=
    begun.subset (List.mem_append_left _ (added.subset (List.mem_append_right _ registered)))
  have apart := kept.apart
  rw [List.map_append, List.nodup_append] at apart
  rw [kept.known publication started]
  refine decide_eq_false fun marked => ?_
  have earlier : publication.id ∈ (told CustodyEntry.marked log ++
      (markingDues calls).outstanding calls log).map Publication.id := by
    rw [List.map_append]
    exact List.mem_append_left _ marked
  exact apart.2.2 _ earlier _ (List.mem_map_of_mem registered) rfl

/-- What was marked was marked for the first time. -/
theorem markedFirst_eq (kept : Kept calls holdings log) :
    told markedFirst log = told marked log := by
  refine List.flatMap_congr fun known logged => ?_
  obtain ⟨author, entry⟩ := known
  cases entry with
  | halted publication first =>
      rw [kept.first author publication first logged]
      rfl
  | started | registered | removed | drained | stopped => rfl

/-- Nothing is owed when no member owes anything. -/
theorem returned (kept : Kept calls holdings log)
    (resting : ∀ call < calls, (custody calls).Ends ((custody calls).phase call log) false) :
    (told added log).Perm (told begun log) ∧
    (told marked log).Perm (told handedBack log) ∧
    (told ended log).Perm (told handedBack log) ∧
    ∀ publication ∈ told added log,
      holdings.isStopped publication = true ↔ publication ∉ holdings.registry.publications := by
  have nothing (dues : Dues (custody calls) Publication) (none : dues.owing (.owing []) = [])
      (apart : dues.owing .bystander = []) : dues.outstanding calls log = [] := by
    refine List.flatMap_eq_nil_iff.2 fun call inside => ?_
    have ends := resting call (List.mem_range.1 inside)
    generalize (custody calls).phase call log = phase at ends
    cases phase with
    | owing publications =>
        cases publications with
        | nil => exact none
        | cons => exact ends.elim
    | bystander => exact apart
    | bringing | awaiting => exact ends.elim
  have registered := kept.bringing.perm kept.authors
  have handed := kept.marking.perm kept.authors
  have waited := kept.awaiting.perm kept.authors
  rw [nothing _ rfl rfl, List.append_nil] at registered handed waited
  refine ⟨registered, handed, (waited.trans (List.Perm.of_eq kept.markedFirst_eq)).trans handed,
    ?_⟩
  intro publication added
  constructor
  · intro stopped registered
    rw [kept.running registered] at stopped
    cases stopped
  · intro absent
    have back : publication ∈ told handedBack log :=
      (List.mem_append.1 (kept.conserved.subset added)).resolve_right absent
    have marked : publication ∈ told CustodyEntry.marked log := handed.symm.subset back
    rw [kept.known publication (kept.begun_of_marked marked)]
    exact decide_eq_true (List.mem_map_of_mem marked)

theorem lifecycle_of_obeys (obeys : crew.Obeys (custody calls) ready)
    (kept : Kept calls crew.state.holdings crew.log) (size : calls ≤ crew.members.length) :
    Lifecycle ready calls crew where
  names := kept.distinct
  conserved := kept.conserved
  once := kept.once
  running publication registered := by
    rw [← crew.state.isStopped_holdings]
    exact kept.running registered
  steps choice := by
    obtain ⟨_, ⟨same, unchanged⟩ | ⟨entry, step, logged⟩⟩ := obeys.step choice
    · refine ⟨none, unchanged, by rw [same]; rfl, fun name known => ?_⟩
      rw [same]
      exact Or.inl known
    · have tells := CustodyStep.tells step
      exact ⟨entry, logged, tells, fun name known => tells.stays known⟩
  firstOnly := kept.first
  returned := by
    intro done
    have resting : ∀ call < calls,
        (custody calls).Ends ((custody calls).phase call crew.log) false := by
      intro call inside
      have chosen := List.getElem?_eq_getElem (Nat.lt_of_lt_of_le inside size)
      exact (obeys call _ chosen).ends (done call inside _ chosen)
    have settled := kept.returned resting
    simp only [crew.state.isStopped_holdings] at settled
    exact settled

end Kept

/-- For every node without publications, whatever calls it handles that add, apply, remove or shut
down, whoever else works on it meanwhile, and in whatever order their steps follow one another: each
publication is registered or in the custody of one call, which stops it. -/
theorem Node.publication_lifecycle (node : Node) (calls : List PublicationCall)
    (others : List (Activity Node Bool)) (apart : ∀ other ∈ others, other.Keeps Node.holdings)
    (ready : Request → Node → Bool) (schedule : List Choice) :
    let crew := node.attended calls others
    crew.forget.members = (calls.map PublicationCall.activity ++ others).map
        (fun activity => .new (.silent activity)) ∧
      Lifecycle ready calls.length (crew.run ready schedule) := by
  intro crew
  have new : Kept calls.length crew.state.holdings crew.log := .of_empty calls.length rfl
  have stepped : ∀ state log member entry after, Kept calls.length state.holdings log →
      (custody calls.length).Allows ((custody calls.length).phase member log) state entry after →
      Kept calls.length after.holdings (entered log member entry) :=
    fun _ _ _ _ _ kept allowed => kept.step allowed
  obtain ⟨obeys, kept⟩ := (Custody.obeys_attended node calls apart).run stepped new schedule
  refine ⟨node.members_forget_attended calls others, kept.lifecycle_of_obeys obeys ?_⟩
  show calls.length ≤ (crew.run ready schedule).members.length
  rw [Crew.length_members_run]
  simp [crew, attended]

/-- A publication is replaced and its worker leaves; then the node is shut down. -/
theorem Node.publication_lifecycle_of_replacement :
    let node : Node :=
      { config := ⟨"relay", none, 0, none, ⟨none, none, none⟩⟩
        plugins := .empty
        hooks := ⟨[], [], []⟩
        recent := .empty 0
        directory := .empty
        registry := .empty
        processors := .empty
        outbound := .empty }
    let plan := PublicationPlan.new "archive" (.simple (.external "ftp" 0))
    let calls : List PublicationCall := [.add plan, .add plan, .shutdown]
    let others := [onOutbound (plan.opened 0 100).work, onOutbound (plan.opened 1 100).work]
    let ready (request : Request) (node : Node) : Bool := Outbound.ready request node.outbound
    let turns : List (Nat × Nat) := [(0, 4), (1, 7), (3, 3), (1, 2), (2, 7), (4, 3), (2, 2)]
    let schedule : List Choice :=
      turns.flatMap fun turn => List.replicate turn.2 ⟨turn.1, Request.granted⟩
    let crew := (node.attended calls others).run ready schedule
    (∀ other ∈ others, other.Keeps Node.holdings) ∧
      (told handedBack crew.log).map Publication.id = [0, 1] ∧
      (told ended crew.log).map Publication.id = [0, 1] ∧
      Lifecycle ready calls.length crew := by
  intro node plan calls others ready turns schedule crew
  have apart : ∀ other ∈ others, other.Keeps Node.holdings := by
    intro other among
    rcases List.mem_cons.1 among with rfl | among
    · exact keeps_work _
    · rw [List.mem_singleton.1 among]
      exact keeps_work _
  have life := publication_lifecycle node calls others apart ready schedule
  exact ⟨apart, by decide +kernel, by decide +kernel, life.2⟩

end RadarRelay
