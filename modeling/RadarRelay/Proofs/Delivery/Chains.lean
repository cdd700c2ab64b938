import Mathlib.Data.List.Forall2
import RadarRelay.Delivery.Chain
import RadarRelay.Proofs.Activity.Running

/-!
# How a chain of decorators goes

The places of a chain are called one after the other, each with the file as the
places before it have left it and with the metadata of that very file, until one of
them fails or discards the file. `Stage.Course` says so of the calls that were made
and of the result of the chain. The calls themselves are made up of what decorators
and whoever reads metadata were asked, and what they answered.
-/

namespace RadarRelay

open Activity

/-! ## What is heard of a chain -/

/-- A question that was asked while a file was decorated, with its answer. -/
inductive Exchange where
  | decorated (name : String) (serial : Nat) (file : File) (metadata : Metadata)
      (answer : Except Error Decoration)
  | timed (now : Calendar.Moment)
  | read (file : File) (answer : Except Error Metadata)

/-- Reports are not heard, and nothing else is asked. -/
def Exchange.of? : (request : Request) → request.Answer → Option Exchange
  | .decorate name serial file metadata, answer =>
      some (.decorated name serial file metadata answer)
  | .now, now => some (.timed now)
  | .readMetadata file, answer => some (.read file answer)
  | _, _ => none

namespace Decorator

/-- How a decorator comes to its answer for a file. -/
inductive Answers (file : File) (metadata : Metadata) :
    Decorator → Except Error Decoration → List Exchange → Prop where
  | external (name : String) (serial : Nat) (answer : Except Error Decoration) :
      Answers file metadata (.external name serial) answer
        [.decorated name serial file metadata answer]
  | undated (greatestAge : Calendar.Interval) : metadata.nominalTime? = none →
      Answers file metadata (.staleFileBlocker greatestAge) (.ok .unchanged) []
  | dated (greatestAge : Calendar.Interval) {nominal : Calendar.Moment} (now : Calendar.Moment) :
      metadata.nominalTime? = some nominal →
      Answers file metadata (.staleFileBlocker greatestAge)
        (.ok (if greatestAge.nanoseconds < (now.since nominal).nanoseconds then .empty
          else .unchanged))
        [.timed now]

theorem hears_decorate {State : Type} (file : File) (metadata : Metadata) (decorator : Decorator) :
    (decorator.decorate file metadata : Activity State _).Hears Exchange.of?
      (decorator.Answers file metadata) := by
  cases decorator with
  | external name serial => exact fun answer => .external name serial answer
  | staleFileBlocker greatestAge =>
      rw [decorate]
      cases dated : metadata.nominalTime? with
      | none => exact .undated greatestAge dated
      | some nominal => exact fun now => .dated greatestAge now dated

/-- How the error of a chain tells what has failed at the place of a decorator. -/
inductive Reported (name : String) : Error → Error → Prop where
  | already (inner reason : String) :
      Reported name (.decoration inner reason) (.decoration inner reason)
  | named {cause : Error} : (∀ inner reason, cause ≠ .decoration inner reason) →
      Reported name cause (.decoration name cause.message)

theorem reported_iff {name : String} {cause error : Error} :
    Reported name cause error ↔ error = failure name cause := by
  constructor
  · intro reported
    cases reported with
    | already inner reason => rfl
    | named other =>
        cases cause with
        | decoration inner reason => exact absurd rfl (other inner reason)
        | _ => rfl
  · rintro rfl
    cases cause with
    | decoration inner reason => exact .already inner reason
    | _ => exact .named fun _ _ => nofun

end Decorator

/-! ## Calls -/

/-- What became of a parcel at one place of a chain. -/
inductive Treatment where
  | failed (error : Error)
  | unchanged
  | replaced (replacement : TemporaryFile) (metadata : Metadata)
  /-- The metadata of the replacement could not be read. -/
  | unreadable (replacement : TemporaryFile) (error : Error)
  | empty

namespace Treatment

/-- What the decorator answered. -/
def answer : Treatment → Except Error Decoration
  | failed error => .error error
  | unchanged => .ok .unchanged
  | replaced replacement _ => .ok (.replaced replacement.file)
  | unreadable replacement _ => .ok (.replaced replacement.file)
  | empty => .ok .empty

/-- What was read after that. -/
def reading : Treatment → List Exchange
  | replaced replacement metadata => [.read replacement.file (.ok metadata)]
  | unreadable replacement error => [.read replacement.file (.error error)]
  | _ => []

end Treatment

/-- A call of one place of a chain, and what became of the parcel that it was called with. -/
structure StageCall where
  stage : Stage
  parcel : Parcel
  treatment : Treatment

namespace StageCall

/-- What is heard of a call. -/
def Heard (call : StageCall) (exchanges : List Exchange) : Prop :=
  ∃ decorating, call.stage.decorator.Answers call.parcel.file.file call.parcel.metadata
      call.treatment.answer decorating ∧
    exchanges = decorating ++ call.treatment.reading

/-- The file that takes the place of the one before, with its metadata. -/
def replacement? (call : StageCall) : Option Parcel :=
  match call.treatment with
  | .replaced replacement metadata => some ⟨replacement, metadata⟩
  | _ => none

/-- The decorator failed, or what it produced cannot be read. -/
def Fails (call : StageCall) (cause : Error) : Prop :=
  call.treatment = .failed cause ∨ ∃ replacement, call.treatment = .unreadable replacement cause

/-- Nothing was produced, and nothing is to be delivered then. -/
def Discards (call : StageCall) : Prop :=
  call.treatment = .empty ∧ call.stage.allowDiscard = true

/-- The chain ends here. -/
def Ends (call : StageCall) : Prop :=
  call.Discards ∨ ∃ cause, call.Fails cause

/-- The file as earlier calls have left it. -/
def latest (parcel : Parcel) (earlier : List StageCall) : Parcel :=
  (earlier.filterMap replacement?).getLast?.getD parcel

/-- What the place makes of its parcel. -/
def outcome (call : StageCall) : Except Error (Option Parcel) :=
  match call.treatment with
  | .failed error => .error (Decorator.failure call.stage.decorator.name error)
  | .unchanged => .ok (some call.parcel)
  | .replaced replacement metadata => .ok (some ⟨replacement, metadata⟩)
  | .unreadable _ error => .error (Decorator.failure call.stage.decorator.name error)
  | .empty => if call.stage.allowDiscard then .ok none else .ok (some call.parcel)

@[simp] theorem latest_nil (parcel : Parcel) : latest parcel [] = parcel := rfl

theorem latest_cons (parcel : Parcel) (call : StageCall) (calls : List StageCall) :
    latest parcel (call :: calls) = latest (call.replacement?.getD parcel) calls := by
  cases replaced : call.replacement? with
  | none => simp [latest, replaced]
  | some next => simp [latest, replaced, List.getLast?_cons]

theorem outcome_discarded (call : StageCall) : call.outcome = .ok none ↔ call.Discards := by
  obtain ⟨stage, parcel, treatment⟩ := call
  cases treatment with
  | empty => cases discard : stage.allowDiscard <;> simp [outcome, Discards, discard]
  | _ => simp [outcome, Discards]

theorem outcome_failed (call : StageCall) (error : Error) :
    call.outcome = .error error ↔
      ∃ cause, call.Fails cause ∧ Decorator.Reported call.stage.decorator.name cause error := by
  obtain ⟨stage, parcel, treatment⟩ := call
  simp only [Decorator.reported_iff]
  cases treatment with
  | empty => cases discard : stage.allowDiscard <;> simp [outcome, Fails, discard]
  | _ => simp [outcome, Fails, eq_comm]

theorem outcome_passed (call : StageCall) (next : Parcel) :
    call.outcome = .ok (some next) ↔
      ¬call.Ends ∧ call.replacement?.getD call.parcel = next := by
  obtain ⟨stage, parcel, treatment⟩ := call
  cases treatment with
  | empty =>
      cases discard : stage.allowDiscard <;>
        simp [outcome, Ends, Discards, Fails, replacement?, discard]
  | _ => simp [outcome, Ends, Discards, Fails, replacement?]

end StageCall

namespace Stage

/-- What is heard of one place is heard of one call, which decides what comes of it. -/
theorem hears_run (publication : String) (parcel : Parcel) (stage : Stage) :
    (stage.run publication parcel).Hears Exchange.of? fun result exchanges =>
      ∃ treatment, StageCall.Heard ⟨stage, parcel, treatment⟩ exchanges ∧
        result = StageCall.outcome ⟨stage, parcel, treatment⟩ := by
  apply hears_bind (Decorator.hears_decorate _ _ stage.decorator)
  intro answer decorating answers
  cases answer with
  | error error => exact fun _ => ⟨.failed error, ⟨decorating, answers, rfl⟩, rfl⟩
  | ok decoration =>
      cases decoration with
      | unchanged => exact ⟨.unchanged, ⟨decorating, answers, rfl⟩, rfl⟩
      | replaced content =>
          intro disk reading
          cases reading with
          | error error =>
              exact fun _ =>
                ⟨.unreadable (disk.replacement content).1 error, ⟨decorating, answers, rfl⟩, rfl⟩
          | ok metadata =>
              exact fun _ _ =>
                ⟨.replaced (disk.replacement content).1 metadata, ⟨decorating, answers, rfl⟩, rfl⟩
      | empty =>
          have heard : StageCall.Heard ⟨stage, parcel, .empty⟩ (decorating ++ []) :=
            ⟨decorating, answers, rfl⟩
          show Activity.Hears _ _ (if stage.allowDiscard then _ else _)
          split
          · rename_i discards
            exact fun _ _ => ⟨.empty, heard, by simp [StageCall.outcome, discards]⟩
          · rename_i keeps
            exact fun _ => ⟨.empty, heard, by simp [StageCall.outcome, keeps]⟩

/-! ## Chains -/

/-- How a chain goes: which calls it is made of, and what it comes to. -/
structure Course (parcel : Parcel) (stages : List Stage) (calls : List StageCall)
    (result : Except Error (Option Parcel)) : Prop where
  /-- The places are called in their order, from the first on. -/
  ordered : calls.map (·.stage) <+: stages
  /-- Each is called with the file as the calls before it have left it. -/
  current : ∀ earlier call later, calls = earlier ++ call :: later →
    call.parcel = StageCall.latest parcel earlier
  /-- No call follows one that ends the chain. -/
  last : ∀ earlier call later, calls = earlier ++ call :: later → call.Ends → later = []
  /-- If none does, every place is called. -/
  all : (∀ call ∈ calls, ¬call.Ends) → calls.map (·.stage) = stages
  discarded : result = .ok none ↔ ∃ call ∈ calls, call.Discards
  failed : ∀ error, result = .error error ↔ ∃ call ∈ calls, ∃ cause,
    call.Fails cause ∧ Decorator.Reported call.stage.decorator.name cause error
  passed : ∀ final, result = .ok (some final) ↔
    (∀ call ∈ calls, ¬call.Ends) ∧ StageCall.latest parcel calls = final

namespace Course

variable {parcel : Parcel} {stages : List Stage} {calls : List StageCall}
  {result : Except Error (Option Parcel)}

theorem nil (parcel : Parcel) : Course parcel [] [] (.ok (some parcel)) where
  ordered := List.prefix_rfl
  current earlier call later split := by simp at split
  last earlier call later split := by simp at split
  all _ := rfl
  discarded := by simp
  failed error := by simp
  passed final := by simp

private theorem only_call {call other : StageCall} {earlier later : List StageCall}
    (split : [call] = earlier ++ other :: later) : earlier = [] ∧ other = call ∧ later = [] := by
  simpa [List.append_eq_singleton_iff] using split.symm

/-- No place is called behind one that ends the chain. -/
theorem ended {call : StageCall} (ends : call.Ends) (stages : List Stage) :
    Course call.parcel (call.stage :: stages) [call] call.outcome where
  ordered := ⟨stages, rfl⟩
  current earlier other later split := by
    obtain ⟨rfl, rfl, _⟩ := only_call split
    rfl
  last earlier other later split _ := (only_call split).2.2
  all goesOn := absurd ends (goesOn call (by simp))
  discarded := by simp [call.outcome_discarded]
  failed error := by simp [call.outcome_failed]
  passed final := by simp [call.outcome_passed, ends]

/-- A place that does not end the chain leaves the rest to the places behind it. -/
theorem cons {call : StageCall} (goesOn : ¬call.Ends)
    (course : Course (call.replacement?.getD call.parcel) stages calls result) :
    Course call.parcel (call.stage :: stages) (call :: calls) result where
  ordered := List.cons_prefix_cons.2 ⟨rfl, course.ordered⟩
  current earlier other later split := by
    rcases List.cons_eq_append_iff.1 split with ⟨rfl, first⟩ | ⟨between, rfl, rest⟩
    · obtain ⟨rfl, rfl⟩ := List.cons.inj first
      rfl
    · rw [StageCall.latest_cons]
      exact course.current between other later rest
  last earlier other later split ends := by
    rcases List.cons_eq_append_iff.1 split with ⟨rfl, first⟩ | ⟨between, rfl, rest⟩
    · obtain ⟨rfl, rfl⟩ := List.cons.inj first
      exact absurd ends goesOn
    · exact course.last between other later rest ends
  all none := by
    have all := course.all fun other mem => none other (by simp [mem])
    simp [all]
  discarded := by
    have keeps : ¬call.Discards := fun discards => goesOn (.inl discards)
    simp [course.discarded, keeps]
  failed error := by
    have succeeds (cause : Error) : ¬call.Fails cause := fun fails => goesOn (.inr ⟨cause, fails⟩)
    simp [course.failed, succeeds]
  passed final := by simp [course.passed, goesOn, StageCall.latest_cons]

end Course

/-- A chain takes its course, whatever decorators do and whatever can be read. -/
theorem runAll_takes_course (publication : String) (parcel : Parcel) (stages : List Stage) :
    (runAll publication parcel stages).Hears Exchange.of? fun result exchanges =>
      ∃ calls heard, List.Forall₂ StageCall.Heard calls heard ∧ exchanges = heard.flatten ∧
        Course parcel stages calls result := by
  induction stages generalizing parcel with
  | nil => exact ⟨[], [], .nil, rfl, .nil parcel⟩
  | cons stage stages ih =>
      apply hears_bind (hears_run publication parcel stage)
      rintro result first ⟨treatment, heard, rfl⟩
      have ended (ends : StageCall.Ends ⟨stage, parcel, treatment⟩) :=
        Course.ended ends stages
      cases outcome : StageCall.outcome ⟨stage, parcel, treatment⟩ with
      | error error =>
          obtain ⟨cause, fails, _⟩ := (StageCall.outcome_failed _ _).1 outcome
          exact ⟨_, [first], .cons heard .nil, by simp, outcome ▸ ended (.inr ⟨cause, fails⟩)⟩
      | ok next? =>
          cases next? with
          | none =>
              have discards := (StageCall.outcome_discarded _).1 outcome
              exact ⟨_, [first], .cons heard .nil, by simp, outcome ▸ ended (.inl discards)⟩
          | some next =>
              obtain ⟨goesOn, rfl⟩ := (StageCall.outcome_passed _ _).1 outcome
              apply (ih _).imp
              rintro result _ ⟨calls, later, heardLater, rfl, course⟩
              exact ⟨_, first :: later, .cons heard heardLater, by simp, .cons goesOn course⟩

end Stage

end RadarRelay
