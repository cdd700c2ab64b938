import RadarRelay.Filter.Match
import RadarRelay.Statistics.Increment

/-!
# Activities that run alone

An activity that runs alone is a function of the state and of what surrounds it.
Events are only reported, so nothing that matters depends on who listens: in
deaf surroundings they leave no trace, and what remains are the requests that
collaborators answer.
-/

namespace RadarRelay

variable {Memory State Part First Second Item Result : Type}

namespace Surroundings

/-- The same surroundings with nobody who takes note of events. -/
def deaf (around : Surroundings Memory) : Surroundings Memory where
  answer request memory :=
    match request with
    | .note _ => ((), memory)
    | other => around.answer other memory
  waits := around.waits

end Surroundings

namespace Activity

variable (around : Surroundings Memory) (state : State) (memory : Memory)

/-- What an activity does to the state and to its surroundings, whatever its result. -/
def effect (activity : Activity State Result) (before : State × Memory) : State × Memory :=
  (activity.run around before.1 before.2).2

@[simp] theorem run_done (result : Result) :
    (done result : Activity State Result).run around state memory = (result, state, memory) := rfl

@[simp] theorem run_look : (look : Activity State State).run around state memory =
    (state, state, memory) := rfl

@[simp] theorem run_atomically (action : State → Result × State) :
    (atomically action).run around state memory =
      ((action state).1, (action state).2, memory) := rfl

@[simp] theorem run_request (wanted : Request) :
    (request wanted : Activity State wanted.Answer).run around state memory =
      ((around.answer wanted memory).1, state, (around.answer wanted memory).2) := rfl

/-- The parts of a sequence run one after the other. -/
theorem run_bind (first : Activity State First) (next : First → Activity State Second) :
    (first >>= next).run around state memory =
      (next (first.run around state memory).1).run around (first.run around state memory).2.1
        (first.run around state memory).2.2 := by
  rw [bind_eq_andThen, run_andThen]

/-- What does not look at an earlier result only sees what was done. -/
theorem effect_seq (first : Activity State First) (next : Activity State Second)
    (before : State × Memory) :
    (first >>= fun _ => next).effect around before =
      next.effect around (first.effect around before) := by
  rw [effect, run_bind]
  rfl

/-- Reports leave no trace in deaf surroundings. -/
@[simp] theorem run_note (name component : String) (fields : List (String × String)) :
    (note name component fields : Activity State Unit).run around.deaf state memory =
      ((), state, memory) := rfl

/-- An activity over a part of the state runs on that part. -/
theorem run_within {get : State → Part} {put : State → Part → State}
    (get_put : ∀ state part, get (put state part) = part)
    (put_put : ∀ state part later, put (put state part) later = put state later)
    (put_get : ∀ state, put state (get state) = state)
    (activity : Activity Part Result) :
    (activity.within get put).run around state memory =
      ((activity.run around (get state) memory).1,
        put state (activity.run around (get state) memory).2.1,
        (activity.run around (get state) memory).2.2) := by
  induction activity generalizing state memory with
  | done result => simp [within, put_get]
  | act update next ih => simp only [within, run, ih, get_put, put_put]
  | ask wanted next ih => exact ih (around.answer wanted memory).1 state _

/-- Going through a list has the effects of going through its items. -/
theorem effect_each (action : Item → Activity State Unit) (items : List Item)
    (before : State × Memory) :
    (each action items).effect around before =
      items.foldl (fun situation item => (action item).effect around situation) before := by
  induction items generalizing before with
  | nil => rfl
  | cons item items ih =>
      rw [List.foldl_cons, ← ih, effect, each, run_bind]
      rfl

end Activity

/-- Hooks are told of an event one after the other, whatever they answer. -/
def Hook.tell (around : Surroundings Memory) (origin : String) (metadata : Metadata)
    (hooks : List Hook) (memory : Memory) : Memory :=
  hooks.foldl (fun memory hook => (around.answer (.increment hook origin metadata) memory).2) memory

/-- Counting changes nothing but the hooks. -/
theorem Hook.run_incrementAll (around : Surroundings Memory) (component origin : String)
    (metadata : Metadata) (hooks : List Hook) (state : State) (memory : Memory) :
    (Hook.incrementAll component origin metadata hooks).run around.deaf state memory =
      ((), state, Hook.tell around origin metadata hooks memory) := by
  induction hooks generalizing memory with
  | nil => rfl
  | cons hook hooks ih =>
      rw [Hook.tell, List.foldl_cons, ← Hook.tell, ← ih]
      rw [Hook.incrementAll, Activity.each, Activity.run_bind, ← Hook.incrementAll]
      cases told : (around.answer (.increment hook origin metadata) memory).1 with
      | ok | error =>
          simp only [Hook.increment, Activity.run_bind, Activity.run_request,
            Surroundings.deaf, told]
          rfl

/-- Whether a file satisfies an expression is a question of the file alone. -/
theorem Expression.run_check (around : Surroundings Memory) (expression : Expression)
    (metadata : Metadata) (state : State) (memory : Memory) :
    (expression.check metadata).run around.deaf state memory =
      (expression.accepts metadata, state, memory) := by
  cases evaluated : expression.evaluate metadata with
  | ok value => simp [check, fault?, evaluated]
  | error fault =>
      simp only [check, fault?, accepts, evaluated, Activity.run_bind, Activity.run_note]
      rfl

end RadarRelay
