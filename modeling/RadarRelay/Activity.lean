import RadarRelay.Surroundings

/-!
# Activities

What a node does is an activity: it changes the state that all activities share,
one atomic action after the other, and asks its surroundings for things in
between. An activity is data, so it can be run alone, interleaved with others,
or left waiting for an answer. An activity over a part of the state is an
activity over the whole.
-/

namespace RadarRelay

/-- An activity over a shared state that ends with a result. -/
inductive Activity (State Result : Type) where
  | done (result : Result)
  /-- Change the state at once, and go on as the state before the change says. -/
  | act (update : State → State) (next : State → Activity State Result)
  /-- Ask for something, and go on as the answer says. -/
  | ask (request : Request) (next : request.Answer → Activity State Result)

namespace Activity

variable {State Part First Second Result : Type}

/-- Goes on with another activity after the first has ended. -/
def andThen (first : Activity State First) (next : First → Activity State Second) :
    Activity State Second :=
  match first with
  | done result => next result
  | act update rest => act update fun state => (rest state).andThen next
  | ask request rest => ask request fun answer => (rest answer).andThen next

instance : Monad (Activity State) where
  pure := done
  bind := andThen

@[simp] theorem pure_eq_done (result : Result) :
    (pure result : Activity State Result) = done result := rfl

@[simp] theorem bind_eq_andThen (first : Activity State First)
    (next : First → Activity State Second) : (first >>= next) = first.andThen next := rfl

theorem andThen_done (activity : Activity State Result) : activity.andThen done = activity := by
  induction activity with
  | done => rfl
  | act update rest ih => simp [andThen, ih]
  | ask request rest ih => simp [andThen, ih]

theorem andThen_andThen (activity : Activity State First) (next : First → Activity State Second)
    (last : Second → Activity State Result) :
    (activity.andThen next).andThen last =
      activity.andThen fun result => (next result).andThen last := by
  induction activity with
  | done => rfl
  | act update rest ih => simp [andThen, ih]
  | ask request rest ih => simp [andThen, ih]

instance : LawfulMonad (Activity State) :=
  LawfulMonad.mk' (Activity State) andThen_done (fun _ _ => rfl) andThen_andThen

/-- Looks at the state. -/
def look : Activity State State :=
  act id done

/-- Changes the state at once and gives a result. -/
def atomically (action : State → Result × State) : Activity State Result :=
  act (fun state => (action state).2) fun state => done (action state).1

/-- Changes the state at once. -/
def change (update : State → State) : Activity State Unit :=
  act update fun _ => done ()

/-- Asks for something. -/
def request (wanted : Request) : Activity State wanted.Answer :=
  ask wanted done

/-- Reports an event. -/
def note (name component : String) (fields : List (String × String)) : Activity State Unit :=
  request (.note ⟨name, component, fields⟩)

/-- An activity over a part of a larger state. -/
def within (get : State → Part) (put : State → Part → State) :
    Activity Part Result → Activity State Result
  | done result => done result
  | act update next =>
      act (fun state => put state (update (get state))) fun state =>
        (next (get state)).within get put
  | ask wanted next => ask wanted fun answer => (next answer).within get put

theorem within_bind (get : State → Part) (put : State → Part → State)
    (first : Activity Part First) (next : First → Activity Part Second) :
    (first >>= next).within get put =
      first.within get put >>= fun result => (next result).within get put := by
  show (first.andThen next).within get put =
    (first.within get put).andThen fun result => (next result).within get put
  induction first with
  | done result => rfl
  | act update rest ih => exact congrArg (act _) (funext fun state => ih (get state))
  | ask wanted rest ih => exact congrArg (ask wanted) (funext ih)

/-- Runs an activity to its end; no request waits. -/
def run {Memory : Type} (around : Surroundings Memory) :
    Activity State Result → State → Memory → Result × State × Memory
  | done result, state, memory => (result, state, memory)
  | act update next, state, memory => (next state).run around (update state) memory
  | ask wanted next, state, memory =>
      let (answer, memory) := around.answer wanted memory
      (next answer).run around state memory

theorem run_andThen {Memory : Type} (around : Surroundings Memory)
    (first : Activity State First) (next : First → Activity State Second)
    (state : State) (memory : Memory) :
    (first.andThen next).run around state memory =
      let (result, state, memory) := first.run around state memory
      (next result).run around state memory := by
  induction first generalizing state memory with
  | done => rfl
  | act update rest ih => exact ih ..
  | ask wanted rest ih => exact ih ..

/-- Runs an activity until it ends or has to wait; gives what is left of it. -/
def advance {Memory : Type} (around : Surroundings Memory) :
    Activity State Result → State → Memory → Activity State Result × State × Memory
  | done result, state, memory => (done result, state, memory)
  | act update next, state, memory => (next state).advance around (update state) memory
  | ask wanted next, state, memory =>
      if around.waits wanted memory then (ask wanted next, state, memory)
      else
        let (answer, memory) := around.answer wanted memory
        (next answer).advance around state memory

/-- Goes through a list and stops at the first error. -/
def attempt (action : First → Activity State (Except Error Second)) :
    List First → Activity State (Except Error (List Second))
  | [] => done (.ok [])
  | item :: items => do
      match ← action item with
      | .error error => return .error error
      | .ok result =>
          match ← attempt action items with
          | .error error => return .error error
          | .ok results => return .ok (result :: results)

/-- Goes through a list. -/
def each (action : First → Activity State Unit) : List First → Activity State Unit
  | [] => done ()
  | item :: items => do
      action item
      each action items

end Activity

end RadarRelay
