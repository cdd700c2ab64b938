import RadarRelay.Filter.Match
import RadarRelay.Statistics.Increment

/-!
# What activities leave alone

Most of what is done by an activity does not concern most of the state. An
activity keeps a view of the state when none of its steps changes what is seen;
an activity over one part keeps every other part, and asking changes nothing.
-/

namespace RadarRelay

variable {State Part View First Second Item Result : Type}

namespace Activity

/-- No step changes what is seen of the state. -/
def Keeps (view : State → View) : Activity State Result → Prop
  | done _ => True
  | act update next => ∀ state, view (update state) = view state ∧ (next state).Keeps view
  | ask _ next => ∀ answer, (next answer).Keeps view

/-- Every result that the activity can end with is as said. -/
def Gives (wanted : Result → Prop) : Activity State Result → Prop
  | done result => wanted result
  | act _ next => ∀ state, (next state).Gives wanted
  | ask _ next => ∀ answer, (next answer).Gives wanted

theorem gives_bind {middle : First → Prop} {wanted : Second → Prop}
    {first : Activity State First} {next : First → Activity State Second}
    (gives : first.Gives middle)
    (givesNext : ∀ result, middle result → (next result).Gives wanted) :
    (first >>= next).Gives wanted := by
  show (first.andThen next).Gives wanted
  induction first with
  | done result => exact givesNext result gives
  | act update rest ih =>
      intro state
      exact ih state (gives state)
  | ask request rest ih =>
      intro answer
      exact ih answer (gives answer)

/-- Nothing is known of a result unless something is said. -/
theorem gives_any (activity : Activity State Result) : activity.Gives fun _ => True := by
  induction activity with
  | done result => exact trivial
  | act update next ih => exact ih
  | ask request next ih => exact ih

variable {view : State → View}

theorem keeps_bind {first : Activity State First} {next : First → Activity State Second}
    (kept : first.Keeps view) (keptNext : ∀ result, (next result).Keeps view) :
    (first >>= next).Keeps view := by
  show (first.andThen next).Keeps view
  induction first with
  | done result => exact keptNext result
  | act update rest ih =>
      intro state
      exact ⟨(kept state).1, ih state (kept state).2⟩
  | ask request rest ih =>
      intro answer
      exact ih answer (kept answer)

theorem keeps_request (wanted : Request) :
    (request wanted : Activity State wanted.Answer).Keeps view := by
  intro answer
  exact trivial

theorem keeps_look : (look : Activity State State).Keeps view := by
  intro state
  exact ⟨rfl, trivial⟩

theorem keeps_each {action : Item → Activity State Unit} (kept : ∀ item, (action item).Keeps view)
    (items : List Item) : (each action items).Keeps view := by
  induction items with
  | nil => exact trivial
  | cons item items ih => exact keeps_bind (kept item) fun _ => ih

theorem keeps_attempt {action : First → Activity State (Except Error Second)}
    (kept : ∀ item, (action item).Keeps view) (items : List First) :
    (attempt action items).Keeps view := by
  induction items with
  | nil => exact trivial
  | cons item items ih =>
      apply keeps_bind (kept item)
      intro first
      cases first with
      | error error => exact trivial
      | ok result =>
          apply keeps_bind ih
          intro rest
          cases rest with
          | error | ok => exact trivial

/-- An activity that runs alone leaves what it keeps as it was. -/
theorem Keeps.run {Memory : Type} {activity : Activity State Result} (kept : activity.Keeps view)
    (around : Surroundings Memory) (state : State) (memory : Memory) :
    view (activity.run around state memory).2.1 = view state := by
  induction activity generalizing state memory with
  | done result => rfl
  | act update next ih =>
      rw [Activity.run, ih state (kept state).2, (kept state).1]
  | ask request next ih => exact ih _ (kept _) state _

/-- An activity that runs alone ends as every run of it does. -/
theorem Gives.run {Memory : Type} {wanted : Result → Prop} {activity : Activity State Result}
    (gives : activity.Gives wanted) (around : Surroundings Memory) (state : State)
    (memory : Memory) : wanted (activity.run around state memory).1 := by
  induction activity generalizing state memory with
  | done result => exact gives
  | act update next ih => exact ih state (gives state) _ _
  | ask request next ih => exact ih _ (gives _) state _

/-- An activity that keeps what is seen of a part keeps what depends on the part by that only. -/
theorem Keeps.within {Partial : Type} {get : State → Part} {put : State → Part → State}
    {partView : Part → Partial} {activity : Activity Part Result} (kept : activity.Keeps partView)
    (depends : ∀ state part, partView part = partView (get state) →
      view (put state part) = view state) :
    (activity.within get put).Keeps view := by
  induction activity with
  | done result => exact trivial
  | act update next ih =>
      intro state
      exact ⟨depends state _ (kept (get state)).1, ih (get state) (kept (get state)).2⟩
  | ask request next ih =>
      intro answer
      exact ih answer (kept answer)

/-- Nothing is seen where there is nothing to see. -/
theorem keeps_nothing (activity : Activity State Result) : activity.Keeps fun _ => () := by
  induction activity with
  | done result => exact trivial
  | act update next ih => exact fun state => ⟨rfl, ih state⟩
  | ask request next ih => exact ih

/-- An activity over a part of the state keeps what does not depend on that part. -/
theorem keeps_within {get : State → Part} {put : State → Part → State}
    (apart : ∀ state part, view (put state part) = view state) (activity : Activity Part Result) :
    (activity.within get put).Keeps view :=
  activity.keeps_nothing.within fun state part _ => apart state part

end Activity

open Activity

theorem Hook.keeps_incrementAll {view : State → View}
    (component origin : String) (metadata : Metadata) (hooks : List Hook) :
    (Hook.incrementAll component origin metadata hooks).Keeps view := by
  refine keeps_each (fun hook => ?_) hooks
  apply keeps_bind (keeps_request _)
  intro answer
  cases answer with
  | ok => exact trivial
  | error error => exact keeps_request _

theorem Expression.keeps_check {view : State → View}
    (expression : Expression) (metadata : Metadata) :
    (expression.check metadata).Keeps view := by
  rw [check]
  split
  · exact keeps_bind (keeps_request _) fun _ => trivial
  · exact trivial

end RadarRelay
