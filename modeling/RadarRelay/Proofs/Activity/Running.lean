import RadarRelay.Proofs.Activity.Alike
import RadarRelay.Proofs.Activity.Keeping

/-!
# What runs ask for, and what they ensure

An activity that runs alone in mindful surroundings leaves a list of all that it has
asked for. What was asked earlier makes no difference to it, and what an activity
never asks for is never on the list. An activity asks for something, hears
something, ensures something, or leaves something in its record, if every run does
so, whatever is answered.
-/

namespace RadarRelay

variable {Memory State Part Seen Heard First Second Result : Type}

namespace Surroundings

variable (around : Surroundings Memory)

/-- Mindful surroundings are deaf. -/
@[simp] theorem deaf_mindful : around.mindful.deaf = around.mindful := by
  have answers : around.mindful.deaf.answer = around.mindful.answer := by
    funext request memory
    cases request <;> rfl
  exact congrArg (Surroundings.mk · around.mindful.waits) answers

/-- What is answered does not depend on what was asked before. -/
theorem answer_mindful (request : Request) (memory : Memory) (asked : List Request) :
    around.mindful.answer request (memory, asked) =
      ((around.mindful.answer request (memory, [])).1,
        ((around.mindful.answer request (memory, [])).2.1,
          asked ++ (around.mindful.answer request (memory, [])).2.2)) := by
  cases request with
  | note => simp [mindful]
  | _ => rfl

/-- Nothing else is taken down than what is asked. -/
theorem asked_mindful (request : Request) (memory : Memory × List Request) :
    (around.mindful.answer request memory).2.2 = memory.2 ∨
      (around.mindful.answer request memory).2.2 = memory.2 ++ [request] := by
  cases request with
  | note => exact Or.inl rfl
  | _ => exact Or.inr rfl

end Surroundings

namespace Activity

variable (around : Surroundings Memory)

/-- What was asked before makes no difference to a run. -/
theorem run_mindful (activity : Activity State Result) (state : State) (memory : Memory)
    (asked : List Request) :
    activity.run around.mindful state (memory, asked) =
      ((activity.run around.mindful state (memory, [])).1,
        (activity.run around.mindful state (memory, [])).2.1,
        ((activity.run around.mindful state (memory, [])).2.2.1,
          asked ++ (activity.run around.mindful state (memory, [])).2.2.2)) := by
  induction activity generalizing state memory asked with
  | done result => simp [run]
  | act update next ih => exact ih ..
  | ask request next ih =>
      rw [run, run, around.answer_mindful request memory asked]
      rcases around.mindful.answer request (memory, []) with ⟨answer, later, listed⟩
      dsimp only
      rw [ih answer state later (asked ++ listed), ih answer state later listed,
        List.append_assoc]

/-- What an activity never asks for is not asked for by a run of it. -/
theorem Unseen.run_asked {seen : Request → Option Seen} {activity : Activity State Result}
    (unseen : activity.Unseen seen) (state : State) (memory : Memory × List Request) :
    (activity.run around.mindful state memory).2.2.2.filterMap seen =
      memory.2.filterMap seen := by
  induction activity generalizing state memory with
  | done result => rfl
  | act update next ih => exact ih state (unseen state) ..
  | ask request next ih =>
      rw [run]
      refine (ih _ (unseen.2 _) state _).trans ?_
      rcases around.asked_mindful request memory with same | listed
      · rw [same]
      · simp [listed, unseen.1]

/-! ## Hearing -/

/-- Every run ends as said of its result and of what is heard, which are requests with their answers
in their order. -/
def Hears (heard : (request : Request) → request.Answer → Option Heard)
    (wanted : Result → List Heard → Prop) : Activity State Result → Prop
  | done result => wanted result []
  | act _ next => ∀ state, (next state).Hears heard wanted
  | ask request next =>
      ∀ answer, (next answer).Hears heard fun result later =>
        wanted result ((heard request answer).toList ++ later)

variable {heard : (request : Request) → request.Answer → Option Heard}

theorem Hears.imp {first second : Result → List Heard → Prop} {activity : Activity State Result}
    (hears : activity.Hears heard first)
    (implies : ∀ result exchanges, first result exchanges → second result exchanges) :
    activity.Hears heard second := by
  induction activity generalizing first second with
  | done result => exact implies result [] hears
  | act update next ih => exact fun state => ih state (hears state) implies
  | ask request next ih =>
      exact fun answer => ih answer (hears answer) fun result later => implies result _

theorem hears_bind {middle : First → List Heard → Prop} {wanted : Second → List Heard → Prop}
    {first : Activity State First} {next : First → Activity State Second}
    (hears : first.Hears heard middle)
    (hearsNext : ∀ result earlier, middle result earlier →
      (next result).Hears heard fun last later => wanted last (earlier ++ later)) :
    (first >>= next).Hears heard wanted := by
  show (first.andThen next).Hears heard wanted
  induction first generalizing middle wanted with
  | done result => exact hearsNext result [] hears
  | act update rest ih => exact fun state => ih state (hears state) hearsNext
  | ask request rest ih =>
      intro answer
      apply ih answer (hears answer)
      intro result later met
      apply (hearsNext result _ met).imp
      intro last least
      rw [List.append_assoc]
      exact id

/-- What is heard of an activity does not depend on where it is done. -/
theorem Hears.within {get : State → Part} {put : State → Part → State}
    {wanted : Result → List Heard → Prop} {activity : Activity Part Result}
    (hears : activity.Hears heard wanted) : (activity.within get put).Hears heard wanted := by
  induction activity generalizing wanted with
  | done result => exact hears
  | act update next ih => exact fun state => ih (get state) (hears (get state))
  | ask request next ih => exact fun answer => ih answer (hears answer)

/-! ## Asking -/

/-- Every run ends as said of its result and of what is seen of its requests, in their order. -/
def Asks (seen : Request → Option Seen) (wanted : Result → List Seen → Prop) :
    Activity State Result → Prop
  | done result => wanted result []
  | act _ next => ∀ state, (next state).Asks seen wanted
  | ask request next =>
      ∀ answer, (next answer).Asks seen fun result later =>
        wanted result ((seen request).toList ++ later)

variable {seen : Request → Option Seen}

/-- To ask is to be heard, whatever the answers. -/
theorem asks_iff_hears {wanted : Result → List Seen → Prop} {activity : Activity State Result} :
    activity.Asks seen wanted ↔ activity.Hears (fun request _ => seen request) wanted := by
  induction activity generalizing wanted with
  | done result => exact Iff.rfl
  | act update next ih => exact forall_congr' fun state => ih state
  | ask request next ih => exact forall_congr' fun answer => ih answer

theorem Asks.imp {first second : Result → List Seen → Prop} {activity : Activity State Result}
    (asks : activity.Asks seen first)
    (implies : ∀ result requests, first result requests → second result requests) :
    activity.Asks seen second :=
  asks_iff_hears.2 ((asks_iff_hears.1 asks).imp implies)

theorem asks_bind {middle : First → List Seen → Prop} {wanted : Second → List Seen → Prop}
    {first : Activity State First} {next : First → Activity State Second}
    (asks : first.Asks seen middle)
    (asksNext : ∀ result earlier, middle result earlier →
      (next result).Asks seen fun last later => wanted last (earlier ++ later)) :
    (first >>= next).Asks seen wanted :=
  asks_iff_hears.2 <| hears_bind (asks_iff_hears.1 asks) fun result earlier met =>
    asks_iff_hears.1 (asksNext result earlier met)

theorem Asks.within {get : State → Part} {put : State → Part → State}
    {wanted : Result → List Seen → Prop} {activity : Activity Part Result}
    (asks : activity.Asks seen wanted) : (activity.within get put).Asks seen wanted :=
  asks_iff_hears.2 (asks_iff_hears.1 asks).within

/-- Of an activity without requests that are seen, nothing is seen. -/
theorem Unseen.asks {activity : Activity State Result} (unseen : activity.Unseen seen) :
    activity.Asks seen fun _ requests => requests = [] := by
  induction activity with
  | done result => rfl
  | act update next ih => exact fun state => ih state (unseen state)
  | ask request next ih =>
      intro answer
      rw [unseen.1]
      exact ih answer (unseen.2 answer)

/-- What is done without requests that are seen changes nothing of what is seen afterwards. -/
theorem Unseen.asks_bind {wanted : Second → List Seen → Prop} {first : Activity State First}
    {next : First → Activity State Second} (unseen : first.Unseen seen)
    (asksNext : ∀ result, (next result).Asks seen wanted) : (first >>= next).Asks seen wanted := by
  apply Activity.asks_bind unseen.asks
  rintro result earlier rfl
  exact asksNext result

/-- What is said of every run holds of a run that is alone, and of what it has asked for. -/
theorem Asks.run {wanted : Result → List Seen → Prop} {activity : Activity State Result}
    (asks : activity.Asks seen wanted) (unseen : ∀ event, seen (.note event) = none)
    (state : State) (memory : Memory × List Request) :
    ∃ requests, wanted (activity.run around.mindful state memory).1 requests ∧
      (activity.run around.mindful state memory).2.2.2.filterMap seen =
        memory.2.filterMap seen ++ requests := by
  induction activity generalizing wanted state memory with
  | done result => exact ⟨[], asks, (List.append_nil _).symm⟩
  | act update next ih => exact ih state (asks state) _ _
  | ask request next ih =>
      obtain ⟨later, met, listed⟩ := ih _ (asks _) state (around.mindful.answer request memory).2
      refine ⟨(seen request).toList ++ later, met, listed.trans ?_⟩
      cases request with
      | note event => simp [unseen event, Surroundings.mindful]
      | _ =>
          simp only [Surroundings.mindful, List.filterMap_append, List.filterMap_cons,
            List.filterMap_nil, List.append_assoc]
          cases seen _ <;> rfl

/-! ## Ensuring -/

/-- Every run from the state ends as said, whatever is answered. -/
def Ensures (wanted : Result → State → Prop) : Activity State Result → State → Prop
  | done result, state => wanted result state
  | act update next, state => (next state).Ensures wanted (update state)
  | ask _ next, state => ∀ answer, (next answer).Ensures wanted state

theorem ensures_bind {middle : First → State → Prop} {wanted : Second → State → Prop}
    {first : Activity State First} {next : First → Activity State Second} {state : State}
    (ensures : first.Ensures middle state)
    (ensuresNext : ∀ result later, middle result later → (next result).Ensures wanted later) :
    (first >>= next).Ensures wanted state := by
  show (first.andThen next).Ensures wanted state
  induction first generalizing state with
  | done result => exact ensuresNext result state ensures
  | act update rest ih => exact ih state ensures
  | ask request rest ih => exact fun answer => ih answer (ensures answer)

/-- What is ensured of a part of the state is ensured of the whole. -/
theorem ensures_within {get : State → Part} {put : State → Part → State}
    {wanted : Result → Part → Prop} {activity : Activity Part Result}
    (get_put : ∀ state part, get (put state part) = part) {state : State}
    (ensures : activity.Ensures wanted (get state)) :
    (activity.within get put).Ensures (fun result later => wanted result (get later)) state := by
  induction activity generalizing state with
  | done result => exact ensures
  | act update next ih =>
      apply ih
      rw [get_put]
      exact ensures
  | ask request next ih => exact fun answer => ih answer (ensures answer)

/-- An activity that leaves a view of the state alone ensures what is said of that view. -/
theorem Keeps.ensures {View : Type} {view : State → View} {activity : Activity State Result}
    (kept : activity.Keeps view) {wanted : View → Prop} {state : State}
    (begin : wanted (view state)) :
    activity.Ensures (fun _ later => wanted (view later)) state := by
  induction activity generalizing state with
  | done result => exact begin
  | act update next ih =>
      apply ih state (kept state).2
      rw [(kept state).1]
      exact begin
  | ask request next ih => exact fun answer => ih answer (kept answer) begin

/-- A run that is alone ends as every run does. -/
theorem Ensures.run {wanted : Result → State → Prop} {activity : Activity State Result}
    {state : State} (ensures : activity.Ensures wanted state) (memory : Memory) :
    wanted (activity.run around state memory).1 (activity.run around state memory).2.1 := by
  induction activity generalizing state memory with
  | done result => exact ensures
  | act update next ih => exact ih state ensures memory
  | ask request next ih => exact ih _ (ensures _) _

end Activity

/-! ## Recording -/

namespace Recorded

variable {Entry Item View : Type} {left : Entry → Prop}

/-- An activity that is alone with a state leaves entries of some kind only. -/
def Leaves (left : Entry → Prop) : Recorded State Entry Result → State → Prop
  | done _, _ => True
  | act update entry next, state =>
      (∀ found, entry state = some found → left found) ∧ (next state).Leaves left (update state)
  | ask _ entry next, state =>
      ∀ answer, (∀ found, entry answer = some found → left found) ∧
        (next answer).Leaves left state

theorem leaves_bind {first : Recorded State Entry First}
    {next : First → Recorded State Entry Second} {state : State} (leaves : first.Leaves left state)
    (leavesNext : ∀ result later, (next result).Leaves left later) :
    (first >>= next).Leaves left state := by
  show (first.andThen next).Leaves left state
  induction first generalizing state with
  | done result => exact leavesNext result state
  | act update entry rest ih => exact ⟨leaves.1, ih state leaves.2⟩
  | ask request entry rest ih =>
      exact fun answer => ⟨(leaves answer).1, ih answer (leaves answer).2⟩

/-- What is done without a record is followed by what has the same view of the state. -/
theorem leaves_silent_bind {view : State → View} {first : Activity State First}
    {next : First → Recorded State Entry Second} {state : State} (kept : first.Keeps view)
    (leavesNext : ∀ result later, view later = view state → (next result).Leaves left later) :
    (silent first >>= next).Leaves left state := by
  show ((silent first).andThen next).Leaves left state
  induction first generalizing state with
  | done result => exact leavesNext result state rfl
  | act update rest ih =>
      refine ⟨nofun, ih state (kept state).2 fun result later same => ?_⟩
      exact leavesNext result later (same.trans (kept state).1)
  | ask request rest ih => exact fun answer => ⟨nofun, ih answer (kept answer) leavesNext⟩

theorem leaves_look_bind {next : State → Recorded State Entry Result} {state : State}
    (leaves : (next state).Leaves left state) :
    (silent Activity.look >>= next).Leaves left state :=
  ⟨nofun, leaves⟩

theorem leaves_silent (activity : Activity State Result) (state : State) :
    (silent activity).Leaves left state := by
  induction activity generalizing state with
  | done result => exact trivial
  | act update next ih => exact ⟨nofun, ih state _⟩
  | ask request next ih => exact fun answer => ⟨nofun, ih answer state⟩

theorem leaves_each {action : Item → Recorded State Entry Unit} {items : List Item}
    (leaves : ∀ item ∈ items, ∀ state, (action item).Leaves left state) (state : State) :
    (each action items).Leaves left state := by
  induction items generalizing state with
  | nil => exact trivial
  | cons item items ih =>
      obtain ⟨leavesFirst, leavesRest⟩ := List.forall_mem_cons.1 leaves
      exact leaves_bind (leavesFirst state) fun _ => ih leavesRest

/-- What is said of the entries holds of each that a run leaves. -/
theorem Leaves.run {recorded : Recorded State Entry Result} {state : State}
    (leaves : recorded.Leaves left state) (around : Surroundings Memory) (memory : Memory)
    {found : Entry} (logged : found ∈ (recorded.run around state memory).1) : left found := by
  induction recorded generalizing state memory with
  | done result => simp [Recorded.run] at logged
  | act update entry next ih =>
      rcases List.mem_append.1 logged with now | later
      · exact leaves.1 found (by simpa using now)
      · exact ih state leaves.2 memory later
  | ask request entry next ih =>
      rcases List.mem_append.1 logged with now | later
      · exact (leaves _).1 found (by simpa using now)
      · exact ih _ (leaves _).2 _ later

end Recorded

end RadarRelay
