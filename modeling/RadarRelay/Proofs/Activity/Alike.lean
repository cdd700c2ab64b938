import RadarRelay.Proofs.Activity.Alone
import RadarRelay.Proofs.Activity.Watched

/-!
# Activities that do alike

Two activities do alike when, step by step, they treat states that are the same
for their purposes in the same way, ask for the same things and record the same.
Answers to requests that are seen may differ between the two, and what is reported
may too. Activities that do alike come to alike ends, in surroundings that differ
in those answers only.
-/

namespace RadarRelay

variable {State Part Entry Other Seen Memory Remote First Second Later Last Item Result : Type}

/-! ## Surroundings -/

namespace Surroundings

/-- The same surroundings with nobody who takes note of events. The memory holds all other
requests, oldest first. -/
def mindful (around : Surroundings Memory) : Surroundings (Memory × List Request) where
  answer request memory :=
    match request with
    | .note _ => ((), memory)
    | other =>
        ((around.answer other memory.1).1,
          (around.answer other memory.1).2, memory.2 ++ [other])
  waits request memory := around.waits request memory.1

/-- Two surroundings that may answer differently what is seen, and that nobody can tell apart by
anything else for as long as their memories are linked. -/
structure Agree (seen : Request → Option Seen) (link : Memory → Remote → Prop)
    (one : Surroundings Memory) (two : Surroundings Remote) : Prop where
  answer : ∀ request memory remote, link memory remote → seen request = none →
    (one.answer request memory).1 = (two.answer request remote).1
  memory : ∀ request memory remote, link memory remote →
    link (one.answer request memory).2 (two.answer request remote).2
  deafOne : ∀ event memory remote, link memory remote →
    link (one.answer (.note event) memory).2 remote
  deafTwo : ∀ event memory remote, link memory remote →
    link memory (two.answer (.note event) remote).2

end Surroundings

/-! ## Running alone -/

namespace Recorded

/-- Runs a recorded activity to its end; gives the entries that it leaves as well. -/
def run (around : Surroundings Memory) :
    Recorded State Entry Result → State → Memory → List Entry × Result × State × Memory
  | done result, state, memory => ([], result, state, memory)
  | act update entry next, state, memory =>
      let (log, ended) := (next state).run around (update state) memory
      ((entry state).toList ++ log, ended)
  | ask request entry next, state, memory =>
      let (answer, memory) := around.answer request memory
      let (log, ended) := (next answer).run around state memory
      ((entry answer).toList ++ log, ended)

/-- What is recorded changes nothing. -/
theorem snd_run (around : Surroundings Memory) (recorded : Recorded State Entry Result)
    (state : State) (memory : Memory) :
    (recorded.run around state memory).2 = recorded.plain.run around state memory := by
  induction recorded generalizing state memory with
  | done result => rfl
  | act update entry next ih => exact ih ..
  | ask request entry next ih => exact ih ..

/-- A record told in other words is told of the same run. -/
theorem run_retell (around : Surroundings Memory) (tell : Entry → Option Other)
    (recorded : Recorded State Entry Result) (state : State) (memory : Memory) :
    (recorded.retell tell).run around state memory =
      ((recorded.run around state memory).1.filterMap tell,
        (recorded.run around state memory).2) := by
  have toldFirst (entry : Option Entry) (log : List Entry) :
      (entry.bind tell).toList ++ log.filterMap tell = (entry.toList ++ log).filterMap tell := by
    cases entry with
    | none => rfl
    | some entry => cases told : tell entry with
      | none | some => simp [told]
  induction recorded generalizing state memory with
  | done result => rfl
  | act update entry next ih =>
      simp only [retell, run, ih, toldFirst]
  | ask request entry next ih =>
      simp only [retell, run, ih, toldFirst]

@[simp] theorem silent_bind (first : Activity State First)
    (next : First → Activity State Second) :
    (silent (first >>= next) : Recorded State Entry Second) =
      silent first >>= fun result => silent (next result) := by
  show silent (first.andThen next) = (silent first).andThen fun result => silent (next result)
  induction first with
  | done result => rfl
  | act update rest ih => exact congrArg (act update _) (funext ih)
  | ask request rest ih => exact congrArg (ask request _) (funext ih)

@[simp] theorem silent_within (get : State → Part) (put : State → Part → State)
    (activity : Activity Part Result) :
    (silent (activity.within get put) : Recorded State Entry Result) =
      (silent activity).within get put := by
  induction activity with
  | done result => rfl
  | act update next ih => exact congrArg (act _ _) (funext fun state => ih (get state))
  | ask request next ih => exact congrArg (ask request _) (funext ih)

/-- Telling a record in other words has nothing to do with where it is done. -/
@[simp] theorem retell_within (tell : Entry → Option Other) (get : State → Part)
    (put : State → Part → State) (recorded : Recorded Part Entry Result) :
    (recorded.within get put).retell tell = (recorded.retell tell).within get put := by
  induction recorded with
  | done result => rfl
  | act update entry next ih => exact congrArg (act _ _) (funext fun state => ih (get state))
  | ask request entry next ih => exact congrArg (ask request _) (funext ih)

@[simp] theorem retell_each (tell : Entry → Option Other)
    (action : Item → Recorded State Entry Unit) (items : List Item) :
    (each action items).retell tell = each (fun item => (action item).retell tell) items := by
  induction items with
  | nil => rfl
  | cons item items ih => rw [each, retell_bind, ih, each]

end Recorded

/-! ## Doing alike -/

/-- Two activities that do alike. `same` is what their states have in common, and `like` what
their results have. -/
inductive Alike (seen : Request → Option Seen) (same : State → State → Prop)
    (like : First → Second → Prop) :
    Recorded State Entry First → Recorded State Entry Second → Prop where
  | done {one : First} {two : Second} : like one two →
      Alike seen same like (.done one) (.done two)
  | act {one two : State → State} {oneEntry twoEntry : State → Option Entry}
      {oneNext : State → Recorded State Entry First}
      {twoNext : State → Recorded State Entry Second} :
      (∀ state other, same state other → same (one state) (two other)) →
      (∀ state other, same state other → oneEntry state = twoEntry other) →
      (∀ state other, same state other → Alike seen same like (oneNext state) (twoNext other)) →
      Alike seen same like (.act one oneEntry oneNext) (.act two twoEntry twoNext)
  | ask {request : Request} {oneEntry twoEntry : request.Answer → Option Entry}
      {oneNext : request.Answer → Recorded State Entry First}
      {twoNext : request.Answer → Recorded State Entry Second} :
      seen request = none →
      (∀ answer, oneEntry answer = twoEntry answer) →
      (∀ answer, Alike seen same like (oneNext answer) (twoNext answer)) →
      Alike seen same like (.ask request oneEntry oneNext) (.ask request twoEntry twoNext)
  /-- What is seen may be answered differently. -/
  | seen {request : Request} {oneNext : request.Answer → Recorded State Entry First}
      {twoNext : request.Answer → Recorded State Entry Second} :
      (∀ answer other, Alike seen same like (oneNext answer) (twoNext other)) →
      Alike seen same like (.ask request (fun _ => none) oneNext)
        (.ask request (fun _ => none) twoNext)
  | noteOne {event : Event} {oneNext : Unit → Recorded State Entry First}
      {two : Recorded State Entry Second} :
      Alike seen same like (oneNext ()) two →
      Alike seen same like (.ask (.note event) (fun _ => none) oneNext) two
  | noteTwo {event : Event} {one : Recorded State Entry First}
      {twoNext : Unit → Recorded State Entry Second} :
      Alike seen same like one (twoNext ()) →
      Alike seen same like one (.ask (.note event) (fun _ => none) twoNext)

namespace Alike

variable {seen : Request → Option Seen} {same : State → State → Prop}
  {like : First → Second → Prop} {lastly : Later → Last → Prop}

theorem bind {one : Recorded State Entry First} {two : Recorded State Entry Second}
    {oneNext : First → Recorded State Entry Later} {twoNext : Second → Recorded State Entry Last}
    (alike : Alike seen same like one two)
    (alikeNext : ∀ first second, like first second →
      Alike seen same lastly (oneNext first) (twoNext second)) :
    Alike seen same lastly (one >>= oneNext) (two >>= twoNext) := by
  show Alike seen same lastly (one.andThen oneNext) (two.andThen twoNext)
  induction alike with
  | done alike => exact alikeNext _ _ alike
  | act kept entries _ ih => exact .act kept entries ih
  | ask unseen entries _ ih => exact .ask unseen entries ih
  | seen _ ih => exact .seen ih
  | noteOne _ ih => exact .noteOne ih
  | noteTwo _ ih => exact .noteTwo ih

/-- An activity that asks for nothing that is seen does as it does. -/
theorem refl {recorded : Recorded State Entry Result} (unseen : recorded.plain.Unseen seen) :
    Alike seen Eq Eq recorded recorded := by
  induction recorded with
  | done result => exact .done rfl
  | act update entry next ih =>
      refine .act (fun _ _ => congrArg update) (fun _ _ => congrArg entry) ?_
      rintro state _ rfl
      exact ih state (unseen state)
  | ask request entry next ih =>
      exact .ask unseen.1 (fun _ => rfl) fun answer => ih answer (unseen.2 answer)

theorem each {action : Item → Recorded State Entry Unit}
    (alike : ∀ item, Alike seen same Eq (action item) (action item)) (items : List Item) :
    Alike seen same Eq (.each action items) (.each action items) := by
  induction items with
  | nil => exact .done rfl
  | cons item items ih => exact (alike item).bind fun _ _ _ => ih

/-- What is done alike over a part is done alike over the whole. -/
theorem within {get : State → Part} {put : State → Part → State} {samePart : Part → Part → Prop}
    (sameGet : ∀ state other, same state other → samePart (get state) (get other))
    (samePut : ∀ state other part another, same state other → samePart part another →
      same (put state part) (put other another))
    {one : Recorded Part Entry First} {two : Recorded Part Entry Second}
    (alike : Alike seen samePart like one two) :
    Alike seen same like (one.within get put) (two.within get put) := by
  induction alike with
  | done alike => exact .done alike
  | act kept entries _ ih =>
      exact .act
        (fun state other agree => samePut _ _ _ _ agree (kept _ _ (sameGet state other agree)))
        (fun state other agree => entries _ _ (sameGet state other agree))
        fun state other agree => ih _ _ (sameGet state other agree)
  | ask unseen entries _ ih => exact .ask unseen entries ih
  | seen _ ih => exact .seen ih
  | noteOne _ ih => exact .noteOne ih
  | noteTwo _ ih => exact .noteTwo ih

/-- Activities that do alike come to alike ends. -/
theorem run {link : Memory → Remote → Prop} {around : Surroundings Memory}
    {beyond : Surroundings Remote} (agree : Surroundings.Agree seen link around beyond)
    {one : Recorded State Entry First} {two : Recorded State Entry Second}
    (alike : Alike seen same like one two) {state other : State} (begin : same state other)
    {memory : Memory} {remote : Remote} (linked : link memory remote) :
    (one.run around state memory).1 = (two.run beyond other remote).1 ∧
      like (one.run around state memory).2.1 (two.run beyond other remote).2.1 ∧
      same (one.run around state memory).2.2.1 (two.run beyond other remote).2.2.1 ∧
      link (one.run around state memory).2.2.2 (two.run beyond other remote).2.2.2 := by
  induction alike generalizing state other memory remote with
  | done alike => exact ⟨rfl, alike, begin, linked⟩
  | act kept entries _ ih =>
      obtain ⟨logs, rest⟩ := ih state other begin (kept state other begin) linked
      refine ⟨?_, rest⟩
      simp only [Recorded.run, logs, entries state other begin]
  | @ask request oneEntry twoEntry _ _ unseen entries _ ih =>
      have answered := agree.answer request memory remote linked unseen
      have still := agree.memory request memory remote linked
      obtain ⟨logs, rest⟩ := ih (beyond.answer request remote).1 begin still
      refine ⟨?_, ?_⟩
      · simp only [Recorded.run, answered, entries, logs]
      · simp only [Recorded.run, answered]
        exact rest
  | @seen request _ _ _ ih =>
      simp only [Recorded.run]
      exact ih _ _ begin (agree.memory request memory remote linked)
  | @noteOne event _ _ _ ih =>
      simp only [Recorded.run]
      exact ih begin (agree.deafOne event memory remote linked)
  | @noteTwo event _ _ _ ih =>
      simp only [Recorded.run]
      exact ih begin (agree.deafTwo event memory remote linked)

end Alike

end RadarRelay
