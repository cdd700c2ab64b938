import RadarRelay.Proofs.Activity.Crew

/-!
# Records told in other words

A record can be told with other entries, and with fewer; what is done over a part
of a state can be recorded as done over the whole. Neither changes what is done,
so a crew whose record is told in other words takes the same steps.
-/

namespace RadarRelay

variable {State Part Entry Other First Second Item Result : Type}

namespace Recorded

/-- The same with other entries. An entry of which nothing is told is left out. -/
def retell (tell : Entry → Option Other) :
    Recorded State Entry Result → Recorded State Other Result
  | done result => done result
  | act update entry next =>
      act update (fun state => (entry state).bind tell) fun state => (next state).retell tell
  | ask request entry next =>
      ask request (fun answer => (entry answer).bind tell) fun answer => (next answer).retell tell

/-- A recorded activity over a part of a larger state. -/
def within (get : State → Part) (put : State → Part → State) :
    Recorded Part Entry Result → Recorded State Entry Result
  | done result => done result
  | act update entry next =>
      act (fun state => put state (update (get state))) (fun state => entry (get state))
        fun state => (next (get state)).within get put
  | ask request entry next => ask request entry fun answer => (next answer).within get put

variable (tell : Entry → Option Other)

@[simp] theorem plain_retell (recorded : Recorded State Entry Result) :
    (recorded.retell tell).plain = recorded.plain := by
  induction recorded with
  | done result => rfl
  | act update entry next ih => exact congrArg (Activity.act update) (funext ih)
  | ask request entry next ih => exact congrArg (Activity.ask request) (funext ih)

@[simp] theorem plain_within (get : State → Part) (put : State → Part → State)
    (recorded : Recorded Part Entry Result) :
    (recorded.within get put).plain = recorded.plain.within get put := by
  induction recorded with
  | done result => rfl
  | act update entry next ih => exact congrArg (Activity.act _) (funext fun state => ih (get state))
  | ask request entry next ih => exact congrArg (Activity.ask request) (funext ih)

@[simp] theorem retell_bind (first : Recorded State Entry First)
    (next : First → Recorded State Entry Second) :
    (first >>= next).retell tell =
      first.retell tell >>= fun result => (next result).retell tell := by
  show (first.andThen next).retell tell =
    (first.retell tell).andThen fun result => (next result).retell tell
  induction first with
  | done result => rfl
  | act update entry rest ih => exact congrArg (act update _) (funext ih)
  | ask request entry rest ih => exact congrArg (ask request _) (funext ih)

@[simp] theorem retell_silent (activity : Activity State Result) :
    (silent activity).retell tell = silent activity := by
  induction activity with
  | done result => rfl
  | act update next ih => exact congrArg (act update _) (funext ih)
  | ask request next ih => exact congrArg (ask request _) (funext ih)

@[simp] theorem retell_look (entry : State → Option Entry) :
    (look entry).retell tell = look fun state => (entry state).bind tell := rfl

@[simp] theorem retell_atomically (action : State → Result × State)
    (entry : Result → Option Entry) :
    (atomically action entry).retell tell =
      atomically action fun result => (entry result).bind tell := rfl

/-- What is told in other words can be told in others again. -/
theorem retell_retell (again : Other → Option Item) (recorded : Recorded State Entry Result) :
    (recorded.retell tell).retell again =
      recorded.retell fun entry => (tell entry).bind again := by
  induction recorded with
  | done result => rfl
  | act update entry next ih => simp only [retell, Option.bind_assoc, ih]
  | ask request entry next ih => simp only [retell, Option.bind_assoc, ih]

/-- Nothing changes when everything is told as it is. -/
theorem retell_some (recorded : Recorded State Entry Result) :
    recorded.retell some = recorded := by
  induction recorded with
  | done result => rfl
  | act update entry next ih => simp only [retell, Option.bind_fun_some, ih]
  | ask request entry next ih => simp only [retell, Option.bind_fun_some, ih]

end Recorded

/-! ## Crews -/

/-- A log told in other words. -/
def retoldLog (tell : Entry → Option Other) (log : List (Nat × Entry)) : List (Nat × Other) :=
  log.filterMap fun entry => (tell entry.2).map (Prod.mk entry.1)

variable (tell : Entry → Option Other)

theorem retoldLog_entered (log : List (Nat × Entry)) (member : Nat) (entry : Option Entry) :
    retoldLog tell (entered log member entry) =
      entered (retoldLog tell log) member (entry.bind tell) := by
  cases entry with
  | none => rfl
  | some entry =>
      rw [entered, retoldLog, List.filterMap_append]
      cases told : tell entry with
      | none => simp [retoldLog, entered, told]
      | some other => simp [retoldLog, entered, told]

theorem retoldLog_append (first second : List (Nat × Entry)) :
    retoldLog tell (first ++ second) = retoldLog tell first ++ retoldLog tell second :=
  List.filterMap_append

/-- The same member with its record told in other words. -/
def Member.retell (member : Member State Entry) : Member State Other :=
  ⟨member.turn.retell tell, member.rest.retell tell⟩

theorem Member.step_retell (ready : Request → State → Bool)
    (answer : (request : Request) → request.Answer) (state : State)
    (member : Member State Entry) :
    (member.retell tell).step ready answer state =
      (member.step ready answer state).map fun next =>
        (next.1, next.2.1.bind tell, next.2.2.retell tell) := by
  obtain ⟨turn, rest⟩ := member
  cases rest with
  | done again =>
      cases again with
      | true | false => rfl
  | act update entry next => rfl
  | ask request entry next =>
      simp only [Member.step, retell, Recorded.retell]
      split
      · rfl
      · rfl

namespace Crew

/-- The same crew with its record told in other words. -/
def retell (crew : Crew State Entry) : Crew State Other where
  state := crew.state
  members := crew.members.map (Member.retell tell)
  log := retoldLog tell crew.log

theorem step_retell (ready : Request → State → Bool) (crew : Crew State Entry) (choice : Choice) :
    step ready (crew.retell tell) choice = (step ready crew choice).retell tell := by
  have chosen : (crew.retell tell).members[choice.member]? =
      crew.members[choice.member]?.map (Member.retell tell) := List.getElem?_map
  rw [step, chosen, step]
  cases crew.members[choice.member]? with
  | none => rfl
  | some member =>
      simp only [Option.map_some, Member.step_retell]
      have same : (crew.retell tell).state = crew.state := rfl
      rw [same]
      cases member.step ready choice.answer crew.state with
      | none => rfl
      | some next => simp [retell, retoldLog_entered, Member.retell]

/-- A crew takes the same steps in whatever words they are told. -/
theorem run_retell (ready : Request → State → Bool) (crew : Crew State Entry)
    (schedule : List Choice) :
    run ready (crew.retell tell) schedule = (run ready crew schedule).retell tell := by
  induction schedule generalizing crew with
  | nil => rfl
  | cons choice schedule ih =>
      have stepped := ih (step ready crew choice)
      rw [← step_retell] at stepped
      exact stepped

end Crew

end RadarRelay
