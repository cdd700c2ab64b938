import RadarRelay.Proofs.Activity.Keeping
import RadarRelay.Proofs.Activity.Recorded

/-!
# Crews

A crew is a number of members who act on one state. Each step is one atomic step
of one member; whose step it is, and what is answered if the member asks for
something, is up to a schedule. The schedules are therefore all the orders in
which the members can take their steps, with everything that may be answered.

Where a member stands is told by its own entries in the log of the crew. When
every member only takes steps that are allowed where it stands, whatever these
steps preserve holds of the crew at all times.
-/

namespace RadarRelay

variable {State Entry Phase View First Second Item Result : Type}

/-- A member takes one turn after the other for as long as its turns end with `true`. -/
structure Member (State Entry : Type) where
  turn : Recorded State Entry Bool
  /-- What is left of the current turn. -/
  rest : Recorded State Entry Bool

/-- A member before its first turn. -/
def Member.new (turn : Recorded State Entry Bool) : Member State Entry := ⟨turn, turn⟩

structure Crew (State Entry : Type) where
  state : State
  members : List (Member State Entry)
  /-- Entries with the members who left them, oldest first. -/
  log : List (Nat × Entry)

/-- Whose step is the next, and what is answered if it asks for something. -/
structure Choice where
  member : Nat
  answer : (request : Request) → request.Answer

/-- The answers of collaborators that never fail. The fingerprint of a file is its content. -/
def Request.granted : (request : Request) → request.Answer
  | .note _ => ()
  | .now => ⟨Calendar.Date.epoch, Calendar.TimeOfDay.midnight⟩
  | .readMetadata file => .ok { Metadata.empty with fingerprint := file.content?.getD "" }
  | .copy _ file => .ok file
  | .store _ _ _ => .ok ()
  | .increment _ _ _ => .ok ()
  | .decorate _ _ _ _ => .ok .unchanged
  | .send _ _ _ _ => .sent
  | .process _ _ _ => .ok ()
  | .stopProcessor _ => ()
  | .freshId => ""
  | .makeSender _ id _ => .ok (.external id 0)
  | .makeDecorator name _ => .ok (.external name 0)
  | .makeHook config => .ok ⟨config.id, 0⟩
  | .join _ => ()

/-- A log with the entry that a member leaves in it, if any. -/
def entered (log : List (Nat × Entry)) (member : Nat) : Option Entry → List (Nat × Entry)
  | none => log
  | some entry => log ++ [(member, entry)]

/-- Nothing is ever struck out. -/
theorem mem_entered {log : List (Nat × Entry)} {known : Nat × Entry} (logged : known ∈ log)
    (member : Nat) (entry : Option Entry) : known ∈ entered log member entry := by
  cases entry with
  | none => exact logged
  | some entry => exact List.mem_append_left _ logged

/-- What a member does next, unless it has to wait or has ended: the state afterwards, the entry it
leaves, and what is left of its turn. -/
def Member.step (ready : Request → State → Bool) (answer : (request : Request) → request.Answer)
    (state : State) (member : Member State Entry) :
    Option (State × Option Entry × Recorded State Entry Bool) :=
  match member.rest with
  | .done true => some (state, none, member.turn)
  | .done false => none
  | .act update entry next => some (update state, entry state, next state)
  | .ask request entry next =>
      if ready request state then
        some (state, entry (answer request), next (answer request))
      else none

/-- The same member without a record of what happens. -/
def Member.forget (member : Member State Entry) : Member State Entry :=
  ⟨.silent member.turn.plain, .silent member.rest.plain⟩

theorem Member.step_forget (ready : Request → State → Bool)
    (answer : (request : Request) → request.Answer) (state : State)
    (member : Member State Entry) :
    member.forget.step ready answer state =
      (member.step ready answer state).map fun next => (next.1, none, .silent next.2.2.plain) := by
  obtain ⟨turn, rest⟩ := member
  cases rest with
  | done again =>
      cases again with
      | true | false => rfl
  | act update entry next => rfl
  | ask request entry next =>
      simp only [Member.step, forget, Recorded.plain, Recorded.silent]
      split
      · rfl
      · rfl

namespace Crew

/-- One step. Nothing happens when the chosen member has to wait or has ended. -/
def step (ready : Request → State → Bool) (crew : Crew State Entry) (choice : Choice) :
    Crew State Entry :=
  match crew.members[choice.member]? with
  | none => crew
  | some member =>
      match member.step ready choice.answer crew.state with
      | none => crew
      | some (state, entry, rest) =>
          { state
            members := crew.members.set choice.member { member with rest }
            log := entered crew.log choice.member entry }

/-- What a crew has come to after a schedule. -/
def run (ready : Request → State → Bool) (crew : Crew State Entry) (schedule : List Choice) :
    Crew State Entry :=
  schedule.foldl (step ready) crew

/-- The same crew without a record of what happens. -/
def forget (crew : Crew State Entry) : Crew State Entry where
  state := crew.state
  members := crew.members.map Member.forget
  log := []

theorem step_forget (ready : Request → State → Bool) (crew : Crew State Entry) (choice : Choice) :
    step ready crew.forget choice = (step ready crew choice).forget := by
  have chosen : crew.forget.members[choice.member]? =
      crew.members[choice.member]?.map Member.forget := List.getElem?_map
  rw [step, chosen, step]
  cases crew.members[choice.member]? with
  | none => rfl
  | some member =>
      simp only [Option.map_some, Member.step_forget]
      have same : crew.forget.state = crew.state := rfl
      rw [same]
      cases member.step ready choice.answer crew.state with
      | none => rfl
      | some next => simp [forget, entered, Member.forget]

/-- What is recorded changes nothing: the state is what the plain activities make of it. -/
theorem state_run_forget (ready : Request → State → Bool) (crew : Crew State Entry)
    (schedule : List Choice) :
    (run ready crew.forget schedule).state = (run ready crew schedule).state := by
  induction schedule generalizing crew with
  | nil => rfl
  | cons choice schedule ih =>
      have stepped := ih (step ready crew choice)
      rw [← step_forget] at stepped
      exact stepped

end Crew

/-! ## Protocols -/

/-- A protocol for the members of a crew. -/
structure Protocol (State Entry Phase : Type) where
  /-- Where each member stands at first. -/
  start : Nat → Phase
  /-- Where an entry of its own takes a member. -/
  advance : Phase → Entry → Phase
  /-- Which steps are allowed where a member stands, and which entries they leave. -/
  Allows : Phase → State → Option Entry → State → Prop
  /-- How a turn may end where a member stands. -/
  Ends : Phase → Bool → Prop

namespace Protocol

/-- Where a step takes a member. -/
def after (protocol : Protocol State Entry Phase) (phase : Phase) : Option Entry → Phase
  | none => phase
  | some entry => protocol.advance phase entry

/-- Where a member stands. -/
def phase (protocol : Protocol State Entry Phase) (member : Nat) (log : List (Nat × Entry)) :
    Phase :=
  log.foldl
    (fun phase entry => if entry.1 = member then protocol.advance phase entry.2 else phase)
    (protocol.start member)

@[simp] theorem phase_append (protocol : Protocol State Entry Phase) (member : Nat)
    (log : List (Nat × Entry)) (entry : Nat × Entry) :
    protocol.phase member (log ++ [entry]) =
      if entry.1 = member then protocol.advance (protocol.phase member log) entry.2
      else protocol.phase member log := by
  rw [phase, List.foldl_append]
  rfl

/-- A step moves the member who takes it, and nobody else. -/
theorem phase_entered (protocol : Protocol State Entry Phase) (member other : Nat)
    (log : List (Nat × Entry)) (entry : Option Entry) :
    protocol.phase other (entered log member entry) =
      if member = other then protocol.after (protocol.phase member log) entry
      else protocol.phase other log := by
  cases entry with
  | none =>
      rw [entered]
      split
      · rename_i same
        rw [same]
        rfl
      · rfl
  | some entry =>
      rw [entered, phase_append]
      split
      · rename_i same
        rw [← same]
        rfl
      · rfl

end Protocol

variable {protocol : Protocol State Entry Phase} {ready : Request → State → Bool}

/-- Every step of an activity that begins in a phase is allowed, and it ends as said. -/
def Recorded.Follows (protocol : Protocol State Entry Phase) (ready : Request → State → Bool)
    (ends : Phase → Result → Prop) : Recorded State Entry Result → Phase → Prop
  | done result, phase => ends phase result
  | act update entry next, phase =>
      ∀ state, protocol.Allows phase state (entry state) (update state) ∧
        (next state).Follows protocol ready ends (protocol.after phase (entry state))
  | ask request entry next, phase =>
      ∀ answer, (∀ state, ready request state = true →
          protocol.Allows phase state (entry answer) state) ∧
        (next answer).Follows protocol ready ends (protocol.after phase (entry answer))

namespace Recorded

theorem follows_bind {ends : Phase → Second → Prop} {middle : Phase → First → Prop}
    {first : Recorded State Entry First} {next : First → Recorded State Entry Second}
    {phase : Phase} (follows : first.Follows protocol ready middle phase)
    (followsNext : ∀ later result, middle later result →
      (next result).Follows protocol ready ends later) :
    (first >>= next).Follows protocol ready ends phase := by
  show (first.andThen next).Follows protocol ready ends phase
  induction first generalizing phase with
  | done result => exact followsNext phase result follows
  | act update entry rest ih =>
      intro state
      exact ⟨(follows state).1, ih state (follows state).2⟩
  | ask request entry rest ih =>
      intro answer
      exact ⟨(follows answer).1, ih answer (follows answer).2⟩

/-- Goes on where the first part has led. -/
theorem follows_bind_to {ends : Phase → Second → Prop} {target : First → Phase}
    {first : Recorded State Entry First} {next : First → Recorded State Entry Second}
    {phase : Phase}
    (follows : first.Follows protocol ready (fun later result => later = target result) phase)
    (followsNext : ∀ result, (next result).Follows protocol ready ends (target result)) :
    (first >>= next).Follows protocol ready ends phase := by
  apply follows_bind follows
  intro later result led
  rw [led]
  exact followsNext result

/-- Nothing needs to be recorded of what keeps everything that the protocol is about. -/
theorem follows_silent_giving {view : State → View} {wanted : Result → Prop} {phase : Phase}
    {activity : Activity State Result} (kept : activity.Keeps view) (gives : activity.Gives wanted)
    (allowed : ∀ state after, view after = view state → protocol.Allows phase state none after) :
    (silent activity).Follows protocol ready
      (fun later result => later = phase ∧ wanted result) phase := by
  induction activity with
  | done result => exact ⟨rfl, gives⟩
  | act update next ih =>
      intro state
      exact ⟨allowed state (update state) (kept state).1, ih state (kept state).2 (gives state)⟩
  | ask request next ih =>
      intro answer
      exact ⟨fun state _ => allowed state state rfl, ih answer (kept answer) (gives answer)⟩

theorem Follows.mono {ends weaker : Phase → Result → Prop} {recorded : Recorded State Entry Result}
    {phase : Phase} (follows : recorded.Follows protocol ready ends phase)
    (implies : ∀ later result, ends later result → weaker later result) :
    recorded.Follows protocol ready weaker phase := by
  induction recorded generalizing phase with
  | done result => exact implies phase result follows
  | act update entry next ih =>
      intro state
      exact ⟨(follows state).1, ih state (follows state).2⟩
  | ask request entry next ih =>
      intro answer
      exact ⟨(follows answer).1, ih answer (follows answer).2⟩

theorem follows_silent {view : State → View} {phase : Phase} {activity : Activity State Result}
    (kept : activity.Keeps view)
    (allowed : ∀ state after, view after = view state → protocol.Allows phase state none after) :
    (silent activity).Follows protocol ready (fun later _ => later = phase) phase :=
  (follows_silent_giving kept activity.gives_any allowed).mono fun _ _ ends => ends.1

theorem follows_atomically {action : State → Result × State} {entry : Result → Option Entry}
    {phase : Phase} (allowed : ∀ state,
      protocol.Allows phase state (entry (action state).1) (action state).2) :
    (atomically action entry).Follows protocol ready
      (fun later result => later = protocol.after phase (entry result)) phase :=
  fun state => ⟨allowed state, rfl⟩

theorem follows_look {entry : State → Option Entry} {phase : Phase}
    (allowed : ∀ state, protocol.Allows phase state (entry state) state) :
    (look entry).Follows protocol ready
      (fun later state => later = protocol.after phase (entry state)) phase :=
  fun state => ⟨allowed state, rfl⟩

theorem follows_note {name component : String} {fields : List (String × String)} {entry : Entry}
    {phase : Phase} (allowed : ∀ state, protocol.Allows phase state (some entry) state) :
    (note name component fields entry).Follows protocol ready
      (fun later _ => later = protocol.advance phase entry) phase :=
  fun _ => ⟨fun state _ => allowed state, rfl⟩

theorem follows_each {action : Item → Recorded State Entry Unit} {phase : Phase}
    (follows : ∀ item, (action item).Follows protocol ready (fun later _ => later = phase) phase)
    (items : List Item) :
    (each action items).Follows protocol ready (fun later _ => later = phase) phase := by
  induction items with
  | nil => exact rfl
  | cons item items ih =>
      apply follows_bind_to (follows item)
      intro _
      exact ih

end Recorded

/-- A member that keeps to the protocol, in this turn and in all that may follow. -/
def Member.Obeys (protocol : Protocol State Entry Phase) (ready : Request → State → Bool)
    (phase : Phase) (member : Member State Entry) : Prop :=
  ∃ ends : Phase → Bool → Prop, (∀ later again, ends later again → protocol.Ends later again) ∧
    member.rest.Follows protocol ready ends phase ∧
    ∀ later, ends later true → member.turn.Follows protocol ready ends later

/-- A member that always keeps to the protocol, from its first turn on. -/
theorem Member.obeys_new {turn : Recorded State Entry Bool} {phase : Phase}
    (ends : Phase → Bool → Prop) (permitted : ∀ later again, ends later again →
      protocol.Ends later again)
    (follows : turn.Follows protocol ready ends phase)
    (again : ∀ later, ends later true → turn.Follows protocol ready ends later) :
    (Member.new turn).Obeys protocol ready phase :=
  ⟨ends, permitted, follows, again⟩

/-- A turn ends as the protocol permits. -/
theorem Member.Obeys.ends {phase : Phase} {member : Member State Entry}
    (obeys : member.Obeys protocol ready phase) {again : Bool} (ended : member.rest = .done again) :
    protocol.Ends phase again := by
  obtain ⟨ends, permitted, follows, _⟩ := obeys
  rw [ended] at follows
  exact permitted phase again follows

/-- A member keeps to the protocol with each step, and each step that is not just the beginning of
another turn is allowed. -/
theorem Member.Obeys.step {phase : Phase} {member : Member State Entry}
    (obeys : member.Obeys protocol ready phase)
    {answer : (request : Request) → request.Answer} {state after : State} {entry : Option Entry}
    {rest : Recorded State Entry Bool}
    (stepped : member.step ready answer state = some (after, entry, rest)) :
    Member.Obeys protocol ready (protocol.after phase entry) { member with rest } ∧
      ((after = state ∧ entry = none) ∨ protocol.Allows phase state entry after) := by
  obtain ⟨turn, current⟩ := member
  obtain ⟨ends, permitted, follows, again⟩ := obeys
  cases current with
  | done goesOn =>
      cases goesOn with
      | false => cases stepped
      | true =>
          cases stepped
          exact ⟨⟨ends, permitted, again phase follows, again⟩, Or.inl ⟨rfl, rfl⟩⟩
  | act update record next =>
      cases stepped
      exact ⟨⟨ends, permitted, (follows state).2, again⟩, Or.inr (follows state).1⟩
  | ask request record next =>
      simp only [Member.step] at stepped
      by_cases answered : ready request state = true
      · rw [if_pos answered] at stepped
        cases stepped
        exact ⟨⟨ends, permitted, (follows (answer request)).2, again⟩,
          Or.inr ((follows (answer request)).1 state answered)⟩
      · rw [if_neg answered] at stepped
        cases stepped

namespace Crew

/-- A crew whose members all keep to the protocol. -/
def Obeys (protocol : Protocol State Entry Phase) (ready : Request → State → Bool)
    (crew : Crew State Entry) : Prop :=
  ∀ (index : Nat) (member : Member State Entry), crew.members[index]? = some member →
    member.Obeys protocol ready (protocol.phase index crew.log)

/-- A crew keeps to the protocol with each step, and a step that does anything is allowed. -/
theorem Obeys.step {crew : Crew State Entry} (obeys : crew.Obeys protocol ready)
    (choice : Choice) :
    (crew.step ready choice).Obeys protocol ready ∧
      (((crew.step ready choice).state = crew.state ∧ (crew.step ready choice).log = crew.log) ∨
        ∃ entry,
          protocol.Allows (protocol.phase choice.member crew.log) crew.state entry
            (crew.step ready choice).state ∧
          (crew.step ready choice).log =
            entered crew.log choice.member entry) := by
  cases chosen : crew.members[choice.member]? with
  | none =>
      have same : crew.step ready choice = crew := by rw [Crew.step, chosen]
      rw [same]
      exact ⟨obeys, Or.inl ⟨rfl, rfl⟩⟩
  | some member =>
      cases stepped : member.step ready choice.answer crew.state with
      | none =>
          have same : crew.step ready choice = crew := by rw [Crew.step, chosen]; simp [stepped]
          rw [same]
          exact ⟨obeys, Or.inl ⟨rfl, rfl⟩⟩
      | some outcome =>
          obtain ⟨state, entry, rest⟩ := outcome
          have next : crew.step ready choice =
              { state
                members := crew.members.set choice.member { member with rest }
                log := entered crew.log choice.member entry } := by
            rw [Crew.step, chosen]
            simp [stepped]
          obtain ⟨steady, allowed⟩ := (obeys choice.member member chosen).step stepped
          rw [next]
          constructor
          · intro index other found
            by_cases same : choice.member = index
            · subst same
              rw [List.getElem?_set_self (List.getElem?_eq_some_iff.1 chosen).1] at found
              cases found
              rw [Protocol.phase_entered, if_pos rfl]
              exact steady
            · rw [List.getElem?_set_ne same] at found
              rw [Protocol.phase_entered, if_neg same]
              exact obeys index other found
          · rcases allowed with ⟨rfl, rfl⟩ | allowed
            · exact Or.inl ⟨rfl, rfl⟩
            · exact Or.inr ⟨entry, allowed, rfl⟩

theorem length_members_step (crew : Crew State Entry) (choice : Choice) :
    (crew.step ready choice).members.length = crew.members.length := by
  rw [step]
  split
  · rfl
  · split
    · rfl
    · exact List.length_set

@[simp] theorem length_members_run (crew : Crew State Entry) (schedule : List Choice) :
    (crew.run ready schedule).members.length = crew.members.length := by
  induction schedule generalizing crew with
  | nil => rfl
  | cons choice schedule ih => exact (ih _).trans (crew.length_members_step choice)

/-- Whatever the allowed steps of its members preserve holds after every schedule. -/
theorem Obeys.run_inside {invariant : State → List (Nat × Entry) → Prop} {size : Nat}
    (preserved : ∀ state log member entry after, member < size → invariant state log →
      protocol.Allows (protocol.phase member log) state entry after →
      invariant after (entered log member entry))
    {crew : Crew State Entry} (sized : crew.members.length = size)
    (obeys : crew.Obeys protocol ready) (holds : invariant crew.state crew.log)
    (schedule : List Choice) :
    (crew.run ready schedule).Obeys protocol ready ∧
      invariant (crew.run ready schedule).state (crew.run ready schedule).log := by
  induction schedule generalizing crew with
  | nil => exact ⟨obeys, holds⟩
  | cons choice schedule ih =>
      have stillSized : (crew.step ready choice).members.length = size :=
        (crew.length_members_step choice).trans sized
      obtain ⟨stillObeys, idle | ⟨entry, allowed, logged⟩⟩ := obeys.step choice
      · refine ih stillSized stillObeys ?_
        rw [idle.1, idle.2]
        exact holds
      · by_cases inside : choice.member < size
        · refine ih stillSized stillObeys ?_
          rw [logged]
          exact preserved _ _ _ _ _ inside holds allowed
        · -- Nobody is there to take a step.
          have nobody : crew.members[choice.member]? = none :=
            List.getElem?_eq_none (by omega)
          have same : crew.step ready choice = crew := by rw [Crew.step, nobody]
          refine ih stillSized stillObeys ?_
          rw [same]
          exact holds

/-- Whatever the allowed steps preserve holds after every schedule. -/
theorem Obeys.run {invariant : State → List (Nat × Entry) → Prop}
    (preserved : ∀ state log member entry after, invariant state log →
      protocol.Allows (protocol.phase member log) state entry after →
      invariant after (entered log member entry))
    {crew : Crew State Entry} (obeys : crew.Obeys protocol ready)
    (holds : invariant crew.state crew.log) (schedule : List Choice) :
    (crew.run ready schedule).Obeys protocol ready ∧
      invariant (crew.run ready schedule).state (crew.run ready schedule).log :=
  obeys.run_inside (fun state log member entry after _ => preserved state log member entry after)
    rfl holds schedule

end Crew

/-! ## Logs -/

/-- Every entry of a log is justified by the entries before it. -/
def Justified (reason : List (Nat × Entry) → Nat × Entry → Prop) (log : List (Nat × Entry)) :
    Prop :=
  ∀ before entry after, log = before ++ entry :: after → reason before entry

variable {reason : List (Nat × Entry) → Nat × Entry → Prop} {log : List (Nat × Entry)}

theorem justified_nil : Justified reason [] := by
  intro before entry after split
  simp at split

/-- A log stays justified when a justified entry is added. -/
theorem Justified.append (justified : Justified reason log) {entry : Nat × Entry}
    (reasonable : reason log entry) : Justified reason (log ++ [entry]) := by
  intro before other after split
  rcases List.eq_nil_or_concat after with rfl | ⟨rest, last, rfl⟩
  · obtain ⟨rfl, same⟩ := List.append_inj' split rfl
    cases same
    exact reasonable
  · have shorter : log = before ++ other :: rest := by
      have : log ++ [entry] = (before ++ other :: rest) ++ [last] := by simpa using split
      exact (List.append_inj' this rfl).1
    exact justified before other rest shorter

/-- Something justified the first entry after any part of a log that is not all of it. -/
theorem Justified.of_append (justified : Justified reason log) {first rest : List (Nat × Entry)}
    (split : log = first ++ rest) (more : rest ≠ []) : ∃ entry, reason first entry := by
  cases rest with
  | nil => exact absurd rfl more
  | cons entry rest => exact ⟨entry, justified first entry rest split⟩

end RadarRelay
