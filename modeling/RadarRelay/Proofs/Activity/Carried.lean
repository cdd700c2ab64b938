import RadarRelay.Proofs.Activity.Returning

/-!
# Protocols that are carried over

Who keeps to a protocol keeps to it in whatever words the record is told, on
whatever larger state the same is done, and with or without a record of what is
returned. So what is known of the members of one crew need not be proved again of
the same members in another.
-/

namespace RadarRelay

variable {State Part Entry Other Returned Phase Place Item Result : Type}

namespace Protocol

/-- The same for members who act on a larger state. -/
def onPart (get : State → Part) (protocol : Protocol Part Entry Phase) :
    Protocol State Entry Phase where
  start := protocol.start
  advance := protocol.advance
  Allows phase state entry after := protocol.Allows phase (get state) entry (get after)
  Ends := protocol.Ends

/-- The same with a record of what is returned, which may only be as said where the member stands
then. -/
def returning (returns : Phase → Returned → Prop) (protocol : Protocol State Entry Phase) :
    Protocol State (Option Returned × Option Entry) Phase where
  start := protocol.start
  advance phase entry := protocol.after phase entry.2
  Allows phase state entry after :=
    protocol.Allows phase state (entry.bind Prod.snd) after ∧
      ∀ result ∈ entry.bind Prod.fst,
        returns (protocol.after phase (entry.bind Prod.snd)) result
  Ends := protocol.Ends

variable (protocol : Protocol State Entry Phase) {returns : Phase → Returned → Prop}

/-- What is returned moves nobody. -/
theorem after_returning (phase : Phase) (entry : Option (Option Returned × Option Entry)) :
    (protocol.returning returns).after phase entry =
      protocol.after phase (entry.bind Prod.snd) := by
  cases entry with
  | none | some => rfl

end Protocol

namespace Recorded

variable {ready : Request → State → Bool} {ends : Phase → Result → Prop} {phase : Phase}

/-- Who keeps to a protocol on a part of the state keeps to it on the whole. -/
theorem Follows.within {inner : Protocol Part Entry Phase} {outer : Protocol State Entry Phase}
    {readyInside : Request → Part → Bool} {get : State → Part} {put : State → Part → State}
    (put_get : ∀ state, put state (get state) = state)
    (advance : outer.advance = inner.advance)
    (allows : ∀ phase state entry part, inner.Allows phase (get state) entry part →
      outer.Allows phase state entry (put state part))
    (answered : ∀ request state, ready request state = true →
      readyInside request (get state) = true)
    {recorded : Recorded Part Entry Result}
    (follows : recorded.Follows inner readyInside ends phase) :
    (recorded.within get put).Follows outer ready ends phase := by
  have after (phase : Phase) (entry : Option Entry) :
      outer.after phase entry = inner.after phase entry := by
    cases entry with
    | none => rfl
    | some entry => exact congrFun (congrFun advance phase) entry
  induction recorded generalizing phase with
  | done result => exact follows
  | act update entry next ih =>
      intro state
      rw [after]
      exact ⟨allows _ _ _ _ (follows (get state)).1, ih (get state) (follows (get state)).2⟩
  | ask request entry next ih =>
      intro answer
      rw [after]
      refine ⟨fun state asked => ?_, ih answer (follows answer).2⟩
      have allowed := allows _ state _ _ ((follows answer).1 (get state) (answered _ _ asked))
      rw [put_get] at allowed
      exact allowed

/-- Who keeps to a protocol keeps to another one in which the same steps, told in other words, are
allowed. `place` is where one stands in the other protocol; what is said of `inside` is known of
where one stands all the while. -/
theorem Follows.retell {protocol : Protocol State Entry Phase} {other : Protocol State Other Place}
    {tell : Entry → Option Other} (place : Phase → Place) (inside : Phase → Prop)
    (possible : ∀ request, ∃ state, ready request state = true)
    (allows : ∀ phase state entry after, inside phase → protocol.Allows phase state entry after →
      inside (protocol.after phase entry) ∧
        other.Allows (place phase) state (entry.bind tell) after ∧
        other.after (place phase) (entry.bind tell) = place (protocol.after phase entry))
    {recorded : Recorded State Entry Result} (begin : inside phase)
    (follows : recorded.Follows protocol ready ends phase) :
    (recorded.retell tell).Follows other ready
      (fun later result => ∃ phase, later = place phase ∧ inside phase ∧ ends phase result)
      (place phase) := by
  induction recorded generalizing phase with
  | done result => exact ⟨phase, rfl, begin, follows⟩
  | act update entry next ih =>
      intro state
      obtain ⟨still, allowed, moved⟩ := allows _ _ _ _ begin (follows state).1
      rw [moved]
      exact ⟨allowed, ih state still (follows state).2⟩
  | ask request entry next ih =>
      intro answer
      obtain ⟨witness, asked⟩ := possible request
      obtain ⟨still, _, moved⟩ := allows _ _ _ _ begin ((follows answer).1 witness asked)
      rw [moved]
      refine ⟨fun state asked => ?_, ih answer still (follows answer).2⟩
      exact (allows _ _ _ _ begin ((follows answer).1 state asked)).2.1

variable {protocol : Protocol State Entry Phase}

/-- What is known before and after each turn of a loop is known after the loop. -/
theorem follows_each_inside {action : Item → Recorded State Entry Unit} {inside : Phase → Prop}
    (follows : ∀ item phase, inside phase →
      (action item).Follows protocol ready (fun later _ => inside later) phase)
    (items : List Item) (begin : inside phase) :
    (each action items).Follows protocol ready (fun later _ => inside later) phase := by
  induction items generalizing phase with
  | nil => exact begin
  | cons item items ih =>
      apply follows_bind (follows item phase begin)
      intro later _ still
      exact ih still

/-- Who keeps to a protocol and ends as said returns as said. -/
theorem Follows.returning {recorded : Recorded State Entry Result}
    (follows : recorded.Follows protocol ready ends phase) :
    recorded.returning.Follows (protocol.returning ends) ready ends phase := by
  -- The result stands beside the last step, and where that leads is where the activity ends.
  have returned {next : Recorded State Entry Result} {later : Phase}
      (follows : next.Follows protocol ready ends later) :
      ∀ result ∈ next.result?, ends later result := by
    intro result ended
    cases next with
    | done other =>
        cases ended
        exact follows
    | act | ask => cases ended
  induction recorded generalizing phase with
  | done result => exact follows
  | act update entry next ih =>
      intro state
      rw [Protocol.after_returning, besides_snd]
      refine ⟨⟨?_, ?_⟩, ih state (follows state).2⟩
      · rw [besides_snd]
        exact (follows state).1
      · rw [besides_fst, besides_snd]
        exact returned (follows state).2
  | ask request entry next ih =>
      intro answer
      rw [Protocol.after_returning, besides_snd]
      refine ⟨fun state asked => ⟨?_, ?_⟩, ih answer (follows answer).2⟩
      · rw [besides_snd]
        exact (follows answer).1 state asked
      · rw [besides_fst, besides_snd]
        exact returned (follows answer).2

/-- Who keeps to a protocol keeps to it beside others who tell what they return. -/
theorem Follows.unreturned {returns : Phase → Returned → Prop}
    {recorded : Recorded State Entry Result}
    (follows : recorded.Follows protocol ready ends phase) :
    (recorded.unreturned : Recorded State (Option Returned × Option Entry) Result).Follows
      (protocol.returning returns) ready ends phase := by
  induction recorded generalizing phase with
  | done result => exact follows
  | act update entry next ih =>
      intro state
      rw [Protocol.after_returning, besides_snd]
      refine ⟨⟨?_, ?_⟩, ih state (follows state).2⟩
      · rw [besides_snd]
        exact (follows state).1
      · rw [besides_fst]
        exact nofun
  | ask request entry next ih =>
      intro answer
      rw [Protocol.after_returning, besides_snd]
      refine ⟨fun state asked => ⟨?_, ?_⟩, ih answer (follows answer).2⟩
      · rw [besides_snd]
        exact (follows answer).1 state asked
      · rw [besides_fst]
        exact nofun

end Recorded

end RadarRelay
