import RadarRelay.Proofs.Activity.Retold

/-!
# Watched activities

Some requests are watched: whenever one of them is made, by whichever activity of a
crew, that is recorded beside whatever else is. What is recorded of watched
requests is therefore complete, and what was recorded before is still told.
-/

namespace RadarRelay

variable {State Entry Seen First Second Item Result : Type}

/-- No request that the activity can make is seen. -/
def Activity.Unseen (seen : Request → Option Seen) : Activity State Result → Prop
  | .done _ => True
  | .act _ next => ∀ state, (next state).Unseen seen
  | .ask request next => seen request = none ∧ ∀ answer, (next answer).Unseen seen

namespace Activity

variable {seen : Request → Option Seen}

theorem unseen_bind {first : Activity State First} {next : First → Activity State Second}
    (unseen : first.Unseen seen) (unseenNext : ∀ result, (next result).Unseen seen) :
    (first >>= next).Unseen seen := by
  show (first.andThen next).Unseen seen
  induction first with
  | done result => exact unseenNext result
  | act update rest ih => exact fun state => ih state (unseen state)
  | ask request rest ih => exact ⟨unseen.1, fun answer => ih answer (unseen.2 answer)⟩

theorem unseen_look : (look : Activity State State).Unseen seen :=
  fun _ => trivial

theorem unseen_request {wanted : Request} (unseen : seen wanted = none) :
    (request wanted : Activity State wanted.Answer).Unseen seen :=
  ⟨unseen, fun _ => trivial⟩

theorem unseen_within {Part : Type} {get : State → Part} {put : State → Part → State}
    {activity : Activity Part Result} (unseen : activity.Unseen seen) :
    (activity.within get put).Unseen seen := by
  induction activity with
  | done result => exact trivial
  | act update next ih => exact fun state => ih (get state) (unseen (get state))
  | ask request next ih => exact ⟨unseen.1, fun answer => ih answer (unseen.2 answer)⟩

end Activity

namespace Recorded

/-- What is recorded of a request that may be seen. -/
def besides : Option Seen → Option Entry → Option (Option Seen × Option Entry)
  | none, none => none
  | seen, entry => some (seen, entry)

/-- The same with a record of all requests that are seen. -/
def watched (seen : Request → Option Seen) :
    Recorded State Entry Result → Recorded State (Option Seen × Option Entry) Result
  | done result => done result
  | act update entry next =>
      act update (fun state => besides none (entry state)) fun state => (next state).watched seen
  | ask request entry next =>
      ask request (fun answer => besides (seen request) (entry answer))
        fun answer => (next answer).watched seen

/-- A record of all requests that are seen, and of nothing else. -/
def sights (seen : Request → Option Seen) : Activity State Result → Recorded State Seen Result
  | .done result => done result
  | .act update next => act update (fun _ => none) fun state => sights seen (next state)
  | .ask request next => ask request (fun _ => seen request) fun answer => sights seen (next answer)

variable (seen : Request → Option Seen)

theorem besides_fst (sight : Option Seen) (entry : Option Entry) :
    (besides sight entry).bind Prod.fst = sight := by
  cases sight with
  | none => cases entry with
    | none | some => rfl
  | some => rfl

theorem besides_snd (sight : Option Seen) (entry : Option Entry) :
    (besides sight entry).bind Prod.snd = entry := by
  cases sight with
  | none => cases entry with
    | none | some => rfl
  | some => rfl

/-- What was recorded is still told. -/
@[simp] theorem retell_snd_watched (recorded : Recorded State Entry Result) :
    (recorded.watched seen).retell Prod.snd = recorded := by
  induction recorded with
  | done result => rfl
  | act update entry next ih => simp only [watched, retell, besides_snd, ih]
  | ask request entry next ih => simp only [watched, retell, besides_snd, ih]

/-- What is told of watched requests depends on what is done only, and is complete. -/
theorem retell_fst_watched (recorded : Recorded State Entry Result) :
    (recorded.watched seen).retell Prod.fst = sights seen recorded.plain := by
  induction recorded with
  | done result => rfl
  | act update entry next ih => simp only [watched, retell, besides_fst, ih, plain, sights]
  | ask request entry next ih => simp only [watched, retell, besides_fst, ih, plain, sights]

@[simp] theorem plain_watched (recorded : Recorded State Entry Result) :
    (recorded.watched seen).plain = recorded.plain := by
  induction recorded with
  | done result => rfl
  | act update entry next ih => exact congrArg (Activity.act update) (funext ih)
  | ask request entry next ih => exact congrArg (Activity.ask request) (funext ih)

@[simp] theorem watched_bind (first : Recorded State Entry First)
    (next : First → Recorded State Entry Second) :
    (first >>= next).watched seen =
      first.watched seen >>= fun result => (next result).watched seen := by
  show (first.andThen next).watched seen =
    (first.watched seen).andThen fun result => (next result).watched seen
  induction first with
  | done result => rfl
  | act update entry rest ih => exact congrArg (act update _) (funext ih)
  | ask request entry rest ih => exact congrArg (ask request _) (funext ih)

/-- Where nothing is seen, nothing is recorded of it. -/
theorem watched_silent {activity : Activity State Result} (unseen : activity.Unseen seen) :
    (silent activity : Recorded State Entry Result).watched seen = silent activity := by
  induction activity with
  | done result => rfl
  | act update next ih =>
      exact congrArg (act update _) (funext fun state => ih state (unseen state))
  | ask request next ih =>
      rw [silent, watched, unseen.1]
      exact congrArg (ask request _) (funext fun answer => ih answer (unseen.2 answer))

end Recorded

end RadarRelay
