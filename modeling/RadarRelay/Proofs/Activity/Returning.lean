import RadarRelay.Proofs.Activity.Watched

/-!
# What activities return

An activity returns with its last step. Recorded beside whatever else is, the
result stands in the log at the moment from which on it can be known; a record of
several activities, one after the other, tells what each of them returned.
-/

namespace RadarRelay

variable {State Entry Returned Result : Type}

namespace Recorded

/-- The result of an activity that has ended. -/
def result? : Recorded State Entry Result → Option Result
  | done result => some result
  | _ => none

/-- The same with a record of the result, at the last step. -/
def returning : Recorded State Entry Result → Recorded State (Option Result × Option Entry) Result
  | done result => done result
  | act update entry next =>
      act update (fun state => besides (next state).result? (entry state))
        fun state => (next state).returning
  | ask request entry next =>
      ask request (fun answer => besides (next answer).result? (entry answer))
        fun answer => (next answer).returning

/-- The same as a part of a record in which others tell what they return. -/
def unreturned (recorded : Recorded State Entry Result) :
    Recorded State (Option Returned × Option Entry) Result :=
  recorded.watched fun _ => none

@[simp] theorem plain_returning (recorded : Recorded State Entry Result) :
    recorded.returning.plain = recorded.plain := by
  induction recorded with
  | done result => rfl
  | act update entry next ih => exact congrArg (Activity.act update) (funext ih)
  | ask request entry next ih => exact congrArg (Activity.ask request) (funext ih)

@[simp] theorem plain_unreturned (recorded : Recorded State Entry Result) :
    (recorded.unreturned : Recorded State (Option Returned × Option Entry) Result).plain =
      recorded.plain :=
  recorded.plain_watched _

/-- What was recorded beside what is returned is still told. -/
@[simp] theorem retell_snd_returning (recorded : Recorded State Entry Result) :
    recorded.returning.retell Prod.snd = recorded := by
  induction recorded with
  | done result => rfl
  | act update entry next ih => simp only [returning, retell, besides_snd, ih]
  | ask request entry next ih => simp only [returning, retell, besides_snd, ih]

@[simp] theorem retell_snd_unreturned (recorded : Recorded State Entry Result) :
    (recorded.unreturned : Recorded State (Option Returned × Option Entry) Result).retell
      Prod.snd = recorded :=
  recorded.retell_snd_watched _

end Recorded

end RadarRelay
