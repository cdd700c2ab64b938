import RadarRelay.Activity

/-!
# Recorded activities

What happens, and in which order, is told by a few steps only. A recorded
activity is an activity some of whose steps leave an entry in a log, at the very
moment at which they are taken. Without its entries it is a plain activity again,
so a record is a record of what the plain activity does.
-/

namespace RadarRelay

/-- An activity whose steps may leave entries in a log. -/
inductive Recorded (State Entry Result : Type) where
  | done (result : Result)
  | act (update : State → State) (entry : State → Option Entry)
      (next : State → Recorded State Entry Result)
  | ask (request : Request) (entry : request.Answer → Option Entry)
      (next : request.Answer → Recorded State Entry Result)

variable {State Entry First Second Item Result : Type}

namespace Recorded

/-- Goes on with another recorded activity after the first has ended. -/
def andThen (first : Recorded State Entry First) (next : First → Recorded State Entry Second) :
    Recorded State Entry Second :=
  match first with
  | done result => next result
  | act update entry rest => act update entry fun state => (rest state).andThen next
  | ask request entry rest => ask request entry fun answer => (rest answer).andThen next

instance : Monad (Recorded State Entry) where
  pure := done
  bind := andThen

/-- The activity without its entries. -/
def plain : Recorded State Entry Result → Activity State Result
  | done result => .done result
  | act update _ next => .act update fun state => (next state).plain
  | ask request _ next => .ask request fun answer => (next answer).plain

/-- An activity of which nothing is recorded. -/
def silent : Activity State Result → Recorded State Entry Result
  | .done result => done result
  | .act update next => act update (fun _ => none) fun state => silent (next state)
  | .ask request next => ask request (fun _ => none) fun answer => silent (next answer)

/-- Changes the state at once and gives a result, which is recorded. -/
def atomically (action : State → Result × State) (entry : Result → Option Entry) :
    Recorded State Entry Result :=
  act (fun state => (action state).2) (fun state => entry (action state).1)
    fun state => done (action state).1

/-- Looks at the state and records what is seen. -/
def look (entry : State → Option Entry) : Recorded State Entry State :=
  act id entry done

/-- Asks for something and records that it was answered. -/
def request (wanted : Request) (entry : Option Entry) : Recorded State Entry wanted.Answer :=
  ask wanted (fun _ => entry) done

/-- Reports an event and records that this was the moment. -/
def note (name component : String) (fields : List (String × String)) (entry : Entry) :
    Recorded State Entry Unit :=
  request (.note ⟨name, component, fields⟩) (some entry)

/-- Goes through a list. -/
def each (action : Item → Recorded State Entry Unit) : List Item → Recorded State Entry Unit
  | [] => done ()
  | item :: items => do
      action item
      each action items

/-! ## Without the entries -/

@[simp] theorem plain_pure (result : Result) :
    (pure result : Recorded State Entry Result).plain = pure result := rfl

@[simp] theorem plain_bind (first : Recorded State Entry First)
    (next : First → Recorded State Entry Second) :
    (first >>= next).plain = first.plain >>= fun result => (next result).plain := by
  show (first.andThen next).plain = first.plain.andThen fun result => (next result).plain
  induction first with
  | done result => rfl
  | act update entry rest ih => exact congrArg (Activity.act update) (funext ih)
  | ask request entry rest ih => exact congrArg (Activity.ask request) (funext ih)

@[simp] theorem plain_silent (activity : Activity State Result) :
    (silent activity : Recorded State Entry Result).plain = activity := by
  induction activity with
  | done result => rfl
  | act update next ih => exact congrArg (Activity.act update) (funext ih)
  | ask request next ih => exact congrArg (Activity.ask request) (funext ih)

@[simp] theorem plain_atomically (action : State → Result × State)
    (entry : Result → Option Entry) :
    (atomically action entry).plain = Activity.atomically action := rfl

@[simp] theorem plain_look (entry : State → Option Entry) :
    (look entry).plain = Activity.look := rfl

@[simp] theorem plain_note (name component : String) (fields : List (String × String))
    (entry : Entry) :
    (note name component fields entry : Recorded State Entry Unit).plain =
      Activity.note name component fields := rfl

@[simp] theorem plain_each (action : Item → Recorded State Entry Unit) (items : List Item) :
    (each action items).plain = Activity.each (fun item => (action item).plain) items := by
  induction items with
  | nil => rfl
  | cons item items ih => rw [each, plain_bind, ih, Activity.each]

end Recorded

end RadarRelay
