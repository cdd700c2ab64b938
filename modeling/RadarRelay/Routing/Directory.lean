import RadarRelay.Routing.Subscription

/-!
# Directory of subscriptions

The directory keeps subscriptions in the order of their registration and counts
its changes. It is a value, so whoever holds one sees no later change.
Subscriptions without an id are never taken for one another.
-/

namespace RadarRelay

structure Directory where
  version : Nat
  subscriptions : List Subscription

namespace Directory

def empty : Directory := ⟨0, []⟩

/-- A directory that has not been changed yet. -/
def ofList (subscriptions : List Subscription) : Directory := ⟨0, subscriptions⟩

/-- Whether there is a subscription of an id. -/
def has (directory : Directory) (id : String) : Bool :=
  directory.subscriptions.any fun subscription => subscription.id == some id

/-- Puts a subscription in the place of the first one with its id. -/
def replaceFirst (id : String) (subscription : Subscription) :
    List Subscription → List Subscription
  | [] => []
  | other :: rest =>
      if other.id = some id then subscription :: rest
      else other :: replaceFirst id subscription rest

/-- Adds a subscription, in the place of one with its id if there is one; says whether there was. -/
def add (directory : Directory) (subscription : Subscription) : Bool × Directory :=
  let appended := directory.subscriptions ++ [subscription]
  match subscription.id with
  | none => (false, ⟨directory.version + 1, appended⟩)
  | some id =>
      if directory.has id then
        (true, ⟨directory.version + 1, replaceFirst id subscription directory.subscriptions⟩)
      else (false, ⟨directory.version + 1, appended⟩)

/-- Removes the subscriptions with an id; says whether there were any. -/
def remove (directory : Directory) (id : String) : Bool × Directory :=
  (directory.has id,
    ⟨directory.version + 1,
      directory.subscriptions.filter fun subscription => subscription.id != some id⟩)

/-- Replaces every subscription at once. -/
def replaceAll (directory : Directory) (subscriptions : List Subscription) : Directory :=
  ⟨directory.version + 1, subscriptions⟩

/-- Whether some active subscription lets duplicates through. -/
def anyAllowsDuplicates (directory : Directory) : Bool :=
  directory.subscriptions.any fun subscription =>
    subscription.active && subscription.allowDuplicates

/-- Adds a subscription and reports it. -/
def register (subscription : Subscription) : Activity Directory Bool := do
  let replaced ← Activity.atomically fun directory => directory.add subscription
  Activity.note "subscription_add" "subscription_directory"
    [ ("subscription", subscription.id.getD ""),
      ("replaced", Event.boolText replaced) ]
  return replaced

/-- Removes a subscription and reports it. -/
def unregister (id : String) : Activity Directory Bool := do
  let removed ← Activity.atomically fun directory => directory.remove id
  Activity.note "subscription_remove" "subscription_directory"
    [("subscription", id), ("removed", Event.boolText removed)]
  return removed

@[simp] theorem version_add (directory : Directory) (subscription : Subscription) :
    (directory.add subscription).2.version = directory.version + 1 := by
  unfold add
  cases subscription.id with
  | none => rfl
  | some id => simp only; split <;> rfl

@[simp] theorem version_remove (directory : Directory) (id : String) :
    (directory.remove id).2.version = directory.version + 1 := rfl

theorem has_remove_self (directory : Directory) (id : String) :
    (directory.remove id).2.has id = false := by
  simp [remove, has]

end Directory

end RadarRelay
