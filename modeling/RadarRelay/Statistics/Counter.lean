import RadarRelay.Metadata.Basic

/-!
# Counters

A counter records events in memory: how many there were per origin, or the id
of each file, or both.
-/

namespace RadarRelay

/-- What a counter records of an event. -/
inductive CountMode where
  | count
  | add
  | both
  deriving DecidableEq, Repr

namespace CountMode

def all : List CountMode := [count, add, both]

def name : CountMode → String
  | count => "count"
  | add => "add"
  | both => "both"

/-- Whether events are counted. -/
def counts : CountMode → Bool
  | add => false
  | _ => true

/-- Whether events are listed. -/
def saves : CountMode → Bool
  | count => false
  | _ => true

end CountMode

structure Counter where
  id : String
  mode : CountMode
  /-- Origins in the order of their first event, with the number of their events. -/
  counts : List (String × Nat)
  /-- File ids, oldest first. -/
  entries : List String
  deriving DecidableEq, Repr

namespace Counter

def new (id : String) (mode : CountMode) : Counter := ⟨id, mode, [], []⟩

/-- Adds one to the count of an origin. -/
def bump (origin : String) : List (String × Nat) → List (String × Nat)
  | [] => [(origin, 1)]
  | (other, number) :: rest =>
      if origin = other then (other, number + 1) :: rest else (other, number) :: bump origin rest

/-- The number of events of an origin. -/
def count (counter : Counter) (origin : String) : Nat :=
  (counter.counts.lookup origin).getD 0

/-- The number of events of all origins. -/
def total (counter : Counter) : Nat :=
  counter.counts.foldr (fun count total => count.2 + total) 0

/-- Records one event. -/
def increment (counter : Counter) (origin : String) (metadata : Metadata) : Counter :=
  { counter with
    counts := if counter.mode.counts then bump origin counter.counts else counter.counts
    entries :=
      if counter.mode.saves then counter.entries ++ [metadata.fileId] else counter.entries }

theorem sum_bump (origin : String) (counts : List (String × Nat)) :
    (bump origin counts).foldr (fun count total => count.2 + total) 0 =
      counts.foldr (fun count total => count.2 + total) 0 + 1 := by
  induction counts with
  | nil => simp [bump]
  | cons entry rest ih =>
      simp only [bump]
      split <;> simp_all <;> omega

/-- An event that is counted adds one to the total. -/
theorem total_increment (counter : Counter) (origin : String) (metadata : Metadata) :
    (counter.increment origin metadata).total =
      counter.total + if counter.mode.counts then 1 else 0 := by
  unfold total increment
  split <;> simp_all [sum_bump]

end Counter

end RadarRelay
