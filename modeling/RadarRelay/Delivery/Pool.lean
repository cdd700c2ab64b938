import RadarRelay.Delivery.Chain

/-!
# Delivery pools

A pool is a queue of bounded length with workers that take files from it, oldest
first. A pool that is stopped first turns new files away and then tells its
workers to leave. Each worker ends its delivery before it does so; with the last
one the queue is closed and what still waits in it is abandoned.
-/

namespace RadarRelay

/-- What became of a file that was handed to a publication. -/
inductive Outcome where
  | queued
  /-- A decorator discarded the file. -/
  | discarded
  /-- A decorator failed. -/
  | decorationFailed
  /-- The queue had no room; the file was dropped. -/
  | queueFull
  /-- The publication has been stopped. -/
  | stopped
  deriving DecidableEq, Repr

structure Pool where
  capacity : Nat
  /-- Workers that have not left. -/
  workers : Nat
  /-- Files that wait, oldest first. -/
  queue : List Parcel
  /-- Files in delivery. -/
  delivering : List Parcel
  /-- No file is to be accepted any more. -/
  stopped : Bool
  /-- The workers have been told to leave. -/
  signalled : Bool
  /-- The last worker has left. -/
  closed : Bool
  deriving DecidableEq, Repr

namespace Pool

/-- No queue can be longer. -/
def greatestCapacity : Nat := Number.nat64Max / 8

/-- There cannot be more workers: each takes 72 bytes, and no memory is larger than 2^63 - 1
bytes. -/
def greatestThreads : Nat := 0x7fff_ffff_ffff_ffff / 72

/-- A pool with at least one worker and room for at least one file. Sizes beyond all bounds
crash. -/
def start (threads queueSize : Nat) : Except Failure Pool :=
  let capacity := max queueSize 1
  let workers := max threads 1
  if capacity ≤ greatestCapacity ∧ workers ≤ greatestThreads then
    .ok ⟨capacity, workers, [], [], false, false, false⟩
  else .error .crash

/-- A pool that has been started has nothing to do yet. -/
theorem eq_of_start {threads queueSize : Nat} {pool : Pool}
    (started : start threads queueSize = .ok pool) :
    pool = ⟨max queueSize 1, max threads 1, [], [], false, false, false⟩ := by
  rw [start] at started
  split at started
  · exact (Except.ok.inj started).symm
  · cases started

/-- A pool that has long been stopped. -/
def gone : Pool := ⟨1, 0, [], [], true, true, true⟩

/-- Puts a file into the queue if the queue is open and has room. -/
def offer (pool : Pool) (parcel : Parcel) : Outcome × Pool :=
  if pool.closed then (.stopped, pool)
  else if pool.capacity ≤ pool.queue.length then (.queueFull, pool)
  else (.queued, { pool with queue := pool.queue ++ [parcel] })

/-- A worker takes the oldest file. -/
def take (pool : Pool) : Option Parcel × Pool :=
  match pool.queue with
  | [] => (none, pool)
  | parcel :: rest =>
      (some parcel, { pool with queue := rest, delivering := pool.delivering ++ [parcel] })

/-- A worker is done with a file. -/
def finish (pool : Pool) (parcel : Parcel) : Pool :=
  { pool with
    delivering := pool.delivering.filter fun other => other.file.serial != parcel.file.serial }

/-- Stops the pool; says whether this is the first time. -/
def halt (pool : Pool) : Bool × Pool :=
  (!pool.stopped, { pool with stopped := true })

/-- Tells the workers to leave. -/
def signal (pool : Pool) : Pool :=
  { pool with signalled := true }

/-- A worker leaves. The last one closes the queue; the files that waited in it are given back. -/
def leave (pool : Pool) : List Parcel × Pool :=
  if pool.workers = 1 then (pool.queue, { pool with workers := 0, queue := [], closed := true })
  else ([], { pool with workers := pool.workers - 1 })

/-- How many workers are not delivering. -/
def idle (pool : Pool) : Nat :=
  pool.workers - pool.delivering.length

/-- Whether some worker could take a file. -/
def canTake (pool : Pool) : Bool :=
  !pool.signalled && 0 < pool.idle && !pool.queue.isEmpty

/-- A file is turned away when the queue is closed, else dropped when there is no room, else it
waits behind all others. -/
theorem offer_cases (pool : Pool) (parcel : Parcel) :
    (pool.closed = true ∧ pool.offer parcel = (.stopped, pool)) ∨
      (pool.closed = false ∧ pool.capacity ≤ pool.queue.length ∧
        pool.offer parcel = (.queueFull, pool)) ∨
      (pool.closed = false ∧ pool.queue.length < pool.capacity ∧
        pool.offer parcel = (.queued, { pool with queue := pool.queue ++ [parcel] })) := by
  cases closed : pool.closed with
  | true => simp [offer, closed]
  | false =>
      by_cases full : pool.capacity ≤ pool.queue.length
      · simp [offer, closed, full]
      · simp [offer, closed, full, Nat.lt_of_not_le full]

@[simp] theorem signalled_offer (pool : Pool) (parcel : Parcel) :
    (pool.offer parcel).2.signalled = pool.signalled := by
  rcases pool.offer_cases parcel with ⟨_, offer⟩ | ⟨_, _, offer⟩ | ⟨_, _, offer⟩ <;> rw [offer]

theorem length_queue_offer_le {pool : Pool} (parcel : Parcel)
    (bounded : pool.queue.length ≤ pool.capacity) :
    (pool.offer parcel).2.queue.length ≤ (pool.offer parcel).2.capacity := by
  unfold offer
  split
  · exact bounded
  · split
    · exact bounded
    · simp
      omega

/-- The file that is taken is the oldest one. -/
theorem take_of_some {pool : Pool} {parcel : Parcel} (taken : pool.take.1 = some parcel) :
    pool.queue = parcel :: pool.take.2.queue := by
  cases waiting : pool.queue with
  | nil => simp [take, waiting] at taken
  | cons oldest rest =>
      obtain rfl : oldest = parcel := by simpa [take, waiting] using taken
      simp [take, waiting]

/-- Taking a file only changes which files wait and which are delivered. -/
theorem take_eq (pool : Pool) :
    pool.take.2 = { pool with queue := pool.take.2.queue, delivering := pool.take.2.delivering } := by
  obtain ⟨capacity, workers, queue, delivering, stopped, signalled, closed⟩ := pool
  cases queue with
  | nil | cons => rfl

theorem leave_of_last {pool : Pool} (last : pool.workers = 1) :
    pool.leave = (pool.queue, { pool with workers := 0, queue := [], closed := true }) :=
  if_pos last

theorem leave_of_not_last {pool : Pool} (more : pool.workers ≠ 1) :
    pool.leave = ([], { pool with workers := pool.workers - 1 }) :=
  if_neg more

/-- Nothing changes when there is nothing to take. -/
theorem take_of_none {pool : Pool} (empty : pool.take.1 = none) : pool.take.2 = pool := by
  cases waiting : pool.queue with
  | nil => simp [take, waiting]
  | cons parcel rest => simp [take, waiting] at empty

/-- Files leave the queue in the order in which they entered it. -/
theorem queue_take (pool : Pool) :
    pool.take.1.toList ++ pool.take.2.queue = pool.queue := by
  cases waiting : pool.queue with
  | nil | cons => simp [take, waiting]

end Pool

end RadarRelay
