import RadarRelay.Delivery.Connection
import RadarRelay.Delivery.Pool
import RadarRelay.Filter.Match
import RadarRelay.Statistics.Increment

/-!
# Publications

A publication is an outbound routing rule with a delivery pool of its own. The
rule never changes once the publication has been started; its pool does, and is
kept in the outbound state under the number of the publication.
-/

namespace RadarRelay

open RadarRelay.Number RadarRelay.Text

/-- What delivery changes: the pools of all publications ever started, the temporary files that
exist, and the storages that senders can use. -/
structure Outbound where
  pools : List Pool
  disk : Disk
  storages : StorageRegistry
  deriving DecidableEq, Repr

namespace Outbound

def empty : Outbound := ⟨[], .empty, .empty⟩

/-- The pool of a publication. -/
def pool (outbound : Outbound) (publication : Nat) : Pool :=
  outbound.pools[publication]?.getD .gone

/-- Replaces the pool of a publication. -/
def setPool (outbound : Outbound) (publication : Nat) (pool : Pool) : Outbound :=
  { outbound with pools := outbound.pools.set publication pool }

variable {Result : Type}

/-- An activity over the disk alone. -/
def onDisk (activity : Activity Disk Result) : Activity Outbound Result :=
  activity.within Outbound.disk fun outbound disk => { outbound with disk }

/-- An activity over the storages alone. -/
def onStorages (activity : Activity StorageRegistry Result) : Activity Outbound Result :=
  activity.within Outbound.storages fun outbound storages => { outbound with storages }

/-- Changes one pool at once. -/
def onPool (publication : Nat) (action : Pool → Result × Pool) : Activity Outbound Result :=
  Activity.atomically fun outbound =>
    let (result, pool) := action (outbound.pool publication)
    (result, outbound.setPool publication pool)

@[simp] theorem pool_setPool_of_ne (outbound : Outbound) {publication other : Nat}
    (different : other ≠ publication) (pool : Pool) :
    (outbound.setPool publication pool).pool other = outbound.pool other := by
  simp [setPool, Outbound.pool, List.getElem?_set_ne (Ne.symm different)]

@[simp] theorem setPool_pool (outbound : Outbound) (publication : Nat) :
    outbound.setPool publication (outbound.pool publication) = outbound := by
  by_cases started : publication < outbound.pools.length
  · simp [setPool, Outbound.pool, started]
  · rw [setPool, List.set_eq_of_length_le (Nat.le_of_not_lt started)]

@[simp] theorem length_pools_setPool (outbound : Outbound) (publication : Nat) (pool : Pool) :
    (outbound.setPool publication pool).pools.length = outbound.pools.length :=
  List.length_set

theorem pool_setPool_self (outbound : Outbound) {publication : Nat}
    (started : publication < outbound.pools.length) (pool : Pool) :
    (outbound.setPool publication pool).pool publication = pool := by
  simp [setPool, Outbound.pool, started]

end Outbound

/-- What a publication is started from. -/
structure PublicationPlan where
  name : String
  active : Bool
  /-- Subscriptions whose files are accepted; all when there are none. -/
  origins : List String
  filter : Filter
  stages : List Stage
  connection : Connection
  threads : Nat
  queueSize : Nat
  statisticsOk : List Hook
  statisticsError : List Hook

/-- A plan that accepts every file and delivers it as it is. A publication always has a name. -/
def PublicationPlan.new (name : String) (connection : Connection) : PublicationPlan where
  name := if name = "" then "unknown" else name
  active := true
  origins := []
  filter := .always
  stages := []
  connection
  threads := 1
  queueSize := 100
  statisticsOk := []
  statisticsError := []

/-- A publication that has been started. -/
structure Publication where
  /-- The number of its pool. -/
  id : Nat
  name : String
  active : Bool
  origins : List String
  filter : Filter
  stages : List Stage
  connection : Connection
  capacity : Nat
  statisticsOk : List Hook
  statisticsError : List Hook

namespace Publication

/-- Starts a publication under the next number. -/
def start (plan : PublicationPlan) : Activity Outbound (Except Failure Publication) :=
  match Pool.start plan.threads plan.queueSize with
  | .error failure => return .error failure
  | .ok pool =>
      Activity.atomically fun outbound =>
        (.ok
          { id := outbound.pools.length
            name := plan.name
            active := plan.active
            origins := plan.origins
            filter := plan.filter
            stages := plan.stages
            connection := plan.connection
            capacity := pool.capacity
            statisticsOk := plan.statisticsOk
            statisticsError := plan.statisticsError },
          { outbound with pools := outbound.pools ++ [pool] })

/-- How many files wait in the queue. -/
def queued (publication : Publication) (outbound : Outbound) : Nat :=
  (outbound.pool publication.id).queue.length

def isStopped (publication : Publication) (outbound : Outbound) : Bool :=
  (outbound.pool publication.id).stopped

/-- Whether the workers have been told to leave. -/
def isSignalled (publication : Publication) (outbound : Outbound) : Bool :=
  (outbound.pool publication.id).signalled

/-- Whether files of an origin are accepted. Without an origin only a publication that accepts all
origins does. -/
def permits (publication : Publication) (origin : Option String) : Bool :=
  publication.origins.isEmpty ||
    match origin with
    | some origin => publication.origins.contains origin
    | none => false

/-- Whether a file should be handed to the publication. -/
def eligible {State : Type} (publication : Publication) (origin : Option String)
    (metadata : Metadata) : Activity State Bool :=
  if publication.active && publication.permits origin then
    publication.filter.compile.check metadata
  else return false

/-- A publication in a report. -/
def report (publication : Publication) : String :=
  "Publication \x7b name: " ++ quoted publication.name ++
    ", active: " ++ Event.boolText publication.active ++
    ", origins: " ++ quotedList publication.origins ++
    ", filter: " ++ quoted publication.filter.compile.render ++
    ", decorators: " ++ natText publication.stages.length ++
    ", connection: " ++ quoted publication.connection.kind ++
    ", queue_capacity: " ++ natText publication.capacity ++ " \x7d"

end Publication

end RadarRelay
