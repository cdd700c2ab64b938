import RadarRelay.Proofs.Activity.Dues
import RadarRelay.Proofs.Delivery.NoLoss
import RadarRelay.Proofs.Handing.Holding
import RadarRelay.Proofs.Rules.Building

/-!
# Who is at work on a node

The workers of all its publications, whoever posts or publishes files or stops a
publication, and others who leave queues and temporary files alone, are a crew over
the node. Everybody in it keeps to what is allowed where it stands.
-/

namespace RadarRelay

open Activity

/-! ## Starting publications -/

namespace Publication

/-- Starts publications one after the other. -/
def startAll : List PublicationPlan → Activity Outbound (Except Failure (List Publication))
  | [] => return .ok []
  | plan :: plans => do
      match ← start plan with
      | .error failure => return .error failure
      | .ok publication =>
          match ← startAll plans with
          | .error failure => return .error failure
          | .ok publications => return .ok (publication :: publications)

/-- A pool as it is started: open, with workers and with nothing to do. -/
def Fresh (pool : Pool) : Prop :=
  pool.queue = [] ∧ pool.closed = false ∧ 0 < pool.workers

variable {Memory : Type} {around : Surroundings Memory} {memory later : Memory}
  {outbound opened : Outbound}

theorem start_cases {plan : PublicationPlan} {publication : Publication}
    (started : (start plan).run around outbound memory = (.ok publication, opened, later)) :
    publication.id = outbound.pools.length ∧
      ∃ pool, Fresh pool ∧ opened = { outbound with pools := outbound.pools ++ [pool] } := by
  cases made : Pool.start plan.threads plan.queueSize with
  | error failure =>
      rw [start, made] at started
      cases started
  | ok pool =>
      rw [start, made] at started
      cases started
      refine ⟨rfl, pool, ?_, rfl⟩
      rw [Pool.eq_of_start made]
      exact ⟨rfl, rfl, Nat.lt_of_lt_of_le Nat.zero_lt_one (Nat.le_max_right ..)⟩

/-- Publications that are started one after the other have their numbers in this order. -/
theorem startAll_cases {plans : List PublicationPlan} {publications : List Publication}
    (started : (startAll plans).run around outbound memory = (.ok publications, opened, later)) :
    ∃ pools, opened = { outbound with pools := outbound.pools ++ pools } ∧
      publications.map Publication.id = List.range' outbound.pools.length pools.length ∧
      ∀ pool ∈ pools, Fresh pool := by
  induction plans generalizing outbound memory publications with
  | nil =>
      cases started
      exact ⟨[], by simp, rfl, nofun⟩
  | cons plan plans ih =>
      rw [startAll, Activity.run_bind] at started
      rcases first : (start plan).run around outbound memory with ⟨result, between, noted⟩
      rw [first] at started
      cases result with
      | error failure => cases started
      | ok publication =>
          obtain ⟨numbered, pool, fresh, rfl⟩ := start_cases first
          simp only [Activity.run_bind] at started
          rcases rest : (startAll plans).run around _ noted with ⟨result, last, ended⟩
          rw [rest] at started
          cases result with
          | error failure => cases started
          | ok others =>
              cases started
              obtain ⟨pools, same, ids, allFresh⟩ := ih rest
              refine ⟨pool :: pools, ?_, ?_, ?_⟩
              · simpa using same
              · simpa [List.range'_succ, numbered] using ids
              · exact List.forall_mem_cons.2 ⟨fresh, allFresh⟩

end Publication

/-! ## Seats -/

/-- What is asked of a node while its publications deliver. -/
inductive FileTask where
  | post (file : File) (origin : String)
  | publish (subscription : Option String) (file : File) (metadata : Metadata)
  | stop (publication : Publication)

namespace FileTask

/-- What is done; nothing follows it. -/
def activity : FileTask → Activity Node Bool
  | post file origin => do
      let _ ← Node.store file origin
      return false
  | publish subscription file metadata => do
      let _ ← Node.publish subscription file metadata
      return false
  | stop publication => do
      Node.onOutbound publication.stop
      return false

/-- The same with its record. -/
def traced : FileTask → Traced Node Bool
  | post file origin => do
      let _ ← Node.tracedStore file origin
      return false
  | publish subscription file metadata => do
      let _ ← Node.tracedPublish file subscription metadata
      return false
  | stop publication => do
      Node.tracedStop publication
      return false

theorem plain_traced (task : FileTask) : task.traced.plain = task.activity := by
  cases task with
  | post file origin =>
      rw [traced, activity, Recorded.plain_bind, Node.plain_tracedStore]
      rfl
  | publish subscription file metadata =>
      rw [traced, activity, Recorded.plain_bind, Node.plain_tracedPublish]
      rfl
  | stop publication =>
      rw [traced, activity, Recorded.plain_bind, Node.plain_tracedStop]
      rfl

end FileTask

/-- A place in the crew of a node. -/
inductive Seat where
  | worker (publication : Publication)
  | caller (task : FileTask)
  /-- Somebody who leaves queues and temporary files alone. -/
  | other (activity : Activity Node Bool)

namespace Seat

/-- One turn of whoever has the seat. -/
def activity : Seat → Activity Node Bool
  | worker publication => Node.onOutbound publication.work
  | caller task => task.activity
  | other activity => activity

/-- The same with its record. -/
def traced : Seat → Traced Node Bool
  | worker publication => Node.tracedWork publication
  | caller task => task.traced
  | other activity => .silent activity

/-- Where whoever has the seat stands at first. -/
def holder : Seat → Holder
  | worker publication => .worker publication.id .idle
  | _ => .caller .new

theorem plain_traced (seat : Seat) : seat.traced.plain = seat.activity := by
  cases seat with
  | worker publication => exact Node.plain_tracedWork publication
  | caller task => exact task.plain_traced
  | other activity => exact Recorded.plain_silent activity

/-- Where the members of a crew stand at first. -/
def starts (seats : List Seat) (member : Nat) : Holder :=
  (seats[member]?.map holder).getD (.caller .new)

end Seat

namespace Node

/-- The workers of publications, those who have tasks, and others. -/
def seats (node : Node) (publications : List Publication) (tasks : List FileTask)
    (others : List (Activity Node Bool)) : List Seat :=
  publications.flatMap (fun publication =>
      List.replicate (node.outbound.pool publication.id).workers (.worker publication)) ++
    (tasks.map .caller ++ others.map .other)

/-- The crew of a node before the first step. -/
def manned (node : Node) (seats : List Seat) :
    Crew Node (Option Outcome × Option FileEntry) where
  state := node
  members := seats.map fun seat => .new seat.traced
  log := []

/-- Without the record, everybody does what the seat is for. -/
theorem members_forget_manned (node : Node) (seats : List Seat) :
    (node.manned seats).forget.members = seats.map fun seat => .new (.silent seat.activity) := by
  have withoutRecord (seat : Seat) : seat.traced.plain = seat.activity := seat.plain_traced
  simp only [manned, Crew.forget, List.map_map, Member.new, Member.forget, Function.comp_def,
    withoutRecord]

variable {start : Nat → Holder}

theorem follows_task (task : FileTask) :
    task.traced.Follows (fileProtocol start) waiting
      (fun later again => later.Rests ∧ again = false) (.caller .new) := by
  have rests : (Holder.caller .new).Rests := rfl
  cases task with
  | post file origin =>
      apply Recorded.follows_bind (follows_tracedStore file origin rests)
      intro later _ rests
      exact ⟨rests, rfl⟩
  | publish subscription file metadata =>
      apply Recorded.follows_bind (follows_tracedPublish file metadata subscription rests)
      intro later _ rests
      exact ⟨rests, rfl⟩
  | stop publication =>
      apply Recorded.follows_bind_to (follows_tracedStop publication rests)
      intro _
      exact ⟨rests, rfl⟩

/-- Everybody keeps to what is allowed, provided that others leave queues and temporary files
alone. -/
theorem obeys_manned (node : Node) {seats : List Seat}
    (apart : ∀ activity, Seat.other activity ∈ seats → activity.Keeps stock) :
    (node.manned seats).Obeys (fileProtocol (Seat.starts seats)) waiting := by
  intro index member chosen
  obtain ⟨seat, sits, rfl⟩ :
      ∃ seat, seats[index]? = some seat ∧ Member.new seat.traced = member := by
    simpa [manned] using chosen
  have stands : Protocol.phase (fileProtocol (Seat.starts seats)) index [] = seat.holder := by
    show Seat.starts seats index = seat.holder
    rw [Seat.starts, sits]
    rfl
  show Member.Obeys _ _ (Protocol.phase _ index []) _
  rw [stands]
  cases seat with
  | worker publication =>
      refine Member.obeys_new _ ?_ (follows_tracedWork publication) ?_
      · rintro _ again ⟨standing, rfl, ends⟩
        exact ends
      · rintro _ ⟨standing, rfl, ends⟩
        -- Another turn begins where the first one has begun.
        rcases ends with ⟨rfl, _⟩ | ⟨_, never⟩
        · exact follows_tracedWork publication
        · cases never
  | caller task =>
      refine Member.obeys_new _ ?_ (follows_task task) ?_
      · intro later again ends
        cases later with
        | worker => cases ends.1
        | caller handling => exact ends.1
      · intro later ends
        cases ends.2
  | other activity =>
      have kept := apart activity (List.mem_of_getElem? sits)
      refine Member.obeys_new _ ?_ (follows_keepingStock kept) ?_
      · rintro _ again rfl
        exact rfl
      · rintro _ rfl
        exact follows_keepingStock kept

end Node

end RadarRelay
