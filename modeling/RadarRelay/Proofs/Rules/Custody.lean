import RadarRelay.Node.Control
import RadarRelay.Proofs.Activity.Retold
import RadarRelay.Proofs.Delivery.Workforce
import RadarRelay.Proofs.Rules.Building

/-!
# Custody of publications

Publications are added, replaced and removed by calls that a node handles at the
same time. Whoever takes a publication out of the registry has it in custody until
it has been stopped. Recorded is when publications are started, enter and leave
the registry, and are stopped; the protocol says what a call that stands somewhere
may do next to the registry and to the publications that run.
-/

namespace RadarRelay

open Activity

/-- What is recorded of the publications of a node. -/
inductive CustodyEntry where
  /-- A publication has been started and is not registered yet. -/
  | started (publication : Publication)
  /-- A publication was registered, in the place of another one if there was one of its name. -/
  | registered (publication : Publication) (replaced : Option Publication)
  | removed (name : String) (publication : Option Publication)
  | drained (publications : List Publication)
  /-- A publication was marked as stopped; whether for the first time. -/
  | halted (publication : Publication) (first : Bool)
  /-- The workers of a publication have left, and whoever stopped it goes on. -/
  | stopped (publication : Publication)

/-- What stopping a publication is recorded as by a node. -/
def CustodyEntry.ofStop (publication : Publication) : DeliveryEntry → Option CustodyEntry
  | .halted first => some (halted publication first)
  | .joined => some (stopped publication)
  | _ => none

namespace Node

variable {Result : Type}

/-! ## Recorded control -/

/-- An activity over the outbound state alone, with its record. -/
def recordedOnOutbound (recorded : Recorded Outbound CustodyEntry Result) :
    Recorded Node CustodyEntry Result :=
  recorded.within Node.outbound fun node outbound => { node with outbound }

/-- `onRegistry` with its result recorded. -/
def recordedOnRegistry (action : PublicationRegistry → Result × PublicationRegistry)
    (entry : Result → CustodyEntry) : Recorded Node CustodyEntry Result :=
  .atomically
    (fun node => ((action node.registry).1, { node with registry := (action node.registry).2 }))
    fun result => some (entry result)

/-- Stopping a publication of the node, with its record. -/
def recordedStop (publication : Publication) : Recorded Node CustodyEntry Unit :=
  recordedOnOutbound (publication.recordedStop.retell (CustodyEntry.ofStop publication))

/-- `addPublication` with its record. -/
def recordedAdd (publication : Publication) : Recorded Node CustodyEntry Bool := do
  let replaced ← recordedOnRegistry (·.insert publication) (.registered publication)
  .silent <| note (if replaced.isSome then "publication_replace" else "publication_add")
    "publication_registry"
    [ ("publication", publication.name),
      ("connection", publication.connection.kind),
      ("active", Event.boolText publication.active) ]
  match replaced with
  | some earlier =>
      recordedStop earlier
      return true
  | none => return false

/-- `removePublication` with its record. -/
def recordedRemove (name : String) : Recorded Node CustodyEntry Bool := do
  let removed ← recordedOnRegistry (·.remove name) (.removed name)
  .silent <| note "publication_remove" "publication_registry"
    [("publication", name), ("removed", Event.boolText removed.isSome)]
  match removed with
  | some publication =>
      recordedStop publication
      return true
  | none => return false

/-- `Publication.start` with its record. -/
def recordedStart (plan : PublicationPlan) :
    Recorded Outbound CustodyEntry (Except Failure Publication) :=
  match Pool.start plan.threads plan.queueSize with
  | .error failure => return .error failure
  | .ok pool =>
      .act (fun outbound => { outbound with pools := outbound.pools ++ [pool] })
        (fun outbound => some (.started (plan.opened outbound.pools.length pool.capacity)))
        fun outbound => .done (.ok (plan.opened outbound.pools.length pool.capacity))

/-- `applyPublication` with its record. -/
def recordedApplyPublication (config : Config.Publication) :
    Recorded Node CustodyEntry (Except Failure Bool) := do
  let node ← .silent look
  match ← .silent (onOutbound (node.plugins.planPublication config)) with
  | .error error => return .error (.error error)
  | .ok plan =>
      match ← recordedOnOutbound (recordedStart plan) with
      | .error failure => return .error failure
      | .ok publication => return .ok (← recordedAdd publication)

/-- `shutdown` with its record. -/
def recordedShutdown : Recorded Node CustodyEntry Unit := do
  let node ← .silent look
  .silent <| note "node_shutdown" "exchange_node"
    [ ("node", node.config.name),
      ("publications", Number.natText node.registry.publications.length) ]
  let publications ← recordedOnRegistry PublicationRegistry.drain .drained
  .each recordedStop publications
  .silent (onProcessors ProcessorRegistry.stopAll)

theorem plain_recordedOnOutbound (recorded : Recorded Outbound CustodyEntry Result) :
    (recordedOnOutbound recorded).plain = onOutbound recorded.plain :=
  Recorded.plain_within _ _ recorded

theorem plain_recordedStop (publication : Publication) :
    (recordedStop publication).plain = onOutbound publication.stop := by
  rw [recordedStop, plain_recordedOnOutbound, Recorded.plain_retell,
    publication.plain_recordedStop]

theorem plain_recordedAdd (publication : Publication) :
    (recordedAdd publication).plain = addPublication publication := by
  rw [recordedAdd, addPublication, Recorded.plain_bind]
  congr 1; funext replaced
  rw [Recorded.plain_bind, Recorded.plain_silent]
  congr 1; funext _
  cases replaced with
  | none => rfl
  | some earlier => rw [Recorded.plain_bind, plain_recordedStop]; rfl

theorem plain_recordedRemove (name : String) :
    (recordedRemove name).plain = removePublication name := by
  rw [recordedRemove, removePublication, Recorded.plain_bind]
  congr 1; funext removed
  rw [Recorded.plain_bind, Recorded.plain_silent]
  congr 1; funext _
  cases removed with
  | none => rfl
  | some publication => rw [Recorded.plain_bind, plain_recordedStop]; rfl

theorem plain_recordedStart (plan : PublicationPlan) :
    (recordedStart plan).plain = Publication.start plan := by
  rw [recordedStart, Publication.start]
  cases Pool.start plan.threads plan.queueSize with
  | error | ok => rfl

theorem plain_recordedApplyPublication (config : Config.Publication) :
    (recordedApplyPublication config).plain = applyPublication config := by
  rw [recordedApplyPublication, applyPublication, Recorded.plain_bind, Recorded.plain_silent]
  congr 1; funext node
  rw [Recorded.plain_bind, Recorded.plain_silent, Plugins.buildPublication, onOutbound, onOutbound,
    within_bind, bind_assoc]
  congr 1; funext planned
  cases planned with
  | error error => rfl
  | ok plan =>
      rw [Recorded.plain_bind, plain_recordedOnOutbound, plain_recordedStart]
      show onOutbound (Publication.start plan) >>= _ = onOutbound (Publication.start plan) >>= _
      congr 1; funext started
      cases started with
      | error failure => rfl
      | ok publication => rw [Recorded.plain_bind, plain_recordedAdd]; rfl

theorem plain_recordedShutdown : recordedShutdown.plain = shutdown := by
  simp only [recordedShutdown, shutdown, Recorded.plain_bind, Recorded.plain_silent,
    Recorded.plain_each, plain_recordedStop]
  rfl

end Node

/-! ## The crew -/

/-- What may be asked of a node that concerns its publications. -/
inductive PublicationCall where
  /-- Start a publication and add it. -/
  | add (plan : PublicationPlan)
  /-- Apply a configured rule. -/
  | apply (rule : Config.Rule)
  | remove (name : String)
  | shutdown

namespace PublicationCall

/-- What is done for a call; nothing follows it. -/
def activity : PublicationCall → Activity Node Bool
  | add plan => do
      match ← Node.onOutbound (Publication.start plan) with
      | .error _ => return false
      | .ok publication =>
          let _ ← Node.addPublication publication
          return false
  | apply rule => do
      let _ ← Node.apply rule
      return false
  | remove name => do
      let _ ← Node.removePublication name
      return false
  | shutdown => do
      Node.shutdown
      return false

/-- The same with its record. -/
def recorded : PublicationCall → Recorded Node CustodyEntry Bool
  | add plan => do
      match ← Node.recordedOnOutbound (Node.recordedStart plan) with
      | .error _ => return false
      | .ok publication =>
          let _ ← Node.recordedAdd publication
          return false
  | apply (.subscription config) => do
      let _ ← .silent (Node.applySubscription config)
      return false
  | apply (.publication config) => do
      let _ ← Node.recordedApplyPublication config
      return false
  | remove name => do
      let _ ← Node.recordedRemove name
      return false
  | shutdown => do
      Node.recordedShutdown
      return false

theorem plain_recorded (call : PublicationCall) : call.recorded.plain = call.activity := by
  cases call with
  | add plan =>
      rw [recorded, activity, Recorded.plain_bind, Node.plain_recordedOnOutbound,
        Node.plain_recordedStart]
      congr 1; funext started
      cases started with
      | error failure => rfl
      | ok publication => rw [Recorded.plain_bind, Node.plain_recordedAdd]; rfl
  | apply rule =>
      cases rule with
      | subscription config => rw [recorded, Recorded.plain_bind, Recorded.plain_silent]; rfl
      | publication config =>
          rw [recorded, Recorded.plain_bind, Node.plain_recordedApplyPublication]; rfl
  | remove name => rw [recorded, Recorded.plain_bind, Node.plain_recordedRemove]; rfl
  | shutdown => rw [recorded, Recorded.plain_bind, Node.plain_recordedShutdown]; rfl

end PublicationCall

namespace Node

/-- A node without publications that has calls to handle while others are at work, before the
first step. -/
def attended (node : Node) (calls : List PublicationCall) (others : List (Activity Node Bool)) :
    Crew Node CustodyEntry where
  state := { node with registry := .empty }
  members := calls.map (fun call => .new call.recorded) ++
    others.map fun other => .new (.silent other)
  log := []

/-- Without the record, the calls are handled and the others do what they do. -/
theorem members_forget_attended (node : Node) (calls : List PublicationCall)
    (others : List (Activity Node Bool)) :
    (node.attended calls others).forget.members =
      (calls.map PublicationCall.activity ++ others).map
        fun activity => .new (.silent activity) := by
  simp only [attended, Crew.forget, List.map_append, List.map_map, Member.new, Member.forget,
    Function.comp_def, Recorded.plain_silent, PublicationCall.plain_recorded]

end Node

/-! ## The protocol -/

/-- What of a node concerns its publications. -/
structure Holdings where
  registry : PublicationRegistry
  /-- Of every publication ever started, whether it has been stopped. -/
  stopped : List Bool

/-- Whether a publication has been stopped. -/
def Holdings.isStopped (holdings : Holdings) (publication : Publication) : Bool :=
  holdings.stopped[publication.id]?.getD true

def Node.holdings (node : Node) : Holdings :=
  ⟨node.registry, node.outbound.pools.map Pool.stopped⟩

/-- Where a member of the crew stands. -/
inductive Custody where
  /-- A call that has these publications to stop, one after the other. -/
  | owing (publications : List Publication)
  /-- A call that has started a publication. -/
  | bringing (publication : Publication)
  /-- A call that waits for the workers of a publication to leave. -/
  | awaiting (publication : Publication) (later : List Publication)
  /-- Somebody who does nothing to the publications. -/
  | bystander

/-- Where an entry takes the member who leaves it. -/
def Custody.after : Custody → CustodyEntry → Custody
  | _, .started publication => bringing publication
  | _, .registered _ replaced => owing replaced.toList
  | _, .removed _ publication => owing publication.toList
  | _, .drained publications => owing publications
  | owing (_ :: later), .halted publication first =>
      if first then awaiting publication later else owing later
  | awaiting _ later, .stopped _ => owing later
  | custody, _ => custody

/-- Which step may follow where a member stands, and what it does. -/
inductive CustodyStep : Custody → Holdings → Option CustodyEntry → Holdings → Prop where
  | silent {custody : Custody} {holdings after : Holdings} :
      after = holdings → CustodyStep custody holdings none after
  | started {holdings : Holdings} (publication : Publication) :
      publication.id = holdings.stopped.length →
      CustodyStep (.owing []) holdings (some (.started publication))
        { holdings with stopped := holdings.stopped ++ [false] }
  | registered {holdings : Holdings} (publication : Publication) :
      CustodyStep (.bringing publication) holdings
        (some (.registered publication (holdings.registry.insert publication).1))
        { holdings with registry := (holdings.registry.insert publication).2 }
  | removed {holdings : Holdings} (name : String) :
      CustodyStep (.owing []) holdings (some (.removed name (holdings.registry.remove name).1))
        { holdings with registry := (holdings.registry.remove name).2 }
  | drained {holdings : Holdings} :
      CustodyStep (.owing []) holdings (some (.drained holdings.registry.drain.1))
        { holdings with registry := holdings.registry.drain.2 }
  | halted {holdings : Holdings} (publication : Publication) (later : List Publication) :
      CustodyStep (.owing (publication :: later)) holdings
        (some (.halted publication (!holdings.isStopped publication)))
        { holdings with stopped := holdings.stopped.set publication.id true }
  | stopped {holdings : Holdings} (publication : Publication) (later : List Publication) :
      CustodyStep (.awaiting publication later) holdings (some (.stopped publication)) holdings

/-- What the members of a node's crew keep to; calls come first in the crew. -/
def custody (calls : Nat) : Protocol Node CustodyEntry Custody where
  start member := if member < calls then .owing [] else .bystander
  advance := .after
  Allows phase node entry after := CustodyStep phase node.holdings entry after.holdings
  Ends
    | .owing [], again => again = false
    | .bystander, _ => True
    | _, _ => False

/-! ## Everybody keeps to the protocol -/

/-- What does not stop a pool, nor make it run again, is not seen. -/
theorem Outbound.map_stopped_setPool (outbound : Outbound) {id : Nat} {pool : Pool}
    (same : pool.stopped = (outbound.pool id).stopped) :
    (outbound.setPool id pool).pools.map Pool.stopped = outbound.pools.map Pool.stopped :=
  calc (outbound.setPool id pool).pools.map Pool.stopped
    _ = (outbound.pools.map Pool.stopped).set id pool.stopped := List.map_set
    _ = (outbound.setPool id (outbound.pool id)).pools.map Pool.stopped := by
        rw [same, setPool, List.map_set]
    _ = outbound.pools.map Pool.stopped := by rw [setPool_pool]

namespace Node

theorem isStopped_holdings (node : Node) (publication : Publication) :
    node.holdings.isStopped publication = publication.isStopped node.outbound := by
  rw [Holdings.isStopped, holdings, List.getElem?_map, Publication.isStopped, Outbound.pool]
  cases node.outbound.pools[publication.id]? with
  | none | some => rfl

theorem holdings_halt (node : Node) (id : Nat) :
    { node with outbound := node.outbound.setPool id (node.outbound.pool id).halt.2 }.holdings =
      { node.holdings with stopped := node.holdings.stopped.set id true } := by
  simp only [holdings, Outbound.setPool, List.map_set]
  rfl

end Node

namespace Custody

open Node

variable {calls : Nat} {ready : Request → Node → Bool} {Result : Type}

theorem follows_keeping {phase : Custody} {activity : Activity Node Result}
    (kept : activity.Keeps holdings) :
    (Recorded.silent activity).Follows (custody calls) ready (fun later _ => later = phase)
      phase :=
  Recorded.follows_silent kept fun _ _ same => .silent same

/-- Whoever has publications to stop stops the first one. -/
theorem follows_recordedStop (publication : Publication) (later : List Publication) :
    (recordedStop publication).Follows (custody calls) ready
      (fun phase _ => phase = .owing later) (.owing (publication :: later)) := by
  intro _
  refine ⟨.silent rfl, ?_⟩
  intro _
  refine ⟨fun _ _ => .silent rfl, ?_⟩
  intro node
  constructor
  · have step : CustodyStep (.owing (publication :: later)) node.holdings _ _ :=
      .halted publication later
    rw [isStopped_holdings, ← holdings_halt] at step
    exact step
  -- Only who stops the publication first waits for its workers.
  cases stopped : (node.outbound.pool publication.id).stopped with
  | true =>
      simp only [Pool.halt, stopped]
      exact rfl
  | false =>
      simp only [Pool.halt, stopped]
      intro node
      have same : (node.outbound.pool publication.id).signal.stopped =
          (node.outbound.pool publication.id).stopped := rfl
      refine ⟨.silent (congrArg (Holdings.mk node.registry)
        (node.outbound.map_stopped_setPool same)), ?_⟩
      intro _
      exact ⟨fun _ _ => .stopped publication later, rfl⟩

/-- A call stops all that it has to stop. -/
theorem follows_stopEach (publications : List Publication) :
    (Recorded.each recordedStop publications).Follows (custody calls) ready
      (fun phase _ => phase = .owing []) (.owing publications) := by
  induction publications with
  | nil => exact rfl
  | cons publication later ih =>
      apply Recorded.follows_bind_to (follows_recordedStop publication later)
      intro _
      exact ih

theorem follows_recordedOnRegistry {action : PublicationRegistry → Result × PublicationRegistry}
    {entry : Result → CustodyEntry} {phase : Custody}
    (allowed : ∀ holdings : Holdings, CustodyStep phase holdings
      (some (entry (action holdings.registry).1))
      { holdings with registry := (action holdings.registry).2 }) :
    (recordedOnRegistry action entry).Follows (custody calls) ready
      (fun later result => later = phase.after (entry result)) phase :=
  fun node => ⟨allowed node.holdings, rfl⟩

/-- Whoever has taken a publication out of the registry, if any, stops it. -/
theorem follows_stopTaken {taken : Option Publication} :
    (match taken with
      | some publication => do
          recordedStop publication
          return true
      | none => return false : Recorded Node CustodyEntry Bool).Follows (custody calls) ready
      (fun phase _ => phase = .owing []) (.owing taken.toList) := by
  cases taken with
  | none => exact rfl
  | some publication =>
      apply Recorded.follows_bind_to (follows_recordedStop publication [])
      intro _
      exact rfl

theorem follows_recordedAdd (publication : Publication) :
    (recordedAdd publication).Follows (custody calls) ready
      (fun phase _ => phase = .owing []) (.bringing publication) := by
  apply Recorded.follows_bind_to
    (follows_recordedOnRegistry fun holdings => .registered publication)
  intro replaced
  apply Recorded.follows_bind_to (follows_keeping (keeps_request _))
  intro _
  exact follows_stopTaken

theorem follows_recordedRemove (name : String) :
    (recordedRemove name).Follows (custody calls) ready
      (fun phase _ => phase = .owing []) (.owing []) := by
  apply Recorded.follows_bind_to (follows_recordedOnRegistry fun holdings => .removed name)
  intro removed
  apply Recorded.follows_bind_to (follows_keeping (keeps_request _))
  intro _
  exact follows_stopTaken

/-- Whoever has started a publication has not registered it yet. -/
theorem follows_recordedStart (plan : PublicationPlan) :
    (recordedOnOutbound (recordedStart plan)).Follows (custody calls) ready
      (fun phase started => phase = match started with
        | .ok publication => .bringing publication
        | .error _ => .owing []) (.owing []) := by
  rw [recordedStart]
  cases made : Pool.start plan.threads plan.queueSize with
  | error failure => exact rfl
  | ok pool =>
      intro node
      refine ⟨?_, rfl⟩
      have step : CustodyStep (.owing []) node.holdings
          (some (.started (plan.opened node.outbound.pools.length pool.capacity)))
          { node.holdings with stopped := node.holdings.stopped ++ [false] } :=
        .started _ (by rw [holdings, List.length_map]; rfl)
      have running : pool.stopped = false := by rw [Pool.eq_of_start made]
      rw [← running] at step
      have opened : { node with
          outbound := { node.outbound with pools := node.outbound.pools ++ [pool] } }.holdings =
          { node.holdings with stopped := node.holdings.stopped ++ [pool.stopped] } := by
        rw [holdings, List.map_append]
        rfl
      rw [← opened] at step
      exact step

theorem follows_recordedApplyPublication (config : Config.Publication) :
    (recordedApplyPublication config).Follows (custody calls) ready
      (fun phase _ => phase = .owing []) (.owing []) := by
  apply Recorded.follows_bind_to (follows_keeping keeps_look)
  intro node
  have built : (onOutbound (node.plugins.planPublication config)).Keeps holdings :=
    Activity.Keeps.within (node.plugins.keeps_planPublication config)
      fun node outbound (same : outbound = node.outbound) => by rw [same]
  apply Recorded.follows_bind_to (follows_keeping built)
  intro planned
  cases planned with
  | error error => exact rfl
  | ok plan =>
      apply Recorded.follows_bind_to (follows_recordedStart plan)
      intro started
      cases started with
      | error failure => exact rfl
      | ok publication =>
          apply Recorded.follows_bind_to (follows_recordedAdd publication)
          intro _
          exact rfl

theorem follows_recordedShutdown :
    recordedShutdown.Follows (custody calls) ready (fun phase _ => phase = .owing [])
      (.owing []) := by
  apply Recorded.follows_bind_to (follows_keeping keeps_look)
  intro node
  apply Recorded.follows_bind_to (follows_keeping (keeps_request _))
  intro _
  apply Recorded.follows_bind_to (follows_recordedOnRegistry fun holdings => .drained)
  intro publications
  apply Recorded.follows_bind_to (follows_stopEach publications)
  intro _
  apply follows_keeping
  rw [onProcessors]
  apply keeps_within
  intro node processors
  rfl

theorem follows_call (call : PublicationCall) :
    call.recorded.Follows (custody calls) ready
      (fun phase again => phase = .owing [] ∧ again = false) (.owing []) := by
  cases call with
  | add plan =>
      apply Recorded.follows_bind_to (follows_recordedStart plan)
      intro started
      cases started with
      | error failure => exact ⟨rfl, rfl⟩
      | ok publication =>
          apply Recorded.follows_bind_to (follows_recordedAdd publication)
          intro _
          exact ⟨rfl, rfl⟩
  | apply rule =>
      cases rule with
      | subscription config =>
          have added : (applySubscription config).Keeps holdings := by
            refine keeps_bind (Plugins.keeps_buildSubscription config) fun built => ?_
            cases built with
            | error error => exact trivial
            | ok subscription =>
                have registered : (onDirectory (Directory.register subscription)).Keeps
                    holdings := by
                  rw [onDirectory]
                  apply keeps_within
                  intro node directory
                  rfl
                exact keeps_bind registered fun _ => trivial
          apply Recorded.follows_bind_to (follows_keeping added)
          intro _
          exact ⟨rfl, rfl⟩
      | publication config =>
          apply Recorded.follows_bind_to (follows_recordedApplyPublication config)
          intro _
          exact ⟨rfl, rfl⟩
  | remove name =>
      apply Recorded.follows_bind_to (follows_recordedRemove name)
      intro _
      exact ⟨rfl, rfl⟩
  | shutdown =>
      apply Recorded.follows_bind_to follows_recordedShutdown
      intro _
      exact ⟨rfl, rfl⟩

/-- The whole crew keeps to the protocol when those who do not handle calls leave publications
alone. -/
theorem obeys_attended (node : Node) (calls : List PublicationCall)
    {others : List (Activity Node Bool)} (apart : ∀ other ∈ others, other.Keeps holdings) :
    (node.attended calls others).Obeys (custody calls.length) ready := by
  intro index member chosen
  show member.Obeys _ _ ((custody calls.length).start index)
  by_cases calling : index < calls.length
  · obtain ⟨call, handled⟩ : ∃ call : PublicationCall, Member.new call.recorded = member := by
      rw [attended, List.getElem?_append_left (by simpa using calling)] at chosen
      obtain ⟨call, _, handled⟩ := List.mem_map.1 (List.mem_of_getElem? chosen)
      exact ⟨call, handled⟩
    have start : (custody calls.length).start index = .owing [] := if_pos calling
    rw [start, ← handled]
    apply Member.obeys_new (fun phase again => phase = .owing [] ∧ again = false) ?_
      (follows_call call)
    · intro phase ends
      cases ends.2
    · intro phase again ends
      rw [ends.1]
      exact ends.2
  · obtain ⟨other, kept, works⟩ : ∃ other : Activity Node Bool, other.Keeps holdings ∧
        Member.new (.silent other) = member := by
      rw [attended, List.getElem?_append_right (by simpa using calling)] at chosen
      obtain ⟨other, among, works⟩ := List.mem_map.1 (List.mem_of_getElem? chosen)
      exact ⟨other, apart other among, works⟩
    have start : (custody calls.length).start index = .bystander := if_neg calling
    rw [start, ← works]
    apply Member.obeys_new (fun phase _ => phase = .bystander) ?_ (follows_keeping kept)
    · intro phase ends
      rw [ends]
      exact follows_keeping kept
    · intro phase again ends
      rw [ends]
      exact trivial

end Custody

/-! ## Workers leave publications alone -/

namespace Publication

variable (publication : Publication)

/-- Workers take files, deliver them and leave; none of that stops a publication. -/
theorem keeps_work : publication.work.Keeps fun outbound => outbound.pools.map Pool.stopped := by
  have pooled {Result : Type} {action : Pool → Result × Pool}
      (same : ∀ pool, (action pool).2.stopped = pool.stopped) :
      (Outbound.onPool publication.id action).Keeps fun outbound =>
        outbound.pools.map Pool.stopped :=
    fun outbound => ⟨outbound.map_stopped_setPool (same _), trivial⟩
  have delivered (parcel : Parcel) : (publication.deliver parcel).Keeps fun outbound =>
      outbound.pools.map Pool.stopped := by
    apply keeps_bind (keeps_request _)
    intro _
    refine keeps_bind ?_ fun reply => ?_
    · rw [Outbound.onStorages]
      apply keeps_within
      intro outbound storages
      rfl
    refine keeps_bind ?_ fun _ => keeps_bind (keeps_settle _ _) fun _ => ?_
    · rw [Outbound.onDisk]
      apply keeps_within
      intro outbound disk
      rfl
    · exact pooled fun _ => rfl
  apply keeps_bind keeps_look
  intro outbound
  split
  · refine keeps_bind ?_ fun _ => trivial
    intro outbound
    refine ⟨?_, trivial⟩
    have same : (outbound.pool publication.id).leave.2.stopped =
        (outbound.pool publication.id).stopped := by
      rw [Pool.leave]
      split <;> rfl
    exact outbound.map_stopped_setPool same
  · apply keeps_bind keeps_look
    intro later
    split
    · exact trivial
    · have took (pool : Pool) : pool.take.2.stopped = pool.stopped := by rw [Pool.take_eq]
      apply keeps_bind (pooled took)
      intro taken
      cases taken with
      | none => exact trivial
      | some parcel => exact keeps_bind (delivered parcel) fun _ => trivial

end Publication

theorem Node.keeps_work (publication : Publication) :
    (onOutbound publication.work).Keeps holdings :=
  publication.keeps_work.within fun node _ same => congrArg (Holdings.mk node.registry) same

end RadarRelay
