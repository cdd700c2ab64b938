import RadarRelay.Proofs.Delivery.Telling
import RadarRelay.Proofs.Delivery.Workforce

/-!
# The accounts of a publication

Beside what becomes of files, the accounts tell which hooks were told, and what
became of the calls that handed files over. Every request that tells a hook is
watched. A member of the crew that has ended a transmission or has turned a file
away has to tell hooks of it before it does anything else; the protocol says which
ones.
-/

namespace RadarRelay

open Activity

/-- What is recorded of a publication whose accounts are kept. -/
inductive AccountEntry where
  | delivery (entry : DeliveryEntry)
  /-- A call has handed a file to the queue. -/
  | offered (parcel : Parcel) (outcome : Outcome)
  /-- A call has ended without handing its file to the queue. -/
  | decided (outcome : Outcome)
  /-- Whoever made a call has its answer. -/
  | returned (outcome : Outcome)

/-- A line of the accounts: the hook that is told, if any, and what else is recorded. -/
abbrev AccountLine := Option Hook × Option AccountEntry

/-- What an entry tells of deliveries. -/
def AccountEntry.delivery? : AccountEntry → Option DeliveryEntry
  | delivery entry => some entry
  | offered parcel outcome => some (.answered parcel outcome)
  | decided _ | returned _ => none

/-- What a line tells of deliveries. -/
def AccountLine.delivery? (line : AccountLine) : Option DeliveryEntry :=
  line.2.bind AccountEntry.delivery?

/-! ## Recorded calls -/

/-- What is recorded of deliveries, with every hook that is told. -/
def Recorded.accounted {Result : Type} (recorded : Recorded Outbound DeliveryEntry Result) :
    Recorded Outbound AccountLine Result :=
  (recorded.retell fun entry => some (.delivery entry)).watched Request.hook?

theorem Recorded.accounted_bind {First Second : Type}
    (first : Recorded Outbound DeliveryEntry First)
    (next : First → Recorded Outbound DeliveryEntry Second) :
    (first >>= next).accounted = first.accounted >>= fun result => (next result).accounted := by
  simp only [accounted, retell_bind, watched_bind]

theorem Recorded.accounted_silent {Result : Type} (activity : Activity Outbound Result) :
    (silent activity : Recorded Outbound DeliveryEntry Result).accounted =
      (silent activity : Recorded Outbound AccountEntry Result).watched Request.hook? := by
  rw [accounted, retell_silent]

namespace Publication

/-- `offer` with what a call records of it. -/
def recordedCall (publication : Publication) (parcel : Parcel) :
    Recorded Outbound AccountEntry Outcome := do
  let outbound ← .look fun outbound =>
    if publication.isStopped outbound then some (.offered parcel .stopped) else none
  if publication.isStopped outbound then return .stopped
  else
    .atomically
      (fun outbound =>
        (((outbound.pool publication.id).offer parcel).1,
          outbound.setPool publication.id ((outbound.pool publication.id).offer parcel).2))
      fun outcome => some (.offered parcel outcome)

/-- `queue` with its record. -/
def recordedQueue (publication : Publication) (parcel : Parcel) :
    Recorded Outbound AccountEntry Outcome := do
  let outcome ← publication.recordedCall parcel
  match outcome with
  | .queued =>
      .silent <| note "publication_enqueue_ok" "publication"
        [("publication", publication.name), ("file_id", parcel.metadata.fileId)]
  | .queueFull =>
      .silent (Outbound.onDisk (change fun disk => disk.delete parcel.file))
      .silent <| note "publication_queue_full" "publication"
        [ ("publication", publication.name),
          ("file_id", parcel.metadata.fileId),
          ("capacity", Number.natText publication.capacity),
          ("err", (Error.queueFull publication.name).message) ]
      .silent (publication.countError parcel.metadata)
  | _ =>
      .silent (Outbound.onDisk (change fun disk => disk.delete parcel.file))
      .silent (publication.noteStopped parcel.metadata)
  return outcome

/-- `enqueue` with its record. -/
def recordedEnqueue (publication : Publication) (parcel : Parcel) :
    Recorded Outbound AccountEntry Outcome := do
  let outbound ← .look fun outbound =>
    if publication.isStopped outbound then some (.decided .stopped) else none
  if publication.isStopped outbound then
    .silent (publication.noteStopped parcel.metadata)
    .silent (Outbound.onDisk (change fun disk => disk.delete parcel.file))
    return .stopped
  else
    match ← .silent (Outbound.onDisk (Stage.runAll publication.name parcel publication.stages)) with
    | .ok (some decorated) => publication.recordedQueue decorated
    | .ok none => return .discarded
    | .error error =>
        .note "decorator_failed" "publication"
          [ ("publication", publication.name),
            ("file_id", parcel.metadata.fileId),
            ("err", error.message) ]
          (.decided .decorationFailed)
        .silent (publication.countError parcel.metadata)
        return .decorationFailed

variable (publication : Publication)

theorem plain_recordedCall (parcel : Parcel) :
    (publication.recordedCall parcel).plain = publication.offer parcel := by
  rw [recordedCall, offer, Recorded.plain_bind, Recorded.plain_look]
  congr 1; funext outbound
  split <;> rfl

theorem plain_recordedQueue (parcel : Parcel) :
    (publication.recordedQueue parcel).plain = publication.queue parcel := by
  rw [recordedQueue, queue, Recorded.plain_bind, publication.plain_recordedCall]
  congr 1; funext outcome
  cases outcome with
  | queued | discarded | decorationFailed | queueFull | stopped =>
      simp only [Recorded.plain_bind, Recorded.plain_silent, Recorded.plain_pure]

theorem plain_recordedEnqueue (parcel : Parcel) :
    (publication.recordedEnqueue parcel).plain = publication.enqueue parcel := by
  rw [recordedEnqueue, enqueue, Recorded.plain_bind, Recorded.plain_look]
  congr 1; funext outbound
  split
  · simp only [Recorded.plain_bind, Recorded.plain_silent, Recorded.plain_pure]
  · rw [Recorded.plain_bind, Recorded.plain_silent]
    congr 1; funext decorated
    cases decorated with
    | error error =>
        simp only [Recorded.plain_bind, Recorded.plain_silent, Recorded.plain_pure,
          Recorded.plain_note]
    | ok left =>
        cases left with
        | none => rfl
        | some decorated => exact publication.plain_recordedQueue decorated

end Publication

/-! ## The crew -/

/-- What callers do to a publication while its workers work. -/
inductive PublicationTask where
  /-- Hand a file to the publication, and look at the answer. -/
  | enqueue (parcel : Parcel)
  /-- Stop the publication and wait for its workers. -/
  | stop

namespace PublicationTask

variable (publication : Publication)

/-- What is done; nothing follows it. -/
def activity : PublicationTask → Activity Outbound Bool
  | enqueue parcel => do
      let _ ← publication.enqueue parcel
      let _ ← look
      return false
  | stop => do
      publication.stop
      return false

/-- The same with its record. -/
def recorded : PublicationTask → Recorded Outbound AccountEntry Bool
  | enqueue parcel => do
      let outcome ← publication.recordedEnqueue parcel
      let _ ← .look fun _ => some (.returned outcome)
      return false
  | stop => (Errand.stop.recorded publication).retell fun entry => some (.delivery entry)

theorem plain_recorded (task : PublicationTask) :
    (task.recorded publication).plain = task.activity publication := by
  cases task with
  | enqueue parcel =>
      rw [recorded, activity, Recorded.plain_bind, publication.plain_recordedEnqueue]
      rfl
  | stop =>
      rw [recorded, Recorded.plain_retell, Errand.plain_recorded]
      rfl

end PublicationTask

namespace Publication

/-- A publication with a number of workers and with others at work, before the first step. Every
hook that any of them tells is recorded. -/
def overseen (publication : Publication) (workers : Nat)
    (others : List (Recorded Outbound AccountEntry Bool)) (outbound : Outbound) :
    Crew Outbound AccountLine where
  state := outbound
  members := List.replicate workers (.new publication.recordedWork.accounted) ++
    others.map fun other => .new (other.watched Request.hook?)
  log := []

/-- Without the accounts, the workers work and the others do what they do. -/
theorem members_forget_overseen (publication : Publication) (workers : Nat)
    (others : List (Recorded Outbound AccountEntry Bool)) (outbound : Outbound) :
    (publication.overseen workers others outbound).forget.members =
      List.replicate workers (.new (.silent publication.work)) ++
        others.map fun other => .new (.silent other.plain) := by
  simp only [overseen, Crew.forget, List.map_append, List.map_replicate, List.map_map,
    Function.comp_def, Member.new, Member.forget, Recorded.accounted, Recorded.plain_watched,
    Recorded.plain_retell, plain_recordedWork]

/-- The accounts tell of all requests that tell a hook, whoever makes them. -/
theorem members_sights_overseen (publication : Publication) (workers : Nat)
    (others : List (Recorded Outbound AccountEntry Bool)) (outbound : Outbound) :
    ((publication.overseen workers others outbound).retell Prod.fst).members =
      List.replicate workers (.new (.sights Request.hook? publication.work)) ++
        others.map fun other => .new (.sights Request.hook? other.plain) := by
  simp only [overseen, Crew.retell, List.map_append, List.map_replicate, List.map_map,
    Function.comp_def, Member.new, Member.retell, Recorded.accounted, Recorded.retell_fst_watched,
    Recorded.plain_retell, plain_recordedWork]

/-! ## The protocol -/

/-- The hooks that are told how a delivery ended. -/
def replyHooks (publication : Publication) : Reply → List Hook
  | .sent => publication.statisticsOk
  | .failed _ | .panicked _ => publication.statisticsError

/-- The hooks that are told what became of a call. -/
def outcomeHooks (publication : Publication) : Outcome → List Hook
  | .decorationFailed | .queueFull => publication.statisticsError
  | .queued | .discarded | .stopped => []

/-- The hooks that are to be told because of an entry. -/
def dueHooks (publication : Publication) : AccountEntry → List Hook
  | .delivery (.ended _ reply) => publication.replyHooks reply
  | .offered _ outcome | .decided outcome => publication.outcomeHooks outcome
  | .delivery _ | .returned _ => []

end Publication

/-- Where a member of the crew stands, and what it has to do before it goes on. -/
structure Duty where
  standing : Standing
  /-- The hooks that it has to tell, in this order. -/
  hooks : List Hook
  /-- What a call has to answer. -/
  outcome : Option Outcome

/-- Where a line takes the member who leaves it. -/
def Duty.after (publication : Publication) (duty : Duty) (line : AccountLine) : Duty where
  standing := duty.standing.next line.delivery?
  hooks := line.2.elim duty.hooks.tail publication.dueHooks
  outcome := match line.2 with
    | some (.offered _ outcome) | some (.decided outcome) => some outcome
    | some (.returned _) => none
    | _ => duty.outcome

/-- What is due where a delivery step leads. -/
def Duty.ofDelivery (publication : Publication) (standing : Standing)
    (entry : Option DeliveryEntry) : Duty :=
  ⟨standing.next entry, entry.elim [] fun entry => publication.dueHooks (.delivery entry), none⟩

/-- Whether a member still does anything where it stands. Whoever carries a file does when files
may be handed to the queue directly, and not by calls only. -/
def Standing.acts (direct : Bool) : Standing → Bool
  | gone => false
  | carrying _ => direct
  | _ => true

/-- Which step may follow where a member stands, and what it does. -/
inductive AccountStep (publication : Publication) (direct : Bool) :
    Duty → Outbound → Option AccountLine → Outbound → Prop where
  | silent {duty : Duty} {outbound after : Outbound} :
      duty.standing.acts direct = true → after.pools = outbound.pools →
      AccountStep publication direct duty outbound none after
  | told {standing : Standing} {outcome : Option Outcome} {outbound : Outbound} (hook : Hook)
      (hooks : List Hook) : standing.acts direct = true →
      AccountStep publication direct ⟨standing, hook :: hooks, outcome⟩ outbound
        (some (some hook, none)) outbound
  | delivery {standing : Standing} {outbound after : Outbound} {entry : DeliveryEntry} :
      standing.acts direct = true →
      DeliveryStep publication.id standing outbound (some entry) after →
      AccountStep publication direct ⟨standing, [], none⟩ outbound
        (some (none, some (.delivery entry))) after
  | turnedAway {outbound : Outbound} (parcel : Parcel) :
      (outbound.pool publication.id).stopped = true →
      AccountStep publication direct ⟨.free, [], none⟩ outbound
        (some (none, some (.offered parcel .stopped))) outbound
  | offered {outbound : Outbound} (parcel : Parcel) :
      AccountStep publication direct ⟨.free, [], none⟩ outbound
        (some (none, some (.offered parcel ((outbound.pool publication.id).offer parcel).1)))
        (outbound.setPool publication.id ((outbound.pool publication.id).offer parcel).2)
  | decided {outbound : Outbound} {outcome : Outcome} :
      outcome = .stopped ∨ outcome = .decorationFailed →
      AccountStep publication direct ⟨.free, [], none⟩ outbound
        (some (none, some (.decided outcome))) outbound
  | returned {outbound : Outbound} {outcome : Outcome} : outcome ≠ .discarded →
      AccountStep publication direct ⟨.free, [], some outcome⟩ outbound
        (some (none, some (.returned outcome))) outbound
  | discarded {outbound : Outbound} :
      AccountStep publication direct ⟨.free, [], none⟩ outbound
        (some (none, some (.returned .discarded))) outbound

namespace Publication

/-- What the members of a crew keep to whose accounts are kept. -/
def accounting (publication : Publication) (workers : Nat) (direct : Bool) :
    Protocol Outbound AccountLine Duty where
  start member := ⟨if member < workers then .idle else .free, [], none⟩
  advance := .after publication
  Allows := AccountStep publication direct
  Ends duty again :=
    (publication.protocol workers).Ends duty.standing again ∧ duty.hooks = [] ∧ duty.outcome = none

/-! ## Everybody keeps to the protocol -/

variable {publication : Publication} {workers : Nat} {direct : Bool} {Result : Type} {duty : Duty}

theorem follows_uncounted {activity : Activity Outbound Result}
    (kept : activity.Keeps Outbound.pools) (unseen : activity.Unseen Request.hook?)
    (present : duty.standing.acts direct = true) :
    ((Recorded.silent activity : Recorded Outbound AccountEntry Result).watched
      Request.hook?).Follows (publication.accounting workers direct) Outbound.ready
      (fun later _ => later = duty) duty := by
  rw [Recorded.watched_silent _ unseen]
  exact Recorded.follows_silent kept fun _ _ same => .silent present same

/-- Hooks are told one after the other. -/
theorem follows_told {standing : Standing} {outcome : Option Outcome}
    (present : standing.acts direct = true) (component : String) (metadata : Metadata) (hooks : List Hook) :
    ((Recorded.silent (Hook.incrementAll component "" metadata hooks) :
      Recorded Outbound AccountEntry Unit).watched Request.hook?).Follows
      (publication.accounting workers direct) Outbound.ready
      (fun later _ => later = ⟨standing, [], outcome⟩) ⟨standing, hooks, outcome⟩ := by
  induction hooks with
  | nil => exact rfl
  | cons hook hooks ih =>
      intro answer
      refine ⟨fun _ _ => .told hook hooks present, ?_⟩
      cases answer with
      | ok => exact ih
      | error error =>
          intro _
          exact ⟨fun _ _ => .silent present rfl, ih⟩

theorem follows_settle (parcel : Parcel) (reply : Reply) :
    ((Recorded.silent (publication.settle parcel.metadata reply) :
      Recorded Outbound AccountEntry Unit).watched Request.hook?).Follows
      (publication.accounting workers direct) Outbound.ready
      (fun later _ => later = ⟨.counting parcel, [], none⟩)
      ⟨.counting parcel, publication.replyHooks reply, none⟩ := by
  have counting : (Standing.counting parcel).acts direct = true := rfl
  cases reply with
  | sent | failed | panicked =>
      intro _
      exact ⟨fun _ _ => .silent counting rfl, follows_told counting _ _ _⟩

/-- A delivery step of a member that has nothing else to do is allowed. -/
theorem allows_delivery {standing : Standing} {outbound after : Outbound}
    {entry : Option DeliveryEntry} (present : standing.acts direct = true)
    (step : DeliveryStep publication.id standing outbound entry after) :
    (publication.accounting workers direct).Allows ⟨standing, [], none⟩ outbound
      (Recorded.besides none (entry.bind fun entry => some (.delivery entry))) after ∧
    (publication.accounting workers direct).after ⟨standing, [], none⟩
      (Recorded.besides none (entry.bind fun entry => some (.delivery entry))) =
        .ofDelivery publication standing entry := by
  cases entry with
  | none =>
      cases step with
      | silent pools disk => exact ⟨.silent present pools, rfl⟩
  | some entry => exact ⟨.delivery present step, rfl⟩

theorem follows_accounted_look {entry : Outbound → Option DeliveryEntry} {standing : Standing}
    (present : standing.acts direct = true)
    (allowed : ∀ outbound,
      DeliveryStep publication.id standing outbound (entry outbound) outbound) :
    (Recorded.look entry).accounted.Follows (publication.accounting workers direct) Outbound.ready
      (fun later outbound => later = .ofDelivery publication standing (entry outbound))
      ⟨standing, [], none⟩ :=
  fun outbound => allows_delivery present (allowed outbound)

theorem follows_accounted_atomically {action : Outbound → Result × Outbound}
    {entry : Result → Option DeliveryEntry} {standing : Standing}
    (present : standing.acts direct = true) (allowed : ∀ outbound, DeliveryStep publication.id standing outbound
      (entry (action outbound).1) (action outbound).2) :
    (Recorded.atomically action entry).accounted.Follows
      (publication.accounting workers direct) Outbound.ready
      (fun later result => later = .ofDelivery publication standing (entry result))
      ⟨standing, [], none⟩ :=
  fun outbound => allows_delivery present (allowed outbound)

/-- A worker counts each delivery before it is done with it. -/
theorem follows_accounted_deliver (parcel : Parcel) :
    (publication.recordedDeliver parcel).accounted.Follows (publication.accounting workers direct)
      Outbound.ready (fun later _ => later = ⟨.idle, [], none⟩) ⟨.holding parcel, [], none⟩ := by
  have stored : (Outbound.onStorages (publication.connection.publish parcel.file.file
      parcel.metadata)).Keeps Outbound.pools := by
    rw [Outbound.onStorages]
    apply keeps_within
    intro outbound storages
    rfl
  have publishing : (Standing.publishing parcel).acts direct = true := rfl
  have begins : (Recorded.note "delivery_attempt" "delivery_worker"
      ([("publication", publication.name), ("file_id", parcel.metadata.fileId)] ++
        [("connection", publication.connection.kind)])
      (DeliveryEntry.began parcel)).accounted.Follows (publication.accounting workers direct)
      Outbound.ready (fun later _ => later = ⟨.publishing parcel, [], none⟩)
      ⟨.holding parcel, [], none⟩ := fun _ => ⟨fun _ _ => .delivery rfl (.began parcel), rfl⟩
  rw [recordedDeliver, Recorded.accounted_bind]
  refine Recorded.follows_bind_to begins fun _ => ?_
  rw [Recorded.accounted_bind, Recorded.accounted_silent]
  refine Recorded.follows_bind_to (follows_uncounted stored
    (unseen_within (publication.connection.unseen_publish _ _)) publishing) fun reply => ?_
  rw [Recorded.accounted_bind]
  refine Recorded.follows_bind_to
    (follows_accounted_atomically publishing fun _ => .ended parcel reply) fun _ => ?_
  rw [Recorded.accounted_bind, Recorded.accounted_silent]
  refine Recorded.follows_bind_to (follows_settle parcel reply) fun _ => ?_
  intro _
  exact ⟨.delivery rfl (.settled parcel), rfl⟩

/-- How a worker's turn may end when its accounts are kept. -/
def AccountedTurnEnds (duty : Duty) (again : Bool) : Prop :=
  TurnEnds duty.standing again ∧ duty.hooks = [] ∧ duty.outcome = none

theorem follows_accounted_work :
    publication.recordedWork.accounted.Follows (publication.accounting workers direct)
      Outbound.ready AccountedTurnEnds ⟨.idle, [], none⟩ := by
  have idle : Standing.idle.acts direct = true := rfl
  rw [recordedWork, Recorded.accounted_bind]
  refine Recorded.follows_bind_to
    (follows_accounted_look idle fun outbound => ?_) fun outbound => ?_
  · split
    · rename_i signalled
      exact .noticed signalled
    · exact .silent rfl rfl
  by_cases signalled : publication.isSignalled outbound = true
  · rw [if_pos signalled, if_pos signalled, Recorded.accounted_bind]
    have leaving : Standing.leaving.acts direct = true := rfl
    refine Recorded.follows_bind_to (follows_accounted_atomically leaving fun _ => .left)
      fun _ => ?_
    exact ⟨Or.inr ⟨rfl, rfl⟩, rfl, rfl⟩
  · rw [if_neg signalled, if_neg signalled, Recorded.accounted_bind, Recorded.accounted_silent]
    refine Recorded.follows_bind_to (follows_uncounted keeps_look (fun _ => trivial) idle)
      fun later => ?_
    split
    · exact ⟨Or.inl ⟨rfl, rfl⟩, rfl, rfl⟩
    · rw [Recorded.accounted_bind]
      refine Recorded.follows_bind_to
        (follows_accounted_atomically idle fun outbound => ?_) fun taken => ?_
      · cases taken : (outbound.pool publication.id).take.1 with
        | none =>
            rw [Pool.take_of_none taken, Outbound.setPool_pool]
            exact .silent rfl rfl
        | some parcel => exact .took taken
      · cases taken with
        | none => exact ⟨Or.inl ⟨rfl, rfl⟩, rfl, rfl⟩
        | some parcel =>
            rw [Recorded.accounted_bind]
            refine Recorded.follows_bind_to (follows_accounted_deliver parcel) fun _ => ?_
            exact ⟨Or.inl ⟨rfl, rfl⟩, rfl, rfl⟩

/-- How a call ends: with nothing left to do. -/
def CallEnds (duty : Duty) (again : Bool) : Prop :=
  duty = ⟨.free, [], none⟩ ∧ again = false

/-- Whoever carries a file hands it to the queue once, where that is allowed. -/
theorem follows_accounted_offer (parcel : Parcel) :
    (publication.recordedOffer parcel).accounted.Follows (publication.accounting workers true)
      Outbound.ready (fun later _ => later = ⟨.free, [], none⟩)
      ⟨.carrying parcel.file, [], none⟩ := by
  have carrying : (Standing.carrying parcel.file).acts true = true := rfl
  rw [recordedOffer, Recorded.accounted_bind]
  refine Recorded.follows_bind_to
    (follows_accounted_look carrying fun outbound => ?_) fun outbound => ?_
  · split
    · rename_i stopped
      exact .turnedAway parcel stopped
    · exact .silent rfl rfl
  by_cases stopped : publication.isStopped outbound = true
  · rw [if_pos stopped, if_pos stopped]
    exact rfl
  · rw [if_neg stopped, if_neg stopped]
    exact fun _ => ⟨.delivery rfl (.offered parcel), rfl⟩

/-- Only the first to stop a publication tells the workers, and waits for them. -/
theorem follows_accounted_stop :
    publication.recordedStop.accounted.Follows (publication.accounting workers direct)
      Outbound.ready (fun later _ => later = ⟨.free, [], none⟩) ⟨.free, [], none⟩ := by
  have free : Standing.free.acts direct = true := rfl
  rw [recordedStop, Recorded.accounted_bind, Recorded.accounted_silent]
  refine Recorded.follows_bind_to (follows_uncounted keeps_look unseen_look free) fun _ => ?_
  rw [Recorded.accounted_bind, Recorded.accounted_silent]
  refine Recorded.follows_bind_to
    (follows_uncounted (keeps_request _) (unseen_request rfl) free) fun _ => ?_
  rw [Recorded.accounted_bind]
  refine Recorded.follows_bind_to (follows_accounted_atomically free fun _ => .halted)
    fun first => ?_
  cases first with
  | false => exact rfl
  | true =>
      intro _
      refine ⟨.delivery rfl .signalled, fun _ => ⟨fun outbound answered => ?_, rfl⟩⟩
      exact .delivery rfl (.joined (by simpa [Outbound.ready] using answered))

theorem follows_accounted_errand (errand : Errand) :
    (errand.recorded publication).accounted.Follows (publication.accounting workers true)
      Outbound.ready CallEnds ⟨.free, [], none⟩ := by
  have free : Standing.free.acts true = true := rfl
  cases errand with
  | hand inFolder file metadata =>
      rw [Errand.recorded, Recorded.accounted_bind]
      refine Recorded.follows_bind_to
        (follows_accounted_atomically free fun _ => .made inFolder file) fun made => ?_
      rw [Recorded.accounted_bind]
      exact Recorded.follows_bind_to (follows_accounted_offer ⟨made, metadata⟩) fun _ => ⟨rfl, rfl⟩
  | stop =>
      rw [Errand.recorded, Recorded.accounted_bind]
      exact Recorded.follows_bind_to follows_accounted_stop fun _ => ⟨rfl, rfl⟩

theorem follows_onDisk {activity : Activity Disk Result} (unseen : activity.Unseen Request.hook?)
    (present : duty.standing.acts direct = true) :
    ((Recorded.silent (Outbound.onDisk activity) :
      Recorded Outbound AccountEntry Result).watched Request.hook?).Follows
      (publication.accounting workers direct) Outbound.ready
      (fun later _ => later = duty) duty := by
  refine follows_uncounted ?_ (unseen_within unseen) present
  rw [Outbound.onDisk]
  apply keeps_within
  intro outbound disk
  rfl

theorem follows_note {name component : String} {fields : List (String × String)}
    (present : duty.standing.acts direct = true) :
    ((Recorded.silent (note name component fields) :
      Recorded Outbound AccountEntry Unit).watched Request.hook?).Follows
      (publication.accounting workers direct) Outbound.ready (fun later _ => later = duty) duty :=
  follows_uncounted (keeps_request _) (unseen_request rfl) present

/-- Whoever finds the publication stopped records that, and nothing otherwise. -/
theorem follows_lookStopped {entry : AccountEntry}
    (allowed : ∀ outbound : Outbound, (outbound.pool publication.id).stopped = true →
      AccountStep publication direct ⟨.free, [], none⟩ outbound
        (some (none, some entry)) outbound) :
    ((Recorded.look fun outbound =>
      if publication.isStopped outbound then some entry else none).watched
      Request.hook?).Follows (publication.accounting workers direct) Outbound.ready
      (fun later outbound => later = if publication.isStopped outbound = true
        then .after publication ⟨.free, [], none⟩ (none, some entry) else ⟨.free, [], none⟩)
      ⟨.free, [], none⟩ := by
  intro outbound
  show (publication.accounting workers direct).Allows ⟨.free, [], none⟩ outbound
      (Recorded.besides none (if publication.isStopped outbound = true then some entry else none))
      outbound ∧
    (publication.accounting workers direct).after ⟨.free, [], none⟩
      (Recorded.besides none (if publication.isStopped outbound = true then some entry else none)) =
        _
  by_cases stopped : publication.isStopped outbound = true
  · rw [if_pos stopped, if_pos stopped]
    exact ⟨allowed outbound stopped, rfl⟩
  · rw [if_neg stopped, if_neg stopped]
    exact ⟨.silent rfl rfl, rfl⟩

theorem follows_decided {name component : String} {fields : List (String × String)}
    {entry : AccountEntry} (allowed : ∀ outbound, AccountStep publication direct duty outbound
      (some (none, some entry)) outbound) :
    ((Recorded.note name component fields entry).watched Request.hook?).Follows
      (publication.accounting workers direct) Outbound.ready
      (fun later _ => later = .after publication duty (none, some entry)) duty :=
  fun _ => ⟨fun outbound _ => allowed outbound, rfl⟩

/-- A call is answered by the queue unless the publication has been stopped. -/
theorem follows_recordedCall (parcel : Parcel) :
    ((publication.recordedCall parcel).watched Request.hook?).Follows
      (publication.accounting workers direct) Outbound.ready
      (fun later outcome => later = ⟨.free, publication.outcomeHooks outcome, some outcome⟩ ∧
        (outcome = .queued ∨ outcome = .queueFull ∨ outcome = .stopped))
      ⟨.free, [], none⟩ := by
  rw [recordedCall, Recorded.watched_bind]
  refine Recorded.follows_bind_to (follows_lookStopped fun _ => .turnedAway parcel)
    fun outbound => ?_
  by_cases stopped : publication.isStopped outbound = true
  · rw [if_pos stopped, if_pos stopped]
    exact ⟨rfl, Or.inr (Or.inr rfl)⟩
  · rw [if_neg stopped, if_neg stopped]
    intro later
    refine ⟨.offered parcel, rfl, ?_⟩
    rcases (later.pool publication.id).offer_cases parcel with
      ⟨_, offer⟩ | ⟨_, _, offer⟩ | ⟨_, _, offer⟩
    · exact Or.inr (Or.inr (congrArg Prod.fst offer))
    · exact Or.inr (Or.inl (congrArg Prod.fst offer))
    · exact Or.inl (congrArg Prod.fst offer)

/-- What a call has to answer is what it returns, but for a file that was discarded. -/
def Answers (duty : Duty) (outcome : Outcome) : Prop :=
  (outcome ≠ .discarded ∧ duty = ⟨.free, [], some outcome⟩) ∨
    (outcome = .discarded ∧ duty = ⟨.free, [], none⟩)

theorem follows_recordedQueue (parcel : Parcel) :
    ((publication.recordedQueue parcel).watched Request.hook?).Follows
      (publication.accounting workers direct) Outbound.ready Answers ⟨.free, [], none⟩ := by
  have free : Standing.free.acts direct = true := rfl
  have deletes : (change fun disk : Disk => disk.delete parcel.file).Unseen Request.hook? :=
    fun _ => trivial
  rw [recordedQueue, Recorded.watched_bind]
  refine Recorded.follows_bind (follows_recordedCall parcel) ?_
  rintro later outcome ⟨rfl, rfl | rfl | rfl⟩
  · rw [Recorded.watched_bind]
    refine Recorded.follows_bind_to (follows_note free) fun _ => ?_
    exact Or.inl ⟨nofun, rfl⟩
  · simp only [Recorded.watched_bind]
    refine Recorded.follows_bind_to (follows_onDisk deletes free) fun _ => ?_
    refine Recorded.follows_bind_to (follows_note free) fun _ => ?_
    refine Recorded.follows_bind_to (follows_told free _ _ _) fun _ => ?_
    exact Or.inl ⟨nofun, rfl⟩
  · simp only [Recorded.watched_bind]
    refine Recorded.follows_bind_to (follows_onDisk deletes free) fun _ => ?_
    refine Recorded.follows_bind_to (follows_note free) fun _ => ?_
    exact Or.inl ⟨nofun, rfl⟩

theorem follows_recordedEnqueue (parcel : Parcel) :
    ((publication.recordedEnqueue parcel).watched Request.hook?).Follows
      (publication.accounting workers direct) Outbound.ready Answers ⟨.free, [], none⟩ := by
  have free : Standing.free.acts direct = true := rfl
  have deletes : (change fun disk : Disk => disk.delete parcel.file).Unseen Request.hook? :=
    fun _ => trivial
  rw [recordedEnqueue, Recorded.watched_bind]
  refine Recorded.follows_bind_to (follows_lookStopped fun _ _ => .decided (Or.inl rfl))
    fun outbound => ?_
  by_cases stopped : publication.isStopped outbound = true
  · rw [if_pos stopped, if_pos stopped]
    simp only [Recorded.watched_bind]
    refine Recorded.follows_bind_to (follows_note free) fun _ => ?_
    refine Recorded.follows_bind_to (follows_onDisk deletes free) fun _ => ?_
    exact Or.inl ⟨nofun, rfl⟩
  · rw [if_neg stopped, if_neg stopped, Recorded.watched_bind]
    refine Recorded.follows_bind_to
      (follows_onDisk (Stage.unseen_runAll Request.decorating_hook? _ parcel publication.stages)
        free) fun decorated => ?_
    cases decorated with
    | ok left =>
        cases left with
        | none => exact Or.inr ⟨rfl, rfl⟩
        | some decorated => exact follows_recordedQueue decorated
    | error error =>
        simp only [Recorded.watched_bind]
        refine Recorded.follows_bind_to (follows_decided fun _ => .decided (Or.inr rfl))
          fun _ => ?_
        refine Recorded.follows_bind_to (follows_told free _ _ _) fun _ => ?_
        exact Or.inl ⟨nofun, rfl⟩

/-- A caller does nothing more once it has its answer. -/
theorem follows_task (task : PublicationTask) :
    ((task.recorded publication).watched Request.hook?).Follows
      (publication.accounting workers direct) Outbound.ready CallEnds ⟨.free, [], none⟩ := by
  cases task with
  | enqueue parcel =>
      rw [PublicationTask.recorded, Recorded.watched_bind]
      refine Recorded.follows_bind (follows_recordedEnqueue parcel) ?_
      rintro later outcome (⟨known, rfl⟩ | ⟨rfl, rfl⟩)
      · exact fun _ => ⟨.returned known, rfl, rfl⟩
      · exact fun _ => ⟨.discarded, rfl, rfl⟩
  | stop =>
      have stops : (Errand.stop.recorded publication).accounted.Follows
          (publication.accounting workers direct) Outbound.ready CallEnds ⟨.free, [], none⟩ := by
        rw [Errand.recorded, Recorded.accounted_bind]
        exact Recorded.follows_bind_to follows_accounted_stop fun _ => ⟨rfl, rfl⟩
      exact stops

/-- The whole crew keeps to the protocol when those who do not work for the publication do. -/
theorem obeys_overseen (publication : Publication) (workers : Nat)
    {others : List (Recorded Outbound AccountEntry Bool)} (outbound : Outbound)
    (follows : ∀ other ∈ others, (other.watched Request.hook?).Follows
      (publication.accounting workers direct) Outbound.ready CallEnds ⟨.free, [], none⟩) :
    (publication.overseen workers others outbound).Obeys (publication.accounting workers direct)
      Outbound.ready := by
  intro index member chosen
  show member.Obeys _ _ ((publication.accounting workers direct).start index)
  by_cases works : index < workers
  · have worker : Member.new publication.recordedWork.accounted = member := by
      rw [overseen, List.getElem?_append_left (by simpa using works),
        List.getElem?_replicate_of_lt works] at chosen
      exact Option.some.inj chosen
    have start : (publication.accounting workers direct).start index = ⟨.idle, [], none⟩ :=
      congrArg (Duty.mk · [] none) (if_pos works)
    rw [start, ← worker]
    apply Member.obeys_new AccountedTurnEnds ?_ follows_accounted_work
    · rintro ⟨standing, hooks, outcome⟩ ⟨⟨idle, _⟩ | ⟨_, never⟩, empty, settled⟩
      · cases idle
        cases empty
        cases settled
        exact follows_accounted_work
      · cases never
    · rintro ⟨standing, hooks, outcome⟩ again ⟨⟨rfl, rfl⟩ | ⟨rfl, rfl⟩, empty, settled⟩
      · exact ⟨rfl, empty, settled⟩
      · exact ⟨rfl, empty, settled⟩
  · obtain ⟨other, among, calls⟩ : ∃ other ∈ others,
        Member.new (other.watched Request.hook?) = member := by
      rw [overseen, List.getElem?_append_right (by simpa using works)] at chosen
      exact List.mem_map.1 (List.mem_of_getElem? chosen)
    have start : (publication.accounting workers direct).start index = ⟨.free, [], none⟩ :=
      congrArg (Duty.mk · [] none) (if_neg works)
    rw [start, ← calls]
    apply Member.obeys_new CallEnds ?_ (follows other among)
    · intro duty ends
      cases ends.2
    · rintro duty again ⟨rfl, rfl⟩
      exact ⟨rfl, rfl, rfl⟩

end Publication

end RadarRelay
