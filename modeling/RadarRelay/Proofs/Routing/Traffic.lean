import RadarRelay.Node.Control
import RadarRelay.Node.Dispatch
import RadarRelay.Proofs.Activity.Crew

/-!
# Traffic of a node

Files are posted to a node while others are still being routed and subscriptions
come and go. Each call is a member of a crew over the node, and two things are
recorded of it: what the memory of recent files answers, and to which
subscriptions the file goes. The protocol of the calls says that only the lookup
of a file changes the memory, and that a file goes to a subscription as the answer
permits.
-/

namespace RadarRelay

open Activity

/-- What is recorded of the routing of a file. -/
inductive RoutingEntry where
  /-- The file was looked up among the recent ones and remembered; whether it was new. -/
  | added (fingerprint : String) (new : Bool)
  /-- The file goes to a subscription. -/
  | dispatched (subscription : Subscription)

namespace Node

/-! ## Recorded routing -/

/-- `remember` with its answer recorded. -/
def recordedRemember (fingerprint : String) : Recorded Node RoutingEntry Bool :=
  .atomically
    (fun node =>
      let (new, recent) := node.recent.add fingerprint
      (new, { node with recent }))
    fun new => some (.added fingerprint new)

/-- `consider` with the dispatch recorded where it begins. -/
def recordedConsider (file : File) (origin : String) (metadata : Metadata) (duplicate : Bool)
    (subscription : Subscription) : Recorded Node RoutingEntry Unit := do
  match ← .silent (subscription.skipReason? duplicate origin metadata) with
  | some reason =>
      .silent <| note "subscription_skipped" component
        [ ("subscription", subscription.shownId),
          ("file_id", metadata.fileId),
          ("reason", reason.text) ]
  | none =>
      .note "subscription_matched" component
        [("subscription", subscription.shownId), ("file_id", metadata.fileId)]
        (.dispatched subscription)
      .silent (dispatch file origin metadata subscription)

/-- `route` with its record. -/
def recordedRoute (file : File) (origin : String) (metadata : Metadata) :
    Recorded Node RoutingEntry (Except Error Metadata) := do
  let shown := ("origin", Metadata.originText (some origin))
  let fileId := ("file_id", metadata.fileId)
  .silent (note "file_received" component [shown, fileId])
  let node ← .silent look
  .silent (Hook.incrementAll component origin metadata node.hooks.incoming)
  let directory := (← .silent look).directory
  let new ← recordedRemember metadata.fingerprint
  if !new then
    .silent (Hook.incrementAll component origin metadata node.hooks.duplicates)
    .silent (note "file_duplicate" component [shown, fileId])
  if !new && !directory.anyAllowsDuplicates then
    return .error (.duplicate metadata.fileId)
  else
    .each (recordedConsider file origin metadata !new) directory.subscriptions
    .silent (Hook.incrementAll component origin metadata node.hooks.fileHandling)
    return .ok metadata

/-- `store` with its record. -/
def recordedStore (file : File) (origin : String) :
    Recorded Node RoutingEntry (Except Error Metadata) := do
  let shown := ("origin", Metadata.originText (some origin))
  match ← .silent (request (.readMetadata file)) with
  | .error error =>
      .silent (note "file_rejected" component [shown, ("err", error.message)])
      return .error error
  | .ok metadata =>
      let node ← .silent look
      match node.config.maxContentLength with
      | some longest =>
          if longest < metadata.fileSize then
            .silent <| note "file_skipped_oversized" component
              [ shown,
                ("file_id", metadata.fileId),
                ("size", Number.natText metadata.fileSize),
                ("max_content_length", Number.natText longest) ]
            return .ok metadata
          else recordedRoute file origin metadata
      | none => recordedRoute file origin metadata

variable (file : File) (origin : String) (metadata : Metadata)

theorem plain_recordedConsider (duplicate : Bool) (subscription : Subscription) :
    (recordedConsider file origin metadata duplicate subscription).plain =
      consider file origin metadata duplicate subscription := by
  rw [recordedConsider, consider, Recorded.plain_bind, Recorded.plain_silent]
  congr 1
  funext reason?
  cases reason? with
  | some reason => exact Recorded.plain_silent _
  | none =>
      rw [Recorded.plain_bind, Recorded.plain_note, Recorded.plain_silent]

theorem plain_recordedRoute :
    (recordedRoute file origin metadata).plain = route file origin metadata := by
  have considered (duplicate : Bool) :
      (fun subscription => (recordedConsider file origin metadata duplicate subscription).plain) =
        consider file origin metadata duplicate :=
    funext (plain_recordedConsider file origin metadata duplicate)
  simp only [recordedRoute, route, Recorded.plain_bind, Recorded.plain_silent]
  congr 1; funext _
  congr 1; funext node
  congr 1; funext _
  congr 1; funext later
  congr 1; funext new
  cases new with
  | true | false =>
      cases spared : later.directory.anyAllowsDuplicates with
      | true | false => simp [considered]

/-- What is recorded of a post is recorded of what a node does with a posted file. -/
theorem plain_recordedStore : (recordedStore file origin).plain = store file origin := by
  simp only [recordedStore, store, Recorded.plain_bind, Recorded.plain_silent]
  congr 1; funext read
  cases read with
  | error error => simp
  | ok metadata =>
      simp only [Recorded.plain_bind, Recorded.plain_silent]
      congr 1; funext node
      cases node.config.maxContentLength with
      | none => exact plain_recordedRoute file origin metadata
      | some longest =>
          simp only
          split
          · simp
          · exact plain_recordedRoute file origin metadata

end Node

/-! ## Calls -/

/-- What may be asked of a node while files are routed. -/
inductive Call where
  | post (file : File) (origin : String)
  | addSubscription (subscription : Subscription)
  | removeSubscription (id : String)

namespace Call

/-- What a node does for a call; nothing follows it. -/
def activity : Call → Activity Node Bool
  | post file origin => do
      let _ ← Node.store file origin
      return false
  | addSubscription subscription => do
      let _ ← Node.addSubscription subscription
      return false
  | removeSubscription id => do
      let _ ← Node.removeSubscription id
      return false

/-- The same with its record. -/
def recorded : Call → Recorded Node RoutingEntry Bool
  | post file origin => do
      let _ ← Node.recordedStore file origin
      return false
  | other => .silent other.activity

theorem plain_recorded (call : Call) : call.recorded.plain = call.activity := by
  cases call with
  | post file origin =>
      rw [recorded, activity, Recorded.plain_bind, Node.plain_recordedStore]
      rfl
  | addSubscription subscription => exact Recorded.plain_silent _
  | removeSubscription id => exact Recorded.plain_silent _

end Call

/-! ## What calls keep to -/

theorem Subscription.keeps_skipReason? {State View : Type} {view : State → View}
    (subscription : Subscription) (duplicate : Bool) (origin : String) (metadata : Metadata) :
    (subscription.skipReason? duplicate origin metadata).Keeps view := by
  rw [skipReason?]
  split
  · exact trivial
  · split
    · exact trivial
    · split
      · exact trivial
      · apply keeps_bind (subscription.expression.keeps_check metadata)
        intro accepted
        cases accepted with
        | true | false => exact trivial

/-- A file that was seen before is only for subscriptions that let duplicates through. -/
theorem Subscription.gives_skipReason? {State : Type} (subscription : Subscription)
    (duplicate : Bool) (origin : String) (metadata : Metadata) :
    (subscription.skipReason? duplicate origin metadata : Activity State _).Gives fun reason =>
      reason = none → subscription.allowDuplicates = true ∨ duplicate = false := by
  rw [skipReason?]
  split
  · exact nofun
  · split
    · exact nofun
    · rename_i spared
      have permitted : subscription.allowDuplicates = true ∨ duplicate = false := by
        cases duplicate <;> simp_all
      split
      · exact nofun
      · apply gives_bind (gives_any _)
        intro accepted _
        cases accepted with
        | true => exact fun _ => permitted
        | false => exact nofun

namespace Node

/-- A call stands where the lookup of its file has left it: not looked up yet, or what was
answered. -/
def routingProtocol : Protocol Node RoutingEntry (Option Bool) where
  start _ := none
  advance
    | _, .added _ new => some new
    | answered, .dispatched _ => answered
  Allows answered node entry after :=
    match entry with
    | none => after.recent = node.recent
    | some (.added fingerprint new) =>
        answered = none ∧ node.recent.add fingerprint = (new, after.recent)
    | some (.dispatched subscription) =>
        after.recent = node.recent ∧
          (subscription.allowDuplicates = true ∨ answered = some true)
  Ends _ again := again = false

/-- No call has to wait for another. -/
def ready (_ : Request) (_ : Node) : Bool := true

variable {Result : Type} {answered : Option Bool}

theorem keeps_recent_onOutbound (activity : Activity Outbound Result) :
    (onOutbound activity).Keeps Node.recent := by
  rw [onOutbound]
  apply keeps_within
  intro node part
  rfl

theorem keeps_recent_onProcessors (activity : Activity ProcessorRegistry Result) :
    (onProcessors activity).Keeps Node.recent := by
  rw [onProcessors]
  apply keeps_within
  intro node part
  rfl

theorem keeps_recent_onDirectory (activity : Activity Directory Result) :
    (onDirectory activity).Keeps Node.recent := by
  rw [onDirectory]
  apply keeps_within
  intro node part
  rfl

theorem follows_keeping {activity : Activity Node Result} (kept : activity.Keeps Node.recent) :
    (Recorded.silent activity).Follows routingProtocol ready
      (fun later _ => later = answered) answered :=
  Recorded.follows_silent kept fun _ _ same => same

variable (file : File) (origin : String) (metadata : Metadata)

theorem keeps_recent_publishTo (subscription : Option String) (publication : Publication) :
    (publishTo subscription file metadata publication).Keeps Node.recent := by
  rw [publishTo]
  refine keeps_bind ?_ fun eligible => ?_
  · rw [Publication.eligible]
    split
    · exact Expression.keeps_check _ _
    · exact trivial
  · cases eligible with
    | false => exact trivial
    | true =>
        apply keeps_bind keeps_look
        intro node
        apply keeps_bind (keeps_request _)
        intro copied
        cases copied with
        | error error => exact keeps_bind (keeps_request _) fun _ => trivial
        | ok content =>
            apply keeps_bind (keeps_recent_onOutbound _)
            intro copy
            exact keeps_bind (keeps_recent_onOutbound _) fun outcome => trivial

theorem keeps_recent_publish (subscription : Option String) :
    (publish subscription file metadata).Keeps Node.recent := by
  have all (publications : List Publication) :
      (publishToAll subscription file metadata publications).Keeps Node.recent := by
    induction publications with
    | nil => exact trivial
    | cons publication publications ih =>
        refine keeps_bind (keeps_recent_publishTo file metadata subscription publication) ?_
        intro queued
        exact keeps_bind ih fun more => trivial
  apply keeps_bind keeps_look
  intro node
  apply keeps_bind (all node.registry.publications)
  intro queued
  exact keeps_bind (keeps_request _) fun _ => trivial

theorem keeps_recent_storeIn (subscription : Subscription) (name : String) :
    (storeIn subscription file metadata name).Keeps Node.recent := by
  apply keeps_bind (keeps_recent_onOutbound _)
  intro stored
  cases stored with
  | ok | error => exact keeps_request _

/-- What is done for a subscription does not touch the memory. -/
theorem keeps_recent_dispatch (subscription : Subscription) :
    (dispatch file origin metadata subscription).Keeps Node.recent := by
  apply keeps_bind (keeps_each (keeps_recent_storeIn file metadata subscription) _)
  intro _
  apply keeps_bind (Hook.keeps_incrementAll _ _ _ _)
  intro _
  apply keeps_bind (keeps_recent_publish file metadata subscription.id)
  intro queued
  exact keeps_recent_onProcessors _

theorem follows_recordedConsider (new : Bool) (subscription : Subscription) :
    (recordedConsider file origin metadata (!new) subscription).Follows routingProtocol ready
      (fun later _ => later = some new) (some new) := by
  have kept : (subscription.skipReason? (!new) origin metadata).Keeps Node.recent :=
    subscription.keeps_skipReason? (!new) origin metadata
  refine Recorded.follows_bind (Recorded.follows_silent_giving kept
    (subscription.gives_skipReason? (!new) origin metadata) fun _ _ same => same) ?_
  intro later reason ends
  obtain ⟨rfl, permitted⟩ := ends
  cases reason with
  | some reason => exact follows_keeping (keeps_request _)
  | none =>
      have allowed : subscription.allowDuplicates = true ∨ some new = some true := by
        simpa using permitted rfl
      intro answer
      exact ⟨fun node _ => ⟨rfl, allowed⟩,
        follows_keeping (keeps_recent_dispatch file origin metadata subscription)⟩

/-- A file that is routed is looked up once, and only then goes to subscriptions. -/
theorem follows_recordedRoute :
    (recordedRoute file origin metadata).Follows routingProtocol ready (fun _ _ => True) none := by
  apply Recorded.follows_bind_to (follows_keeping (keeps_request _))
  intro _
  apply Recorded.follows_bind_to (follows_keeping keeps_look)
  intro node
  apply Recorded.follows_bind_to (follows_keeping (Hook.keeps_incrementAll _ _ _ _))
  intro _
  apply Recorded.follows_bind_to (follows_keeping keeps_look)
  intro later
  have looked : (recordedRemember metadata.fingerprint).Follows routingProtocol ready
      (fun answered new => answered = some new) none := by
    intro node
    exact ⟨⟨rfl, rfl⟩, rfl⟩
  apply Recorded.follows_bind_to looked
  intro new
  have handled : (do
      Recorded.each (recordedConsider file origin metadata !new) later.directory.subscriptions
      .silent (Hook.incrementAll component origin metadata node.hooks.fileHandling)
      return .ok metadata :
        Recorded Node RoutingEntry (Except Error Metadata)).Follows routingProtocol ready
          (fun _ _ => True) (some new) := by
    apply Recorded.follows_bind_to (Recorded.follows_each
      (follows_recordedConsider file origin metadata new) later.directory.subscriptions)
    intro _
    apply Recorded.follows_bind_to (follows_keeping (Hook.keeps_incrementAll _ _ _ _))
    intro _
    exact trivial
  cases new with
  | true => exact handled
  | false =>
      apply Recorded.follows_bind_to (follows_keeping (Hook.keeps_incrementAll _ _ _ _))
      intro _
      apply Recorded.follows_bind_to (follows_keeping (keeps_request _))
      intro _
      cases spared : later.directory.anyAllowsDuplicates with
      | true => exact handled
      | false => exact trivial

theorem follows_recordedStore :
    (recordedStore file origin).Follows routingProtocol ready (fun _ _ => True) none := by
  apply Recorded.follows_bind_to (follows_keeping (keeps_request _))
  intro read
  cases read with
  | error error =>
      exact Recorded.follows_bind (follows_keeping (keeps_request _)) fun _ _ _ => trivial
  | ok metadata =>
      apply Recorded.follows_bind_to (follows_keeping keeps_look)
      intro node
      have routed := follows_recordedRoute file origin metadata
      cases node.config.maxContentLength with
      | none => exact routed
      | some longest =>
          simp only
          split
          · apply Recorded.follows_bind_to (follows_keeping (keeps_request _))
            intro _
            exact trivial
          · exact routed

end Node

/-- Every call keeps to the protocol, and none is repeated. -/
theorem Call.follows_recorded (call : Call) :
    call.recorded.Follows Node.routingProtocol Node.ready (fun _ again => again = false) none := by
  cases call with
  | post file origin =>
      exact Recorded.follows_bind (Node.follows_recordedStore file origin) fun _ _ _ => rfl
  | addSubscription subscription =>
      have registered : (Call.addSubscription subscription).activity.Keeps Node.recent :=
        keeps_bind (Node.keeps_recent_onDirectory _) fun _ => trivial
      have once : (Call.addSubscription subscription).activity.Gives fun again => again = false :=
        gives_bind (gives_any _) fun _ _ => rfl
      exact (Recorded.follows_silent_giving registered once fun _ _ same => same).mono
        fun _ _ ends => ends.2
  | removeSubscription id =>
      have unregistered : (Call.removeSubscription id).activity.Keeps Node.recent :=
        keeps_bind (Node.keeps_recent_onDirectory _) fun _ => trivial
      have once : (Call.removeSubscription id).activity.Gives fun again => again = false :=
        gives_bind (gives_any _) fun _ _ => rfl
      exact (Recorded.follows_silent_giving unregistered once fun _ _ same => same).mono
        fun _ _ ends => ends.2

/-- A node that handles calls at the same time, before their first steps. -/
def Node.serving (node : Node) (calls : List Call) : Crew Node RoutingEntry where
  state := node
  members := calls.map fun call => .new call.recorded
  log := []

/-- Without its record, a node that handles calls does what it does for each of them. -/
theorem Node.members_forget_serving (node : Node) (calls : List Call) :
    (node.serving calls).forget.members = calls.map fun call => .new (.silent call.activity) := by
  rw [serving, Crew.forget, List.map_map]
  refine List.map_congr_left fun call _ => ?_
  rw [Function.comp_apply, Member.new, Member.new, Member.forget, call.plain_recorded]

theorem Node.obeys_serving (node : Node) (calls : List Call) :
    (node.serving calls).Obeys routingProtocol ready := by
  intro index member chosen
  obtain ⟨call, _, rfl⟩ : ∃ call ∈ calls, Member.new call.recorded = member :=
    List.mem_map.1 (List.mem_of_getElem? chosen)
  exact Member.obeys_new (fun _ again => again = false) (fun _ _ ends => ends)
    call.follows_recorded nofun

end RadarRelay
