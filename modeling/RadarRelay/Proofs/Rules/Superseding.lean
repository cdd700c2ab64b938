import RadarRelay.Proofs.Activity.Running
import RadarRelay.Proofs.Routing.Traffic
import RadarRelay.Proofs.Rules.Directory

/-!
# What becomes of a subscription that is replaced

A new subscription takes the place of the first one with its id. Nothing that adds
or removes subscriptions one by one puts a second one there, but lists that a
directory is given whole are taken as they are: of several subscriptions with one
id in such a list, all but the first outlive the next with that id, and files are
still dispatched to them.
-/

namespace RadarRelay

open Activity

variable {Memory : Type}

namespace Directory

/-- The subscriptions with an id. -/
def named (directory : Directory) (id : String) : List Subscription :=
  directory.subscriptions.filter fun subscription => subscription.id == some id

/-- What a directory may be after changes of every kind, if it is given lists of some kind only. -/
inductive Reachable (given : List Subscription → Prop) : Directory → Prop where
  | ofList {subscriptions : List Subscription} : given subscriptions →
      Reachable given (.ofList subscriptions)
  | replaceAll {directory : Directory} {subscriptions : List Subscription} :
      Reachable given directory → given subscriptions →
      Reachable given (directory.replaceAll subscriptions)
  | add {directory : Directory} (subscription : Subscription) : Reachable given directory →
      Reachable given (directory.add subscription).2
  | remove {directory : Directory} (id : String) : Reachable given directory →
      Reachable given (directory.remove id).2

/-- Lists with distinct ids make directories with distinct ids. -/
theorem Reachable.distinct {given : List Subscription → Prop} {directory : Directory}
    (told : ∀ subscriptions, given subscriptions → (Directory.ofList subscriptions).Distinct)
    (reachable : directory.Reachable given) : directory.Distinct := by
  induction reachable with
  | ofList taken => exact told _ taken
  | replaceAll _ taken _ => exact told _ taken
  | add subscription _ ih => exact ih.add subscription
  | remove id _ ih => exact ih.remove id

theorem named_add (directory : Directory) {subscription : Subscription} {id : String}
    (ofId : subscription.id = some id) :
    (directory.add subscription).2.named id = subscription :: (directory.named id).tail :=
  (directory.inserted_add subscription).filter_key ofId

theorem Distinct.tail_named {directory : Directory} (distinct : directory.Distinct)
    (id : String) : (directory.named id).tail = [] := by
  cases known : directory.has id with
  | true =>
      obtain ⟨before, old, after, parts, ofId, others⟩ := distinct.split known
      have without : (before ++ after).filter (fun other => other.id == some id) = [] := by
        simpa only [List.filter_eq_nil_iff, beq_iff_eq] using others
      rw [List.filter_append, List.append_eq_nil_iff] at without
      simp [named, parts, ofId, without]
  | false =>
      have none : directory.named id = [] := by
        simpa [named] using (directory.has_eq_false_iff id).1 known
      rw [none, List.tail_nil]

end Directory

/-! ## Dispatches -/

/-- Files go to some subscriptions only. -/
def RoutingEntry.Among (subscriptions : List Subscription) : RoutingEntry → Prop
  | .added _ _ => True
  | .dispatched subscription => subscription ∈ subscriptions

namespace Node

variable (file : File) (origin : String)

theorem leaves_recordedConsider (metadata : Metadata) (duplicate : Bool)
    {subscriptions : List Subscription} {subscription : Subscription}
    (member : subscription ∈ subscriptions) (node : Node) :
    (recordedConsider file origin metadata duplicate subscription).Leaves
      (RoutingEntry.Among subscriptions) node := by
  have kept : (subscription.skipReason? duplicate origin metadata).Keeps Node.directory :=
    subscription.keeps_skipReason? duplicate origin metadata
  apply Recorded.leaves_silent_bind kept
  intro reason later _
  cases reason with
  | some reason => exact Recorded.leaves_silent _ later
  | none =>
      intro _
      refine ⟨?_, Recorded.leaves_silent _ later⟩
      rintro _ ⟨⟩
      exact member

/-- A file that is routed goes to subscriptions that there are when that begins. -/
theorem leaves_recordedRoute (metadata : Metadata) (node : Node) :
    (recordedRoute file origin metadata).Leaves
      (RoutingEntry.Among node.directory.subscriptions) node := by
  have noted (name : String) (fields : List (String × String)) :
      (note name component fields : Activity Node Unit).Keeps Node.directory := keeps_request _
  have told (hooks : List Hook) :
      (Hook.incrementAll component origin metadata hooks : Activity Node Unit).Keeps
        Node.directory := Hook.keeps_incrementAll ..
  apply Recorded.leaves_silent_bind (noted _ _)
  intro _ received sameReceived
  apply Recorded.leaves_look_bind
  apply Recorded.leaves_silent_bind (told _)
  intro _ later sameLater
  apply Recorded.leaves_look_bind
  rw [← sameReceived, ← sameLater]
  have considered (new : Bool) (state : Node) : (do
      Recorded.each (recordedConsider file origin metadata !new) later.directory.subscriptions
      .silent (Hook.incrementAll component origin metadata received.hooks.fileHandling)
      return .ok metadata :
        Recorded Node RoutingEntry (Except Error Metadata)).Leaves
          (RoutingEntry.Among later.directory.subscriptions) state := by
    apply Recorded.leaves_bind <| Recorded.leaves_each (fun subscription member =>
      leaves_recordedConsider file origin metadata (!new) member) state
    intro _ state
    exact Recorded.leaves_bind (Recorded.leaves_silent _ state) fun _ _ => trivial
  have looked : (recordedRemember metadata.fingerprint).Leaves
      (RoutingEntry.Among later.directory.subscriptions) later := by
    refine ⟨?_, trivial⟩
    rintro _ ⟨⟩
    exact trivial
  apply Recorded.leaves_bind looked
  intro new state
  cases new with
  | true => exact considered true state
  | false =>
      apply Recorded.leaves_silent_bind (told _)
      intro _ counted _
      apply Recorded.leaves_silent_bind (noted _ _)
      intro _ counted _
      cases spared : later.directory.anyAllowsDuplicates with
      | true => exact considered false counted
      | false => exact trivial

/-- And so does one that is posted. -/
theorem leaves_recordedStore (node : Node) :
    (recordedStore file origin).Leaves (RoutingEntry.Among node.directory.subscriptions) node := by
  have quiet (event : String) (fields : List (String × String)) (answer : Except Error Metadata)
      (state : Node) :
      (do
        .silent (note event component fields)
        return answer : Recorded Node RoutingEntry (Except Error Metadata)).Leaves
          (RoutingEntry.Among node.directory.subscriptions) state :=
    Recorded.leaves_bind (Recorded.leaves_silent _ state) fun _ _ => trivial
  have asked : (request (.readMetadata file) : Activity Node _).Keeps Node.directory :=
    keeps_request _
  apply Recorded.leaves_silent_bind asked
  intro read later same
  cases read with
  | error error => exact quiet _ _ _ later
  | ok metadata =>
      apply Recorded.leaves_look_bind
      have routed := leaves_recordedRoute file origin metadata later
      rw [same] at routed
      cases later.config.maxContentLength with
      | none => exact routed
      | some longest =>
          dsimp only
          split
          · exact quiet _ _ _ later
          · exact routed

/-- Of the subscriptions with the id of a new one, the first is replaced. Only those behind it may
still be dispatched to under that id, and there are none if every list that the directory was given
had distinct ids. -/
theorem dispatched_after_add {given : List Subscription → Prop} (around : Surroundings Memory)
    (memory : Memory) {node : Node} (reachable : node.directory.Reachable given)
    {subscription : Subscription} {id : String} (ofId : subscription.id = some id) :
    let (_, later, told) := (addSubscription subscription).run around node memory
    let spared := (node.directory.named id).tail
    later.directory.named id = subscription :: spared ∧
      (∀ file origin other,
        .dispatched other ∈ ((recordedStore file origin).run around later told).1 →
          other.id = some id → other = subscription ∨ other ∈ spared) ∧
      ((∀ subscriptions, given subscriptions → (Directory.ofList subscriptions).Distinct) →
        spared = []) := by
  have named : (node.directory.add subscription).2.named id =
      subscription :: (node.directory.named id).tail := node.directory.named_add ofId
  refine ⟨named, ?_, fun distinct => (reachable.distinct distinct).tail_named id⟩
  intro file origin other logged same
  have member : other ∈ (node.directory.add subscription).2.subscriptions :=
    (leaves_recordedStore file origin _).run around _ logged
  have found : other ∈ (node.directory.add subscription).2.named id :=
    List.mem_filter.2 ⟨member, by simp [same]⟩
  rw [named] at found
  exact List.mem_cons.1 found

/-- A rule that has been replaced gets no more files, whatever happened to the directory before. -/
theorem dispatched_after_add_of_distinct :
    let around : Surroundings Unit := ⟨fun request _ => (request.granted, ()), fun _ _ => false⟩
    let rule (id : Option String) (storages : List String) : Subscription :=
      ⟨id, true, storages, .always, false, [], []⟩
    let given (subscriptions : List Subscription) : Prop :=
      (Directory.ofList subscriptions).Distinct
    let reloaded := (Directory.ofList [rule (some "a") []]).replaceAll
      [rule none [], rule (some "b") [], rule (some "a") []]
    let node : Node :=
      { config := ⟨"relay", none, 0, none, ⟨none, none, none⟩⟩
        plugins := .empty
        hooks := ⟨[], [], []⟩
        recent := .empty 0
        directory := (reloaded.remove "b").2
        registry := .empty
        processors := .empty
        outbound := .empty }
    let new := rule (some "a") ["s"]
    let (replaced, later, _) := (addSubscription new).run around node ()
    node.directory.Reachable given ∧ replaced = true ∧ later.directory.named "a" = [new] ∧
      ((recordedStore ⟨some "first"⟩ "").run around later ()).1 =
        [.added "first" true, .dispatched (rule none []), .dispatched new] := by
  intro around rule given reloaded node new
  have reachable : node.directory.Reachable given := by
    refine .remove "b" (.replaceAll (.ofList ?_) ?_)
    · exact List.nodup_singleton "a"
    · show (["b", "a"] : List String).Nodup
      decide
  obtain ⟨named, _, none⟩ := @dispatched_after_add _ given around () node reachable new "a" rfl
  refine ⟨reachable, rfl, ?_, rfl⟩
  rw [none fun _ distinct => distinct] at named
  exact named

/-- A list with one id twice may be given to a directory. The second subscription with it then
outlives the next, and files are still dispatched to it, even where the next accepts none. -/
theorem dispatched_after_add_of_twice :
    let around : Surroundings Unit := ⟨fun request _ => (request.granted, ()), fun _ _ => false⟩
    let rule (active : Bool) : Subscription := ⟨some "a", active, [], .always, false, [], []⟩
    let node : Node :=
      { config := ⟨"relay", none, 0, none, ⟨none, none, none⟩⟩
        plugins := .empty
        hooks := ⟨[], [], []⟩
        recent := .empty 0
        directory := .ofList [rule true, rule true]
        registry := .empty
        processors := .empty
        outbound := .empty }
    let (replaced, later, _) := (addSubscription (rule false)).run around node ()
    node.directory.Reachable (fun _ => True) ∧ replaced = true ∧
      later.directory.named "a" = [rule false, rule true] ∧
      ((recordedStore ⟨some "first"⟩ "").run around later ()).1 =
        [.added "first" true, .dispatched (rule true)] :=
  ⟨.ofList trivial, rfl, rfl, rfl⟩

end Node

end RadarRelay
