import RadarRelay.Proofs.Routing.Router

/-!
# A node routes files as decided

Storing, counting, handing out and processing are loops over what the node knows
at the time. None of them changes which rules the node has, so each loop comes to
the deeds that were decided on when the file came.
-/

namespace RadarRelay

open Activity

variable {Memory : Type} (around : Surroundings Memory) (file : File) (origin : String)
  (metadata : Metadata)

/-! ## What deeds leave alone -/

namespace Deed

/-- A deed changes nothing of the node but what delivery changes. -/
theorem perform_node (situation : Node × Memory) (deed : Deed) :
    ∃ outbound, (deed.perform around file origin metadata situation).1 =
      { situation.1 with outbound } := by
  obtain ⟨node, memory⟩ := situation
  cases deed with
  | keep name =>
      refine ⟨node.outbound, ?_⟩
      simp only [perform]
      split <;> rfl
  | count hook => exact ⟨node.outbound, rfl⟩
  | handOut publication =>
      simp only [perform]
      split
      · exact ⟨node.outbound, rfl⟩
      · exact ⟨_, rfl⟩
  | process processor => exact ⟨node.outbound, rfl⟩

/-- Nor do several deeds. -/
theorem foldl_perform_node (deeds : List Deed) (situation : Node × Memory) :
    ∃ outbound, (deeds.foldl (perform around file origin metadata) situation).1 =
      { situation.1 with outbound } := by
  induction deeds generalizing situation with
  | nil => exact ⟨situation.1.outbound, rfl⟩
  | cons deed deeds ih =>
      obtain ⟨first, performed⟩ := deed.perform_node around file origin metadata situation
      obtain ⟨last, rest⟩ := ih (deed.perform around file origin metadata situation)
      refine ⟨last, ?_⟩
      rw [List.foldl_cons, rest, performed]

/-- Counting is telling the hooks. -/
theorem foldl_count (hooks : List Hook) (situation : Node × Memory) :
    (hooks.map count).foldl (perform around file origin metadata) situation =
      (situation.1, Hook.tell around origin metadata hooks situation.2) := by
  rw [List.foldl_map, Hook.tell]
  induction hooks generalizing situation with
  | nil => rfl
  | cons hook hooks ih => exact ih _

end Deed

namespace Node

/-! ## Activities over parts of a node -/

variable {Result : Type} (node : Node) (memory : Memory)

theorem run_onOutbound (activity : Activity Outbound Result) :
    (onOutbound activity).run around node memory =
      ((activity.run around node.outbound memory).1,
        { node with outbound := (activity.run around node.outbound memory).2.1 },
        (activity.run around node.outbound memory).2.2) := by
  unfold onOutbound
  refine run_within around node memory ?_ ?_ ?_ activity <;> intros <;> rfl

theorem run_onProcessors (activity : Activity ProcessorRegistry Result) :
    (onProcessors activity).run around node memory =
      ((activity.run around node.processors memory).1,
        { node with processors := (activity.run around node.processors memory).2.1 },
        (activity.run around node.processors memory).2.2) := by
  unfold onProcessors
  refine run_within around node memory ?_ ?_ ?_ activity <;> intros <;> rfl

theorem run_onStorages (activity : Activity StorageRegistry Result) :
    (onStorages activity).run around node memory =
      ((activity.run around node.outbound.storages memory).1,
        { node with
          outbound := { node.outbound with
            storages := (activity.run around node.outbound.storages memory).2.1 } },
        (activity.run around node.outbound.storages memory).2.2) := by
  have inOutbound :
      (Outbound.onStorages activity).run around node.outbound memory =
        ((activity.run around node.outbound.storages memory).1,
          { node.outbound with
            storages := (activity.run around node.outbound.storages memory).2.1 },
          (activity.run around node.outbound.storages memory).2.2) := by
    unfold Outbound.onStorages
    refine run_within around node.outbound memory ?_ ?_ ?_ activity <;> intros <;> rfl
  rw [onStorages, run_onOutbound, inOutbound]

/-! ## The loops of a dispatch -/

/-- The result of an attempt to keep a file does not change what is done. -/
theorem effect_storeIn (subscription : Subscription) (name : String) :
    (storeIn subscription file metadata name).effect around.deaf (node, memory) =
      Deed.perform around file origin metadata (node, memory) (.keep name) := by
  have kept :
      ((onStorages (StorageRegistry.store name file metadata)).run around.deaf node memory).2 =
        Deed.perform around file origin metadata (node, memory) (.keep name) := by
    rw [run_onStorages, StorageRegistry.store, Activity.run_bind, run_look, Deed.perform]
    cases node.outbound.storages.get? name <;> rfl
  rw [effect, storeIn, Activity.run_bind]
  -- Both outcomes are only noted.
  split <;> exact kept

/-- Whether a publication accepts a file is a question of the publication and the file. -/
theorem run_eligible (publication : Publication) (subscription : Option String) :
    (publication.eligible subscription metadata).run around.deaf node memory =
      (decide (publication.Accepts subscription metadata), node, memory) := by
  unfold Publication.eligible
  by_cases permitted : (publication.active && publication.permits subscription) = true
  · rw [if_pos permitted, Expression.run_check]
    rw [Bool.and_eq_true] at permitted
    simp [Publication.Accepts, permitted]
  · rw [if_neg permitted]
    rw [Bool.and_eq_true] at permitted
    have rejected : ¬publication.Accepts subscription metadata := fun accepted =>
      permitted ⟨accepted.1, accepted.2.1⟩
    rw [decide_eq_false rejected]
    rfl

/-- A publication that accepts the file gets a copy, and any other nothing. -/
theorem effect_publishTo (subscription : Option String) (publication : Publication) :
    (publishTo subscription file metadata publication).effect around.deaf (node, memory) =
      if publication.Accepts subscription metadata then
        Deed.perform around file origin metadata (node, memory) (.handOut publication)
      else (node, memory) := by
  rw [effect, publishTo, Activity.run_bind, run_eligible]
  by_cases accepted : publication.Accepts subscription metadata
  · rw [if_pos accepted, decide_eq_true accepted, if_pos rfl, Activity.run_bind, run_look,
      Activity.run_bind, Deed.perform]
    rw [run_request]
    rcases asked : around.answer (.copy node.config.tmpFolder file) memory with ⟨copied, later⟩
    have heard : around.deaf.answer (.copy node.config.tmpFolder file) memory = (copied, later) :=
      asked
    rw [heard]
    cases copied with
    | error error => rfl
    | ok content =>
        simp only [Activity.run_bind, run_onOutbound]
        rfl
  · rw [if_neg accepted, decide_eq_false accepted]
    rfl

/-- The publications that accept the file get their copies one after the other. -/
theorem effect_publishToAll (subscription : Option String) (publications : List Publication)
    (situation : Node × Memory) :
    (publishToAll subscription file metadata publications).effect around.deaf situation =
      ((publications.filter (·.Accepts subscription metadata)).map .handOut).foldl
        (Deed.perform around file origin metadata) situation := by
  induction publications generalizing situation with
  | nil => rfl
  | cons publication publications ih =>
      have first := effect_publishTo around file origin metadata situation.1 situation.2
        subscription publication
      rw [publishToAll, effect, Activity.run_bind, Activity.run_bind]
      refine (ih _).trans ?_
      rw [← effect, first]
      by_cases accepted : publication.Accepts subscription metadata
      · simp [accepted]
      · simp [accepted]

/-- Publishing hands the file to the publications that are registered. -/
theorem effect_publish (subscription : Option String) (situation : Node × Memory) :
    (publish subscription file metadata).effect around.deaf situation =
      ((situation.1.registry.publications.filter (·.Accepts subscription metadata)).map
        .handOut).foldl (Deed.perform around file origin metadata) situation := by
  rw [effect, publish, Activity.run_bind, run_look, Activity.run_bind, Activity.run_bind]
  exact effect_publishToAll around file origin metadata subscription _ situation

/-- Processors have their turn one after the other, whichever of them fail. -/
theorem run_each_process (processors : List Processor) (registry : ProcessorRegistry) :
    (each (ProcessorRegistry.run file metadata) processors).run around.deaf registry memory =
      ((), registry,
        ((processors.map .process).foldl (Deed.perform around file origin metadata)
          (node, memory)).2) := by
  induction processors generalizing memory with
  | nil => rfl
  | cons processor processors ih =>
      have ran : (ProcessorRegistry.run file metadata processor).run around.deaf registry memory =
          ((), registry, (around.answer (.process processor file metadata) memory).2) := by
        rw [ProcessorRegistry.run, Activity.run_bind, run_request]
        rcases asked : around.answer (.process processor file metadata) memory with
          ⟨processed, later⟩
        have heard : around.deaf.answer (.process processor file metadata) memory =
            (processed, later) := asked
        rw [heard]
        cases processed <;> rfl
      rw [each, Activity.run_bind, ran, ih]
      rfl

/-- Letting processors see a file changes nothing of the node. -/
theorem foldl_process_node (processors : List Processor) (situation : Node × Memory) :
    ((processors.map Deed.process).foldl (Deed.perform around file origin metadata) situation).1 =
      situation.1 := by
  induction processors generalizing situation with
  | nil => rfl
  | cons processor processors ih => exact ih _

/-- Every active processor has its turn. -/
theorem effect_process (situation : Node × Memory) :
    (onProcessors (ProcessorRegistry.process file metadata)).effect around.deaf situation =
      ((situation.1.processors.processors.filter (·.active)).map .process).foldl
        (Deed.perform around file origin metadata) situation := by
  rw [effect, run_onProcessors, ProcessorRegistry.process, Activity.run_bind, run_look,
    run_each_process around file origin metadata situation.1]
  exact Prod.ext (foldl_process_node around file origin metadata _ situation).symm rfl

/-- The storages of a subscription are tried in the order of its entries. -/
theorem effect_each_storeIn (subscription : Subscription) (names : List String)
    (situation : Node × Memory) :
    (each (storeIn subscription file metadata) names).effect around.deaf situation =
      (names.map .keep).foldl (Deed.perform around file origin metadata) situation := by
  rw [effect_each, List.foldl_map]
  congr
  funext before name
  exact effect_storeIn around file origin metadata before.1 before.2 subscription name

/-- Dispatching a file does the deeds that are due to the subscription. -/
theorem effect_dispatch (subscription : Subscription) (situation : Node × Memory) :
    (dispatch file origin metadata subscription).effect around.deaf situation =
      (situation.1.deedsFor metadata subscription).foldl
        (Deed.perform around file origin metadata) situation := by
  -- The publications and the processors are looked up after nothing of them has changed.
  have stored := effect_each_storeIn around file origin metadata subscription
    subscription.storages situation
  obtain ⟨outbound, kept⟩ := Deed.foldl_perform_node around file origin metadata
    (subscription.storages.map .keep) situation
  rw [← stored] at kept
  rw [deedsFor, List.foldl_append, List.foldl_append, List.foldl_append, ← stored,
    Deed.foldl_count, dispatch, effect_seq, effect_seq, effect_seq]
  generalize (each (storeIn subscription file metadata) subscription.storages).effect
    around.deaf situation = after at kept ⊢
  have counted : (Hook.incrementAll component origin metadata subscription.statistics).effect
      around.deaf after =
      (after.1, Hook.tell around origin metadata subscription.statistics after.2) := by
    rw [effect, Hook.run_incrementAll]
  obtain ⟨published, handed⟩ := Deed.foldl_perform_node around file origin metadata
    ((after.1.registry.publications.filter (·.Accepts subscription.id metadata)).map .handOut)
    (after.1, Hook.tell around origin metadata subscription.statistics after.2)
  rw [counted, effect_publish around file origin, effect_process around file origin, handed, kept]

/-- There is a reason to skip a subscription exactly when it does not accept the file. -/
theorem run_skipReason? (subscription : Subscription) (duplicate : Bool) :
    ∃ reason, (subscription.skipReason? duplicate origin metadata).run around.deaf node memory =
        (reason, node, memory) ∧
      (reason = none ↔ subscription.Accepts duplicate origin metadata) := by
  unfold Subscription.skipReason? Subscription.Accepts
  cases active : subscription.active with
  | false => exact ⟨some .inactive, rfl, by simp⟩
  | true =>
  cases spared : duplicate && !subscription.allowDuplicates with
  | true => exact ⟨some .duplicate, rfl, by simp_all⟩
  | false =>
  cases permitted : subscription.permits origin with
  | false => exact ⟨some .originNotAllowed, rfl, by simp⟩
  | true =>
      have open? : subscription.allowDuplicates = true ∨ duplicate = false := by
        cases duplicate <;> simp_all
      simp only [Bool.not_true, Bool.false_eq_true, if_false, Activity.run_bind,
        Expression.run_check]
      cases accepted : subscription.expression.accepts metadata with
      | false => exact ⟨some .filterMismatch, rfl, by simp⟩
      | true => exact ⟨none, rfl, by simp [open?]⟩

/-- A subscription has its turn if it accepts the file. -/
theorem effect_consider (duplicate : Bool) (subscription : Subscription)
    (situation : Node × Memory) :
    (consider file origin metadata duplicate subscription).effect around.deaf situation =
      if subscription.Accepts duplicate origin metadata then
        (situation.1.deedsFor metadata subscription).foldl
          (Deed.perform around file origin metadata) situation
      else situation := by
  obtain ⟨reason, asked, accepts⟩ := run_skipReason? around origin metadata situation.1
    situation.2 subscription duplicate
  rw [effect, consider, Activity.run_bind, asked]
  cases reason with
  | some reason =>
      rw [if_neg fun accepted => Option.some_ne_none reason (accepts.2 accepted)]
      rfl
  | none =>
      rw [if_pos (accepts.1 rfl)]
      exact effect_dispatch around file origin metadata subscription situation

/-- The subscriptions that accept the file have their turn one after the other. -/
theorem effect_each_consider (duplicate : Bool) (subscriptions : List Subscription)
    (situation : Node × Memory) :
    (each (consider file origin metadata duplicate) subscriptions).effect around.deaf situation =
      ((subscriptions.filter (·.Accepts duplicate origin metadata)).flatMap
        (situation.1.deedsFor metadata)).foldl
          (Deed.perform around file origin metadata) situation := by
  induction subscriptions generalizing situation with
  | nil => rfl
  | cons subscription subscriptions ih =>
      rw [each, effect_seq, ih, effect_consider]
      by_cases accepted : subscription.Accepts duplicate origin metadata
      · obtain ⟨outbound, dispatched⟩ := Deed.foldl_perform_node around file origin metadata
          (situation.1.deedsFor metadata subscription) situation
        have sameDeeds : Node.deedsFor ((situation.1.deedsFor metadata subscription).foldl
            (Deed.perform around file origin metadata) situation).1 metadata =
            situation.1.deedsFor metadata := by
          rw [dispatched]
          rfl
        rw [if_pos accepted, List.filter_cons_of_pos (by simpa using accepted),
          List.flatMap_cons, List.foldl_append, sameDeeds]
      · rw [if_neg accepted, List.filter_cons_of_neg (by simpa using accepted)]

/-- A file that is not refused goes to the subscriptions that accept it, and then it has been
handled. -/
theorem run_handle (duplicate : Bool) (hooks : List Hook) :
    (do
      each (consider file origin metadata duplicate) node.directory.subscriptions
      Hook.incrementAll component origin metadata hooks
      return .ok metadata : Activity Node (Except Error Metadata)).run around.deaf node memory =
      let after := (node.deeds duplicate origin metadata).foldl
        (Deed.perform around file origin metadata) (node, memory)
      (.ok metadata, after.1, Hook.tell around origin metadata hooks after.2) := by
  have considered := effect_each_consider around file origin metadata duplicate
    node.directory.subscriptions (node, memory)
  rw [Activity.run_bind, Activity.run_bind, Hook.run_incrementAll, deeds, ← considered]
  rfl

@[simp] theorem run_remember (fingerprint : String) :
    (remember fingerprint).run around node memory =
      ((node.recent.add fingerprint).1,
        { node with recent := (node.recent.add fingerprint).2 }, memory) := rfl

/-- Routing a file, whether it was seen before or not. -/
theorem run_route :
    (route file origin metadata).run around.deaf node memory =
      node.handled around file origin metadata memory := by
  rw [handled]
  cases known : node.recent.contains metadata.fingerprint with
  | true =>
      simp only [route, Activity.run_bind, run_note, run_look, Hook.run_incrementAll,
        run_remember, RecentFiles.add_of_contains known]
      rw [if_pos (by rfl), if_pos trivial, Activity.run_bind, Hook.run_incrementAll,
        Activity.run_bind, run_note]
      cases spared : node.directory.anyAllowsDuplicates with
      | true => exact run_handle around file origin metadata node _ true node.hooks.fileHandling
      | false => rfl
  | false =>
      have added : (node.recent.add metadata.fingerprint).1 = true := by
        simp [RecentFiles.add, known]
      simp only [route, Activity.run_bind, run_note, run_look, Hook.run_incrementAll,
        run_remember, added]
      rw [if_neg (by simp), if_neg (by simp), if_neg Bool.false_ne_true]
      exact run_handle around file origin metadata
        { node with recent := (node.recent.add metadata.fingerprint).2 } _ false
        node.hooks.fileHandling

/-- A node that takes a file does what was decided when the file came, and nothing else: it
answers as decided, and does the deeds that are due, each once and in their order, whatever its
collaborators answer. -/
theorem store_eq_routed :
    (store file origin).run around.deaf node memory = routed around file origin node memory := by
  rcases asked : around.answer (.readMetadata file) memory with ⟨read, later⟩
  have heard : around.deaf.answer (.readMetadata file) memory = (read, later) := asked
  rw [store, Activity.run_bind, run_request, heard, routed, asked]
  cases read with
  | error error => rfl
  | ok metadata =>
      simp only [Activity.run_bind, run_look]
      cases limited : node.config.maxContentLength with
      | none =>
          simp only [Option.any_none, Bool.false_eq_true, if_false]
          exact run_route around file origin metadata node later
      | some longest =>
          simp only [Option.any_some, decide_eq_true_eq]
          by_cases oversized : longest < metadata.fileSize
          · rw [if_pos oversized, if_pos oversized]
            rfl
          · rw [if_neg oversized, if_neg oversized]
            exact run_route around file origin metadata node later

end Node

end RadarRelay
