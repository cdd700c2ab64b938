import RadarRelay.Proofs.Activity.Alike
import RadarRelay.Proofs.Delivery.Telling
import RadarRelay.Proofs.Handing.Traced

/-!
# Failures of collaborators

Storages, hooks and processors answer whether they have succeeded. A node reports
what they answer and makes nothing else of it: whichever of them fail, each of the
others has its turn, each publication gets its copy, and whoever posted the file
gets the same answer.
-/

namespace RadarRelay

open Activity

variable {Entry Memory State Result : Type}

/-- The requests that are answered by success or failure, and by nothing else. -/
def Request.judged? : Request → Option Request
  | .store storage file metadata => some (.store storage file metadata)
  | .increment hook origin metadata => some (.increment hook origin metadata)
  | .process processor file metadata => some (.process processor file metadata)
  | _ => none

theorem Request.decorating_judged? : Request.DecoratingUnseen Request.judged? :=
  ⟨fun _ => rfl, rfl, fun _ => rfl, fun _ _ _ _ => rfl⟩

namespace Surroundings

/-- The same surroundings, but it is said elsewhere who succeeds and who fails. -/
def judging (verdict : Request → Memory → Except Error Unit) (around : Surroundings Memory) :
    Surroundings Memory where
  answer request memory :=
    match request with
    | .store storage file metadata =>
        (verdict (.store storage file metadata) memory,
          (around.answer (.store storage file metadata) memory).2)
    | .increment hook origin metadata =>
        (verdict (.increment hook origin metadata) memory,
          (around.answer (.increment hook origin metadata) memory).2)
    | .process processor file metadata =>
        (verdict (.process processor file metadata) memory,
          (around.answer (.process processor file metadata) memory).2)
    | other => around.answer other memory
  waits := around.waits

/-- Whatever is said of success and failure, nothing else differs. -/
theorem agree_judging (around : Surroundings Memory)
    (first second : Request → Memory × List Request → Except Error Unit) :
    Agree Request.judged? Eq (around.mindful.judging first) (around.mindful.judging second) where
  answer := by
    rintro request memory _ rfl unseen
    cases request with
    | store | increment | process => cases unseen
    | _ => rfl
  memory := by
    rintro request memory _ rfl
    cases request <;> rfl
  deafOne _ _ _ same := same
  deafTwo _ _ _ same := same

end Surroundings

/-! ## What asks nobody who may fail -/

/-- Failures make no difference to what is recorded. -/
abbrev Recorded.Unaffected (recorded : Recorded State Entry Result) : Prop :=
  Alike Request.judged? Eq Eq recorded recorded

namespace Recorded

/-- What is done over a part of the state is unaffected on the whole. -/
theorem alike_within {Part First Second : Type} {like : First → Second → Prop}
    {get : State → Part} {put : State → Part → State} {one : Recorded Part Entry First}
    {two : Recorded Part Entry Second} (alike : Alike Request.judged? Eq like one two) :
    Alike Request.judged? Eq like (one.within get put) (two.within get put) := by
  apply Alike.within _ _ alike
  · rintro state _ rfl
    rfl
  · rintro state _ part _ rfl rfl
    rfl

theorem unaffected_silent {activity : Activity State Result}
    (unseen : activity.Unseen Request.judged?) :
    (silent activity : Recorded State Entry Result).Unaffected := by
  apply Alike.refl
  rw [plain_silent]
  exact unseen

theorem unaffected_look : (silent (Activity.look : Activity State State) :
    Recorded State Entry State).Unaffected :=
  unaffected_silent unseen_look

theorem unaffected_note (name component : String) (fields : List (String × String)) :
    (silent (Activity.note name component fields) : Recorded State Entry Unit).Unaffected :=
  unaffected_silent (unseen_request rfl)

end Recorded

open Recorded

theorem Subscription.unseen_skipReason? {Seen : Type} {seen : Request → Option Seen}
    (notes : ∀ event, seen (.note event) = none) (subscription : Subscription) (duplicate : Bool)
    (origin : String) (metadata : Metadata) :
    (subscription.skipReason? duplicate origin metadata : Activity State _).Unseen seen := by
  rw [skipReason?]
  split
  · exact trivial
  · split
    · exact trivial
    · split
      · exact trivial
      · apply unseen_bind (Expression.unseen_check notes _ metadata)
        intro accepted
        cases accepted with
        | true | false => exact trivial

/-! ## Loops over collaborators -/

/-- A hook that fails does not keep the others from being told. -/
theorem Hook.unaffected_incrementAll (component origin : String) (metadata : Metadata)
    (hooks : List Hook) :
    (silent (Hook.incrementAll component origin metadata hooks) :
      Recorded State Entry Unit).Unaffected := by
  have one (hook : Hook) : (silent (hook.increment component origin metadata) :
      Recorded State Entry Unit).Unaffected := by
    apply Alike.seen
    -- A failure is reported, on whichever of the two sides it has occurred.
    intro answer other
    cases answer with
    | ok => cases other with
      | ok => exact .done rfl
      | error error => exact .noteTwo (.done rfl)
    | error error => cases other with
      | ok => exact .noteOne (.done rfl)
      | error later => exact .noteOne (.noteTwo (.done rfl))
  induction hooks with
  | nil => exact .done rfl
  | cons hook hooks ih =>
      rw [Hook.incrementAll, Activity.each, silent_bind, ← Hook.incrementAll]
      exact (one hook).bind fun _ _ _ => ih

namespace Node

variable (file : File) (metadata : Metadata)

/-- A storage that fails is reported; nothing else comes of it. -/
theorem unaffected_storeIn (subscription : Subscription) (name : String) :
    (silent (storeIn subscription file metadata name) : Recorded Node Entry Unit).Unaffected := by
  have tried : Alike Request.judged? Eq (fun _ _ => True)
      (silent (onStorages (StorageRegistry.store name file metadata)) :
        Recorded Node Entry (Except Error Unit))
      (silent (onStorages (StorageRegistry.store name file metadata))) := by
    simp only [onStorages, onOutbound, Outbound.onStorages, silent_within]
    apply alike_within
    apply alike_within
    rw [StorageRegistry.store, silent_bind]
    apply unaffected_look.bind
    rintro registry _ rfl
    cases registry.get? name with
    | none => exact .done trivial
    | some storage => exact .seen fun _ _ => .done trivial
  rw [storeIn, silent_bind]
  apply tried.bind
  intro answer other _
  cases answer with
  | ok => cases other with
    | ok | error => exact .noteOne (.noteTwo (.done rfl))
  | error error => cases other with
    | ok | error => exact .noteOne (.noteTwo (.done rfl))

/-- A storage that fails does not keep the others from being tried. -/
theorem unaffected_each_storeIn (subscription : Subscription) (names : List String) :
    (silent (Activity.each (storeIn subscription file metadata) names) :
      Recorded Node Entry Unit).Unaffected := by
  induction names with
  | nil => exact .done rfl
  | cons name names ih =>
      rw [Activity.each, silent_bind]
      exact (unaffected_storeIn file metadata subscription name).bind fun _ _ _ => ih

/-- A processor that fails does not keep the others from having their turn. -/
theorem unaffected_process :
    (silent (onProcessors (ProcessorRegistry.process file metadata)) :
      Recorded Node Entry Unit).Unaffected := by
  have one (processor : Processor) : (silent (ProcessorRegistry.run file metadata processor) :
      Recorded ProcessorRegistry Entry Unit).Unaffected := by
    apply Alike.seen
    intro answer other
    cases answer with
    | ok => cases other with
      | ok => exact .done rfl
      | error error => exact .noteTwo (.done rfl)
    | error error => cases other with
      | ok => exact .noteOne (.done rfl)
      | error later => exact .noteOne (.noteTwo (.done rfl))
  rw [onProcessors, silent_within]
  apply alike_within
  rw [ProcessorRegistry.process, silent_bind]
  apply unaffected_look.bind
  rintro registry _ rfl
  induction registry.processors.filter (·.active) with
  | nil => exact .done rfl
  | cons processor processors ih =>
      rw [Activity.each, silent_bind]
      exact (one processor).bind fun _ _ _ => ih

end Node

/-! ## Handing files to publications -/

namespace Publication

variable (publication : Publication) (parcel : Parcel)

theorem unaffected_countError (metadata : Metadata) :
    (silent (publication.countError metadata) : Recorded Outbound Entry Unit).Unaffected :=
  Hook.unaffected_incrementAll ..

theorem unaffected_delete (files : List TemporaryFile) (entry : FileEntry) :
    (Outbound.tracedOnDisk (Disk.tracedDelete files entry)).Unaffected := by
  apply Alike.refl
  rw [Outbound.plain_tracedOnDisk]
  exact unseen_within fun _ => trivial

theorem unaffected_offer :
    ((publication.recordedOffer parcel).retell
      (FileEntry.ofOffer publication.id)).Unaffected := by
  apply Alike.refl
  rw [plain_retell, plain_recordedOffer]
  apply unseen_bind unseen_look
  intro outbound
  show Unseen Request.judged? (if publication.isStopped outbound then _ else _)
  split
  · exact trivial
  · exact fun _ => trivial

theorem unaffected_queue : (publication.tracedQueue parcel).Unaffected := by
  apply (publication.unaffected_offer parcel).bind
  rintro outcome _ rfl
  cases outcome with
  | queued => exact (unaffected_note ..).bind fun _ _ _ => .done rfl
  | queueFull =>
      apply (unaffected_delete ..).bind
      intro _ _ _
      apply (unaffected_note ..).bind
      intro _ _ _
      exact (publication.unaffected_countError parcel.metadata).bind fun _ _ _ => .done rfl
  | discarded | decorationFailed | stopped =>
      apply (unaffected_delete ..).bind
      intro _ _ _
      exact (unaffected_note ..).bind fun _ _ _ => .done rfl

/-- What becomes of a file does not depend on the hooks that are told of it. -/
theorem unaffected_enqueue : (publication.tracedEnqueue parcel).Unaffected := by
  apply unaffected_look.bind
  rintro outbound _ rfl
  by_cases stopped : publication.isStopped outbound = true
  · simp only [stopped, if_true]
    apply (unaffected_note ..).bind
    intro _ _ _
    exact (unaffected_delete ..).bind fun _ _ _ => .done rfl
  · simp only [stopped, Bool.false_eq_true, if_false]
    have decorated : (Outbound.tracedOnDisk
        (Stage.tracedRunAll publication.name parcel publication.stages)).Unaffected := by
      apply Alike.refl
      rw [Outbound.plain_tracedOnDisk, Stage.plain_tracedRunAll]
      exact unseen_within (Stage.unseen_runAll Request.decorating_judged? ..)
    apply decorated.bind
    rintro result _ rfl
    cases result with
    | error error =>
        apply (unaffected_note ..).bind
        intro _ _ _
        exact (publication.unaffected_countError parcel.metadata).bind fun _ _ _ => .done rfl
    | ok left =>
        cases left with
        | none => exact .done rfl
        | some decorated => exact publication.unaffected_queue decorated

end Publication

/-! ## Dispatching

A report of a failure may come last, so it is left out of the records by which
runs are compared which step was the last of an enqueueing. -/

namespace Node

variable (file : File) (origin : String) (metadata : Metadata)

theorem unaffected_publishTo (subscription : Option String) (publication : Publication) :
    ((tracedPublishTo file subscription metadata publication).retell Prod.snd).Unaffected := by
  have eligible : (silent (publication.eligible subscription metadata) :
      Recorded Node FileEntry Bool).Unaffected :=
    unaffected_silent (publication.unseen_eligible (fun _ => rfl) subscription metadata)
  rw [tracedPublishTo, retell_bind, retell_silent]
  apply eligible.bind
  rintro accepted _ rfl
  cases accepted with
  | false => exact .done rfl
  | true =>
      simp only [if_true, retell_bind, retell_silent]
      apply unaffected_look.bind
      rintro node _ rfl
      apply (unaffected_silent (unseen_request rfl)).bind
      rintro copied _ rfl
      cases copied with
      | error error =>
          simp only [retell_bind, retell_silent]
          exact (unaffected_note ..).bind fun _ _ _ => .done rfl
      | ok content =>
          have made : (tracedCopy content metadata publication).Unaffected :=
            Alike.refl fun _ => trivial
          simp only [tracedOnOutbound, retell_bind, retell_within, retell_snd_unreturned,
            retell_snd_returning]
          apply (alike_within made).bind
          rintro copy _ rfl
          apply (alike_within (publication.unaffected_enqueue ⟨copy, metadata⟩)).bind
          rintro outcome _ rfl
          exact .done rfl

theorem unaffected_publishToAll (subscription : Option String)
    (publications : List Publication) :
    ((tracedPublishToAll file subscription metadata publications).retell Prod.snd).Unaffected := by
  induction publications with
  | nil => exact .done rfl
  | cons publication publications ih =>
      simp only [tracedPublishToAll, retell_bind]
      apply (unaffected_publishTo file metadata subscription publication).bind
      rintro queued _ rfl
      apply ih.bind
      rintro more _ rfl
      exact .done rfl

theorem unaffected_publish (subscription : Option String) :
    ((tracedPublish file subscription metadata).retell Prod.snd).Unaffected := by
  simp only [tracedPublish, retell_bind, retell_silent]
  apply unaffected_look.bind
  rintro node _ rfl
  apply (unaffected_publishToAll file metadata subscription _).bind
  rintro queued _ rfl
  exact (unaffected_note ..).bind fun _ _ _ => .done rfl

/-- Nothing that fails for a subscription keeps anybody of the same subscription from its turn. -/
theorem unaffected_dispatch (subscription : Subscription) :
    ((tracedDispatch file origin metadata subscription).retell Prod.snd).Unaffected := by
  simp only [tracedDispatch, retell_bind, retell_silent]
  apply (unaffected_each_storeIn file metadata subscription subscription.storages).bind
  intro _ _ _
  apply (Hook.unaffected_incrementAll component origin metadata subscription.statistics).bind
  intro _ _ _
  apply (unaffected_publish file metadata subscription.id).bind
  intro _ _ _
  exact unaffected_process file metadata

theorem unaffected_consider (duplicate : Bool) (subscription : Subscription) :
    ((tracedConsider file origin metadata duplicate subscription).retell Prod.snd).Unaffected := by
  have skipped : (silent (subscription.skipReason? duplicate origin metadata) :
      Recorded Node FileEntry _).Unaffected :=
    unaffected_silent (subscription.unseen_skipReason? (fun _ => rfl) duplicate origin metadata)
  rw [tracedConsider, retell_bind, retell_silent]
  apply skipped.bind
  rintro reason _ rfl
  cases reason with
  | some reason =>
      rw [retell_silent]
      exact unaffected_note ..
  | none =>
      simp only [retell_bind, retell_silent]
      apply (unaffected_note ..).bind
      intro _ _ _
      exact unaffected_dispatch file origin metadata subscription

/-- Nothing that fails for one subscription keeps another from being served. -/
theorem unaffected_route :
    ((tracedRoute file origin metadata).retell Prod.snd).Unaffected := by
  simp only [tracedRoute, retell_bind, retell_silent]
  apply (unaffected_note ..).bind
  intro _ _ _
  apply unaffected_look.bind
  rintro node _ rfl
  apply (Hook.unaffected_incrementAll component origin metadata node.hooks.incoming).bind
  intro _ _ _
  apply unaffected_look.bind
  rintro later _ rfl
  have remembered : (silent (remember metadata.fingerprint) :
      Recorded Node FileEntry Bool).Unaffected := unaffected_silent fun _ => trivial
  apply remembered.bind
  rintro new _ rfl
  have served : ((do
      .each (tracedConsider file origin metadata (!new)) later.directory.subscriptions
      .silent (Hook.incrementAll component origin metadata node.hooks.fileHandling)
      return .ok metadata : Traced Node (Except Error Metadata)).retell Prod.snd).Unaffected := by
    simp only [retell_bind, retell_each, retell_silent]
    apply (Alike.each (unaffected_consider file origin metadata (!new)) _).bind
    intro _ _ _
    exact (Hook.unaffected_incrementAll ..).bind fun _ _ _ => .done rfl
  cases new with
  | true => exact served
  | false =>
      simp only [Bool.not_false, if_true, Bool.true_and, retell_bind, retell_silent]
      apply (Hook.unaffected_incrementAll ..).bind
      intro _ _ _
      apply (unaffected_note ..).bind
      intro _ _ _
      split
      · exact .done rfl
      · exact served

/-- A failure makes no difference to whoever posts a file. -/
theorem unaffected_store : ((tracedStore file origin).retell Prod.snd).Unaffected := by
  rw [tracedStore, retell_bind, retell_silent]
  apply (unaffected_silent (unseen_request rfl)).bind
  rintro answer _ rfl
  cases answer with
  | error error =>
      simp only [retell_bind, retell_silent]
      exact (unaffected_note ..).bind fun _ _ _ => .done rfl
  | ok metadata =>
      rw [retell_bind, retell_silent]
      apply unaffected_look.bind
      rintro node _ rfl
      cases node.config.maxContentLength with
      | none => exact unaffected_route file origin metadata
      | some longest =>
          dsimp only
          split
          · simp only [retell_bind, retell_silent]
            exact (unaffected_note ..).bind fun _ _ _ => .done rfl
          · exact unaffected_route file origin metadata

end Node

/-! ## Two runs -/

/-- The file that a publication is handed. -/
def FileEntry.given? : FileEntry → Option (Publication × Parcel)
  | .given publication parcel => some (publication, parcel)
  | _ => none

/-- What was handed to which publication, oldest first. -/
def handed (log : List (Option Outcome × Option FileEntry)) : List (Publication × Parcel) :=
  (log.filterMap Prod.snd).filterMap FileEntry.given?

/-- Whichever storages, hooks and processors succeed and fail, a node gives the same answer to
whoever posts a file, has the same state afterwards, with what it remembers of the files it has
handled and with its queues, asks the same of its collaborators in the same order, and hands the
same items to the same publications. -/
theorem Node.store_isolates_failures (around : Surroundings Memory)
    (first second : Request → Memory × List Request → Except Error Unit) (file : File)
    (origin : String) (node : Node) (memory : Memory) :
    let run (verdict : Request → Memory × List Request → Except Error Unit) :=
      (store file origin).run (around.mindful.judging verdict) node (memory, [])
    let traced (verdict : Request → Memory × List Request → Except Error Unit) :=
      (tracedStore file origin).run (around.mindful.judging verdict) node (memory, [])
    (∀ verdict, (traced verdict).2 = run verdict) ∧
      (run first).1 = (run second).1 ∧
      (run first).2.1.recent = (run second).2.1.recent ∧
      (run first).2.1 = (run second).2.1 ∧
      (run first).2.2.2 = (run second).2.2.2 ∧
      handed (traced first).1 = handed (traced second).1 := by
  intro run traced
  have plain (verdict) : (traced verdict).2 = run verdict := by
    simp only [traced, run, snd_run, plain_tracedStore]
  obtain ⟨log, result, state, left⟩ :=
    (unaffected_store file origin).run (around.agree_judging first second) (Eq.refl node)
      (Eq.refl (memory, []))
  simp only [run_retell] at log result state left
  rw [← plain first, ← plain second]
  exact ⟨plain, result, congrArg Node.recent state, state, congrArg Prod.snd left,
    congrArg (List.filterMap FileEntry.given?) log⟩

end RadarRelay
