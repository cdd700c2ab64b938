import RadarRelay.Proofs.Activity.Alike
import RadarRelay.Publication.Queueing

/-!
# What numbers of temporary files do not matter for

Two copies of a file differ in their numbers only. A chain of decorators treats them
alike, and so do a publication and its queue: what becomes of a file does not depend on
its number, nor on what other pools and which other files there are.
-/

namespace RadarRelay

variable {Memory Remote State Part Item First Second Later Last Result : Type}

/-! ## Doing alike in surroundings that answer alike -/

namespace Surroundings

/-- From linked memories on, two surroundings give the same answers, and their memories stay
linked. -/
structure AnswersAlike (around : Surroundings Memory) (link : Memory → Remote → Prop)
    (beyond : Surroundings Remote) : Prop where
  answer : ∀ request memory remote, link memory remote →
    (around.answer request memory).1 = (beyond.answer request remote).1
  memory : ∀ request memory remote, link memory remote →
    link (around.answer request memory).2 (beyond.answer request remote).2

/-- From one memory on, the answers are the same. -/
theorem AnswersAlike.refl (around : Surroundings Memory) : around.AnswersAlike Eq around where
  answer := by
    rintro request memory _ rfl
    rfl
  memory := by
    rintro request memory _ rfl
    rfl

variable {link : Memory → Remote → Prop} {around : Surroundings Memory}
  {beyond : Surroundings Remote}

theorem AnswersAlike.agree_mindful (answers : around.AnswersAlike link beyond) :
    Agree (fun _ => (none : Option Empty))
      (fun memory remote => link memory.1 remote.1 ∧ memory.2 = remote.2)
      around.mindful beyond.mindful where
  answer request memory remote linked _ := by
    cases request with
    | note => rfl
    | _ => exact answers.answer _ _ _ linked.1
  memory request memory remote linked := by
    obtain ⟨linked, listed⟩ := linked
    cases request with
    | note => exact ⟨linked, listed⟩
    | _ => exact ⟨answers.memory _ _ _ linked, congrArg (· ++ _) listed⟩
  deafOne _ _ _ linked := linked
  deafTwo _ _ _ linked := linked

end Surroundings

/-- Two activities do alike, and ask for the same. -/
abbrev Activity.Mirrors (same : State → State → Prop) (like : First → Second → Prop)
    (one : Activity State First) (two : Activity State Second) : Prop :=
  Alike (fun _ => (none : Option Empty)) same like
    (Recorded.silent one : Recorded State Empty First) (Recorded.silent two)

namespace Activity.Mirrors

variable {same : State → State → Prop} {like : First → Second → Prop}

theorem bind {lastly : Later → Last → Prop} {one : Activity State First}
    {two : Activity State Second} {oneNext : First → Activity State Later}
    {twoNext : Second → Activity State Last} (mirrors : one.Mirrors same like two)
    (mirrorsNext : ∀ first second, like first second →
      (oneNext first).Mirrors same lastly (twoNext second)) :
    (one >>= oneNext).Mirrors same lastly (two >>= twoNext) := by
  rw [Mirrors, Recorded.silent_bind, Recorded.silent_bind]
  exact Alike.bind mirrors mirrorsNext

theorem request (wanted : Request) :
    (Activity.request wanted : Activity State wanted.Answer).Mirrors same Eq
      (Activity.request wanted) :=
  .ask rfl (fun _ => rfl) fun _ => .done rfl

theorem note (name component : String) (fields : List (String × String)) :
    (Activity.note name component fields : Activity State Unit).Mirrors same Eq
      (Activity.note name component fields) :=
  request (.note ⟨name, component, fields⟩)

theorem atomically {one : State → First × State} {two : State → Second × State}
    (results : ∀ state other, same state other → like (one state).1 (two other).1)
    (states : ∀ state other, same state other → same (one state).2 (two other).2) :
    (Activity.atomically one).Mirrors same like (Activity.atomically two) :=
  .act states (fun _ _ _ => rfl) fun state other agree => .done (results state other agree)

theorem change {one two : State → State}
    (states : ∀ state other, same state other → same (one state) (two other)) :
    (Activity.change one).Mirrors same Eq (Activity.change two) :=
  .act states (fun _ _ _ => rfl) fun _ _ _ => .done rfl

theorem within {get : State → Part} {put : State → Part → State} {samePart : Part → Part → Prop}
    (sameGet : ∀ state other, same state other → samePart (get state) (get other))
    (samePut : ∀ state other part another, same state other → samePart part another →
      same (put state part) (put other another))
    {one : Activity Part First} {two : Activity Part Second}
    (mirrors : one.Mirrors samePart like two) :
    (one.within get put).Mirrors same like (two.within get put) := by
  rw [Mirrors, Recorded.silent_within, Recorded.silent_within]
  exact Alike.within sameGet samePut mirrors

theorem each {action : Item → Activity State Unit}
    (mirrors : ∀ item, (action item).Mirrors same Eq (action item)) (items : List Item) :
    (Activity.each action items).Mirrors same Eq (Activity.each action items) := by
  induction items with
  | nil => exact .done rfl
  | cons item items ih => exact (mirrors item).bind fun _ _ _ => ih

/-- Activities that do alike come to alike ends, and have asked for the same. -/
theorem run {link : Memory → Remote → Prop} {around : Surroundings Memory}
    {beyond : Surroundings Remote} (answers : around.AnswersAlike link beyond)
    {one : Activity State First} {two : Activity State Second}
    (mirrors : one.Mirrors same like two) {state other : State} (begin : same state other)
    {memory : Memory × List Request} {remote : Remote × List Request}
    (linked : link memory.1 remote.1) (listed : memory.2 = remote.2) :
    like (one.run around.mindful state memory).1 (two.run beyond.mindful other remote).1 ∧
      same (one.run around.mindful state memory).2.1
        (two.run beyond.mindful other remote).2.1 ∧
      link (one.run around.mindful state memory).2.2.1
        (two.run beyond.mindful other remote).2.2.1 ∧
      (one.run around.mindful state memory).2.2.2 =
        (two.run beyond.mindful other remote).2.2.2 := by
  have ends := (Alike.run answers.agree_mindful mirrors begin ⟨linked, listed⟩).2
  simp only [Recorded.snd_run, Recorded.plain_silent] at ends
  exact ends

end Activity.Mirrors

open Activity

theorem Hook.mirrors_incrementAll {same : State → State → Prop} (component origin : String)
    (metadata : Metadata) (hooks : List Hook) :
    (incrementAll component origin metadata hooks : Activity State Unit).Mirrors same Eq
      (incrementAll component origin metadata hooks) := by
  apply Mirrors.each
  intro hook
  apply (Mirrors.request _).bind
  rintro answer _ rfl
  cases answer with
  | ok => exact .done rfl
  | error error => exact Mirrors.note ..

/-! ## Without numbers -/

/-- A file as far as its number does not matter. -/
def TemporaryFile.unnumbered (file : TemporaryFile) : TemporaryFile :=
  { file with serial := 0 }

def Parcel.unnumbered (parcel : Parcel) : Parcel :=
  { parcel with file := parcel.file.unnumbered }

def Pool.unnumbered (pool : Pool) : Pool :=
  { pool with
    queue := pool.queue.map Parcel.unnumbered
    delivering := pool.delivering.map Parcel.unnumbered }

/-- Files that differ in their numbers only have the same content. -/
theorem TemporaryFile.file_eq {one two : TemporaryFile} (like : one.unnumbered = two.unnumbered) :
    one.file = two.file := by
  obtain ⟨_, _, _⟩ := one
  obtain ⟨_, _, _⟩ := two
  cases like
  rfl

theorem Parcel.content_eq {one two : Parcel} (like : one.unnumbered = two.unnumbered) :
    one.file.file = two.file.file ∧ one.metadata = two.metadata := by
  obtain ⟨_, _⟩ := one
  obtain ⟨_, _⟩ := two
  injection like with file metadata
  exact ⟨TemporaryFile.file_eq file, metadata⟩

theorem Pool.offer_unnumbered (pool : Pool) (parcel : Parcel) :
    pool.unnumbered.offer parcel.unnumbered =
      ((pool.offer parcel).1, (pool.offer parcel).2.unnumbered) := by
  rw [offer, offer]
  by_cases closed : pool.closed = true
  · simp [unnumbered, closed]
  · by_cases full : pool.capacity ≤ pool.queue.length
    · simp [unnumbered, closed, full]
    · simp [unnumbered, closed, full]

/-! ## Decorating -/

namespace Stage

variable {one two : Parcel}

/-- Two chains have come to the same end: to the same error, or to parcels that differ in their
numbers only. -/
inductive LikeEnd : Except Error (Option Parcel) → Except Error (Option Parcel) → Prop where
  | failed (error : Error) : LikeEnd (.error error) (.error error)
  | discarded : LikeEnd (.ok none) (.ok none)
  | left {one two : Parcel} : one.unnumbered = two.unnumbered →
      LikeEnd (.ok (some one)) (.ok (some two))

theorem mirrors_decorate {same : State → State → Prop} (file : File) (metadata : Metadata)
    (decorator : Decorator) :
    (decorator.decorate file metadata : Activity State _).Mirrors same Eq
      (decorator.decorate file metadata) := by
  cases decorator with
  | external name serial => exact Mirrors.request (.decorate name serial file metadata)
  | staleFileBlocker greatestAge =>
      rw [Decorator.decorate]
      split
      · exact .done rfl
      · apply (Mirrors.request _).bind
        rintro now _ rfl
        exact .done rfl

theorem mirrors_run (publication : String) (stage : Stage)
    (like : one.unnumbered = two.unnumbered) :
    (stage.run publication one).Mirrors (fun _ _ => True) LikeEnd (stage.run publication two) := by
  obtain ⟨file, metadata⟩ := Parcel.content_eq like
  rw [run, run, file, metadata]
  apply (mirrors_decorate ..).bind
  rintro decoration _ rfl
  cases decoration with
  | error error => exact (Mirrors.change fun _ _ _ => trivial).bind fun _ _ _ => .done (.failed _)
  | ok decoration =>
      cases decoration with
      | unchanged => exact .done (.left like)
      | replaced content =>
          have made : (atomically (Disk.replacement content)).Mirrors (fun _ _ => True)
              (fun one two => one.unnumbered = two.unnumbered)
              (atomically (Disk.replacement content)) := by
            apply Mirrors.atomically
            · intro _ _ _
              rfl
            · intro _ _ _
              trivial
          apply made.bind
          intro first second likeFile
          rw [TemporaryFile.file_eq likeFile]
          apply (Mirrors.request _).bind
          rintro answer _ rfl
          cases answer with
          | error error =>
              exact (Mirrors.change fun _ _ _ => trivial).bind fun _ _ _ => .done (.failed _)
          | ok metadata =>
              apply (Mirrors.change fun _ _ _ => trivial).bind
              intro _ _ _
              apply (Mirrors.note ..).bind
              intro _ _ _
              apply Alike.done
              apply LikeEnd.left
              simp [Parcel.unnumbered, likeFile]
      | empty =>
          show Mirrors _ _ (if stage.allowDiscard then _ else _)
            (if stage.allowDiscard then _ else _)
          split
          · apply (Mirrors.note ..).bind
            intro _ _ _
            exact (Mirrors.change fun _ _ _ => trivial).bind fun _ _ _ => .done .discarded
          · exact (Mirrors.note ..).bind fun _ _ _ => .done (.left like)

/-- A chain does not depend on the number of the file. -/
theorem mirrors_runAll (publication : String) (stages : List Stage)
    (like : one.unnumbered = two.unnumbered) :
    (runAll publication one stages).Mirrors (fun _ _ => True) LikeEnd
      (runAll publication two stages) := by
  induction stages generalizing one two with
  | nil => exact .done (.left like)
  | cons stage stages ih =>
      apply (mirrors_run publication stage like).bind
      intro first second likeEnd
      cases likeEnd with
      | failed error => exact .done (.failed error)
      | discarded => exact .done .discarded
      | left like => exact ih like

end Stage

/-! ## Queueing -/

/-- Two outbound states are the same for a publication: its pools differ in the numbers of files
only. -/
structure Outbound.SameFor (publication : Nat) (one two : Outbound) : Prop where
  started : one.pools.length = two.pools.length
  pool : (one.pool publication).unnumbered = (two.pool publication).unnumbered

/-- Other files on the disk make no difference. -/
theorem Outbound.SameFor.onDisk {publication : Nat} {one two : Outbound}
    (same : SameFor publication one two) (disk other : Disk) :
    SameFor publication { one with disk } { two with disk := other } :=
  ⟨same.started, same.pool⟩

theorem Outbound.SameFor.setPool {publication : Nat} {one two : Outbound}
    (same : SameFor publication one two) {pool other : Pool}
    (like : pool.unnumbered = other.unnumbered) :
    SameFor publication (one.setPool publication pool) (two.setPool publication other) := by
  refine ⟨by simpa using same.started, ?_⟩
  by_cases started : publication < one.pools.length
  · rw [one.pool_setPool_self started, two.pool_setPool_self (same.started ▸ started)]
    exact like
  · have never (outbound : Outbound) (equal : outbound.pools.length = one.pools.length)
        (pool : Pool) : outbound.setPool publication pool = outbound := by
      rw [Outbound.setPool, List.set_eq_of_length_le (by omega)]
    rw [never one rfl, never two same.started.symm]
    exact same.pool

namespace Publication

variable (publication : Publication) {one two : Parcel}

theorem isStopped_eq {first second : Outbound} (same : first.SameFor publication.id second) :
    publication.isStopped first = publication.isStopped second := by
  show (first.pool publication.id).unnumbered.stopped =
    (second.pool publication.id).unnumbered.stopped
  rw [same.pool]

theorem mirrors_look :
    (look : Activity Outbound Outbound).Mirrors (Outbound.SameFor publication.id)
      (Outbound.SameFor publication.id) look :=
  .act (fun _ _ same => same) (fun _ _ _ => rfl) fun _ _ same => .done same

theorem mirrors_onDisk {first second : Activity Disk First}
    {like : First → First → Prop} (mirrors : first.Mirrors (fun _ _ => True) like second) :
    (Outbound.onDisk first).Mirrors (Outbound.SameFor publication.id) like
      (Outbound.onDisk second) := by
  apply Mirrors.within _ _ mirrors
  · intro _ _ _
    trivial
  · intro _ _ disk other same _
    exact same.onDisk disk other

theorem mirrors_delete (one two : TemporaryFile) :
    (Outbound.onDisk (change fun disk => disk.delete one)).Mirrors
      (Outbound.SameFor publication.id) Eq
      (Outbound.onDisk (change fun disk => disk.delete two)) :=
  publication.mirrors_onDisk (Mirrors.change fun _ _ _ => trivial)

variable (like : one.unnumbered = two.unnumbered)

include like

theorem mirrors_offer :
    (publication.offer one).Mirrors (Outbound.SameFor publication.id) Eq
      (publication.offer two) := by
  apply publication.mirrors_look.bind
  intro first second same
  rw [publication.isStopped_eq same]
  split
  · exact .done rfl
  · have offered {first second : Outbound} (same : first.SameFor publication.id second) :
        ((first.pool publication.id).offer one).1 = ((second.pool publication.id).offer two).1 ∧
          ((first.pool publication.id).offer one).2.unnumbered =
            ((second.pool publication.id).offer two).2.unnumbered := by
      have commutes := (first.pool publication.id).offer_unnumbered one
      rw [same.pool, like, Pool.offer_unnumbered] at commutes
      injection commutes with answers pools
      exact ⟨answers.symm, pools.symm⟩
    apply Mirrors.atomically
    · intro first second same
      exact (offered same).1
    · intro first second same
      exact same.setPool (offered same).2

theorem mirrors_queue :
    (publication.queue one).Mirrors (Outbound.SameFor publication.id) Eq
      (publication.queue two) := by
  rw [queue, queue, (Parcel.content_eq like).2]
  apply (publication.mirrors_offer like).bind
  rintro outcome _ rfl
  cases outcome with
  | queued => exact (Mirrors.note ..).bind fun _ _ _ => .done rfl
  | queueFull =>
      apply (publication.mirrors_delete ..).bind
      intro _ _ _
      apply (Mirrors.note ..).bind
      intro _ _ _
      exact (Hook.mirrors_incrementAll ..).bind fun _ _ _ => .done rfl
  | discarded | decorationFailed | stopped =>
      apply (publication.mirrors_delete ..).bind
      intro _ _ _
      exact (Mirrors.note ..).bind fun _ _ _ => .done rfl

/-- What becomes of a file depends on the pool of the publication, and on the answers that are
given, only. -/
theorem mirrors_enqueue :
    (publication.enqueue one).Mirrors (Outbound.SameFor publication.id) Eq
      (publication.enqueue two) := by
  rw [enqueue, enqueue, (Parcel.content_eq like).2]
  apply publication.mirrors_look.bind
  intro first second same
  rw [publication.isStopped_eq same]
  split
  · apply (Mirrors.note ..).bind
    intro _ _ _
    exact (publication.mirrors_delete ..).bind fun _ _ _ => .done rfl
  · have decorated := Stage.mirrors_runAll publication.name publication.stages like
    apply (publication.mirrors_onDisk decorated).bind
    intro left right likeEnd
    cases likeEnd with
    | failed error =>
        apply (Mirrors.note ..).bind
        intro _ _ _
        exact (Hook.mirrors_incrementAll ..).bind fun _ _ _ => .done rfl
    | discarded => exact .done rfl
    | left like => exact publication.mirrors_queue like

end Publication

end RadarRelay
