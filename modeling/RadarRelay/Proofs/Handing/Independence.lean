import RadarRelay.Proofs.Handing.Mirroring
import RadarRelay.Proofs.Handing.Reach

/-!
# Publications do not interfere

What comes of a file for a publication depends on its own pool and on the answers that
are given during its turn, and on nothing else: among whatever others it is registered,
it does what it would do alone. Only the numbers of temporary files are given out in the
order in which the files are made.
-/

namespace RadarRelay

open Activity

variable {Memory Remote : Type}

/-! ## One turn -/

/-- What comes of a file as far as the number of the copy does not matter. -/
def Turn.unnumbered : Turn → Turn
  | handed copy answer => handed copy.unnumbered answer
  | other => other

/-- What has to come of a file for a publication, given how copying it ends and what the
publication answers to the copy. -/
def Publication.due (publication : Publication) (origin : Option String) (metadata : Metadata)
    (copied : Except Error File) (answer : Outcome) : Turn :=
  if publication.Meant origin metadata then
    match copied with
    | .error error => .uncopied error
    | .ok content => .handed ⟨⟨0, content, true⟩, metadata⟩ answer
  else .passedOver

/-- The requests that are made neither of decorators nor of hooks. -/
def Request.direct? : Request → Option Request
  | .note _ | .now | .readMetadata _ | .decorate .. | .increment .. => none
  | other => some other

theorem Request.decorating_direct? : Request.DecoratingUnseen Request.direct? :=
  ⟨fun _ => rfl, rfl, fun _ => rfl, fun _ _ _ _ => rfl⟩

/-- The hooks of a publication. -/
def Publication.hooks (publication : Publication) : List Hook :=
  publication.statisticsOk ++ publication.statisticsError

/-- What the hooks of a publication are told. -/
def Publication.told? (publication : Publication) : Request → Option Request
  | .increment hook origin metadata =>
      if hook ∈ publication.hooks then some (.increment hook origin metadata) else none
  | _ => none

theorem Publication.decorating_told? (publication : Publication) :
    Request.DecoratingUnseen publication.told? :=
  ⟨fun _ => rfl, rfl, fun _ => rfl, fun _ _ _ _ => rfl⟩

/-- Two nodes are the same for a publication. -/
structure Node.SameFor (publication : Nat) (one two : Node) : Prop where
  folder : one.config.tmpFolder = two.config.tmpFolder
  outbound : one.outbound.SameFor publication two.outbound

variable (around : Surroundings Memory) (origin : Option String) (file : File)
  (metadata : Metadata)

namespace Publication

variable (publication : Publication)

/-- What was asked before makes no difference to a turn. -/
theorem turn_mindful (node : Node) (memory : Memory) (asked : List Request) :
    publication.turn around.mindful origin file metadata node (memory, asked) =
      let own := publication.turn around.mindful origin file metadata node (memory, [])
      (own.1, own.2.1, (own.2.2.1, asked ++ own.2.2.2)) := by
  rw [turn, turn]
  split
  · rw [around.answer_mindful]
    rcases around.mindful.answer (.copy node.config.tmpFolder file) (memory, []) with
      ⟨copied, later, listed⟩
    cases copied with
    | error error => rfl
    | ok content =>
        dsimp only
        rw [run_mindful, run_mindful around _ _ later listed, List.append_assoc]
  · simp

/-- A turn takes the same course on nodes that are the same for the publication, in surroundings
that answer alike. -/
theorem turn_sameFor {link : Memory → Remote → Prop} {beyond : Surroundings Remote}
    (answers : around.AnswersAlike link beyond) {one two : Node}
    (same : one.SameFor publication.id two) {memory : Memory} {remote : Remote}
    (linked : link memory remote) :
    let first := publication.turn around.mindful origin file metadata one (memory, [])
    let second := publication.turn beyond.mindful origin file metadata two (remote, [])
    first.1.unnumbered = second.1.unnumbered ∧ first.2.1.SameFor publication.id second.2.1 ∧
      first.2.2.2 = second.2.2.2 := by
  rw [turn, turn, same.folder]
  split
  · have copies := answers.agree_mindful.answer (.copy two.config.tmpFolder file) (memory, [])
      (remote, []) ⟨linked, rfl⟩ rfl
    have still := answers.agree_mindful.memory (.copy two.config.tmpFolder file) (memory, [])
      (remote, []) ⟨linked, rfl⟩
    generalize around.mindful.answer (.copy two.config.tmpFolder file) (memory, []) = first
      at copies still ⊢
    generalize beyond.mindful.answer (.copy two.config.tmpFolder file) (remote, []) = second
      at copies still ⊢
    obtain ⟨copied, later⟩ := first
    obtain ⟨other, behind⟩ := second
    obtain rfl : copied = other := copies
    cases copied with
    | error error => exact ⟨rfl, same, still.2⟩
    | ok content =>
        have like : (⟨(one.outbound.disk.copy content).1, metadata⟩ : Parcel).unnumbered =
            (⟨(two.outbound.disk.copy content).1, metadata⟩ : Parcel).unnumbered := rfl
        obtain ⟨outcomes, outbound, _, listed⟩ := (publication.mirrors_enqueue like).run answers
          (same.outbound.onDisk (one.outbound.disk.copy content).2
            (two.outbound.disk.copy content).2) still.1 still.2
        refine ⟨?_, ⟨same.folder, outbound⟩, listed⟩
        rw [Turn.unnumbered, Turn.unnumbered, outcomes, like]
  · exact ⟨rfl, same, rfl⟩

/-- What comes of a turn is what has to. -/
theorem turn_due (node : Node) (memory : Memory) (asked : List Request) :
    ∃ answer,
      (publication.turn around.mindful origin file metadata node (memory, asked)).1.unnumbered =
        publication.due origin metadata
          (around.answer (.copy node.config.tmpFolder file) memory).1 answer := by
  by_cases meant : publication.Meant origin metadata
  · simp only [turn, due, if_pos meant]
    have heard : (around.mindful.answer (.copy node.config.tmpFolder file) (memory, asked)).1 =
        (around.answer (.copy node.config.tmpFolder file) memory).1 := rfl
    rw [← heard]
    rcases around.mindful.answer (.copy node.config.tmpFolder file) (memory, asked) with
      ⟨copied, later⟩
    cases copied with
    | error error => exact ⟨.queued, rfl⟩
    | ok content => exact ⟨_, rfl⟩
  · refine ⟨.queued, ?_⟩
    simp only [turn, due, if_neg meant]
    rfl

/-- One copy is asked for in the turn of a publication for which the file is meant. -/
theorem turn_asked (node : Node) (memory : Memory) (asked : List Request) :
    (publication.turn around.mindful origin file metadata node
        (memory, asked)).2.2.2.filterMap Request.direct? =
      asked.filterMap Request.direct? ++
        if publication.Meant origin metadata then [.copy node.config.tmpFolder file] else [] := by
  rw [turn]
  split
  · have listed : (around.mindful.answer (.copy node.config.tmpFolder file) (memory, asked)).2.2 =
        asked ++ [.copy node.config.tmpFolder file] := rfl
    have copies : (asked ++ [Request.copy node.config.tmpFolder file]).filterMap Request.direct? =
        asked.filterMap Request.direct? ++ [.copy node.config.tmpFolder file] := by
      rw [List.filterMap_append]
      rfl
    rcases answered : around.mindful.answer (.copy node.config.tmpFolder file) (memory, asked) with
      ⟨copied, later⟩
    rw [← listed, answered] at copies
    cases copied with
    | error error => exact copies
    | ok content =>
        have enqueued := publication.unseen_enqueue
          ⟨(node.outbound.disk.copy content).1, metadata⟩ Request.decorating_direct?
          fun _ _ _ _ => rfl
        exact (enqueued.run_asked around _ later).trans copies
  · simp

end Publication

/-! ## All turns -/

/-- Two publications have nothing in common: neither a pool nor a hook. -/
def Publication.Apart (one other : Publication) : Prop :=
  one.id ≠ other.id ∧ ∀ hook ∈ one.hooks, hook ∉ other.hooks

instance (one other : Publication) : Decidable (one.Apart other) :=
  inferInstanceAs (Decidable (_ ∧ _))

theorem Publication.Apart.symm {one other : Publication} (apart : one.Apart other) :
    other.Apart one :=
  ⟨Ne.symm apart.1, fun hook mine theirs => apart.2 hook theirs mine⟩

/-- The parts of a node that publishing has nothing to do with. -/
def Node.aside (node : Node) : Node × Nat :=
  ({ node with outbound := { node.outbound with pools := [], disk := .empty } },
    node.outbound.pools.length)

theorem Node.eq_of_aside {node later : Node} (same : later.aside = node.aside) :
    later = { node with outbound :=
      { node.outbound with pools := later.outbound.pools, disk := later.outbound.disk } } := by
  obtain ⟨_, _, _, _, _, _, _, ⟨_, _, _⟩⟩ := node
  obtain ⟨_, _, _, _, _, _, _, ⟨_, _, _⟩⟩ := later
  cases congrArg Prod.fst same
  rfl

namespace Node

variable (node : Node) (memory : Memory × List Request)

/-- The turns of publications are what handing the file to them comes to. -/
theorem publishedTo_eq_run (publications : List Publication) :
    ((publishToAll origin file metadata publications).run around.mindful node memory).2 =
      ((node.publishedTo around.mindful origin file metadata memory publications).node,
        (node.publishedTo around.mindful origin file metadata memory publications).memory) := by
  have ran := run_publishToAll around.mindful origin file metadata node memory publications
  rw [around.deaf_mindful] at ran
  rw [ran]

theorem aside_publishedTo (publications : List Publication) :
    (node.publishedTo around.mindful origin file metadata memory publications).node.aside =
      node.aside := by
  have kept : (publishToAll origin file metadata publications).Keeps aside :=
    keeps_publishToAll origin file metadata (fun _ _ => rfl) publications
      fun publication _ node pool => by simp [aside, Outbound.setPool]
  have same := kept.run around.mindful node memory
  rw [publishedTo_eq_run] at same
  exact same

/-- A publication to which nothing is published keeps its pool. -/
theorem pool_publishedTo (number : Nat) (publications : List Publication)
    (others : ∀ publication ∈ publications, publication.id ≠ number) :
    (node.publishedTo around.mindful origin file metadata memory
      publications).node.outbound.pool number = node.outbound.pool number := by
  have kept : (publishToAll origin file metadata publications).Keeps
      fun node => node.outbound.pool number :=
    keeps_publishToAll origin file metadata (fun _ _ => rfl) publications
      fun publication known node pool =>
        node.outbound.pool_setPool_of_ne (Ne.symm (others publication known)) pool
  have same := kept.run around.mindful node memory
  rw [publishedTo_eq_run] at same
  exact same

/-- A publication to which nothing is published tells its hooks nothing. -/
theorem told_publishedTo (publication : Publication) (publications : List Publication)
    (others : ∀ other ∈ publications, publication.Apart other) :
    (node.publishedTo around.mindful origin file metadata memory
      publications).memory.2.filterMap publication.told? =
        memory.2.filterMap publication.told? := by
  have unseen : (publishToAll origin file metadata publications).Unseen publication.told? := by
    apply unseen_publishToAll origin file metadata publication.decorating_told? fun _ _ => rfl
    intro other known hook theirs _ _
    have foreign : hook ∉ publication.hooks := fun mine =>
      (others other known).2 hook mine (List.mem_append_right _ theirs)
    simp [Publication.told?, foreign]
  have same := unseen.run_asked around node memory
  rw [publishedTo_eq_run] at same
  exact same

/-- What was asked before makes no difference to what is asked. -/
theorem asked_publishedTo (memory : Memory) (asked : List Request)
    (publications : List Publication) :
    ∃ more, (node.publishedTo around.mindful origin file metadata (memory, asked)
      publications).memory.2 = asked ++ more := by
  have shifted := congrArg (fun ran => ran.2.2.2) (run_mindful around
    (publishToAll origin file metadata publications) node memory asked)
  rw [publishedTo_eq_run] at shifted
  exact ⟨_, shifted⟩

/-- Copies are asked for, one for each publication for which the file is meant, and nothing else
is done with the file. -/
theorem copies_publishedTo (publications : List Publication) :
    (node.publishedTo around.mindful origin file metadata memory
        publications).memory.2.filterMap Request.direct? =
      memory.2.filterMap Request.direct? ++
        List.replicate (publications.countP fun publication => publication.Meant origin metadata)
          (.copy node.config.tmpFolder file) := by
  induction publications generalizing node memory with
  | nil => simp [publishedTo]
  | cons publication publications ih =>
      have first := publication.turn_asked around origin file metadata node memory.1 memory.2
      have folder : (publication.turn around.mindful origin file metadata node
          memory).2.1.config.tmpFolder = node.config.tmpFolder := by
        have aside := node.aside_publishedTo around origin file metadata memory [publication]
        exact congrArg (fun known => known.1.config.tmpFolder) aside
      rw [publishedTo]
      refine (ih _ _).trans ?_
      rw [folder, first, List.append_assoc, List.countP_cons]
      by_cases meant : publication.Meant origin metadata
      · simp [meant, List.replicate_succ]
      · simp [meant]

end Node

/-! ## Independence -/

/-- Publishing a file does nothing with it but copying it, and changes nothing but pools and copies
of files. -/
structure Untouched (origin : Option String) (file : File) (metadata : Metadata) (node : Node)
    (whole : Published (Memory × List Request)) : Prop where
  rest : whole.node = { node with outbound :=
    { node.outbound with pools := whole.node.outbound.pools, disk := whole.node.outbound.disk } }
  /-- Every temporary file that was there before is still there. -/
  files : ∀ other ∈ node.outbound.disk.present, other.serial < node.outbound.disk.next →
    other ∈ whole.node.outbound.disk.present
  /-- Nobody but decorators and hooks is asked for anything else than for one copy of the file for
  each publication for which it is meant. -/
  copies : whole.memory.2.filterMap Request.direct? =
    List.replicate
      (node.registry.publications.countP fun publication => publication.Meant origin metadata)
      (.copy node.config.tmpFolder file)

/-- What publishing a file comes to for one publication, among others and alone. The others up to
`before` have had their turns when `reached` is reached. -/
structure Independent (around : Surroundings Memory) (origin : Option String) (file : File)
    (metadata : Metadata) (node : Node) (before : List Publication) (publication : Publication)
    (reached whole : Published (Memory × List Request))
    (alone : Published (Remote × List Request)) : Prop where
  /-- The publication is given a copy with the same metadata, unless copying fails, if the file is
  meant for it, and nothing otherwise; and it answers the same. -/
  turn : ∃ answer,
    let due := publication.due origin metadata
      (around.answer (.copy node.config.tmpFolder file) reached.memory.1).1 answer
    whole.turns[before.length]?.map Turn.unnumbered = some due ∧
      alone.turns.map Turn.unnumbered = [due]
  /-- What is asked in its turn is what is asked when it is alone. -/
  asked : ∃ later, whole.memory.2 = reached.memory.2 ++ alone.memory.2 ++ later
  /-- That is one copy if the file is meant for it, and none otherwise. -/
  copies : alone.memory.2.filterMap Request.direct? =
    if publication.Meant origin metadata then [.copy node.config.tmpFolder file] else []
  queue : (whole.node.outbound.pool publication.id).unnumbered =
    (alone.node.outbound.pool publication.id).unnumbered
  passedOver : ¬publication.Meant origin metadata →
    whole.node.outbound.pool publication.id = node.outbound.pool publication.id
  /-- Its hooks are told the same, over the whole run. -/
  statistics : whole.memory.2.filterMap publication.told? =
    alone.memory.2.filterMap publication.told?

section Parts

variable (node : Node) (memory : Memory) {before after : List Publication}
  {publication : Publication}

/-- After the turns of others a node is still the same for a publication, whatever else is
registered. -/
theorem Node.sameFor_publishedTo (earlier : ∀ other ∈ before, publication.Apart other)
    (registry : PublicationRegistry) :
    (node.publishedTo around.mindful origin file metadata (memory, []) before).node.SameFor
      publication.id { node with registry } := by
  have aside := node.aside_publishedTo around origin file metadata (memory, []) before
  have kept := node.pool_publishedTo around origin file metadata (memory, []) publication.id before
    fun other known => Ne.symm (earlier other known).1
  constructor
  · exact congrArg (fun known => known.1.config.tmpFolder) aside
  · exact ⟨congrArg Prod.snd aside, congrArg Pool.unnumbered kept⟩

/-- The turn of a publication comes between the turns of those before and of those after it. -/
theorem Node.publishedTo_split :
    let reached := node.publishedTo around.mindful origin file metadata (memory, []) before
    let mine := publication.turn around.mindful origin file metadata reached.node
      (reached.memory.1, [])
    let rest := mine.2.1.publishedTo around.mindful origin file metadata
      (mine.2.2.1, reached.memory.2 ++ mine.2.2.2) after
    node.publishedTo around.mindful origin file metadata (memory, [])
        (before ++ publication :: after) =
      ⟨reached.turns ++ mine.1 :: rest.turns, rest.node, rest.memory⟩ := by
  intro reached mine rest
  have taken : publication.turn around.mindful origin file metadata reached.node reached.memory =
      (mine.1, mine.2.1, (mine.2.2.1, reached.memory.2 ++ mine.2.2.2)) :=
    publication.turn_mindful around origin file metadata reached.node reached.memory.1
      reached.memory.2
  have followed : reached.node.publishedTo around.mindful origin file metadata reached.memory
      (publication :: after) = ⟨mine.1 :: rest.turns, rest.node, rest.memory⟩ := by
    rw [publishedTo, taken]
  refine (node.publishedTo_append around.mindful origin file metadata (memory, []) before
    (publication :: after)).trans ?_
  dsimp only
  rw [followed]

/-- A publication does among others what it does alone. -/
theorem Node.independent_of_apart (earlier : ∀ other ∈ before, publication.Apart other)
    (later : ∀ other ∈ after, publication.Apart other) {link : Memory → Remote → Prop}
    {beyond : Surroundings Remote} (answers : around.AnswersAlike link beyond) {remote : Remote}
    (linked : link (node.publishedTo around.mindful origin file metadata (memory, [])
      before).memory.1 remote) :
    let reached := node.publishedTo around.mindful origin file metadata (memory, []) before
    let whole := node.publishedTo around.mindful origin file metadata (memory, [])
      (before ++ publication :: after)
    let sole : Node := { node with registry := ⟨[publication]⟩ }
    let alone := sole.publishedTo beyond.mindful origin file metadata (remote, []) [publication]
    Independent around origin file metadata node before publication reached whole alone := by
  intro reached whole sole alone
  let mine := publication.turn around.mindful origin file metadata reached.node
    (reached.memory.1, [])
  let own := publication.turn beyond.mindful origin file metadata sole (remote, [])
  let rest := mine.2.1.publishedTo around.mindful origin file metadata
    (mine.2.2.1, reached.memory.2 ++ mine.2.2.2) after
  have begun : reached.node.SameFor publication.id sole :=
    node.sameFor_publishedTo around origin file metadata memory earlier _
  obtain ⟨turns, same, listed⟩ := publication.turn_sameFor around origin file metadata answers
    begun linked
  have whole_eq : whole = ⟨reached.turns ++ mine.1 :: rest.turns, rest.node, rest.memory⟩ :=
    node.publishedTo_split around origin file metadata memory
  have alone_eq : alone = ⟨[own.1], own.2.1, own.2.2⟩ := rfl
  have pool : whole.node.outbound.pool publication.id =
      mine.2.1.outbound.pool publication.id := by
    rw [whole_eq]
    exact mine.2.1.pool_publishedTo around origin file metadata _ publication.id after
      fun other known => Ne.symm (later other known).1
  constructor
  · obtain ⟨answer, due⟩ := publication.turn_due around origin file metadata reached.node
      reached.memory.1 []
    have folder : reached.node.config.tmpFolder = node.config.tmpFolder := begun.folder
    have length : reached.turns.length = before.length :=
      node.length_turns_publishedTo around.mindful origin file metadata (memory, []) before
    rw [folder] at due
    refine ⟨answer, ?_, ?_⟩
    · rw [whole_eq, ← length, ← due]
      simp [mine]
    · rw [alone_eq, ← due, turns]
      rfl
  · obtain ⟨more, asked⟩ := mine.2.1.asked_publishedTo around origin file metadata mine.2.2.1
      (reached.memory.2 ++ mine.2.2.2) after
    refine ⟨more, ?_⟩
    rw [whole_eq, alone_eq, ← listed]
    exact asked
  · exact publication.turn_asked beyond origin file metadata sole remote []
  · rw [pool]
    exact same.outbound.pool
  · intro meant
    have passed : mine.2.1 = reached.node := by
      simp only [mine, Publication.turn, if_neg meant]
    rw [pool, passed]
    exact node.pool_publishedTo around origin file metadata (memory, []) publication.id before
      fun other known => Ne.symm (earlier other known).1
  · have told := mine.2.1.told_publishedTo around origin file metadata
      (mine.2.2.1, reached.memory.2 ++ mine.2.2.2) publication after later
    have nothing : reached.memory.2.filterMap publication.told? = [] :=
      node.told_publishedTo around origin file metadata (memory, []) publication before earlier
    rw [List.filterMap_append, nothing, List.nil_append] at told
    rw [whole_eq, alone_eq, ← listed]
    exact told

/-- Publishing a file touches nothing but copies of it. -/
theorem Node.untouched_published :
    Untouched origin file metadata node
      (node.publishedTo around.mindful origin file metadata (memory, [])
        node.registry.publications) := by
  constructor
  · exact eq_of_aside (node.aside_publishedTo around origin file metadata (memory, []) _)
  · intro other present older
    have spares : node.outbound.disk.Spares node.outbound.disk.next [other] :=
      ⟨by simpa using present, by simpa using older, Nat.le_refl _⟩
    have spared := spares_publishedTo around.mindful (memory, []) origin file metadata spares
      node.registry.publications
    exact spared.present other (List.mem_singleton_self other)
  · exact node.copies_publishedTo around origin file metadata (memory, []) _

end Parts

/-- For every node whose publications have neither pools nor hooks in common, every origin and every
file, whatever is answered to copying and decorating and whatever the queues are like: publishing
the file counts the publications that answer that they have queued it, touches nothing but copies,
and comes to the same for each publication as if it were the only one that is registered, in any
surroundings that give it the same answers. -/
theorem Node.publications_independent (around : Surroundings Memory) (origin : Option String)
    (file : File) (metadata : Metadata) (node : Node) (memory : Memory)
    (apart : node.registry.publications.Pairwise Publication.Apart) :
    let whole := node.publishedTo around.mindful origin file metadata (memory, [])
      node.registry.publications
    (∀ {Remote : Type} (beyond : Surroundings Remote) (node : Node) (remote : Remote),
      (publish origin file metadata).run beyond.mindful node (remote, []) =
        let all := node.publishedTo beyond.mindful origin file metadata (remote, [])
          node.registry.publications
        (all.turns.countP Turn.isQueued, all.node, all.memory)) ∧
      Untouched origin file metadata node whole ∧
      ∀ before publication after,
        node.registry.publications = before ++ publication :: after →
        let reached := node.publishedTo around.mindful origin file metadata (memory, []) before
        let sole : Node := { node with registry := ⟨[publication]⟩ }
        ∀ {Remote : Type} (beyond : Surroundings Remote) (remote : Remote)
          (link : Memory → Remote → Prop),
          around.AnswersAlike link beyond → link reached.memory.1 remote →
          let alone := sole.publishedTo beyond.mindful origin file metadata (remote, [])
            sole.registry.publications
          Independent around origin file metadata node before publication reached whole alone := by
  intro whole
  refine ⟨?_, node.untouched_published around origin file metadata memory, ?_⟩
  · intro Remote beyond node remote
    have ran := run_publish beyond.mindful origin file metadata node (remote, [])
    rw [beyond.deaf_mindful] at ran
    exact ran
  · intro before publication after split reached sole Remote beyond remote link answers linked alone
    rw [split, List.pairwise_append, List.pairwise_cons] at apart
    obtain ⟨_, ⟨later, _⟩, earlier⟩ := apart
    simp only [whole, split]
    apply node.independent_of_apart around origin file metadata memory _ later answers linked
    intro other known
    exact (earlier other known publication List.mem_cons_self).symm

/-- The queue of the first publication is full, the second one gets a replacement of its copy, and
the file is not meant for the third one. -/
theorem Node.publications_independent_of_full_queue :
    let around : Surroundings Unit :=
      ⟨fun request _ =>
        match request with
        | .decorate _ _ _ _ => (.ok (.replaced ⟨some "packed"⟩), ())
        | request => (request.granted, ()), fun _ _ => false⟩
    let archive : Publication :=
      ⟨0, "archive", true, [], .always, [], .simple (.external "ftp" 0), 1, [], [⟨"lost", 0⟩]⟩
    let mirror : Publication :=
      { archive with
        id := 1
        name := "mirror"
        origins := ["radar"]
        stages := [⟨.external "gzip" 0, true⟩]
        statisticsError := [⟨"lost", 1⟩] }
    let backup : Publication :=
      { archive with id := 2, name := "backup", origins := ["lidar"], statisticsError := [] }
    let waiting : Parcel := ⟨⟨0, ⟨some "earlier"⟩, true⟩, .empty⟩
    let node : Node :=
      { config := ⟨"relay", none, 0, none, ⟨none, none, none⟩⟩
        plugins := .empty
        hooks := ⟨[], [], []⟩
        recent := .empty 0
        directory := .empty
        registry := ⟨[archive, mirror, backup]⟩
        processors := .empty
        outbound :=
          { pools :=
              [ ⟨1, 1, [waiting], [], false, false, false⟩,
                ⟨1, 1, [], [], false, false, false⟩,
                ⟨1, 1, [], [], false, false, false⟩ ]
            disk := ⟨1, [waiting.file]⟩
            storages := .empty } }
    let file : File := ⟨some "content"⟩
    let published (node : Node) (publications : List Publication) :=
      node.publishedTo around.mindful (some "radar") file .empty ((), []) publications
    let whole := published node node.registry.publications
    let alone := published { node with registry := ⟨[mirror]⟩ } [mirror]
    let packed (serial : Nat) : Parcel :=
      ⟨⟨serial, ⟨some "packed"⟩, false⟩, { Metadata.empty with fingerprint := "packed" }⟩
    node.registry.publications.Pairwise Publication.Apart ∧
      whole.turns.map Turn.isQueued = [false, true, false] ∧
      (whole.node.outbound.pool 1).queue = [packed 3] ∧
      (alone.node.outbound.pool 1).queue = [packed 2] ∧
      whole.node.outbound.disk.present = [(packed 3).file, waiting.file] ∧
      Independent around (some "radar") file .empty node [archive] mirror
        (published node [archive]) whole alone := by
  intro around archive mirror backup waiting node file published whole alone packed
  have apart : node.registry.publications.Pairwise Publication.Apart := by decide +kernel
  have independent := publications_independent around (some "radar") file .empty node () apart
  exact ⟨apart, by decide +kernel, by decide +kernel, by decide +kernel, by decide +kernel,
    independent.2.2 [archive] mirror [backup] rfl around () Eq (.refl around) rfl⟩

end RadarRelay
