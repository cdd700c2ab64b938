import Mathlib
import RadarRelay.Proofs.Routing.Traffic
import RadarRelay.Proofs.Routing.Window

/-!
# A file is routed at most once

Whatever calls a node handles at the same time, two posts of one file are both
taken for new only if so many other files were remembered in between that the
first was forgotten, and a subscription that does not let duplicates through gets
files from posts that were taken for new only. The memory of a node is at every
moment the newest part of what was remembered; the rest is about where in a log
an entry can stand.
-/

namespace RadarRelay

/-! ## The memory as a window -/

/-- What is missing in the newest part of a list was followed by as many others as that part is
long. -/
theorem le_length_filter_of_not_mem_take {fingerprint : String} {newer older : List String}
    {size : Nat} (forgotten : fingerprint ∉ (newer ++ fingerprint :: older).take size) :
    size ≤ (newer.filter (· != fingerprint)).length := by
  induction newer generalizing size with
  | nil =>
      cases size with
      | zero => exact Nat.le_refl 0
      | succ size => simp at forgotten
  | cons newest newer ih =>
      cases size with
      | zero => exact Nat.zero_le _
      | succ size =>
          rw [List.cons_append, List.take_succ_cons, List.mem_cons, not_or] at forgotten
          obtain ⟨different, stillForgotten⟩ := forgotten
          rw [List.filter_cons_of_pos (by simpa using Ne.symm different), List.length_cons]
          exact Nat.succ_le_succ (ih stillForgotten)

/-! ## The log of a node -/

/-- The fingerprints that were remembered as new, oldest first. -/
def insertions (log : List (Nat × RoutingEntry)) : List String :=
  log.filterMap fun
    | (_, .added fingerprint true) => some fingerprint
    | _ => none

@[simp] theorem insertions_nil : insertions [] = [] := rfl

@[simp] theorem insertions_append (first second : List (Nat × RoutingEntry)) :
    insertions (first ++ second) = insertions first ++ insertions second :=
  List.filterMap_append

@[simp] theorem insertions_cons_added (member : Nat) (fingerprint : String)
    (log : List (Nat × RoutingEntry)) :
    insertions ((member, .added fingerprint true) :: log) = fingerprint :: insertions log := rfl

@[simp] theorem insertions_cons_known (member : Nat) (fingerprint : String)
    (log : List (Nat × RoutingEntry)) :
    insertions ((member, .added fingerprint false) :: log) = insertions log := rfl

@[simp] theorem insertions_cons_dispatched (member : Nat) (subscription : Subscription)
    (log : List (Nat × RoutingEntry)) :
    insertions ((member, .dispatched subscription) :: log) = insertions log := rfl

/-- What is remembered is what was remembered as new last, as far as there is room. -/
structure RecentFiles.Logged (limit : Nat) (log : List (Nat × RoutingEntry))
    (recent : RecentFiles) : Prop where
  room : recent.limit = max limit 1
  newest : recent.order = (insertions log).reverse.take (max limit 1)
  coherent : recent.Coherent

namespace Node

variable {limit : Nat} {before : List (Nat × RoutingEntry)}

/-- Where an entry can stand: a fingerprint is new only after so many others that it was
forgotten, and a file goes to a subscription against duplicates only when its post was taken for
new. -/
def Reasonable (limit : Nat) (before : List (Nat × RoutingEntry)) : Nat × RoutingEntry → Prop
  | (_, .added fingerprint true) => ∀ older newer, insertions before = older ++ fingerprint :: newer →
      max limit 1 ≤ (newer.filter (· != fingerprint)).length
  | (_, .added _ false) => True
  | (member, .dispatched subscription) => subscription.allowDuplicates = false →
      ∃ fingerprint, (member, .added fingerprint true) ∈ before

theorem reasonable_of_forgotten {recent : RecentFiles} {fingerprint : String}
    (logged : recent.Logged limit before) (forgotten : recent.contains fingerprint = false)
    (member : Nat) : Reasonable limit before (member, .added fingerprint true) := by
  intro older newer split
  have missing : fingerprint ∉
      (newer.reverse ++ fingerprint :: older.reverse).take (max limit 1) := by
    have reversed : (insertions before).reverse = newer.reverse ++ fingerprint :: older.reverse := by
      simp [split]
    rw [← reversed, ← logged.newest, ← logged.coherent.contains_iff, forgotten]
    exact Bool.false_ne_true
  have enough := le_length_filter_of_not_mem_take missing
  rwa [List.filter_reverse, List.length_reverse] at enough

/-- A member that stands where new files stand has logged that its file was new. -/
theorem exists_added_of_phase {member : Nat} {log : List (Nat × RoutingEntry)}
    (new : routingProtocol.phase member log = some true) :
    ∃ fingerprint, (member, .added fingerprint true) ∈ log := by
  induction log using List.reverseRecOn with
  | nil => cases new
  | append_singleton log entry ih =>
      obtain ⟨author, entry⟩ := entry
      rw [Protocol.phase_append] at new
      by_cases same : author = member
      · rw [if_pos same] at new
        cases entry with
        | added fingerprint answer =>
            cases new
            exact ⟨fingerprint, by simp [same]⟩
        | dispatched subscription =>
            obtain ⟨fingerprint, logged⟩ := ih new
            exact ⟨fingerprint, List.mem_append_left _ logged⟩
      · rw [if_neg same] at new
        obtain ⟨fingerprint, logged⟩ := ih new
        exact ⟨fingerprint, List.mem_append_left _ logged⟩

/-- What holds at every moment: the memory is the newest part of what was remembered, and no entry
stands where it cannot stand. -/
structure Remembering (limit : Nat) (node : Node) (log : List (Nat × RoutingEntry)) : Prop where
  recent : node.recent.Logged limit log
  reasonable : Justified (Reasonable limit) log

theorem Remembering.step {node after : Node} {log : List (Nat × RoutingEntry)} {member : Nat}
    {entry : Option RoutingEntry} (remembering : Remembering limit node log)
    (allowed : routingProtocol.Allows (routingProtocol.phase member log) node entry after) :
    Remembering limit after (entered log member entry) := by
  obtain ⟨recent, reasonable⟩ := remembering
  cases entry with
  | none =>
      have kept : after.recent = node.recent := allowed
      exact ⟨kept ▸ recent, reasonable⟩
  | some entry =>
      rw [entered]
      cases entry with
      | dispatched subscription =>
          obtain ⟨kept, permitted⟩ := allowed
          refine ⟨?_, reasonable.append ?_⟩
          · rw [kept]
            exact ⟨recent.room, by simpa using recent.newest, recent.coherent⟩
          · intro strict
            rcases permitted with lenient | new
            · rw [strict] at lenient
              cases lenient
            · exact exists_added_of_phase new
      | added fingerprint new =>
          obtain ⟨_, added⟩ := allowed
          have coherent : after.recent.Coherent := by
            have kept := recent.coherent.add fingerprint
            rwa [added] at kept
          cases known : node.recent.contains fingerprint with
          | true =>
              rw [RecentFiles.add_of_contains known] at added
              obtain ⟨rfl, kept⟩ := Prod.mk.inj added
              refine ⟨⟨?_, ?_, coherent⟩, reasonable.append trivial⟩
              · rw [← kept, recent.room]
              · rw [← kept, recent.newest]
                simp
          | false =>
              rw [RecentFiles.add_of_not_contains known] at added
              obtain ⟨rfl, remembered⟩ := Prod.mk.inj added
              refine ⟨⟨?_, ?_, coherent⟩,
                reasonable.append (reasonable_of_forgotten recent known member)⟩
              · rw [← remembered, RecentFiles.limit_shrink, recent.room]
              · rw [← remembered, RecentFiles.order_shrink, recent.newest, recent.room]
                simpa using RecentFiles.take_append_take [fingerprint] _ (max limit 1)

/-- Whatever a node is asked to do at the same time, and in whatever order it happens: between two
posts of one file that are both taken for new, at least as many other files were remembered as the
node has room for, and a subscription that does not let duplicates through only gets files from
posts that were taken for new. The record is one of the calls as they are. -/
theorem routed_at_most_once (limit : Nat) (node : Node) (calls : List Call)
    (schedule : List Choice) :
    let crew := { node with recent := .empty limit }.serving calls
    let log := (crew.run ready schedule).log
    (crew.forget.members = calls.map fun call => .new (.silent call.activity)) ∧
    (∀ before between after first second fingerprint,
      log = before ++ (first, .added fingerprint true) ::
        (between ++ (second, .added fingerprint true) :: after) →
      max limit 1 ≤ ((insertions between).filter (· != fingerprint)).length) ∧
    ∀ before after member subscription,
      log = before ++ (member, .dispatched subscription) :: after →
      subscription.allowDuplicates = false →
      ∃ fingerprint, (member, .added fingerprint true) ∈ before := by
  have started : Remembering limit { node with recent := .empty limit } [] :=
    ⟨⟨rfl, List.take_nil.symm, RecentFiles.coherent_empty limit⟩, justified_nil⟩
  have always : ∀ node log member entry after, Remembering limit node log →
      routingProtocol.Allows (routingProtocol.phase member log) node entry after →
      Remembering limit after (entered log member entry) :=
    fun _ _ _ _ _ remembering allowed => remembering.step allowed
  obtain ⟨_, _, reasonable⟩ := (obeys_serving _ calls).run always started schedule
  refine ⟨members_forget_serving _ calls, ?_, ?_⟩
  · intro before between after first second fingerprint split
    have justified := reasonable (before ++ (first, .added fingerprint true) :: between)
      (second, .added fingerprint true) after (by simpa using split)
    exact justified (insertions before) (insertions between) (by simp)
  · intro before after member subscription split
    exact reasonable before (member, .dispatched subscription) after split

/-- Whether two entries are the same. There is no test of equality for filters; subscriptions agree
only if they have none. -/
def sameEntry (one two : Nat × RoutingEntry) : Bool :=
  one.1 == two.1 &&
    match one.2, two.2 with
    | .added fingerprint new, .added other again => fingerprint == other && new == again
    | .dispatched first, .dispatched second =>
        first.filter.isAlways && second.filter.isAlways && first.id == second.id &&
          first.active == second.active && first.storages == second.storages &&
          first.allowDuplicates == second.allowDuplicates &&
          first.allowedOrigins == second.allowedOrigins && first.statistics == second.statistics
    | _, _ => false

theorem eq_of_sameEntry {one two : Nat × RoutingEntry} (same : sameEntry one two = true) :
    one = two := by
  have always {filter : Filter} (accepts : filter.isAlways = true) : filter = .always := by
    cases filter <;> first | rfl | cases accepts
  obtain ⟨member, entry⟩ := one
  obtain ⟨author, other⟩ := two
  rw [sameEntry, Bool.and_eq_true, beq_iff_eq] at same
  obtain ⟨rfl, same⟩ := same
  cases entry with
  | added fingerprint new =>
      cases other with
      | added => simp_all
      | dispatched => cases same
  | dispatched first =>
      cases other with
      | added => cases same
      | dispatched second =>
          obtain ⟨⟩ := first
          obtain ⟨⟩ := second
          simp only [Bool.and_eq_true, beq_iff_eq] at same
          obtain ⟨⟨⟨⟨⟨⟨⟨first, second⟩, rfl⟩, rfl⟩, rfl⟩, rfl⟩, rfl⟩, rfl⟩ := same
          rw [always first, always second]

theorem eq_of_sameEntries {log expected : List (Nat × RoutingEntry)}
    (same : log.isEqv expected sameEntry = true) : log = expected := by
  induction log generalizing expected with
  | nil =>
      cases expected with
      | nil => rfl
      | cons => cases same
  | cons entry log ih =>
      cases expected with
      | nil => cases same
      | cons other expected =>
          rw [List.isEqv_cons_cons, Bool.and_eq_true] at same
          rw [eq_of_sameEntry same.1, ih same.2]

/-- With room for one file, a file is new again after another one. -/
theorem routed_at_most_once_of_two_files :
    let strict : Subscription := ⟨some "volumes", true, [], .always, false, [], []⟩
    let node : Node :=
      { config := ⟨"relay", none, 0, none, ⟨none, none, none⟩⟩
        plugins := .empty
        hooks := ⟨[], [], []⟩
        recent := .empty 0
        directory := .ofList [strict]
        registry := .empty
        processors := .empty
        outbound := .empty }
    let calls : List Call :=
      [.post ⟨some "first"⟩ "", .post ⟨some "second"⟩ "", .post ⟨some "first"⟩ ""]
    let schedule : List Choice :=
      [0, 1, 2].flatMap fun member => List.replicate 20 ⟨member, Request.granted⟩
    let between : List (Nat × RoutingEntry) :=
      [(0, .dispatched strict), (1, .added "second" true), (1, .dispatched strict)]
    ((node.serving calls).run ready schedule).log =
        (0, .added "first" true) ::
          (between ++ [(2, .added "first" true), (2, .dispatched strict)]) ∧
      max 0 1 ≤ ((insertions between).filter (· != "first")).length ∧
      ∃ fingerprint, (2, .added fingerprint true) ∈
        (0, .added "first" true) :: (between ++ [(2, .added "first" true)]) := by
  intro strict node calls schedule between
  have logged : ((node.serving calls).run ready schedule).log =
      (0, .added "first" true) ::
        (between ++ [(2, .added "first" true), (2, .dispatched strict)]) :=
    eq_of_sameEntries (by decide +kernel)
  obtain ⟨_, twice, once⟩ := routed_at_most_once 0 node calls schedule
  refine ⟨logged, twice [] between [(2, .dispatched strict)] 0 2 "first" logged, ?_⟩
  exact once ((0, .added "first" true) :: (between ++ [(2, .added "first" true)])) [] 2 strict
    (by simpa using logged) rfl

end Node

end RadarRelay
