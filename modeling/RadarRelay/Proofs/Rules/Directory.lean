import Mathlib.Data.List.Nodup
import RadarRelay.Proofs.Activity.Alone
import RadarRelay.Proofs.Activity.Crew
import RadarRelay.Proofs.Rules.Inserted

/-!
# The directory as an ordered map

As long as no two of its subscriptions have one id, a directory is a map from ids to
subscriptions that remembers the order in which they came, with subscriptions
without an id among them. Each call does to it what it does to such a map, and is
counted whether it changes anything or not. Whoever has looked at the directory
still holds what was there at the time.
-/

namespace RadarRelay

open Activity

variable {Memory : Type}

/-- No two subscriptions have the same id. Any number may have none. -/
def Directory.Distinct (directory : Directory) : Prop :=
  (directory.subscriptions.filterMap Subscription.id).Nodup

/-! ## Calls -/

/-- What changes a directory by one subscription. -/
inductive DirectoryCall where
  | add (subscription : Subscription)
  | remove (id : String)

namespace DirectoryCall

/-- What is done for a call. -/
def activity : DirectoryCall → Activity Directory Bool
  | add subscription => Directory.register subscription
  | remove id => Directory.unregister id

/-- What a call does to subscriptions in their order, and what it answers. -/
inductive Does : DirectoryCall → List Subscription → Bool → List Subscription → Prop where
  /-- A subscription takes the place of the one with its id. -/
  | replaces {before after : List Subscription} {old new : Subscription} {id : String} :
      new.id = some id → old.id = some id → (∀ other ∈ before ++ after, other.id ≠ some id) →
      Does (.add new) (before ++ old :: after) true (before ++ new :: after)
  /-- A subscription without an id, or with one that is not known, comes last. -/
  | appends {subscriptions : List Subscription} {new : Subscription} :
      (∀ id, new.id = some id → ∀ other ∈ subscriptions, other.id ≠ some id) →
      Does (.add new) subscriptions false (subscriptions ++ [new])
  | removes {before after : List Subscription} {old : Subscription} {id : String} :
      old.id = some id → (∀ other ∈ before ++ after, other.id ≠ some id) →
      Does (.remove id) (before ++ old :: after) true (before ++ after)
  | misses {subscriptions : List Subscription} {id : String} :
      (∀ other ∈ subscriptions, other.id ≠ some id) →
      Does (.remove id) subscriptions false subscriptions

end DirectoryCall

namespace Directory

theorem has_iff (directory : Directory) (id : String) :
    directory.has id = true ↔ ∃ subscription ∈ directory.subscriptions,
      subscription.id = some id := by
  simp [has]

theorem has_eq_false_iff (directory : Directory) (id : String) :
    directory.has id = false ↔ ∀ subscription ∈ directory.subscriptions,
      subscription.id ≠ some id := by
  simp [has]

theorem replaceFirst_append {id : String} {before after : List Subscription}
    {old : Subscription} (new : Subscription) (others : ∀ other ∈ before, other.id ≠ some id)
    (ofId : old.id = some id) :
    replaceFirst id new (before ++ old :: after) = before ++ new :: after := by
  induction before with
  | nil => simp [replaceFirst, ofId]
  | cons first before ih =>
      obtain ⟨spared, others⟩ := List.forall_mem_cons.1 others
      simp [replaceFirst, spared, ih others]

namespace Distinct

variable {directory : Directory}

/-- The subscription with a known id stands in one place. -/
theorem split (distinct : directory.Distinct) {id : String} (known : directory.has id = true) :
    ∃ before old after, directory.subscriptions = before ++ old :: after ∧ old.id = some id ∧
      ∀ other ∈ before ++ after, other.id ≠ some id := by
  obtain ⟨old, member, ofId⟩ := (directory.has_iff id).1 known
  obtain ⟨before, after, parts⟩ := List.append_of_mem member
  refine ⟨before, old, after, parts, ofId, ?_⟩
  rw [Distinct, parts, List.filterMap_append, List.filterMap_cons_some ofId, List.nodup_middle,
    List.nodup_cons, ← List.filterMap_append] at distinct
  intro other among same
  exact distinct.1 (List.mem_filterMap.2 ⟨other, among, same⟩)

theorem add (distinct : directory.Distinct) (subscription : Subscription) :
    (directory.add subscription).2.Distinct :=
  (directory.inserted_add subscription).nodup distinct

theorem remove (distinct : directory.Distinct) (id : String) :
    (directory.remove id).2.Distinct :=
  distinct.sublist (List.filter_sublist.filterMap _)

/-- A directory that is asked to add a subscription does so as an ordered map does. -/
theorem does_add (distinct : directory.Distinct) (subscription : Subscription) :
    DirectoryCall.Does (.add subscription) directory.subscriptions (directory.add subscription).1
      (directory.add subscription).2.subscriptions := by
  cases named : subscription.id with
  | none =>
      simp only [Directory.add, named]
      exact .appends fun id ofId => by simp [named] at ofId
  | some id =>
      cases known : directory.has id with
      | true =>
          obtain ⟨before, old, after, parts, ofId, others⟩ := distinct.split known
          have replaced : replaceFirst id subscription (before ++ old :: after) =
              before ++ subscription :: after := by
            apply replaceFirst_append _ _ ofId
            intro other among
            exact others other (List.mem_append_left after among)
          simp only [Directory.add, named, known, if_true]
          rw [parts, replaced]
          exact .replaces named ofId others
      | false =>
          simp only [Directory.add, named, known]
          apply DirectoryCall.Does.appends
          rw [named]
          rintro _ ⟨⟩
          exact (directory.has_eq_false_iff id).1 known

/-- And one that is asked to remove a subscription does that as a map does. -/
theorem does_remove (distinct : directory.Distinct) (id : String) :
    DirectoryCall.Does (.remove id) directory.subscriptions (directory.remove id).1
      (directory.remove id).2.subscriptions := by
  -- Subscriptions of other ids and of none pass the filter.
  have kept {subscriptions : List Subscription}
      (others : ∀ other ∈ subscriptions, other.id ≠ some id) :
      subscriptions.filter (fun other => other.id != some id) = subscriptions := by
    simpa using others
  cases known : directory.has id with
  | true =>
      obtain ⟨before, old, after, parts, ofId, others⟩ := distinct.split known
      have removed : directory.subscriptions.filter (fun other => other.id != some id) =
          before ++ after := by
        rw [parts, List.filter_append, List.filter_cons_of_neg (by simp [ofId]),
          ← List.filter_append, kept others]
      simp only [Directory.remove, known, removed]
      rw [parts]
      exact .removes ofId others
  | false =>
      have others := (directory.has_eq_false_iff id).1 known
      simp only [Directory.remove, known, kept others]
      exact .misses others

end Distinct

end Directory

/-! ## Sequences of calls -/

namespace DirectoryCall

/-- What a directory is before each of several calls, with what the call answers, and what it is
after them. -/
inductive History :
    Directory → List DirectoryCall → List (Directory × Bool) → Directory → Prop where
  | ended (directory : Directory) : History directory [] [] directory
  | call {directory next last : Directory} {call : DirectoryCall} {answer : Bool}
      {calls : List DirectoryCall} {held : List (Directory × Bool)} :
      directory.Distinct →
      call.Does directory.subscriptions answer next.subscriptions →
      next.version = directory.version + 1 →
      History next calls held last →
      History directory (call :: calls) ((directory, answer) :: held) last

/-- Makes calls one after the other, and holds on to what there was before each of them. -/
def observed : List DirectoryCall → Activity Directory (List (Directory × Bool))
  | [] => return []
  | call :: calls => do
      let held ← look
      let answer ← call.activity
      return (held, answer) :: (← observed calls)

variable (around : Surroundings Memory) (memory : Memory) {directory : Directory}

/-- One call keeps ids distinct, and does what it does to an ordered map. -/
theorem run_activity (distinct : directory.Distinct) (call : DirectoryCall) :
    let (answer, next, _) := call.activity.run around directory memory
    next.Distinct ∧ call.Does directory.subscriptions answer next.subscriptions ∧
      next.version = directory.version + 1 := by
  cases call with
  | add subscription =>
      exact ⟨distinct.add subscription, distinct.does_add subscription,
        directory.version_add subscription⟩
  | remove id =>
      exact ⟨distinct.remove id, distinct.does_remove id, directory.version_remove id⟩

/-- A directory with distinct ids goes through calls as an ordered map that counts them: whoever
has looked at it before a call still holds, after all of them, what it was then. -/
theorem observed_history (distinct : directory.Distinct) (calls : List DirectoryCall) :
    let (held, last, _) := (observed calls).run around directory memory
    History directory calls held last ∧ last.Distinct ∧
      last.version = directory.version + calls.length := by
  induction calls generalizing directory memory with
  | nil => exact ⟨.ended directory, distinct, rfl⟩
  | cons call calls ih =>
      obtain ⟨still, does, counted⟩ := run_activity around memory distinct call
      obtain ⟨history, distinctLast, countedLast⟩ :=
        ih (call.activity.run around directory memory).2.2 still
      rw [observed, run_bind, run_look, run_bind, run_bind]
      refine ⟨.call distinct does counted history, distinctLast, ?_⟩
      rw [counted] at countedLast
      rw [List.length_cons, Nat.add_comm calls.length, ← Nat.add_assoc]
      exact countedLast

/-- Each kind of call, among subscriptions without an id. -/
theorem observed_history_of_mixed_calls :
    let around : Surroundings Unit := ⟨fun request _ => (request.granted, ()), fun _ _ => false⟩
    let rule (id : Option String) (storages : List String) : Subscription :=
      ⟨id, true, storages, .always, false, [], []⟩
    let directory := Directory.ofList
      [rule none [], rule (some "a") [], rule none [], rule (some "b") []]
    let calls : List DirectoryCall :=
      [.add (rule (some "a") ["s"]), .add (rule none ["s"]), .add (rule (some "c") []),
        .remove "b", .remove "b"]
    let (held, last, _) := (observed calls).run around directory ()
    directory.Distinct ∧ History directory calls held last ∧
      held.map (fun seen => (seen.1.subscriptions.length, seen.2)) =
        [(4, true), (4, false), (5, false), (6, true), (5, false)] ∧
      last.subscriptions.map (fun subscription => (subscription.id, subscription.storages)) =
        [(none, []), (some "a", ["s"]), (none, []), (none, ["s"]), (some "c", [])] := by
  intro around rule directory calls
  have distinct : directory.Distinct := by
    rw [Directory.Distinct]
    decide
  exact ⟨distinct, (observed_history around () distinct calls).1, rfl, rfl⟩

end DirectoryCall

end RadarRelay
