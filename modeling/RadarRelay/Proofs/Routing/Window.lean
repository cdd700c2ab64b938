import RadarRelay.Routing.RecentFiles

/-!
# What is remembered is a window

The order in which files are remembered and the set in which they are looked up
agree all the time, although each is changed on its own. So what is remembered is
always a window on the files that were new: the newest of them, as many as there is
room for. A file is new again as soon as it has left the window, and no sooner.
-/

namespace RadarRelay.RecentFiles

variable {recent : RecentFiles} {fingerprint : String}

/-! ## Order and set -/

/-- The order has no repetition, and the set holds what is in order. -/
structure Coherent (recent : RecentFiles) : Prop where
  distinct : recent.order.Nodup
  mem_members : ∀ fingerprint, fingerprint ∈ recent.members ↔ fingerprint ∈ recent.order

theorem coherent_empty (limit : Nat) : (empty limit).Coherent where
  distinct := List.nodup_nil
  mem_members _ := by simp [empty]

theorem Coherent.contains_iff (coherent : recent.Coherent) (fingerprint : String) :
    recent.contains fingerprint = true ↔ fingerprint ∈ recent.order := by
  rw [contains, Std.ExtTreeSet.contains_iff_mem, coherent.mem_members]

/-- The fingerprint that leaves the end of the order is the one that leaves the set; it is nowhere
else in the order. -/
theorem Coherent.forgetOldest (coherent : recent.Coherent) : recent.forgetOldest.Coherent := by
  unfold RecentFiles.forgetOldest
  split
  · rename_i oldest last
    obtain ⟨newer, order⟩ := List.getLast?_eq_some_iff.1 last
    have distinct := coherent.distinct
    rw [order, List.nodup_append] at distinct
    obtain ⟨distinct, _, apart⟩ := distinct
    have missing : oldest ∉ newer := fun member => apart oldest member oldest (by simp) rfl
    refine ⟨by simpa [order] using distinct, fun fingerprint => ?_⟩
    rw [Std.ExtTreeSet.mem_erase, coherent.mem_members, order, ne_eq, Std.compare_eq_iff_eq]
    simp only [List.dropLast_concat, List.mem_append, List.mem_singleton]
    constructor
    · rintro ⟨different, member | rfl⟩
      · exact member
      · exact absurd rfl different
    · intro member
      exact ⟨fun same => missing (same ▸ member), Or.inl member⟩
  · exact coherent

theorem Coherent.shrink (coherent : recent.Coherent) : recent.shrink.Coherent := by
  fun_induction RecentFiles.shrink recent with
  | case1 recent _ ih => exact ih coherent.forgetOldest
  | case2 => exact coherent

theorem Coherent.add (coherent : recent.Coherent) (fingerprint : String) :
    (recent.add fingerprint).2.Coherent := by
  cases known : recent.contains fingerprint with
  | true =>
      rw [add_of_contains known]
      exact coherent
  | false =>
      rw [add_of_not_contains known]
      have missing : fingerprint ∉ recent.order := by
        rw [← coherent.contains_iff, known]
        exact Bool.false_ne_true
      apply Coherent.shrink
      refine ⟨List.nodup_cons.2 ⟨missing, coherent.distinct⟩, fun other => ?_⟩
      rw [Std.ExtTreeSet.mem_insert, coherent.mem_members, Std.compare_eq_iff_eq, List.mem_cons,
        eq_comm]

/-! ## Runs -/

/-- What can be asked of the memory. -/
inductive Call where
  | add (fingerprint : String)
  | contains (fingerprint : String)
  deriving DecidableEq, Repr

/-- The answer to a call, and what is remembered afterwards. -/
def answer (recent : RecentFiles) : Call → Bool × RecentFiles
  | .add fingerprint => recent.add fingerprint
  | .contains fingerprint => (recent.contains fingerprint, recent)

/-- Calls one after the other: each with its answer, and what is remembered in the end. -/
def run (recent : RecentFiles) : List Call → List (Call × Bool) × RecentFiles
  | [] => ([], recent)
  | call :: calls =>
      ((call, (recent.answer call).1) :: ((recent.answer call).2.run calls).1,
        ((recent.answer call).2.run calls).2)

/-- The fingerprints that were new when they were added, newest first. -/
def accepted (log : List (Call × Bool)) : List String :=
  (log.filterMap fun
    | (.add fingerprint, true) => some fingerprint
    | _ => none).reverse

theorem accepted_cons (entry : Call × Bool) (log : List (Call × Bool)) :
    accepted (entry :: log) = accepted log ++ accepted [entry] := by
  simp only [accepted, ← List.reverse_append, ← List.filterMap_append, List.singleton_append]

/-- What does not fit into a window does not fit into it when more comes before it. -/
theorem take_append_take {Item : Type} (newer older : List Item) (size : Nat) :
    (newer ++ older.take size).take size = (newer ++ older).take size := by
  rw [List.take_append, List.take_append, List.take_take, Nat.min_eq_left (Nat.sub_le ..)]

@[simp] theorem limit_answer (recent : RecentFiles) (call : Call) :
    (recent.answer call).2.limit = recent.limit := by
  cases call with
  | add fingerprint => exact limit_add recent fingerprint
  | contains => rfl

theorem Coherent.answer (coherent : recent.Coherent) (call : Call) :
    (recent.answer call).2.Coherent := by
  cases call with
  | add fingerprint => exact coherent.add fingerprint
  | contains => exact coherent

/-- A call puts a fingerprint in front if it is new, and moves the window. -/
theorem order_answer (bounded : recent.size ≤ recent.limit) (call : Call) :
    (recent.answer call).2.order =
      (accepted [(call, (recent.answer call).1)] ++ recent.order).take recent.limit := by
  have unchanged : recent.order = recent.order.take recent.limit :=
    (List.take_of_length_le bounded).symm
  cases call with
  | contains => exact unchanged
  | add fingerprint =>
      simp only [RecentFiles.answer]
      cases known : recent.contains fingerprint with
      | true =>
          rw [add_of_contains known]
          exact unchanged
      | false =>
          rw [add_of_not_contains known, order_shrink]
          rfl

theorem Coherent.run (coherent : recent.Coherent) (calls : List Call) :
    (recent.run calls).2.Coherent := by
  induction calls generalizing recent with
  | nil => exact coherent
  | cons call calls ih => exact ih (coherent.answer call)

/-- After any calls the window is over what was new during them and what was remembered before. -/
theorem order_run (bounded : recent.size ≤ recent.limit) (calls : List Call) :
    (recent.run calls).2.order =
      (accepted (recent.run calls).1 ++ recent.order).take recent.limit := by
  induction calls generalizing recent with
  | nil => exact (List.take_of_length_le bounded).symm
  | cons call calls ih =>
      have moved := order_answer bounded call
      have still : (recent.answer call).2.size ≤ (recent.answer call).2.limit := by
        rw [size, moved, limit_answer]
        exact List.length_take_le ..
      rw [run, ih still, moved, limit_answer, take_append_take,
        accepted_cons _ ((recent.answer call).2.run calls).1, List.append_assoc]

/-- Whatever is added and looked up, in whatever order: what is remembered is the window of the
newest fingerprints that were new, without repetition, in order as well as in the set. Exactly what
is outside of the window is new when it is added next, and what is inside keeps its place. -/
theorem window_of_run (limit : Nat) (calls : List Call) :
    let log := ((empty limit).run calls).1
    let recent := ((empty limit).run calls).2
    let window := (accepted log).take (max limit 1)
    recent.order = window ∧ window.Nodup ∧
      (∀ fingerprint, fingerprint ∈ recent.members ↔ fingerprint ∈ window) ∧
      recent.size = window.length ∧ recent.size ≤ max limit 1 ∧
      ∀ fingerprint,
        recent.contains fingerprint = decide (fingerprint ∈ window) ∧
          (recent.add fingerprint).1 = decide (fingerprint ∉ window) ∧
          (fingerprint ∈ window → (recent.add fingerprint).2 = recent) := by
  intro log recent window
  have order : recent.order = window := by
    have bounded : (empty limit).size ≤ (empty limit).limit := Nat.zero_le _
    have newest := order_run bounded calls
    rwa [show (empty limit).order = [] from rfl, List.append_nil] at newest
  have coherent : recent.Coherent := (coherent_empty limit).run calls
  refine ⟨order, order ▸ coherent.distinct, order ▸ coherent.mem_members, ?_, ?_, ?_⟩
  · rw [size, order]
  · rw [size, order]
    exact List.length_take_le ..
  · intro fingerprint
    have known := coherent.contains_iff fingerprint
    rw [order] at known
    by_cases inside : fingerprint ∈ window
    · have found := known.2 inside
      rw [add_of_contains found, found]
      simp [inside]
    · have missing : recent.contains fingerprint = false := by
        rw [← Bool.not_eq_true, known]
        exact inside
      rw [add_of_not_contains missing, missing]
      simp [inside]

/-- Adding a fingerprint once more does not keep it longer. -/
example :
    ((empty 2).run [.add "a", .add "b", .add "a", .add "c", .contains "a", .add "a"]).1.map (·.2) =
      [true, true, false, true, false, true] := by
  decide +kernel

end RadarRelay.RecentFiles
