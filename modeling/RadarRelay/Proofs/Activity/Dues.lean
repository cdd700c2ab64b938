import Mathlib.Data.List.Induction
import Mathlib.Data.List.Perm.Basic
import RadarRelay.Proofs.Activity.Crew

/-!
# Dues

Some entries of a member make something due, others pay it, and where a member
stands tells what it still owes. When every allowed step keeps these in balance,
each member has at every moment paid what was due, in its order, but for what it
owes. What holds of each member holds of the whole log, up to order.
-/

namespace RadarRelay

variable {State Entry Phase Item : Type}

/-! ## The entries of one member -/

/-- The entries of one member, oldest first. -/
def entriesOf (member : Nat) (log : List (Nat × Entry)) : List Entry :=
  log.filterMap fun entry => if entry.1 = member then some entry.2 else none

/-- What is told by the entries of a log, oldest first. -/
def told (part : Entry → List Item) (log : List (Nat × Entry)) : List Item :=
  log.flatMap fun entry => part entry.2

@[simp] theorem entriesOf_append (member : Nat) (first second : List (Nat × Entry)) :
    entriesOf member (first ++ second) = entriesOf member first ++ entriesOf member second :=
  List.filterMap_append

@[simp] theorem entriesOf_cons_self (member : Nat) (entry : Entry) (log : List (Nat × Entry)) :
    entriesOf member ((member, entry) :: log) = entry :: entriesOf member log := by
  simp [entriesOf]

theorem entriesOf_cons_of_ne {member author : Nat} (different : author ≠ member) (entry : Entry)
    (log : List (Nat × Entry)) :
    entriesOf member ((author, entry) :: log) = entriesOf member log := by
  simp [entriesOf, different]

theorem mem_entriesOf {member : Nat} {log : List (Nat × Entry)} {entry : Entry} :
    entry ∈ entriesOf member log ↔ (member, entry) ∈ log := by
  rw [entriesOf, List.mem_filterMap]
  constructor
  · rintro ⟨⟨author, known⟩, logged, same⟩
    split at same
    · rename_i mine
      cases same
      exact mine ▸ logged
    · cases same
  · intro logged
    exact ⟨(member, entry), logged, if_pos rfl⟩

theorem entriesOf_entered (member author : Nat) (log : List (Nat × Entry)) (entry : Option Entry) :
    entriesOf member (entered log author entry) =
      if author = member then entriesOf member log ++ entry.toList else entriesOf member log := by
  cases entry with
  | none => simp [entered]
  | some entry =>
      rw [entered, entriesOf_append]
      by_cases same : author = member
      · subst same
        simp [entriesOf]
      · simp [entriesOf, same]

/-- Where a member stands is told by its own entries. -/
theorem Protocol.phase_eq_foldl (protocol : Protocol State Entry Phase) (member : Nat)
    (log : List (Nat × Entry)) :
    protocol.phase member log =
      (entriesOf member log).foldl protocol.advance (protocol.start member) := by
  induction log using List.reverseRecOn with
  | nil => rfl
  | append_singleton log entry ih =>
      rw [phase_append, entriesOf_append, List.foldl_append, ← ih]
      by_cases same : entry.1 = member
      · simp [entriesOf, same]
      · simp [entriesOf, same]

/-- A member stays where it stands for as long as it leaves no entry. -/
theorem Protocol.phase_append_of_entriesOf_nil (protocol : Protocol State Entry Phase)
    {member : Nat} {log rest : List (Nat × Entry)} (none : entriesOf member rest = []) :
    protocol.phase member (log ++ rest) = protocol.phase member log := by
  rw [phase_eq_foldl, entriesOf_append, none, List.append_nil, ← phase_eq_foldl]

@[simp] theorem told_entered (part : Entry → List Item) (log : List (Nat × Entry)) (member : Nat)
    (entry : Option Entry) :
    told part (entered log member entry) = told part log ++ entry.elim [] part := by
  cases entry with
  | none | some => simp [told, entered]

/-- When one place out of a row changes, what is in the row changes by what is in that place. -/
theorem perm_flatMap_range {before after : Nat → List Item} {size place : Nat}
    (inside : place < size) (others : ∀ other, other ≠ place → after other = before other) :
    (after place ++ (List.range size).flatMap before).Perm
      (before place ++ (List.range size).flatMap after) := by
  induction size with
  | zero => exact absurd inside (Nat.not_lt_zero place)
  | succ size ih =>
      rw [List.range_succ, List.flatMap_append, List.flatMap_append, List.flatMap_singleton,
        List.flatMap_singleton, ← List.append_assoc, ← List.append_assoc]
      by_cases last : place = size
      · subst last
        have earlier : (List.range place).flatMap after = (List.range place).flatMap before :=
          List.flatMap_congr fun other early =>
            others other (Nat.ne_of_lt (List.mem_range.1 early))
        rw [earlier]
        refine List.perm_append_comm.trans ?_
        rw [List.append_assoc]
        exact List.perm_append_comm.append_left _
      · rw [others size (Ne.symm last)]
        exact (ih (by omega)).append_right _

/-- A log tells what its members tell, one after the other. -/
theorem told_perm_members (part : Entry → List Item) {size : Nat} {log : List (Nat × Entry)}
    (members : ∀ entry ∈ log, entry.1 < size) :
    (told part log).Perm
      ((List.range size).flatMap fun member => (entriesOf member log).flatMap part) := by
  induction log with
  | nil => simp [told, entriesOf]
  | cons first log ih =>
      obtain ⟨author, entry⟩ := first
      rw [List.forall_mem_cons] at members
      let row (log : List (Nat × Entry)) (member : Nat) : List Item :=
        (entriesOf member log).flatMap part
      have others : ∀ other, other ≠ author →
          row ((author, entry) :: log) other = row log other := fun other different => by
        simp only [row, entriesOf_cons_of_ne (Ne.symm different)]
      have moved := perm_flatMap_range members.1 others
      have own : row ((author, entry) :: log) author = part entry ++ row log author := by
        simp only [row, entriesOf_cons_self, List.flatMap_cons]
      have front : (part entry ++ row log author).Perm (row log author ++ part entry) :=
        List.perm_append_comm
      rw [own] at moved
      have cancelled := (front.symm.append_right _).trans moved
      rw [List.append_assoc, List.perm_append_left_iff] at cancelled
      exact ((ih members.2).append_left (part entry)).trans cancelled

/-! ## Dues -/

/-- Something that entries make due and that entries pay. -/
structure Dues (protocol : Protocol State Entry Phase) (Item : Type) where
  due : Entry → List Item
  paid : Entry → List Item
  /-- What is still to be paid where a member stands. -/
  owing : Phase → List Item
  start : ∀ member, owing (protocol.start member) = []
  balance : ∀ phase state entry after, protocol.Allows phase state (some entry) after →
    owing phase ++ due entry = paid entry ++ owing (protocol.advance phase entry)

namespace Dues

variable {protocol : Protocol State Entry Phase} (dues : Dues protocol Item)

/-- Each member has paid what was due, in its order, but for what it owes. -/
def Settled (log : List (Nat × Entry)) : Prop :=
  ∀ member, (entriesOf member log).flatMap dues.paid ++ dues.owing (protocol.phase member log) =
    (entriesOf member log).flatMap dues.due

/-- What all members up to one owe. -/
def outstanding (size : Nat) (log : List (Nat × Entry)) : List Item :=
  (List.range size).flatMap fun member => dues.owing (protocol.phase member log)

theorem settled_nil : dues.Settled [] := fun member => by
  simpa [entriesOf, Protocol.phase] using dues.start member

theorem mem_outstanding {size member : Nat} {log : List (Nat × Entry)} {item : Item}
    (inside : member < size) (owed : item ∈ dues.owing (protocol.phase member log)) :
    item ∈ dues.outstanding size log :=
  List.mem_flatMap.2 ⟨member, List.mem_range.2 inside, owed⟩

variable {dues} {log : List (Nat × Entry)}

theorem Settled.step {state after : State} {member : Nat} {entry : Option Entry}
    (settled : dues.Settled log)
    (allowed : protocol.Allows (protocol.phase member log) state entry after) :
    dues.Settled (entered log member entry) := by
  intro other
  rw [entriesOf_entered, Protocol.phase_entered]
  by_cases same : member = other
  · subst same
    rw [if_pos rfl, if_pos rfl]
    cases entry with
    | none => simpa [Protocol.after] using settled member
    | some entry =>
        have paid := dues.balance _ _ _ _ allowed
        rw [Option.toList_some, List.flatMap_append, List.flatMap_append, List.flatMap_singleton,
          List.flatMap_singleton, List.append_assoc, Protocol.after, ← paid, ← List.append_assoc,
          settled member]
  · rw [if_neg same, if_neg same]
    exact settled other

/-- Who owes nothing any more has paid what it owed before. -/
theorem Settled.paid_since {first rest : List (Nat × Entry)} (before : dues.Settled first)
    (after : dues.Settled (first ++ rest)) {member : Nat}
    (nothing : dues.owing (protocol.phase member (first ++ rest)) = []) :
    (entriesOf member rest).flatMap dues.paid =
      dues.owing (protocol.phase member first) ++ (entriesOf member rest).flatMap dues.due := by
  have all := after member
  rw [nothing, List.append_nil, entriesOf_append, List.flatMap_append, List.flatMap_append,
    ← before member, List.append_assoc, List.append_cancel_left_eq] at all
  exact all

/-- What is owed no more has been paid. -/
theorem Settled.exists_paid_since {first rest : List (Nat × Entry)} (before : dues.Settled first)
    (after : dues.Settled (first ++ rest)) {member : Nat}
    (nothing : dues.owing (protocol.phase member (first ++ rest)) = []) {item : Item}
    (owed : item ∈ dues.owing (protocol.phase member first)) :
    ∃ entry, (member, entry) ∈ rest ∧ item ∈ dues.paid entry := by
  have paid : item ∈ (entriesOf member rest).flatMap dues.paid := by
    rw [before.paid_since after nothing]
    exact List.mem_append_left _ owed
  obtain ⟨entry, mine, pays⟩ := List.mem_flatMap.1 paid
  exact ⟨entry, mem_entriesOf.1 mine, pays⟩

/-- What was paid and what is owed is what was due. -/
theorem Settled.perm (settled : dues.Settled log) {size : Nat}
    (members : ∀ entry ∈ log, entry.1 < size) :
    (told dues.paid log ++ dues.outstanding size log).Perm (told dues.due log) := by
  refine List.Perm.trans ?_ (told_perm_members dues.due members).symm
  refine ((told_perm_members dues.paid members).append_right _).trans ?_
  rw [outstanding]
  refine (List.flatMap_append_perm _ _ _).trans ?_
  exact List.Perm.of_eq (List.flatMap_congr fun member _ => settled member)

end Dues

/-! ## Members of a crew -/

namespace Crew

variable {ready : Request → State → Bool}

/-- Nobody but its members leaves entries in the log of a crew. -/
theorem lt_of_mem_log {crew : Crew State Entry} (new : crew.log = []) (schedule : List Choice) :
    ∀ entry ∈ (crew.run ready schedule).log, entry.1 < crew.members.length := by
  have stepped (crew : Crew State Entry) (choice : Choice)
      (members : ∀ entry ∈ crew.log, entry.1 < crew.members.length) :
      ∀ entry ∈ (crew.step ready choice).log, entry.1 < crew.members.length := by
    rw [step]
    split
    · exact members
    · rename_i member chosen
      split
      · exact members
      · rename_i state entry rest _
        cases entry with
        | none => exact members
        | some entry =>
            intro known logged
            rcases List.mem_append.1 logged with logged | last
            · exact members known logged
            · rw [List.mem_singleton.1 last]
              exact (List.getElem?_eq_some_iff.1 chosen).1
  have ran : ∀ (crew : Crew State Entry),
      (∀ entry ∈ crew.log, entry.1 < crew.members.length) →
      ∀ entry ∈ (crew.run ready schedule).log, entry.1 < crew.members.length := by
    induction schedule with
    | nil => exact fun _ members => members
    | cons choice schedule ih =>
        intro crew members
        have next := ih (crew.step ready choice)
        rw [crew.length_members_step] at next
        exact next (stepped crew choice members)
  exact ran crew (by simp [new])

end Crew

end RadarRelay
