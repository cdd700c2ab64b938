import RadarRelay.Error
import Std.Data.ExtTreeSet

/-!
# Recently handled files

A node remembers the fingerprints of the files that it handled last, up to a
limit of at least one. They are kept in the order in which they came, so that the
oldest can be forgotten first, and once more as a set, so that one is found
without going through the others. Seeing a remembered file again does not make it
newer.
-/

namespace RadarRelay

structure RecentFiles where
  limit : Nat
  /-- What is remembered, newest first. -/
  order : List String
  /-- What is remembered, to be looked up. -/
  members : Std.ExtTreeSet String
  deriving DecidableEq, Repr

namespace RecentFiles

/-- Nothing remembered yet, with room for at least one fingerprint. -/
def empty (limit : Nat) : RecentFiles := ⟨max limit 1, [], ∅⟩

/-- How many fingerprints can be remembered at all. No memory is larger than 2^63 - 1 bytes. In
order, texts take 24 bytes each. As a set, they lie in a table with a power of two of places, of
25 bytes each, and one place in eight stays free: 2^58 is the greatest power. -/
def greatestLimit : Nat := Nat.min (0x7fff_ffff_ffff_ffff / 24) (7 * 0x400_0000_0000_0000 / 8)

/-- Makes room for a number of fingerprints, which crashes when there cannot be that much. -/
def start (limit : Nat) : Except Failure RecentFiles :=
  if max limit 1 ≤ greatestLimit then .ok (empty limit) else .error .crash

/-- Whether a file is remembered. -/
def contains (recent : RecentFiles) (fingerprint : String) : Bool :=
  recent.members.contains fingerprint

def size (recent : RecentFiles) : Nat :=
  recent.order.length

/-- Forgets the oldest fingerprint, if there is one. -/
def forgetOldest (recent : RecentFiles) : RecentFiles :=
  match recent.order.getLast? with
  | some oldest =>
      { recent with order := recent.order.dropLast, members := recent.members.erase oldest }
  | none => recent

@[simp] theorem limit_forgetOldest (recent : RecentFiles) :
    recent.forgetOldest.limit = recent.limit := by
  unfold forgetOldest
  split <;> rfl

@[simp] theorem order_forgetOldest (recent : RecentFiles) :
    recent.forgetOldest.order = recent.order.dropLast := by
  unfold forgetOldest
  split
  · rfl
  · rename_i none
    rw [List.getLast?_eq_none_iff.1 none]
    rfl

/-- Forgets the oldest fingerprints one after the other, as long as there are more than the
limit. -/
def shrink (recent : RecentFiles) : RecentFiles :=
  if recent.limit < recent.order.length then shrink recent.forgetOldest else recent
termination_by recent.order.length
decreasing_by
  rw [order_forgetOldest, List.length_dropLast]
  omega

/-- Remembers a file unless it is remembered already, and says whether it was new. The oldest
fingerprints beyond the limit are forgotten. -/
def add (recent : RecentFiles) (fingerprint : String) : Bool × RecentFiles :=
  if recent.contains fingerprint then (false, recent)
  else
    (true,
      shrink
        { recent with
          order := fingerprint :: recent.order
          members := recent.members.insert fingerprint })

@[simp] theorem limit_shrink (recent : RecentFiles) : recent.shrink.limit = recent.limit := by
  fun_induction shrink recent with
  | case1 recent _ ih => rw [ih, limit_forgetOldest]
  | case2 => rfl

/-- As many of the newest fingerprints are left as there is room for. -/
@[simp] theorem order_shrink (recent : RecentFiles) :
    recent.shrink.order = recent.order.take recent.limit := by
  fun_induction shrink recent with
  | case1 recent exceeded ih =>
      rw [ih, limit_forgetOldest, order_forgetOldest, List.dropLast_eq_take, List.take_take,
        Nat.min_eq_left (by omega)]
  | case2 recent fits => rw [List.take_of_length_le (Nat.le_of_not_lt fits)]

theorem add_of_contains {recent : RecentFiles} {fingerprint : String}
    (known : recent.contains fingerprint = true) : recent.add fingerprint = (false, recent) := by
  simp [add, known]

theorem add_of_not_contains {recent : RecentFiles} {fingerprint : String}
    (new : recent.contains fingerprint = false) :
    recent.add fingerprint =
      (true,
        shrink
          { recent with
            order := fingerprint :: recent.order
            members := recent.members.insert fingerprint }) := by
  simp [add, new]

@[simp] theorem limit_add (recent : RecentFiles) (fingerprint : String) :
    (recent.add fingerprint).2.limit = recent.limit := by
  cases known : recent.contains fingerprint with
  | true => rw [add_of_contains known]
  | false => rw [add_of_not_contains known, limit_shrink]

/-- Never more than the limit is remembered. -/
theorem size_add_le {recent : RecentFiles} (fingerprint : String)
    (bounded : recent.size ≤ recent.limit) :
    (recent.add fingerprint).2.size ≤ recent.limit := by
  cases known : recent.contains fingerprint with
  | true =>
      rw [add_of_contains known]
      exact bounded
  | false =>
      rw [add_of_not_contains known, size, order_shrink]
      exact List.length_take_le ..

end RecentFiles

end RadarRelay
