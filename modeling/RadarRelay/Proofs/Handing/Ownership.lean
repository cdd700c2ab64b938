import RadarRelay.Proofs.Handing.Effects

/-!
# Every temporary file has one owner

Whatever those at work on a node do at the same time, a temporary file exists
exactly as long as a running enqueue holds it, it waits in a queue, or a worker
delivers it, and never two of them have the same file. An enqueue that ends keeps
nothing, so nothing is left once everything has been delivered or abandoned.
-/

namespace RadarRelay

variable {Item : Type}

/-- What is recorded of those at work on a node. -/
abbrev FileLog := List (Nat × (Option Outcome × Option FileEntry))

variable {seats : List Seat} {member : Nat} {log : FileLog}
  {entry : Option (Option Outcome × Option FileEntry)} {outbound after : Outbound}

/-! ## The crew as a whole -/

/-- Where a member of the crew stands. -/
def holderAt (seats : List Seat) (member : Nat) (log : FileLog) : Holder :=
  (Node.fileProtocol (Seat.starts seats)).phase member log

/-- What all members have together. -/
def acrossSeats (part : Holder → List Item) (seats : List Seat) (log : FileLog) : List Item :=
  (List.range seats.length).flatMap fun member => part (holderAt seats member log)

/-- The files that running enqueues hold. -/
def heldFiles (seats : List Seat) (log : FileLog) : List TemporaryFile :=
  acrossSeats Holder.held seats log

/-- The files that workers deliver. -/
def deliveredParcels (seats : List Seat) (log : FileLog) : List Parcel :=
  acrossSeats Holder.delivering seats log

theorem holderAt_entered (other : Nat) :
    holderAt seats other (entered log member entry) =
      if member = other then (holderAt seats member log).next (entry.bind Prod.snd)
      else holderAt seats other log := by
  have moved (holder : Holder) : (Node.fileProtocol (Seat.starts seats)).after holder entry =
      holder.next (entry.bind Prod.snd) := by
    rcases entry with _ | ⟨_, _ | _⟩ <;> rfl
  rw [holderAt, Protocol.phase_entered, moved]
  rfl

theorem perm_acrossSeats_entered (part : Holder → List Item) (log : FileLog)
    (entry : Option (Option Outcome × Option FileEntry)) (inside : member < seats.length) :
    (part ((holderAt seats member log).next (entry.bind Prod.snd)) ++
        acrossSeats part seats log).Perm
      (part (holderAt seats member log) ++ acrossSeats part seats (entered log member entry)) := by
  have others : ∀ other, other ≠ member →
      part (holderAt seats other (entered log member entry)) = part (holderAt seats other log) := by
    intro other different
    rw [holderAt_entered, if_neg (Ne.symm different)]
  have moved := perm_flatMap_range inside others
  rw [holderAt_entered, if_pos rfl] at moved
  exact moved

theorem mem_acrossSeats {part : Holder → List Item} {item : Item} :
    item ∈ acrossSeats part seats log ↔
      ∃ member < seats.length, item ∈ part (holderAt seats member log) := by
  simp [acrossSeats]

/-- What is somewhere after a step was there before or is with the member who took it. -/
theorem mem_acrossSeats_entered {part : Holder → List Item} {item : Item}
    (inside : member < seats.length)
    (known : item ∈ acrossSeats part seats (entered log member entry)) :
    item ∈ part ((holderAt seats member log).next (entry.bind Prod.snd)) ∨
      item ∈ acrossSeats part seats log := by
  have before := (perm_acrossSeats_entered part log entry inside).mem_iff.2
    (List.mem_append_right _ known)
  exact List.mem_append.1 before

theorem perm_inHand :
    (acrossSeats Holder.inHand seats log).Perm
      (heldFiles seats log ++ (deliveredParcels seats log).map Parcel.file) := by
  rw [heldFiles, deliveredParcels, acrossSeats, acrossSeats, acrossSeats, List.map_flatMap]
  exact (List.flatMap_append_perm _ _ _).symm

/-! ## Each file is in one place -/

/-- What one member and the queues exchange, all members and the queues exchange. -/
theorem Moved.across {disk later : Disk} {own next waiting still all now : List TemporaryFile}
    (moved : Moved disk (own ++ waiting) later (next ++ still))
    (shifted : (next ++ all).Perm (own ++ now)) :
    Moved disk (all ++ waiting) later (now ++ still) := by
  have shiftedOne := List.perm_iff_count.1 shifted
  simp only [List.count_append] at shiftedOne
  cases moved with
  | kept moved =>
      refine .kept (List.perm_iff_count.2 fun file => ?_)
      have movedOne := List.perm_iff_count.1 moved file
      have shift := shiftedOne file
      simp only [List.count_append] at movedOne ⊢
      omega
  | made inFolder content moved =>
      refine .made inFolder content (List.perm_iff_count.2 fun file => ?_)
      have movedOne := List.perm_iff_count.1 moved file
      have shift := shiftedOne file
      simp only [List.count_append, List.count_cons] at movedOne ⊢
      omega
  | deleted files moved =>
      refine .deleted files (List.perm_iff_count.2 fun file => ?_)
      have movedOne := List.perm_iff_count.1 moved file
      have shift := shiftedOne file
      simp only [List.count_append] at movedOne ⊢
      omega

/-- The files that exist are those in the places where files can be. -/
structure Disk.Exact (disk : Disk) (places : List TemporaryFile) : Prop where
  exact : disk.present.Perm places
  /-- No two files have one number. -/
  apart : (disk.present.map (·.serial)).Nodup
  older : ∀ file ∈ disk.present, file.serial < disk.next

theorem Disk.Exact.moved {disk later : Disk} {before now : List TemporaryFile}
    (owned : disk.Exact before) (moved : Moved disk before later now) : later.Exact now := by
  cases moved with
  | kept moved =>
      exact ⟨owned.exact.trans moved.symm, owned.apart, owned.older⟩
  | made inFolder content moved =>
      refine ⟨(owned.exact.cons _).trans moved.symm, ?_, ?_⟩
      · show (disk.next :: disk.present.map (·.serial)).Nodup
        rw [List.nodup_cons]
        refine ⟨fun known => ?_, owned.apart⟩
        obtain ⟨file, present, serial⟩ := List.mem_map.1 known
        exact absurd (owned.older file present) (by omega)
      · intro file known
        rcases List.mem_cons.1 known with rfl | known
        · exact Nat.lt_succ_self _
        · exact Nat.lt_succ_of_lt (owned.older file known)
  | deleted files moved =>
      have left := Disk.perm_deleteAll (owned.exact.trans moved.symm) owned.apart
      have sublist : (disk.deleteAll files).present.Sublist disk.present := by
        rw [Disk.present_deleteAll]
        exact List.filter_sublist
      refine ⟨left, (sublist.map _).nodup owned.apart, ?_⟩
      rw [Disk.next_deleteAll]
      exact fun file known => owned.older file (sublist.subset known)

/-- The files that exist are those that somebody has or that wait. -/
def Owned (seats : List Seat) (outbound : Outbound) (log : FileLog) : Prop :=
  outbound.disk.Exact (acrossSeats Holder.inHand seats log ++ outbound.waiting.map Parcel.file)

theorem Owned.step (owned : Owned seats outbound log) (inside : member < seats.length)
    (step : FileStep (holderAt seats member log) outbound (entry.bind Prod.snd) after) :
    Owned seats after (entered log member entry) :=
  Disk.Exact.moved owned
    (step.moved.across (perm_acrossSeats_entered Holder.inHand log entry inside))

/-! ## Who is left -/

/-- The pool of each publication counts the workers that have not left; without any, its queue is
closed and empty. -/
structure Staffed (seats : List Seat) (outbound : Outbound) (log : FileLog) : Prop where
  staff : ∀ publication, (outbound.pool publication).workers =
    (acrossSeats (Holder.serving publication) seats log).length
  closed : ∀ publication, (outbound.pool publication).closed = true ↔
    (outbound.pool publication).workers = 0
  empty : ∀ publication, (outbound.pool publication).closed = true →
    (outbound.pool publication).queue = []
  joined : ∀ publication member returned, (member, returned, some (.joined publication)) ∈ log →
    (outbound.pool publication).workers = 0

/-- Who has waited for the workers of a publication has waited busy none was left. -/
theorem FileStep.workers_of_joined {holder : Holder} {publication : Nat}
    (step : FileStep holder outbound (some (.joined publication)) after) :
    (outbound.pool publication).workers = 0 := by
  generalize told : some (FileEntry.joined publication) = entry at step
  cases step with
  | silent => cases told
  | @worked _ _ _ _ entry =>
      cases entry with
      | none | some => cases told
  | onDisk step => cases step with
    | silent | given | produced | adopted | dropped => cases told
  | turnedAway | offered => cases told
  | joined other none =>
      cases told
      exact none

theorem Staffed.step (staffed : Staffed seats outbound log) (inside : member < seats.length)
    (step : FileStep (holderAt seats member log) outbound (entry.bind Prod.snd) after) :
    Staffed seats after (entered log member entry) := by
  have counted (publication : Nat) :=
    (perm_acrossSeats_entered (Holder.serving publication) log entry inside).length_eq
  simp only [List.length_append] at counted
  have each (publication : Nat) :
      (after.pool publication).workers =
          (acrossSeats (Holder.serving publication) seats (entered log member entry)).length ∧
        (after.pool publication).ClosedWhenLeft := by
    have staff := staffed.staff publication
    have sound : (outbound.pool publication).ClosedWhenLeft :=
      ⟨staffed.closed publication, staffed.empty publication⟩
    have count := counted publication
    rcases step.staffing publication with same | ⟨leaving, gone, rfl⟩
    · rw [same.serving] at count
      constructor
      · rw [same.workers]
        omega
      · constructor
        · rw [same.workers, same.closed]
          exact sound.closed
        · intro closed
          rw [same.closed] at closed
          have nothing := same.queue closed
          rw [sound.empty closed] at nothing
          exact List.subset_nil.1 nothing
    · have one : (Holder.serving publication (.worker publication .leaving)).length = 1 := by
        simp [Holder.serving]
      have none : (Holder.serving publication (.worker publication .gone)).length = 0 := by
        simp [Holder.serving]
      rw [gone, leaving, one, none] at count
      have known : publication < outbound.pools.length := by
        by_contra outside
        rw [Outbound.pool_of_le (Nat.le_of_not_lt outside)] at staff
        change 0 = _ at staff
        omega
      have pooled : (Publication.dismiss publication outbound).2.pool publication =
          (outbound.pool publication).leave.2 := outbound.pool_setPool_self known _
      rw [pooled, Pool.workers_leave]
      exact ⟨by omega, sound.leave (by omega)⟩
  constructor
  · exact fun publication => (each publication).1
  · exact fun publication => (each publication).2.closed
  · exact fun publication => (each publication).2.empty
  · intro publication waiter returned told
    apply step.workers_zero
    cases entry with
    | none => exact staffed.joined publication waiter returned told
    | some entry =>
        rcases List.mem_append.1 told with earlier | last
        · exact staffed.joined publication waiter returned earlier
        · cases List.mem_singleton.1 last
          exact step.workers_of_joined

/-! ## What becomes of the files of one enqueue -/

namespace Owned

theorem perm_places (owned : Owned seats outbound log) :
    outbound.disk.present.Perm (heldFiles seats log ++
      (deliveredParcels seats log ++ outbound.waiting).map Parcel.file) := by
  refine owned.exact.trans ?_
  rw [List.map_append, ← List.append_assoc]
  exact perm_inHand.append_right _

theorem nodup_places (owned : Owned seats outbound log) :
    (heldFiles seats log ++
      (deliveredParcels seats log ++ outbound.waiting).map Parcel.file).Nodup :=
  owned.perm_places.nodup_iff.1 (List.Nodup.of_map _ owned.apart)

end Owned

/-- A file that an enqueue has seen and does not hold any more: either it is gone, or it was queued
and belongs to the item in the queue and to nobody else. -/
def Handling.Released (handling : Handling) (file : TemporaryFile) (seats : List Seat)
    (outbound : Outbound) (log : FileLog) : Prop :=
  file ∉ outbound.disk.present ∨
    ∃ publication parcel, handling.queued = some (publication, parcel) ∧ parcel.file = file ∧
      file ∉ heldFiles seats log ∧
      ∀ item ∈ deliveredParcels seats log ++ outbound.waiting, item.file = file → item = parcel

/-- What is known of the files that an enqueue has seen. -/
structure Handling.Known (handling : Handling) (seats : List Seat) (outbound : Outbound)
    (log : FileLog) : Prop where
  holds : ∀ file ∈ handling.holding.files, file ∈ handling.seen
  queued : ∀ publication parcel, handling.queued = some (publication, parcel) →
    parcel.file ∈ handling.seen
  older : ∀ file ∈ handling.seen, file.serial < outbound.disk.next
  released : ∀ file ∈ handling.seen, file ∉ handling.holding.files →
    handling.Released file seats outbound log

/-- What waits or is delivered after a step did so before, or was held. -/
theorem mem_placed_entered (inside : member < seats.length)
    (step : FileStep (holderAt seats member log) outbound (entry.bind Prod.snd) after)
    {item : Parcel}
    (placed : item ∈ deliveredParcels seats (entered log member entry) ++ after.waiting) :
    item ∈ deliveredParcels seats log ++ outbound.waiting ∨ item.file ∈ heldFiles seats log := by
  have mine (here : item ∈ ((holderAt seats member log).next
      (entry.bind Prod.snd)).delivering ++ after.waiting) :
      item ∈ deliveredParcels seats log ++ outbound.waiting ∨
        item.file ∈ heldFiles seats log := by
    rcases step.placed item here with earlier | held
    · left
      rcases List.mem_append.1 earlier with delivered | waits
      · exact List.mem_append_left _ (mem_acrossSeats.2 ⟨member, inside, delivered⟩)
      · exact List.mem_append_right _ waits
    · exact Or.inr (mem_acrossSeats.2 ⟨member, inside, held⟩)
  rcases List.mem_append.1 placed with delivered | waits
  · rcases mem_acrossSeats_entered inside delivered with here | earlier
    · exact mine (List.mem_append_left _ here)
    · exact Or.inl (List.mem_append_left _ earlier)
  · exact mine (List.mem_append_right _ waits)

/-- Nobody else comes by what an enqueue has seen. -/
theorem Handling.Known.stays {handling : Handling} (known : handling.Known seats outbound log)
    (inside : member < seats.length)
    (step : FileStep (holderAt seats member log) outbound (entry.bind Prod.snd) after) :
    handling.Known seats after (entered log member entry) := by
  obtain ⟨next, present⟩ := step.moved.present
  refine ⟨known.holds, known.queued, ?_, ?_⟩
  · intro file saw
    exact Nat.lt_of_lt_of_le (known.older file saw) next
  · intro file saw dropped
    have older := known.older file saw
    rcases known.released file saw dropped with gone | ⟨publication, parcel, queued, rfl, free, own⟩
    · left
      intro again
      rcases present file again with there | fresh
      · exact gone there
      · omega
    · refine Or.inr ⟨publication, parcel, queued, rfl, ?_, ?_⟩
      · intro held
        rcases mem_acrossSeats_entered inside held with mine | theirs
        · rcases step.held _ mine with before | fresh
          · exact free (mem_acrossSeats.2 ⟨member, inside, before⟩)
          · omega
        · exact free theirs
      · intro item placed same
        rcases mem_placed_entered inside step placed with placed | held
        · exact own item placed same
        · exact absurd (same ▸ held) free

namespace Handling.Known

variable {handling : Handling}

/-- A new copy has just been made. -/
theorem given (publication : Publication) {parcel : Parcel}
    (newest : parcel.file.serial < outbound.disk.next) :
    (handling.after (.given publication parcel)).Known seats outbound log where
  holds _ held := held
  queued _ _ never := by cases never
  older file saw := by
    rw [List.mem_singleton.1 saw]
    exact newest
  released _ saw dropped := absurd saw dropped

theorem produced (known : handling.Known seats outbound log) {current file : TemporaryFile}
    (holds : handling.holding = .file current) (newest : file.serial < outbound.disk.next) :
    (handling.after (.produced file)).Known seats outbound log := by
  have files : (handling.after (.produced file)).holding.files =
      file :: handling.holding.files := by
    simp [Handling.after, Holding.produce, Holding.files, holds]
  constructor
  · intro other held
    rw [files] at held
    rcases List.mem_cons.1 held with rfl | held
    · exact List.mem_cons_self
    · exact List.mem_cons_of_mem _ (known.holds other held)
  · intro publication parcel queued
    exact List.mem_cons_of_mem _ (known.queued publication parcel queued)
  · exact List.forall_mem_cons.2 ⟨newest, known.older⟩
  · intro other saw dropped
    rw [files] at dropped
    obtain ⟨different, dropped⟩ := not_or.1 (mt List.mem_cons.2 dropped)
    exact known.released other ((List.mem_cons.1 saw).resolve_left different) dropped

/-- The file that has been replaced is gone. -/
theorem adopted (known : handling.Known seats outbound log) {current replacement : TemporaryFile}
    (holds : handling.holding = .replacing current replacement)
    (gone : current ∉ outbound.disk.present) :
    (handling.after .adopted).Known seats outbound log := by
  have files : (handling.after .adopted).holding.files = [replacement] := by
    simp [Handling.after, Holding.adopt, Holding.files, holds]
  have held : handling.holding.files = [replacement, current] := by
    rw [holds, Holding.files]
  refine ⟨?_, known.queued, known.older, ?_⟩
  · intro file adopted
    rw [files] at adopted
    apply known.holds file
    rw [held, List.mem_singleton.1 adopted]
    exact List.mem_cons_self
  · intro file saw dropped
    rw [files] at dropped
    by_cases same : file = current
    · exact Or.inl (same ▸ gone)
    · apply known.released file saw
      rw [held]
      simpa [same] using dropped

/-- What was held is gone. -/
theorem dropped (known : handling.Known seats outbound log)
    (gone : ∀ file ∈ handling.holding.files, file ∉ outbound.disk.present) :
    (handling.after .dropped).Known seats outbound log := by
  refine ⟨List.forall_mem_nil _, known.queued, known.older, ?_⟩
  intro file saw _
  by_cases held : file ∈ handling.holding.files
  · exact Or.inl (gone file held)
  · exact known.released file saw held

/-- What was held waits, and is nobody else's. -/
theorem handedOver (known : handling.Known seats outbound log) {publication : Nat}
    {parcel : Parcel} (holds : handling.holding = .file parcel.file) (none : handling.queued = none)
    (unheld : parcel.file ∉ heldFiles seats log)
    (own : ∀ item ∈ deliveredParcels seats log ++ outbound.waiting,
      item.file = parcel.file → item = parcel) :
    (handling.after (.offered publication parcel .queued)).Known seats outbound log := by
  have held : handling.holding.files = [parcel.file] := by
    rw [holds, Holding.files]
  refine ⟨List.forall_mem_nil _, ?_, known.older, ?_⟩
  · intro _ _ same
    cases same
    exact known.holds _ (by rw [held]; exact List.mem_singleton_self _)
  · intro file saw _
    by_cases same : file = parcel.file
    · subst same
      exact Or.inr ⟨publication, parcel, rfl, rfl, unheld, own⟩
    · rcases known.released file saw (by simp [held, same]) with gone | ⟨_, _, was, _⟩
      · exact Or.inl gone
      · rw [none] at was
        cases was

end Handling.Known

/-- What has just been queued is nobody else's. -/
theorem Owned.own_of_queued {handling : Handling} {publication : Nat} {parcel : Parcel}
    (owned : Owned seats outbound log) (inside : member < seats.length)
    (stands : holderAt seats member log = .caller handling)
    (told : entry.bind Prod.snd = some (.offered publication parcel .queued))
    (holds : handling.holding = .file parcel.file)
    (added : after.waiting.Perm (parcel :: outbound.waiting)) :
    parcel.file ∉ heldFiles seats (entered log member entry) ∧
      ∀ item ∈ deliveredParcels seats (entered log member entry) ++ after.waiting,
        item.file = parcel.file → item = parcel := by
  have held : (Holder.caller handling).held = [parcel.file] := by
    simp [Holder.held, holds, Holding.files]
  have lost : (parcel.file :: heldFiles seats (entered log member entry)).Perm
      (heldFiles seats log) := by
    have shifted := perm_acrossSeats_entered Holder.held log entry inside
    rw [told, stands, held] at shifted
    exact shifted.symm
  have delivered : (deliveredParcels seats (entered log member entry)).Perm
      (deliveredParcels seats log) := by
    have shifted := perm_acrossSeats_entered Holder.delivering log entry inside
    rw [told, stands] at shifted
    exact shifted.symm
  obtain ⟨alone, _, elsewhere⟩ := List.nodup_append.1 owned.nodup_places
  constructor
  · exact (List.nodup_cons.1 (lost.nodup_iff.2 alone)).1
  · intro item placed same
    have before : item = parcel ∨ item ∈ deliveredParcels seats log ++ outbound.waiting := by
      rcases List.mem_append.1 placed with here | waits
      · exact Or.inr (List.mem_append_left _ (delivered.mem_iff.1 here))
      · rcases List.mem_cons.1 (added.mem_iff.1 waits) with mine | waits
        · exact Or.inl mine
        · exact Or.inr (List.mem_append_right _ waits)
    rcases before with mine | placed
    · exact mine
    · exact absurd same.symm (elsewhere parcel.file (lost.mem_iff.1 List.mem_cons_self)
        item.file (List.mem_map_of_mem placed))

/-- Whoever takes a step knows of its own files as well. -/
theorem Handling.Known.step {handling : Handling} {event : FileEntry}
    (known : handling.Known seats outbound log) (owned : Owned seats outbound log)
    (inside : member < seats.length) (stands : holderAt seats member log = .caller handling)
    (told : entry.bind Prod.snd = some event)
    (step : FileStep (.caller handling) outbound (some event) after) :
    (handling.after event).Known seats after (entered log member entry) := by
  have still : handling.Known seats after (entered log member entry) := by
    apply known.stays inside
    rw [told, stands]
    exact step
  generalize marked : some event = recorded at step
  cases step with
  | silent => cases marked
  | onDisk step =>
      cases step with
      | silent => cases marked
      | @given _ _ publication =>
          cases marked
          exact .given publication (Nat.lt_succ_self _)
      | produced _ holds =>
          cases marked
          exact still.produced holds (Nat.lt_succ_self _)
      | adopted holds =>
          cases marked
          exact still.adopted holds (Disk.not_mem_deleteAll (List.mem_singleton_self _))
      | dropped =>
          cases marked
          exact still.dropped fun file held => Disk.not_mem_deleteAll held
  | turnedAway | joined =>
      cases marked
      exact still
  | @offered _ _ publication parcel holds none =>
      cases marked
      rcases outbound.offer_cases publication parcel with ⟨refused, _⟩ | ⟨queued, _, added⟩
      · rw [Handling.after_offered_of_ne refused]
        exact still
      · rw [queued] at told ⊢
        obtain ⟨unheld, own⟩ := owned.own_of_queued inside stands told holds added
        exact still.handedOver holds none unheld own

/-! ## Everything that holds at all times -/

/-- Whatever an enqueue of a member has seen, now or earlier, is known of. -/
def Remembered (seats : List Seat) (outbound : Outbound) (log : FileLog) : Prop :=
  ∀ first rest, log = first ++ rest → ∀ member handling,
    holderAt seats member first = .caller handling → handling.Known seats outbound log

theorem Holder.caller_of_next {holder : Holder} {event : Option FileEntry} {handling : Handling}
    (next : holder.next event = .caller handling) :
    ∃ before, holder = .caller before ∧
      (event = none ∧ handling = before ∨
        ∃ told, event = some told ∧ handling = before.after told) := by
  cases holder with
  | worker publication standing =>
      rcases event with _ | event
      · cases next
      · cases event <;> cases next
  | caller before =>
      rcases event with _ | event
      · cases next
        exact ⟨_, rfl, Or.inl ⟨rfl, rfl⟩⟩
      · cases next
        exact ⟨_, rfl, Or.inr ⟨event, rfl, rfl⟩⟩

/-- Where a log that has just been continued may be split. -/
theorem split_entered {first rest : FileLog} (split : entered log member entry = first ++ rest) :
    first = entered log member entry ∨ ∃ earlier, log = first ++ earlier := by
  rcases List.eq_nil_or_concat rest with rfl | ⟨earlier, last, rfl⟩
  · left
    rw [split, List.append_nil]
  · right
    cases entry with
    | none => exact ⟨_, split⟩
    | some entry =>
        refine ⟨earlier, ?_⟩
        have longer : log ++ [(member, entry)] = (first ++ earlier) ++ [last] := by
          simpa [entered] using split
        exact (List.append_inj' longer rfl).1

theorem Remembered.step (remembered : Remembered seats outbound log)
    (owned : Owned seats outbound log) (inside : member < seats.length)
    (step : FileStep (holderAt seats member log) outbound (entry.bind Prod.snd) after) :
    Remembered seats after (entered log member entry) := by
  intro first rest split other handling stands
  rcases split_entered split with rfl | ⟨earlier, before⟩
  · rw [holderAt_entered] at stands
    by_cases same : member = other
    · subst same
      rw [if_pos rfl] at stands
      obtain ⟨handled, stood, ⟨_, rfl⟩ | ⟨event, told, rfl⟩⟩ := Holder.caller_of_next stands
      · exact (remembered log [] (by simp) member _ stood).stays inside step
      · have known := remembered log [] (by simp) member _ stood
        rw [stood, told] at step
        exact known.step owned inside stood told step
    · rw [if_neg same] at stands
      exact (remembered log [] (by simp) other _ stands).stays inside step
  · exact (remembered first earlier before other _ stands).stays inside step

/-- An enqueue that has returned held nothing any more. -/
def Returned (seats : List Seat) (log : FileLog) : Prop :=
  Justified (fun before entry => ∀ outcome ∈ entry.2.1,
    (holderAt seats entry.1 (before ++ [entry])).Returns outcome) log

theorem Returned.step (returned : Returned seats log)
    (returns : ∀ outcome ∈ entry.bind Prod.fst,
      ((holderAt seats member log).next (entry.bind Prod.snd)).Returns outcome) :
    Returned seats (entered log member entry) := by
  cases entry with
  | none => exact returned
  | some entry =>
      apply Justified.append returned
      intro outcome told
      have stands : holderAt seats member (log ++ [(member, entry)]) =
          (holderAt seats member log).next entry.2 := by
        have moved : holderAt seats member (entered log member (some entry)) = _ :=
          holderAt_entered member
        rw [if_pos rfl] at moved
        exact moved
      rw [stands]
      exact returns outcome told

/-- What is queued waits from then on. -/
theorem FileStep.waits_of_queued {holder : Holder} {publication : Nat} {parcel : Parcel}
    (step : FileStep holder outbound (some (.offered publication parcel .queued)) after) :
    parcel ∈ (after.pool publication).queue := by
  generalize told : some (FileEntry.offered publication parcel .queued) = event at step
  cases step with
  | silent => cases told
  | @worked _ _ _ _ entry =>
      cases entry with
      | none | some => cases told
  | onDisk step => cases step with
    | silent | given | produced | adopted | dropped => cases told
  | turnedAway | joined => cases told
  | @offered _ _ other offered =>
      injection told with told
      injection told with number item outcome
      subst number item
      rcases outbound.offer_cases publication parcel with ⟨refused, _⟩ | ⟨_, waits, _⟩
      · exact absurd outcome.symm refused
      · exact waits

/-- What was queued last waits, if nothing has been recorded since. -/
def QueuedLast (outbound : Outbound) (log : FileLog) : Prop :=
  ∀ before member returned publication parcel,
    log = before ++ [(member, returned, some (.offered publication parcel .queued))] →
    parcel ∈ (outbound.pool publication).queue

theorem QueuedLast.step {holder : Holder} (queuedLast : QueuedLast outbound log)
    (step : FileStep holder outbound (entry.bind Prod.snd) after) :
    QueuedLast after (entered log member entry) := by
  intro before author returned publication parcel split
  cases entry with
  | none =>
      obtain ⟨queue, _⟩ := Outbound.pool_of_stock step.stock_of_none publication
      rw [queue]
      exact queuedLast before author returned publication parcel split
  | some entry =>
      obtain ⟨_, same⟩ := List.append_inj' split rfl
      cases same
      exact FileStep.waits_of_queued step

/-- What holds at all times of those at work on a node whose publications have these numbers. -/
structure Ownership (numbers : List Nat) (seats : List Seat) (outbound : Outbound) (log : FileLog) :
    Prop where
  owned : Owned seats outbound log
  staffed : Staffed seats outbound log
  unmanned : ∀ publication, publication ∉ numbers → (outbound.pool publication).workers = 0
  remembered : Remembered seats outbound log
  returned : Returned seats log
  queuedLast : QueuedLast outbound log

variable {numbers : List Nat}

theorem Ownership.step (ownership : Ownership numbers seats outbound log)
    (inside : member < seats.length)
    (step : FileStep (holderAt seats member log) outbound (entry.bind Prod.snd) after)
    (returns : ∀ outcome ∈ entry.bind Prod.fst,
      ((holderAt seats member log).next (entry.bind Prod.snd)).Returns outcome) :
    Ownership numbers seats after (entered log member entry) where
  owned := ownership.owned.step inside step
  staffed := ownership.staffed.step inside step
  unmanned publication unknown := step.workers_zero (ownership.unmanned publication unknown)
  remembered := ownership.remembered.step ownership.owned inside step
  returned := ownership.returned.step returns
  queuedLast := ownership.queuedLast.step step

/-! ### At first -/

theorem acrossSeats_nil (part : Holder → List Item) (seats : List Seat) :
    acrossSeats part seats [] = seats.flatMap fun seat => part seat.holder := by
  have stands (seats : List Seat) : acrossSeats part seats [] =
      (List.range seats.length).flatMap fun member => part (Seat.starts seats member) := rfl
  rw [stands]
  induction seats with
  | nil => rfl
  | cons seat seats ih =>
      rw [List.length_cons, List.range_succ_eq_map, List.flatMap_cons, List.flatMap_map,
        List.flatMap_cons, ← ih]
      rfl

theorem Seat.inHand_holder (seat : Seat) : seat.holder.inHand = [] := by
  cases seat <;> rfl

theorem Seat.starts_caller {handling : Handling}
    (stands : Seat.starts seats member = .caller handling) : handling = .new := by
  rw [Seat.starts] at stands
  cases sits : seats[member]? with
  | none =>
      rw [sits] at stands
      cases stands
      rfl
  | some seat =>
      rw [sits] at stands
      cases seat with
      | worker => cases stands
      | caller | other =>
          cases stands
          rfl

/-- Each publication has as many workers in the crew as its pool counts. -/
theorem length_serving (outbound : Outbound) {publications : List Publication}
    (once : (publications.map Publication.id).Nodup) (publication : Nat) :
    ((publications.flatMap fun started =>
        List.replicate (outbound.pool started.id).workers (Seat.worker started)).flatMap
          fun seat => seat.holder.serving publication).length =
      if publication ∈ publications.map Publication.id then (outbound.pool publication).workers
      else 0 := by
  induction publications with
  | nil => rfl
  | cons first publications ih =>
      rw [List.map_cons, List.nodup_cons] at once
      rw [List.flatMap_cons, List.flatMap_append, List.length_append, ih once.2]
      by_cases same : first.id = publication
      · subst same
        simp [once.1, Seat.holder, Holder.serving, List.flatMap_replicate]
      · have other : publication ≠ first.id := Ne.symm same
        simp [same, other, Seat.holder, Holder.serving, List.flatMap_replicate]

/-- At first no file exists and every pool has all its workers. -/
theorem Ownership.of_fresh {node : Node} {publications : List Publication}
    (numbered : publications.map Publication.id = List.range' 0 node.outbound.pools.length)
    (fresh : ∀ pool ∈ node.outbound.pools, Publication.Fresh pool)
    (empty : node.outbound.disk.present = []) (tasks : List FileTask)
    (others : List (Activity Node Bool)) :
    Ownership (publications.map Publication.id) (node.seats publications tasks others)
      node.outbound [] := by
  have pool (publication : Nat) :
      Publication.Fresh (node.outbound.pool publication) ∨
        node.outbound.pool publication = .gone := by
    by_cases known : publication < node.outbound.pools.length
    · left
      rw [Outbound.pool, List.getElem?_eq_getElem known, Option.getD_some]
      exact fresh _ (List.getElem_mem known)
    · exact Or.inr (Outbound.pool_of_le (Nat.le_of_not_lt known))
  have unmanned (publication : Nat) (unknown : publication ∉ publications.map Publication.id) :
      (node.outbound.pool publication).workers = 0 := by
    rw [Outbound.pool_of_le]
    · rfl
    · by_contra known
      rw [numbered] at unknown
      simp at unknown
      omega
  have waiting : node.outbound.waiting = [] := by
    rw [Outbound.waiting, List.flatMap_eq_nil_iff]
    exact fun pool known => (fresh pool known).1
  have inHand : acrossSeats Holder.inHand (node.seats publications tasks others) [] = [] := by
    rw [acrossSeats_nil, List.flatMap_eq_nil_iff]
    exact fun seat _ => seat.inHand_holder
  constructor
  · constructor
    · rw [inHand, waiting, empty]
      exact List.Perm.refl _
    · rw [empty]
      exact List.nodup_nil
    · rw [empty]
      exact List.forall_mem_nil _
  · constructor
    · intro publication
      have once : (publications.map Publication.id).Nodup := by
        rw [numbered]
        exact List.nodup_range'
      have idle : (tasks.map Seat.caller ++ others.map Seat.other).flatMap
          (fun seat => seat.holder.serving publication) = [] := by
        rw [List.flatMap_eq_nil_iff]
        intro seat sits
        rcases List.mem_append.1 sits with sits | sits
        · obtain ⟨task, _, rfl⟩ := List.mem_map.1 sits
          rfl
        · obtain ⟨other, _, rfl⟩ := List.mem_map.1 sits
          rfl
      rw [acrossSeats_nil, Node.seats, List.flatMap_append, idle, List.append_nil,
        length_serving node.outbound once publication]
      split
      · rfl
      · exact unmanned publication ‹_›
    · intro publication
      rcases pool publication with ⟨_, opened, manned⟩ | gone
      · rw [opened]
        constructor
        · intro never
          cases never
        · intro none
          omega
      · rw [gone]
        exact ⟨fun _ => rfl, fun _ => rfl⟩
    · intro publication closed
      rcases pool publication with ⟨queue, _⟩ | gone
      · exact queue
      · rw [gone]
        rfl
    · intro _ _ _ never
      cases never
  · exact unmanned
  · intro first rest split member handling stands
    obtain ⟨rfl, _⟩ := List.append_eq_nil_iff.1 split.symm
    rw [Seat.starts_caller stands]
    constructor
    · exact List.forall_mem_nil _
    · intro _ _ never
      cases never
    · exact List.forall_mem_nil _
    · exact fun _ saw => absurd saw List.not_mem_nil
  · exact justified_nil
  · intro before author returned publication parcel split
    simp at split

/-! ## Ownership -/

/-- A publication has been stopped, and its workers have been waited for. -/
def WaitedFor (publication : Nat) (log : FileLog) : Prop :=
  publication ∈ log.filterMap fun entry => entry.2.2.bind FileEntry.joined?

instance (publication : Nat) (log : FileLog) : Decidable (WaitedFor publication log) :=
  inferInstanceAs (Decidable (_ ∈ _))

theorem WaitedFor.logged {publication : Nat} (waited : WaitedFor publication log) :
    ∃ member returned, (member, returned, some (.joined publication)) ∈ log := by
  obtain ⟨⟨member, returned, event⟩, logged, told⟩ := List.mem_filterMap.1 waited
  obtain ⟨event, rfl, joined⟩ := Option.bind_eq_some_iff.1 told
  cases event with
  | joined other =>
      cases joined
      exact ⟨member, returned, logged⟩
  | given | produced | adopted | dropped | offered | worked => cases joined

/-- Which temporary files exist, and whose they are, whatever those at work on a node have done. -/
structure FilesOwned (publications : List Publication) (seats : List Seat)
    (crew : Crew Node (Option Outcome × Option FileEntry)) : Prop where
  /-- A file exists exactly as long as a running enqueue holds it, as its current file or as the
  replacement just produced, it is in delivery, or it waits in a queue. -/
  exact : crew.state.outbound.disk.present.Perm (heldFiles seats crew.log ++
    (deliveredParcels seats crew.log ++ crew.state.outbound.waiting).map Parcel.file)
  /-- No file belongs to two of them, and no two files are taken for one another. -/
  apart : ((heldFiles seats crew.log ++
    (deliveredParcels seats crew.log ++ crew.state.outbound.waiting).map Parcel.file).map
      (·.serial)).Nodup
  /-- An enqueue that has returned has left nothing of what it saw, unless it queued a file; then
  that one is left for as long as the item that it belongs to waits or is in delivery. -/
  returned : ∀ before member outcome event rest,
    crew.log = before ++ (member, some outcome, event) :: rest →
    ∃ handling, holderAt seats member (before ++ [(member, some outcome, event)]) =
        .caller handling ∧
      handling.holding = .nothing ∧
      (outcome ≠ .queued → ∀ file ∈ handling.seen, file ∉ crew.state.outbound.disk.present) ∧
      (outcome = .queued → ∃ publication parcel, handling.queued = some (publication, parcel) ∧
        parcel.file ∈ handling.seen ∧
        (∀ file ∈ handling.seen, file ≠ parcel.file →
          file ∉ crew.state.outbound.disk.present) ∧
        (parcel.file ∈ crew.state.outbound.disk.present ↔
          parcel ∈ deliveredParcels seats crew.log ++ crew.state.outbound.waiting))
  /-- At the moment at which a file is queued it is left, and waits. -/
  queued : ∀ before member returned publication parcel,
    crew.log = before ++ [(member, returned, some (.offered publication parcel .queued))] →
    parcel ∈ (crew.state.outbound.pool publication).queue ∧
      parcel.file ∈ crew.state.outbound.disk.present
  /-- Once every publication has been stopped, nothing is left but what running enqueues hold. -/
  stopped : (∀ publication ∈ publications, WaitedFor publication.id crew.log) →
    crew.state.outbound.disk.present.Perm (heldFiles seats crew.log)
  /-- Nor do they hold anything in the end. -/
  ended : (∀ publication ∈ publications, WaitedFor publication.id crew.log) →
    (∀ member ∈ crew.members, ∃ again, member.rest = .done again) →
    crew.state.outbound.disk.present = []

theorem Outbound.mem_waiting {outbound : Outbound} {publication : Nat} {parcel : Parcel}
    (waits : parcel ∈ (outbound.pool publication).queue) : parcel ∈ outbound.waiting := by
  rw [Outbound.pool] at waits
  cases known : outbound.pools[publication]? with
  | none =>
      rw [known] at waits
      cases waits
  | some pool =>
      rw [known] at waits
      exact List.mem_flatMap.2 ⟨pool, List.mem_of_getElem? known, waits⟩

/-- A publication that has no workers any more has nothing to deliver. -/
theorem Ownership.idle (ownership : Ownership numbers seats outbound log)
    (stopped : ∀ publication ∈ numbers, WaitedFor publication log) :
    deliveredParcels seats log ++ outbound.waiting = [] := by
  have none (publication : Nat) : (outbound.pool publication).workers = 0 := by
    by_cases known : publication ∈ numbers
    · obtain ⟨member, returned, told⟩ := (stopped publication known).logged
      exact ownership.staffed.joined publication member returned told
    · exact ownership.unmanned publication known
  rw [List.append_eq_nil_iff]
  constructor
  · rw [List.eq_nil_iff_forall_not_mem]
    intro parcel delivered
    obtain ⟨member, inside, here⟩ := mem_acrossSeats.1 delivered
    cases stands : holderAt seats member log with
    | caller handling =>
        rw [stands] at here
        cases here
    | worker publication standing =>
        -- Who delivers has not left, but nobody is left.
        have serves : () ∈ acrossSeats (Holder.serving publication) seats log := by
          refine mem_acrossSeats.2 ⟨member, inside, ?_⟩
          rw [stands] at here ⊢
          cases standing with
          | holding | publishing => simp [Holder.serving]
          | _ => cases here
        have staff := ownership.staffed.staff publication
        rw [none publication] at staff
        rw [List.eq_nil_of_length_eq_zero staff.symm] at serves
        cases serves
  · rw [Outbound.waiting, List.flatMap_eq_nil_iff]
    intro pool known
    obtain ⟨publication, inside, rfl⟩ := List.getElem_of_mem known
    have found : outbound.pool publication = outbound.pools[publication] := by
      rw [Outbound.pool, List.getElem?_eq_getElem inside, Option.getD_some]
    rw [← found]
    apply ownership.staffed.empty
    rw [ownership.staffed.closed]
    exact none publication

/-- Who is between two turns holds nothing. -/
theorem Holder.held_of_ends {holder : Holder} {again : Bool} (ends : holder.Ends again) :
    holder.held = [] := by
  cases holder with
  | worker => rfl
  | caller handling =>
      have nothing : handling.holding = .nothing := ends
      rw [held, nothing, Holding.files]

/-- What has become of the files that an enqueue has seen when it returns. -/
theorem Ownership.of_returned (ownership : Ownership numbers seats outbound log)
    {before rest : FileLog} {outcome : Outcome} {event : Option FileEntry}
    (split : log = before ++ (member, some outcome, event) :: rest) :
    ∃ handling, holderAt seats member (before ++ [(member, some outcome, event)]) =
        .caller handling ∧
      handling.holding = .nothing ∧
      (outcome = .queued ↔ handling.queued.isSome = true) ∧
      handling.Known seats outbound log ∧
      ∀ file ∈ handling.seen, handling.Released file seats outbound log := by
  have returns := ownership.returned before _ rest split outcome rfl
  cases stands : holderAt seats member (before ++ [(member, some outcome, event)]) with
  | worker =>
      rw [stands] at returns
      cases returns
  | caller handling =>
      rw [stands] at returns
      obtain ⟨nothing, queued⟩ := returns
      have known := ownership.remembered (before ++ [(member, some outcome, event)]) rest
        (by simpa using split) member handling stands
      refine ⟨handling, rfl, nothing, queued, known, fun file saw => ?_⟩
      apply known.released file saw
      rw [nothing]
      exact List.not_mem_nil

namespace Handling

variable {handling : Handling}

/-- An enqueue that has not queued anything has left nothing. -/
theorem gone_of_released (none : handling.queued = none) {file : TemporaryFile}
    (released : handling.Released file seats outbound log) :
    file ∉ outbound.disk.present := by
  rcases released with gone | ⟨publication, parcel, was, _⟩
  · exact gone
  · rw [none] at was
    cases was

variable {publication : Nat} {parcel : Parcel} (was : handling.queued = some (publication, parcel))

include was

/-- Nothing is left but what has been queued. -/
theorem gone_of_ne {file : TemporaryFile} (released : handling.Released file seats outbound log)
    (different : file ≠ parcel.file) : file ∉ outbound.disk.present := by
  rcases released with gone | ⟨_, other, again, same, _⟩
  · exact gone
  · rw [was] at again
    cases again
    exact absurd same.symm different

/-- What has been queued is left for as long as it waits or is in delivery. -/
theorem present_iff (released : handling.Released parcel.file seats outbound log)
    (owned : Owned seats outbound log) :
    parcel.file ∈ outbound.disk.present ↔
      parcel ∈ deliveredParcels seats log ++ outbound.waiting := by
  have places := owned.perm_places
  constructor
  · intro present
    rcases released with gone | ⟨_, other, again, _, unheld, own⟩
    · exact absurd present gone
    · rw [was] at again
      cases again
      have placed := (List.mem_append.1 (places.mem_iff.1 present)).resolve_left unheld
      obtain ⟨item, there, same⟩ := List.mem_map.1 placed
      rw [← own item there same]
      exact there
  · intro placed
    exact places.mem_iff.2 (List.mem_append_right _ (List.mem_map_of_mem placed))

end Handling

theorem Ownership.filesOwned {publications : List Publication}
    {crew : Crew Node (Option Outcome × Option FileEntry)}
    (ownership : Ownership (publications.map Publication.id) seats crew.state.outbound crew.log)
    (obeys : crew.Obeys (Node.fileProtocol (Seat.starts seats)) Node.waiting)
    (sized : crew.members.length = seats.length) : FilesOwned publications seats crew := by
  have places := ownership.owned.perm_places
  have free (stopped : ∀ publication ∈ publications, WaitedFor publication.id crew.log) :
      crew.state.outbound.disk.present.Perm (heldFiles seats crew.log) := by
    have idle := ownership.idle (List.forall_mem_map.2 stopped)
    rw [idle, List.map_nil, List.append_nil] at places
    exact places
  constructor
  · exact places
  · exact (places.map _).nodup_iff.1 ownership.owned.apart
  · intro before member outcome event rest split
    obtain ⟨handling, stands, nothing, queued, known, released⟩ := ownership.of_returned split
    refine ⟨handling, stands, nothing, ?_, ?_⟩
    · intro refused file saw
      apply Handling.gone_of_released _ (released file saw)
      rw [← Option.not_isSome_iff_eq_none, ← queued]
      exact refused
    · intro accepted
      obtain ⟨⟨publication, parcel⟩, was⟩ := Option.isSome_iff_exists.1 (queued.1 accepted)
      have saw := known.queued _ _ was
      refine ⟨publication, parcel, was, saw, ?_, ?_⟩
      · intro file saw different
        exact Handling.gone_of_ne was (released file saw) different
      · exact Handling.present_iff was (released parcel.file saw) ownership.owned
  · intro before member returned publication parcel split
    have waits := ownership.queuedLast before member returned publication parcel split
    refine ⟨waits, places.mem_iff.2 (List.mem_append_right _ (List.mem_map_of_mem ?_))⟩
    exact List.mem_append_right _ (Outbound.mem_waiting waits)
  · exact free
  · intro stopped done
    have nothing : heldFiles seats crew.log = [] := by
      rw [heldFiles, acrossSeats, List.flatMap_eq_nil_iff]
      intro member among
      have inside : member < crew.members.length := by
        rw [sized]
        exact List.mem_range.1 among
      obtain ⟨again, ended⟩ := done crew.members[member] (List.getElem_mem inside)
      exact Holder.held_of_ends ((obeys member _ (List.getElem?_eq_getElem inside)).ends ended)
    have left := free stopped
    rw [nothing] at left
    exact left.eq_nil

/-- For every node with publications that have been started, whoever posts or publishes files or
stops publications, whatever decorators and senders answer, and in whatever order the steps of all
of them and of the workers follow one another: every temporary file has exactly one owner for as
long as it exists, and nothing is left in the end. -/
theorem Node.files_owned {Memory : Type} {around : Surroundings Memory} {memory later : Memory}
    {plans : List PublicationPlan} {publications : List Publication}
    {storages : StorageRegistry} {opened : Outbound}
    (started : (Publication.startAll plans).run around ⟨[], .empty, storages⟩ memory =
      (.ok publications, opened, later))
    (node : Node) (tasks : List FileTask) (others : List (Activity Node Bool))
    (apart : ∀ other ∈ others, other.Keeps Node.stock) (schedule : List Choice) :
    let ready := { node with outbound := opened }
    let seats := ready.seats publications tasks others
    (ready.manned seats).forget.members =
        seats.map (fun seat => .new (.silent seat.activity)) ∧
      FilesOwned publications seats ((ready.manned seats).run Node.waiting schedule) := by
  intro ready seats
  obtain ⟨pools, rfl, numbered, fresh⟩ := Publication.startAll_cases started
  have first : Ownership (publications.map Publication.id) seats ready.outbound [] :=
    .of_fresh (by simpa [ready] using numbered) (by simpa [ready] using fresh) rfl tasks others
  have kept : ∀ activity, Seat.other activity ∈ seats → activity.Keeps Node.stock := by
    intro activity sits
    apply apart
    simpa [seats, Node.seats] using sits
  have sized : (ready.manned seats).members.length = seats.length := by simp [Node.manned]
  have stepped : ∀ state log member entry after, member < seats.length →
      Ownership (publications.map Publication.id) seats state.outbound log →
      (fileProtocol (Seat.starts seats)).Allows
        ((fileProtocol (Seat.starts seats)).phase member log) state entry after →
      Ownership (publications.map Publication.id) seats after.outbound
        (entered log member entry) := by
    intro state log member entry after inside ownership allowed
    refine ownership.step inside allowed.1 ?_
    rcases entry with _ | ⟨returned, _ | event⟩
    · intro outcome never
      cases never
    · exact allowed.2
    · exact allowed.2
  obtain ⟨obeys, ownership⟩ :=
    (obeys_manned ready kept).run_inside stepped sized first schedule
  refine ⟨ready.members_forget_manned seats, ownership.filesOwned obeys ?_⟩
  rw [Crew.length_members_run]
  exact sized

/-- A replacement is in delivery when the publication is stopped; the copy of the next file has
found no room in the queue. -/
theorem Node.files_owned_of_replacement :
    let around : Surroundings Unit := ⟨fun request _ => (request.granted, ()), fun _ _ => false⟩
    let plan : PublicationPlan :=
      { PublicationPlan.new "archive" (.simple (.external "ftp" 0)) with
        stages := [⟨.external "gzip" 0, true⟩]
        queueSize := 1 }
    let publication := plan.opened 0 1
    let opened : Outbound := { Outbound.empty with pools := [⟨1, 1, [], [], false, false, false⟩] }
    let node : Node :=
      { config := ⟨"relay", none, 0, none, ⟨none, none, none⟩⟩
        plugins := .empty
        hooks := ⟨[], [], []⟩
        recent := .empty 0
        directory := .empty
        registry := ⟨[publication]⟩
        processors := .empty
        outbound := opened }
    let tasks : List FileTask :=
      [ .publish none ⟨some "first"⟩ .empty,
        .publish none ⟨some "second"⟩ .empty,
        .stop publication ]
    let zipping : (request : Request) → request.Answer
      | .decorate _ _ ⟨content⟩ _ =>
          .ok (if content = some "first" then .replaced ⟨some "packed"⟩ else .unchanged)
      | request => request.granted
    let steps (turns : List (Nat × Nat)) : List Choice :=
      turns.flatMap fun turn => List.replicate turn.2 ⟨turn.1, zipping⟩
    let seats := node.seats [publication] tasks []
    let crew (turns : List (Nat × Nat)) := (node.manned seats).run Node.waiting (steps turns)
    let busy : List (Nat × Nat) := [(1, 14), (2, 16), (0, 4), (3, 5)]
    let idle := busy ++ [(0, 8), (3, 2)]
    let parcel : Parcel :=
      ⟨⟨1, ⟨some "packed"⟩, false⟩, { Metadata.empty with fingerprint := "packed" }⟩
    (Publication.startAll [plan]).run around ⟨[], .empty, .empty⟩ () =
        (.ok [publication], opened, ()) ∧
      ((crew busy).log.filterMap fun entry => entry.2.1) = [.queued, .queueFull] ∧
      deliveredParcels seats (crew busy).log = [parcel] ∧
      (crew busy).state.outbound.disk.present = [parcel.file] ∧
      WaitedFor 0 (crew idle).log ∧
      (crew idle).state.outbound.disk.present = [] ∧
      ∀ turns, FilesOwned [publication] seats (crew turns) := by
  intro around plan publication opened node tasks zipping steps seats crew busy idle
    parcel
  have started : (Publication.startAll [plan]).run around ⟨[], .empty, .empty⟩ () =
      (.ok [publication], opened, ()) := rfl
  have owned (turns : List (Nat × Nat)) : FilesOwned [publication] seats (crew turns) :=
    (Node.files_owned started node tasks [] (List.forall_mem_nil _) (steps turns)).2
  exact ⟨started, by decide +kernel, by decide +kernel, by decide +kernel,
    by decide +kernel, by decide +kernel, owned⟩

end RadarRelay
