import Mathlib.Data.List.Nodup
import RadarRelay.Processor.Registry
import RadarRelay.Proofs.Activity.Running
import RadarRelay.Proofs.Json.Ordered

/-!
# Processors in service

A processor is in service from the call that adds it to the first call that ends its
service: one that adds another processor of its name, one that removes the name, or
one that stops all processors. The registry holds exactly the processors in service.
Whichever processors fail, each that has left was told to stop once, and none before
it has left.
-/

namespace RadarRelay

open Activity

variable {Memory State Item : Type}

/-- The processor that is told to stop. -/
def Request.stopped? : Request → Option Processor
  | .stopProcessor processor => some processor
  | _ => none

/-- What is called on a registry of processors. -/
inductive ProcessorCall where
  | add (processor : Processor)
  | remove (name : String)
  | process (file : File) (metadata : Metadata)
  | stopAll

namespace ProcessorCall

/-- What is done for a call. -/
def activity : ProcessorCall → Activity ProcessorRegistry Unit
  | add processor => ProcessorRegistry.add processor
  | remove name => do
      let _ ← ProcessorRegistry.remove name
  | process file metadata => ProcessorRegistry.process file metadata
  | stopAll => ProcessorRegistry.stopAll

/-- The processor that a call adds. -/
def added? : ProcessorCall → Option Processor
  | add processor => some processor
  | _ => none

/-- Whether a call ends the service of the processor that has a name until then. -/
def ends (name : String) : ProcessorCall → Bool
  | add processor => processor.name == name
  | remove other => other == name
  | process _ _ => false
  | stopAll => true

/-- A processor that was added, and whose service no later call has ended. -/
def InService (calls : List ProcessorCall) (processor : Processor) : Prop :=
  ∃ before after, calls = before ++ .add processor :: after ∧
    ∀ call ∈ after, call.ends processor.name = false

/-- A processor that was added, and was replaced, removed or there when all were stopped. -/
def Retired (calls : List ProcessorCall) (processor : Processor) : Prop :=
  ∃ before after, calls = before ++ .add processor :: after ∧
    ∃ call ∈ after, call.ends processor.name = true

end ProcessorCall

/-! ## One registry -/

namespace ProcessorRegistry

/-- In ascending order of the names, each name once. -/
def Ordered (processors : List Processor) : Prop :=
  processors.Pairwise fun left right => left.name < right.name

theorem mem_place {processor : Processor} {processors : List Processor}
    (ordered : Ordered processors) (other : Processor) :
    other ∈ place processor processors ↔
      other = processor ∨ other ∈ processors ∧ other.name ≠ processor.name := by
  induction processors with
  | nil => simp [place]
  | cons first rest ih =>
      obtain ⟨above, ordered⟩ := List.pairwise_cons.1 ordered
      have ne_of_above (later : Processor) (member : later ∈ rest) : later.name ≠ first.name := by
        intro same
        exact String.lt_irrefl _ (same ▸ above later member)
      rw [place]
      split
      · rename_i same
        rw [same]
        grind
      split
      · rename_i different below
        have lower (later : Processor) (member : later ∈ first :: rest) :
            later.name ≠ processor.name := by
          rcases List.mem_cons.1 member with rfl | inside
          · exact Ne.symm different
          · intro same
            exact String.lt_irrefl _ (same ▸ String.lt_trans below (above later inside))
        grind
      · rename_i different below
        rw [List.mem_cons, List.mem_cons, ih ordered]
        grind

theorem Ordered.place {processors : List Processor} (ordered : Ordered processors)
    (processor : Processor) : Ordered (place processor processors) := by
  induction processors with
  | nil => exact List.pairwise_singleton ..
  | cons first rest ih =>
      obtain ⟨above, others⟩ := List.pairwise_cons.1 ordered
      rw [ProcessorRegistry.place]
      split
      · rename_i same
        exact List.pairwise_cons.2 ⟨same ▸ above, others⟩
      split
      · rename_i below
        refine List.pairwise_cons.2 ⟨fun later member => ?_, ordered⟩
        rcases List.mem_cons.1 member with rfl | inside
        · exact below
        · exact String.lt_trans below (above later inside)
      · rename_i different notBelow
        refine List.pairwise_cons.2 ⟨fun later member => ?_, ih others⟩
        rcases (mem_place others later).1 member with rfl | ⟨inside, _⟩
        · exact Json.lt_of_not_lt different notBelow
        · exact above later inside

/-- At most one processor has a name. -/
theorem toList_get? {processors : List Processor} (ordered : Ordered processors) (name : String) :
    (get? ⟨processors⟩ name).toList = processors.filter fun processor => processor.name == name := by
  induction processors with
  | nil => rfl
  | cons first rest ih =>
      obtain ⟨above, others⟩ := List.pairwise_cons.1 ordered
      by_cases same : first.name = name
      · have alone : rest.filter (fun processor => processor.name == name) = [] := by
          rw [List.filter_eq_nil_iff]
          intro later member equal
          rw [← same, beq_iff_eq] at equal
          exact String.lt_irrefl _ (equal ▸ above later member)
        simp [get?, same, alone]
      · have passed : get? ⟨first :: rest⟩ name = get? ⟨rest⟩ name := by simp [get?, same]
        rw [passed, ih others]
        simp [same]

end ProcessorRegistry

/-! ## One call -/

namespace ProcessorCall

/-- What a call leaves registered. -/
def next (registry : ProcessorRegistry) : ProcessorCall → ProcessorRegistry
  | add processor => ⟨ProcessorRegistry.place processor registry.processors⟩
  | remove name => ⟨registry.processors.filter fun processor => processor.name != name⟩
  | process _ _ => registry
  | stopAll => .empty

/-- The processors whose service a call ends. -/
def retiring (registry : ProcessorRegistry) (call : ProcessorCall) : List Processor :=
  registry.processors.filter fun processor => call.ends processor.name

/-- What a call asks for. -/
def requests (registry : ProcessorRegistry) : ProcessorCall → List Request
  | process file metadata =>
      (registry.processors.filter (·.active)).map (.process · file metadata)
  | call => (call.retiring registry).map .stopProcessor

theorem ordered_next {registry : ProcessorRegistry}
    (ordered : ProcessorRegistry.Ordered registry.processors) (call : ProcessorCall) :
    ProcessorRegistry.Ordered (call.next registry).processors := by
  cases call with
  | add processor => exact ordered.place processor
  | remove name => exact List.Pairwise.filter _ ordered
  | process => exact ordered
  | stopAll => exact List.Pairwise.nil

/-- Whoever is not retired by a call stays, and nobody else comes but whom it adds. -/
theorem mem_next {registry : ProcessorRegistry}
    (ordered : ProcessorRegistry.Ordered registry.processors) (call : ProcessorCall)
    (processor : Processor) :
    processor ∈ (call.next registry).processors ↔
      call = .add processor ∨
        processor ∈ registry.processors ∧ call.ends processor.name = false := by
  cases call with
  | add other =>
      rw [next, ProcessorRegistry.mem_place ordered]
      simp only [ends, add.injEq, beq_eq_false_iff_ne, eq_comm (a := processor),
        ne_comm (a := processor.name)]
  | remove name => simp [next, ends, eq_comm (a := name)]
  | process => simp [next, ends]
  | stopAll => simp [next, ends, ProcessorRegistry.empty]

theorem stopped_requests (registry : ProcessorRegistry) (call : ProcessorCall) :
    (call.requests registry).filterMap Request.stopped? = call.retiring registry := by
  have told (processors : List Processor) :
      (processors.map Request.stopProcessor).filterMap Request.stopped? = processors := by
    rw [List.filterMap_map]
    exact List.filterMap_some
  cases call with
  | process file metadata =>
      have nobody : (process file metadata).retiring registry = [] :=
        List.filter_eq_nil_iff.2 fun _ _ => nofun
      rw [nobody, requests, List.filterMap_map, List.filterMap_eq_nil_iff]
      exact fun _ _ => rfl
  | add | remove | stopAll => exact told _

variable (around : Surroundings Memory)

/-- Going through a list asks for one thing after the other, if each item asks for one. -/
theorem run_each_asking {action : Item → Activity State Unit} {wanted : Item → Request}
    (asks : ∀ item state memory asked, ∃ later,
      (action item).run around.mindful state (memory, asked) =
        ((), state, (later, asked ++ [wanted item])))
    (items : List Item) (state : State) (memory : Memory) (asked : List Request) :
    ∃ later, (each action items).run around.mindful state (memory, asked) =
      ((), state, (later, asked ++ items.map wanted)) := by
  induction items generalizing memory asked with
  | nil => exact ⟨memory, by simp [each]⟩
  | cons item items ih =>
      obtain ⟨middle, first⟩ := asks item state memory asked
      obtain ⟨later, rest⟩ := ih middle (asked ++ [wanted item])
      refine ⟨later, ?_⟩
      rw [each, run_bind, first, rest]
      simp

/-- A processor is asked to process a file, and a failure is only reported. -/
theorem run_run (file : File) (metadata : Metadata) (processor : Processor)
    (registry : ProcessorRegistry) (memory : Memory) (asked : List Request) :
    ∃ later, (ProcessorRegistry.run file metadata processor).run around.mindful registry
        (memory, asked) =
      ((), registry, (later, asked ++ [.process processor file metadata])) := by
  refine ⟨(around.answer (.process processor file metadata) memory).2, ?_⟩
  rw [ProcessorRegistry.run, run_bind, run_request]
  simp only [Surroundings.mindful]
  cases (around.answer (.process processor file metadata) memory).1 with
  | ok | error => rfl

/-- What a call asks for, and what it leaves. -/
theorem run_activity {registry : ProcessorRegistry}
    (ordered : ProcessorRegistry.Ordered registry.processors) (call : ProcessorCall)
    (memory : Memory) (asked : List Request) :
    ∃ later, call.activity.run around.mindful registry (memory, asked) =
      ((), call.next registry, (later, asked ++ call.requests registry)) := by
  -- The processor of a name, as the registry finds it, is the one that is retired.
  have found (name : String) := ProcessorRegistry.toList_get? ordered name
  cases call with
  | add processor =>
      have retired : (add processor).retiring registry =
          (registry.get? processor.name).toList := by
        rw [found, retiring]
        simp only [ends, Bool.beq_comm]
      rw [activity, ProcessorRegistry.add, run_bind, run_atomically, requests, retired]
      · cases registry.get? processor.name with
        | none => exact ⟨memory, by simp [next]⟩
        | some earlier => exact ⟨(around.answer (.stopProcessor earlier) memory).2, rfl⟩
      · exact nofun
  | remove name =>
      have retired : (remove name).retiring registry = (registry.get? name).toList := by
        rw [found, retiring]
        simp only [ends, Bool.beq_comm]
      rw [activity, run_bind, ProcessorRegistry.remove, run_bind, run_atomically, requests, retired]
      · cases registry.get? name with
        | none => exact ⟨memory, by simp [next]⟩
        | some removed => exact ⟨(around.answer (.stopProcessor removed) memory).2, rfl⟩
      · exact nofun
  | process file metadata =>
      rw [activity, ProcessorRegistry.process, run_bind, run_look]
      exact run_each_asking around (run_run around file metadata) _ registry memory asked
  | stopAll =>
      have everyone : stopAll.retiring registry = registry.processors :=
        List.filter_eq_self.2 fun _ _ => rfl
      rw [activity, ProcessorRegistry.stopAll, run_bind, run_atomically, requests, everyone]
      · exact run_each_asking around
          (fun processor registry memory asked =>
            ⟨(around.answer (.stopProcessor processor) memory).2, rfl⟩)
          registry.processors _ memory asked
      · exact nofun

end ProcessorCall

/-! ## Sequences of calls -/

namespace ProcessorCall

variable {calls : List ProcessorCall} {call : ProcessorCall} {processor : Processor}

/-- One more call adds a processor, or leaves those in service whom it does not retire. -/
theorem inService_append :
    InService (calls ++ [call]) processor ↔
      call = .add processor ∨ InService calls processor ∧ call.ends processor.name = false := by
  constructor
  · rintro ⟨before, after, same, kept⟩
    rcases List.eq_nil_or_concat' after with rfl | ⟨middle, last, rfl⟩
    · exact .inl (List.cons.inj (List.append_inj' same rfl).2).1
    · rw [← List.cons_append, ← List.append_assoc] at same
      obtain ⟨rfl, equal⟩ := List.append_inj' same rfl
      obtain rfl := (List.cons.inj equal).1
      rw [List.forall_mem_append, List.forall_mem_singleton] at kept
      exact .inr ⟨⟨before, middle, rfl, kept.1⟩, kept.2⟩
  · rintro (rfl | ⟨⟨before, after, rfl, kept⟩, spared⟩)
    · exact ⟨calls, [], rfl, nofun⟩
    · refine ⟨before, after ++ [call], by simp, ?_⟩
      rw [List.forall_mem_append, List.forall_mem_singleton]
      exact ⟨kept, spared⟩

/-- Whoever is retired stays so, and one more call retires some of those in service. -/
theorem retired_append :
    Retired (calls ++ [call]) processor ↔
      Retired calls processor ∨ InService calls processor ∧ call.ends processor.name = true := by
  constructor
  · rintro ⟨before, after, same, ended⟩
    rcases List.eq_nil_or_concat' after with rfl | ⟨middle, last, rfl⟩
    · simp at ended
    · rw [← List.cons_append, ← List.append_assoc] at same
      obtain ⟨rfl, equal⟩ := List.append_inj' same rfl
      obtain rfl := (List.cons.inj equal).1
      by_cases earlier : ∃ other ∈ middle, other.ends processor.name = true
      · exact .inl ⟨before, middle, rfl, earlier⟩
      · have kept : ∀ other ∈ middle, other.ends processor.name = false := by simpa using earlier
        obtain ⟨other, member, ended⟩ := ended
        rcases List.mem_append.1 member with inside | last
        · exact absurd ⟨other, inside, ended⟩ earlier
        · obtain rfl := List.mem_singleton.1 last
          exact .inr ⟨⟨before, middle, rfl, kept⟩, ended⟩
  · rintro (⟨before, after, rfl, other, member, ended⟩ | ⟨⟨before, after, rfl, kept⟩, ended⟩)
    · exact ⟨before, after ++ [call], by simp, other, List.mem_append_left _ member, ended⟩
    · exact ⟨before, after ++ [call], by simp, call, by simp, ended⟩

/-- A processor that was added once has either been retired or not. -/
theorem not_inService_of_retired (fresh : (calls.filterMap added?).Nodup)
    (retired : Retired calls processor) : ¬InService calls processor := by
  rintro ⟨before, after, rfl, kept⟩
  obtain ⟨earlier, later, same, other, member, ended⟩ := retired
  -- Only one of the calls adds the processor.
  have adds : added? (add processor) = some processor := rfl
  rw [List.filterMap_append, List.filterMap_cons_some adds, List.nodup_middle,
    List.nodup_cons, List.mem_append, not_or] at fresh
  have once {part : List ProcessorCall} (alone : processor ∉ part.filterMap added?) :
      add processor ∉ part := fun again =>
    alone (List.mem_filterMap.2 ⟨_, again, rfl⟩)
  obtain ⟨rfl, _, rfl⟩ :=
    (List.append_cons_inj_of_notMem (once fresh.1.1) (once fresh.1.2)).1 same
  rw [kept other member] at ended
  cases ended

/-- What a registry holds after calls, and what they have asked for. -/
structure Served (calls : List ProcessorCall) (registry : ProcessorRegistry)
    (requests : List Request) : Prop where
  ordered : ProcessorRegistry.Ordered registry.processors
  registered : ∀ processor, processor ∈ registry.processors ↔ InService calls processor
  stopped : ∀ processor,
    processor ∈ requests.filterMap Request.stopped? ↔ Retired calls processor
  once : (requests.filterMap Request.stopped?).Nodup

theorem Served.start : Served [] .empty [] where
  ordered := List.Pairwise.nil
  registered := by simp [ProcessorRegistry.empty, InService]
  stopped := by simp [Retired]
  once := List.nodup_nil

/-- A call retires those in service whose service it ends, and nobody twice. -/
theorem Served.step {registry : ProcessorRegistry} {requests : List Request}
    (served : Served calls registry requests)
    (fresh : ((calls ++ [call]).filterMap added?).Nodup) :
    Served (calls ++ [call]) (call.next registry) (requests ++ call.requests registry) where
  ordered := ordered_next served.ordered call
  registered processor := by
    rw [mem_next served.ordered, inService_append, served.registered]
  stopped processor := by
    rw [List.filterMap_append, List.mem_append, stopped_requests, retired_append, served.stopped,
      retiring, List.mem_filter, served.registered]
  once := by
    rw [List.filterMap_append, stopped_requests]
    have distinct : registry.processors.Nodup := by
      refine served.ordered.imp ?_
      rintro left _ below rfl
      exact String.lt_irrefl _ below
    refine List.nodup_append'.2 ⟨served.once, distinct.filter _, ?_⟩
    intro processor stopped retiring
    rw [List.filterMap_append] at fresh
    exact not_inService_of_retired fresh.of_append_left ((served.stopped _).1 stopped)
      ((served.registered _).1 (List.mem_filter.1 retiring).1)

variable (around : Surroundings Memory)

/-- Calls that are made after others. -/
theorem Served.each {registry : ProcessorRegistry} {requests : List Request}
    (served : Served calls registry requests) (later : List ProcessorCall)
    (fresh : ((calls ++ later).filterMap added?).Nodup) (memory : Memory) :
    let (_, last, _, asked) :=
      (Activity.each activity later).run around.mindful registry (memory, requests)
    Served (calls ++ later) last asked := by
  induction later generalizing calls registry requests memory with
  | nil =>
      rw [List.append_nil]
      exact served
  | cons call later ih =>
      rw [List.append_cons] at fresh ⊢
      have freshUntil : ((calls ++ [call]).filterMap added?).Nodup := by
        rw [List.filterMap_append] at fresh
        exact fresh.of_append_left
      obtain ⟨after, ran⟩ := run_activity around served.ordered call memory requests
      rw [Activity.each, run_bind, ran]
      exact ih (served.step freshUntil) fresh after

/-- Whatever calls are made one after the other, each adding a processor that is new: who was
replaced, removed or there when all were stopped has been told to stop once, and who is still
registered never; the names are those of the processors in service, in ascending order; and whoever
of them is active processes a file, once, in the order of the names, whichever of them fail. -/
theorem served_throughout (around : Surroundings Memory) (memory : Memory)
    (calls : List ProcessorCall) (fresh : (calls.filterMap added?).Nodup) :
    let (_, registry, later, requests) :=
      (Activity.each activity calls).run around.mindful .empty (memory, [])
    let stops := requests.filterMap Request.stopped?
    (∀ processor, Retired calls processor → stops.count processor = 1) ∧
      (∀ processor, processor ∈ registry.processors ↔ InService calls processor) ∧
      (∀ processor ∈ registry.processors, stops.count processor = 0) ∧
      registry.names.Pairwise (· < ·) ∧
      (∀ name, name ∈ registry.names ↔ ∃ processor, InService calls processor ∧
        processor.name = name) ∧
      ∀ file metadata, ∃ running : List Processor,
        (∀ processor, processor ∈ running ↔ InService calls processor ∧ processor.active = true) ∧
        (running.map (·.name)).Pairwise (· < ·) ∧
        let (_, still, _, asked) :=
          (ProcessorRegistry.process file metadata).run around.mindful registry (later, [])
        still = registry ∧ asked = running.map (.process · file metadata) := by
  have served := Served.start.each around calls fresh memory
  rw [List.nil_append] at served
  generalize (Activity.each activity calls).run around.mindful .empty (memory, []) = reached
    at served ⊢
  obtain ⟨_, registry, later, requests⟩ := reached
  have stoppedOnce (processor : Processor) (retired : Retired calls processor) :
      (requests.filterMap Request.stopped?).count processor = 1 :=
    List.count_eq_one_of_mem served.once ((served.stopped processor).2 retired)
  have neverStopped (processor : Processor) (registered : processor ∈ registry.processors) :
      (requests.filterMap Request.stopped?).count processor = 0 := by
    rw [List.count_eq_zero, served.stopped]
    intro retired
    exact not_inService_of_retired fresh retired ((served.registered processor).1 registered)
  have listed (name : String) : name ∈ registry.names ↔
      ∃ processor, InService calls processor ∧ processor.name = name := by
    simp only [ProcessorRegistry.names, List.mem_map, served.registered]
  refine ⟨stoppedOnce, served.registered, neverStopped, List.pairwise_map.2 served.ordered, listed,
    fun file metadata => ?_⟩
  refine ⟨registry.processors.filter (·.active), ?_, ?_, ?_⟩
  · intro processor
    rw [List.mem_filter, served.registered]
  · exact List.pairwise_map.2 (List.Pairwise.filter _ served.ordered)
  · obtain ⟨last, ran⟩ := run_activity around served.ordered (process file metadata) later []
    rw [activity] at ran
    rw [ran]
    exact ⟨rfl, rfl⟩

/-- A processor that is replaced, one that is removed, one that is inactive, and two that leave when
all are stopped; the one that is added afterwards stays. No processor succeeds. -/
theorem served_throughout_of_each_way_out :
    let refusing : Surroundings Unit :=
      { answer := fun request _ =>
          match request with
          | .process processor _ _ => (.error (.processing processor.name "boom"), ())
          | other => (other.granted, ())
        waits := fun _ _ => false }
    let processor (name : String) (serial : Nat) : Processor := ⟨name, serial != 2, serial⟩
    let calls : List ProcessorCall :=
      [.add (processor "b" 0), .add (processor "b" 1), .add (processor "c" 2),
        .add (processor "a" 3), .process ⟨none⟩ .empty, .remove "b", .remove "b", .stopAll,
        .add (processor "b" 4)]
    let (_, registry, _, requests) :=
      (Activity.each activity calls).run refusing.mindful .empty ((), [])
    let stops := requests.filterMap Request.stopped?
    (calls.filterMap added?).Nodup ∧ registry.names = ["b"] ∧
      stops.map (·.serial) = [0, 1, 3, 2] ∧ Retired calls (processor "c" 2) ∧
      stops.count (processor "c" 2) = 1 := by
  intro refusing processor calls
  have fresh : (calls.filterMap added?).Nodup := by decide
  have retired : Retired calls (processor "c" 2) :=
    ⟨[.add (processor "b" 0), .add (processor "b" 1)], _, rfl, .stopAll, by simp, rfl⟩
  have served := served_throughout refusing () calls fresh
  exact ⟨fresh, by decide +kernel, by decide +kernel, retired, served.1 _ retired⟩

end ProcessorCall

end RadarRelay
