import RadarRelay.Publication.Registry
import RadarRelay.Routing.Directory

/-!
# One rule more

A new rule takes the place of the one that it replaces, if there is one, and stands
at the end otherwise. Every other rule stays, in its place, so rules that are told
apart by their keys still are.
-/

namespace RadarRelay

/-- One more in a list: in the place of the first one with its key, else at the end. What has no
key replaces nothing. -/
inductive Inserted {Item Key : Type} (key : Item → Option Key) (new : Item) :
    List Item → List Item → Prop where
  | inPlace {before after : List Item} {old : Item} {same : Key} : key new = some same →
      key old = some same → (∀ other ∈ before, key other ≠ some same) →
      Inserted key new (before ++ old :: after) (before ++ new :: after)
  | atEnd {items : List Item} :
      (∀ same, key new = some same → ∀ other ∈ items, key other ≠ some same) →
      Inserted key new items (items ++ [new])

namespace Inserted

variable {Item Key : Type} {key : Item → Option Key} {new : Item} {items later : List Item}

theorem head {old : Item} {same : Key} (keyNew : key new = some same)
    (keyOld : key old = some same) : Inserted key new (old :: items) (new :: items) := by
  have inserted : Inserted key new ([] ++ old :: items) ([] ++ new :: items) :=
    .inPlace keyNew keyOld nofun
  exact inserted

theorem cons {first : Item} (inserted : Inserted key new items later)
    (spared : ∀ same, key new = some same → key first ≠ some same) :
    Inserted key new (first :: items) (first :: later) := by
  cases inserted with
  | inPlace keyNew keyOld others =>
      exact .inPlace keyNew keyOld (List.forall_mem_cons.2 ⟨spared _ keyNew, others⟩)
  | atEnd others =>
      exact .atEnd fun same keyNew =>
        List.forall_mem_cons.2 ⟨spared same keyNew, others same keyNew⟩

/-- Keys that were distinct still are. -/
theorem nodup (inserted : Inserted key new items later) (distinct : (items.filterMap key).Nodup) :
    (later.filterMap key).Nodup := by
  cases inserted with
  | inPlace keyNew keyOld others =>
      rw [List.filterMap_append, List.filterMap_cons_some keyOld] at distinct
      rw [List.filterMap_append, List.filterMap_cons_some keyNew]
      exact distinct
  | atEnd others =>
      rw [List.filterMap_append]
      cases keyNew : key new with
      | none => simpa [keyNew] using distinct
      | some same =>
          have fresh : same ∉ items.filterMap key := by
            intro known
            obtain ⟨other, member, keyOther⟩ := List.mem_filterMap.1 known
            exact others same keyNew other member keyOther
          rw [List.filterMap_cons_some keyNew, List.filterMap_nil]
          exact List.nodup_append.2 ⟨distinct, by simp, by
            intro first known second last
            rw [List.mem_singleton.1 last]
            rintro rfl
            exact fresh known⟩

/-- No key is lost. -/
theorem keys_subset (inserted : Inserted key new items later) :
    items.filterMap key ⊆ later.filterMap key := by
  cases inserted with
  | inPlace keyNew keyOld others =>
      rw [List.filterMap_append, List.filterMap_cons_some keyOld, List.filterMap_append,
        List.filterMap_cons_some keyNew]
      exact List.Subset.refl _
  | atEnd others =>
      rw [List.filterMap_append]
      exact List.subset_append_left _ _

/-- Of the items with its key, a new one replaces the first and leaves the others behind it. -/
theorem filter_key [BEq Key] [LawfulBEq Key] (inserted : Inserted key new items later) {same : Key}
    (keyNew : key new = some same) :
    later.filter (fun item => key item == some same) =
      new :: (items.filter fun item => key item == some same).tail := by
  have without {others : List Item} (spared : ∀ other ∈ others, key other ≠ some same) :
      others.filter (fun item => key item == some same) = [] := by
    simpa using spared
  cases inserted with
  | inPlace keyed keyOld spared =>
      rw [keyNew] at keyed
      cases keyed
      simp [without spared, keyNew, keyOld]
  | atEnd spared => simp [without (spared same keyNew), keyNew]

end Inserted

theorem PublicationRegistry.inserted_place (publication : Publication)
    (publications : List Publication) :
    Inserted (fun other => some other.name) publication publications
      (place publication publications) := by
  induction publications with
  | nil => exact .atEnd fun _ _ => nofun
  | cons other rest ih =>
      rw [place]
      by_cases same : other.name = publication.name
      · rw [if_pos same]
        exact .head rfl (congrArg some same)
      · rw [if_neg same]
        refine ih.cons fun name named => ?_
        rw [← named]
        exact fun equal => same (Option.some.inj equal)

theorem Directory.inserted_replaceFirst {id : String} {subscription : Subscription}
    (named : subscription.id = some id) {subscriptions : List Subscription}
    (known : ∃ other ∈ subscriptions, other.id = some id) :
    Inserted Subscription.id subscription subscriptions
      (replaceFirst id subscription subscriptions) := by
  induction subscriptions with
  | nil =>
      obtain ⟨_, never, _⟩ := known
      cases never
  | cons other rest ih =>
      rw [replaceFirst]
      by_cases same : other.id = some id
      · rw [if_pos same]
        exact .head named same
      · rw [if_neg same]
        have later : ∃ another ∈ rest, another.id = some id := by
          obtain ⟨another, member, sameId⟩ := known
          rcases List.mem_cons.1 member with rfl | member
          · exact absurd sameId same
          · exact ⟨another, member, sameId⟩
        refine (ih later).cons fun key keyed => ?_
        rw [← keyed, named]
        exact same

theorem Directory.inserted_add (directory : Directory) (subscription : Subscription) :
    Inserted Subscription.id subscription directory.subscriptions
      (directory.add subscription).2.subscriptions := by
  cases named : subscription.id with
  | none =>
      have added : (directory.add subscription).2.subscriptions =
          directory.subscriptions ++ [subscription] := by simp [add, named]
      rw [added]
      refine .atEnd fun id keyed => ?_
      rw [named] at keyed
      cases keyed
  | some id =>
      by_cases known : directory.has id = true
      · have added : (directory.add subscription).2.subscriptions =
            replaceFirst id subscription directory.subscriptions := by simp [add, named, known]
        rw [added]
        exact inserted_replaceFirst named (by simpa [has] using known)
      · have added : (directory.add subscription).2.subscriptions =
            directory.subscriptions ++ [subscription] := by simp [add, named, known]
        rw [added]
        refine .atEnd fun same keyed other member sameId => known ?_
        rw [named] at keyed
        cases keyed
        simpa [has] using ⟨other, member, sameId⟩

end RadarRelay
