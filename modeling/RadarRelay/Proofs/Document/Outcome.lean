/-!
# Outcomes of composed readings

A reading that is composed of others gives a value only where they do, and has the fault of
one of them.
-/

namespace RadarRelay

variable {Fault First Second : Type}

theorem Except.of_map_eq_ok {first : Except Fault First} {image : First → Second} {result : Second}
    (given : first.map image = .ok result) : ∃ value, first = .ok value ∧ image value = result := by
  cases first with
  | error fault => cases given
  | ok value => exact ⟨value, rfl, Except.ok.inj given⟩

theorem Except.of_mapError_eq_ok {Other : Type} {first : Except Fault First}
    {image : Fault → Other} {result : First} (given : first.mapError image = .ok result) :
    first = .ok result := by
  cases first with
  | error fault => cases given
  | ok value => exact congrArg Except.ok (Except.ok.inj given)

theorem Except.of_bind_eq_ok {first : Except Fault First} {next : First → Except Fault Second}
    {result : Second} (given : (first >>= next) = .ok result) :
    ∃ value, first = .ok value ∧ next value = .ok result := by
  cases first with
  | error fault => cases given
  | ok value => exact ⟨value, rfl, given⟩

theorem Except.of_map_eq_error {first : Except Fault First} {image : First → Second}
    (given : first.map image = .error fault) : first = .error fault := by
  cases first with
  | error other => exact congrArg Except.error (Except.error.inj given)
  | ok value => cases given

theorem Except.of_bind_eq_error {first : Except Fault First} {next : First → Except Fault Second}
    (given : (first >>= next) = .error fault) :
    first = .error fault ∨ ∃ value, first = .ok value ∧ next value = .error fault := by
  cases first with
  | error other => exact .inl (congrArg Except.error (Except.error.inj given))
  | ok value => exact .inr ⟨value, rfl, given⟩

/-- The values of a list are those of its items. -/
theorem exists_of_mapM_eq_ok {action : First → Except Fault Second} {items : List First}
    {results : List Second} (given : items.mapM action = .ok results) {result : Second}
    (member : result ∈ results) : ∃ item ∈ items, action item = .ok result := by
  induction items generalizing results with
  | nil =>
      cases given
      cases member
  | cons item items ih =>
      rw [List.mapM_cons] at given
      obtain ⟨first, found, given⟩ := Except.of_bind_eq_ok given
      obtain ⟨others, rest, given⟩ := Except.of_bind_eq_ok given
      cases given
      rcases List.mem_cons.1 member with rfl | member
      · exact ⟨item, List.mem_cons_self .., found⟩
      · obtain ⟨other, inside, found⟩ := ih rest member
        exact ⟨other, List.mem_cons_of_mem _ inside, found⟩

/-- A list has the fault of one of its items. -/
theorem exists_of_mapM_eq_error {action : First → Except Fault Second} {items : List First}
    (given : items.mapM action = .error fault) : ∃ item ∈ items, action item = .error fault := by
  induction items with
  | nil => cases given
  | cons item items ih =>
      rw [List.mapM_cons] at given
      rcases Except.of_bind_eq_error given with first | ⟨_, _, given⟩
      · exact ⟨item, List.mem_cons_self .., first⟩
      rcases Except.of_bind_eq_error given with rest | ⟨_, _, given⟩
      · obtain ⟨other, member, failed⟩ := ih rest
        exact ⟨other, List.mem_cons_of_mem _ member, failed⟩
      · cases given

end RadarRelay
