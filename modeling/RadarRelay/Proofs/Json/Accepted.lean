import RadarRelay.Json.Reader
import RadarRelay.Proofs.Document.Sound
import RadarRelay.Proofs.Json.Numerals

/-!
# Values that have been read

Whole numbers in a value that was read from a JSON text are of 64 bits, signed or unsigned, and
the fields of its objects are in order.
-/

namespace RadarRelay

open RadarRelay.Number RadarRelay.Document

namespace Json

/-- A whole number has 64 bits, signed or unsigned. -/
def Number.Bounded : Number → Prop
  | whole value => int64Min ≤ value ∧ value ≤ nat64Max
  | real _ => True

/-- Digits that have all been gathered fit. -/
theorem digitsValue_le_of_foldl {written : List Char}
    (gathered : (written.foldl Scaled.addWhole ⟨0, 0, false⟩).full = false) :
    digitsValue written ≤ nat64Max := by
  induction written using List.reverseRecOn with
  | nil => exact Nat.zero_le _
  | append_singleton written digit ih =>
      rw [List.foldl_append, List.foldl_cons, List.foldl_nil, Scaled.addWhole] at gathered
      split at gathered
      · rename_i fits
        rw [Bool.and_eq_true, Bool.not_eq_true', decide_eq_true_iff] at fits
        obtain ⟨front, fits⟩ := fits
        rw [foldl_addWhole (ih front)] at fits
        rw [digitsValue_append_single, Nat.mul_comm]
        exact fits
      · cases gathered

theorem bounded_wholeNumber? {negative : Bool} {whole : List Char} {number : Number}
    (found : wholeNumber? negative whole = some number) : number.Bounded := by
  unfold wholeNumber? at found
  simp only at found
  split at found
  · obtain ⟨value, -, rfl⟩ := Option.map_eq_some_iff.1 found
    trivial
  · rename_i gathered
    have fits := digitsValue_le_of_foldl (Bool.not_eq_true _ ▸ gathered)
    split at found
    · cases found
      unfold Number.Bounded int64Min nat64Max at *
      omega
    · split at found
      · rename_i inside
        cases found
        rw [Bool.and_eq_true, decide_eq_true_iff, decide_eq_true_iff] at inside
        unfold Number.Bounded int64Min nat64Max
        omega
      · cases found
        trivial

theorem bounded_scanNumber {negative : Bool} {characters tail : List Char} {number : Number}
    (scanned : scanNumber negative characters = (.ok number, tail)) : number.Bounded := by
  unfold scanNumber at scanned
  simp only at scanned
  split at scanned
  · cases scanned
  · split at scanned
    · rename_i found
      cases scanned
      unfold NumberLayout.value? at found
      split at found
      · exact bounded_wholeNumber? found
      · obtain ⟨value, -, rfl⟩ := Option.map_eq_some_iff.1 found
        trivial
    · cases scanned

end Json

/-- The number of a literal is bounded. -/
def Document.Numeral.Bounded (numeral : Numeral) : Prop :=
  ∀ number, numeral.free = .ok number → number.Bounded

namespace Json

theorem bounded_ofNumber {number : Number} (bounded : number.Bounded) :
    (Numeral.ofNumber number).Bounded := by
  rintro _ ⟨⟩
  exact bounded

theorem bounded_scanToken (character : Char) (rest : List Char) :
    (scanToken character rest).1.Sound Numeral.Bounded := by
  unfold scanToken
  split
  · rename_i token found
    unfold Token.punctuation? at found
    split at found <;> cases found <;> trivial
  split
  · simp only
    split <;> trivial
  split
  · simp only
    split
    · rename_i found
      exact bounded_ofNumber (bounded_scanNumber (Prod.ext found rfl))
    · trivial
  split
  · simp only
    split
    · rename_i found
      exact bounded_ofNumber (bounded_scanNumber (Prod.ext found rfl))
    · trivial
  split
  · rename_i letters value word
    simp only
    split
    · unfold constant? at word
      split at word <;> cases word <;> trivial
    · trivial
  · trivial

theorem bounded_tokens (characters : List Char) :
    ∀ token ∈ tokens characters, token.Sound Numeral.Bounded := by
  fun_induction tokens characters with
  | case1 => exact List.forall_mem_nil _
  | case2 character rest blank ih => exact ih
  | case3 character rest blank ih =>
      exact List.forall_mem_cons.2 ⟨bounded_scanToken character rest, ih⟩

/-- A value that was read is proper: its whole numbers are bounded and its fields in order. -/
theorem proper_of_read {text : String} {value : Json} (given : read text = .ok value) :
    value.Every (Proper Number.Bounded) := by
  have start : (State.place .top).Sound Numeral.Bounded := trivial
  have sound : (draft text).outline.Sound Numeral.Bounded :=
    Rules.sound_run start (bounded_tokens text.toList)
  unfold read at given
  simp only at given
  split at given
  · cases given
  · exact Outline.every_of_toJson (fun bounded free _ => bounded _ free) sound given

end Json

end RadarRelay
