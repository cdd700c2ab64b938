import RadarRelay.Proofs.Number.Scaling
import RadarRelay.Proofs.Number.Written

/-!
# Number literals and their parts

A number is split off a text whatever follows it, and its parts make up the text that was split
off. Read by itself that text is the decimal number of its digits. JSON gives it the same
value when it is an integer of 64 bits with a sign, and also when scaling a decimal number
rounds once only, as it does for numbers of moderate size.
-/

namespace RadarRelay.Json

open RadarRelay.Number RadarRelay.Document

/-! ## Splitting -/

theorem spanDigits_eq (characters : List Char) :
    (spanDigits characters).1.all isDigit = true ∧
      characters = (spanDigits characters).1 ++ (spanDigits characters).2 ∧
      ∀ character ∈ (spanDigits characters).2.head?, isDigit character = false := by
  refine ⟨List.all_takeWhile, (List.takeWhile_append_dropWhile ..).symm, fun character first => ?_⟩
  have := List.head?_dropWhile_not isDigit characters
  rw [spanDigits] at first
  rw [Option.mem_def.1 first] at this
  simpa using this

theorem spanDigits_of_digits {written : List Char} (digits : written.all isDigit = true) :
    spanDigits written = (written, []) := by
  have split := @spanDigits_append written [] digits nofun
  rwa [List.append_nil] at split

/-- A sign is split off whatever digits follow it. -/
theorem exists_sign (characters : List Char) :
    ∃ sign, characters = sign ++ (splitSign characters).2 ∧
      ∀ {digits : List Char}, digits.all isDigit = true →
        splitSign (sign ++ digits) = ((splitSign characters).1, digits) := by
  unfold splitSign
  split
  · exact ⟨['-'], rfl, fun _ => rfl⟩
  · exact ⟨['+'], rfl, fun _ => rfl⟩
  · refine ⟨[], rfl, fun {digits} all => ?_⟩
    cases digits with
    | nil => rfl
    | cons first digits =>
        have noSign : first ≠ '-' ∧ first ≠ '+' :=
          @forall_isDigit (fun character => character ≠ '-' ∧ character ≠ '+') (by decide) first
            (List.all_eq_true.1 all first (List.mem_cons_self ..))
        simp [noSign]

/-- An exponent part is split off whatever follows it. -/
theorem exists_exponent (characters : List Char) :
    ∃ source, characters = source ++ (splitExponent characters).2 ∧
      splitExponent source = ((splitExponent characters).1, []) ∧
      ∀ character ∈ source.head?, character = 'e' ∨ character = 'E' := by
  cases characters with
  | nil => exact ⟨[], rfl, rfl, nofun⟩
  | cons mark rest =>
      by_cases marked : (mark == 'e' || mark == 'E') = true
      · obtain ⟨sign, given, signed⟩ := exists_sign rest
        obtain ⟨digits, split, -⟩ := spanDigits_eq (splitSign rest).2
        refine ⟨mark :: (sign ++ (spanDigits (splitSign rest).2).1), ?_, ?_, ?_⟩
        · rw [splitExponent, if_pos marked, List.cons_append, List.append_assoc, ← split, ← given]
        · simp only [splitExponent, marked, if_true, signed digits, spanDigits_of_digits digits]
        · rintro character ⟨⟩
          simpa using marked
      · exact ⟨[], by simp [splitExponent, marked], by simp [splitExponent, marked], nofun⟩

theorem splitFraction_of_ne {characters : List Char}
    (other : ∀ character ∈ characters.head?, character ≠ '.') :
    splitFraction characters = (none, characters) := by
  cases characters with
  | nil => rfl
  | cons first rest =>
      have noPoint : first ≠ '.' := other first rfl
      simp [splitFraction, noPoint]

/-- So is a fraction, unless digits follow it. -/
theorem splitFraction_append {characters source : List Char}
    (marked : ∀ character ∈ source.head?, character = 'e' ∨ character = 'E') :
    splitFraction (DecimalText.fractionPart (splitFraction characters).1 ++ source) =
      ((splitFraction characters).1, source) := by
  have ended : ∀ character ∈ source.head?, isDigit character = false ∧ character ≠ '.' := by
    intro character first
    rcases marked character first with rfl | rfl <;> decide
  by_cases pointed : characters.head? = some '.'
  · obtain ⟨rest, rfl⟩ := List.head?_eq_some_iff.1 pointed
    have split := spanDigits_append (spanDigits_eq rest).1 fun character first =>
      (ended character first).1
    simp [splitFraction, DecimalText.fractionPart, split]
  · rw [splitFraction_of_ne fun character first same => pointed (same ▸ first)]
    exact splitFraction_of_ne fun character first => (ended character first).2

theorem splitFraction_eq (characters : List Char) :
    characters =
      DecimalText.fractionPart (splitFraction characters).1 ++ (splitFraction characters).2 := by
  unfold splitFraction
  split
  · rename_i rest
    exact congrArg ('.' :: ·) (spanDigits_eq rest).2.1
  · rfl

namespace NumberLayout

/-- A text consists of the parts that are split off and the rest. -/
theorem split_parts (characters : List Char) :
    ∃ source, characters = (split characters).whole ++
        (DecimalText.fractionPart (split characters).fraction? ++
          (source ++ (split characters).rest)) ∧
      splitExponent source = ((split characters).exponent?, []) ∧
      ∀ character ∈ source.head?, character = 'e' ∨ character = 'E' := by
  obtain ⟨source, exponent, exponentSplit, marked⟩ :=
    exists_exponent (splitFraction (spanDigits characters).2).2
  refine ⟨source, ?_, exponentSplit, marked⟩
  calc characters = (spanDigits characters).1 ++ (spanDigits characters).2 :=
        (spanDigits_eq characters).2.1
    _ = (spanDigits characters).1 ++
        (DecimalText.fractionPart (splitFraction (spanDigits characters).2).1 ++
          (splitFraction (spanDigits characters).2).2) := by
        rw [← splitFraction_eq (spanDigits characters).2]
    _ = _ := congrArg _ (congrArg _ exponent)

/-- A literal is split off whatever follows it. -/
theorem exists_written (characters : List Char) :
    ∃ written, characters = written ++ (split characters).rest ∧
      split written = { split characters with rest := [] } := by
  obtain ⟨source, parts, exponentSplit, marked⟩ := split_parts characters
  have digits : (split characters).whole.all isDigit = true := (spanDigits_eq characters).1
  have fraction : splitFraction (DecimalText.fractionPart (split characters).fraction? ++ source) =
      ((split characters).fraction?, source) := splitFraction_append marked
  generalize split characters = layout at *
  refine ⟨layout.whole ++ (DecimalText.fractionPart layout.fraction? ++ source), ?_, ?_⟩
  · rw [List.append_assoc, List.append_assoc]
    exact parts
  · have ended : ∀ character ∈ (DecimalText.fractionPart layout.fraction? ++ source).head?,
        isDigit character = false := by
      cases layout.fraction? with
      | some fraction =>
          rintro character ⟨⟩
          rfl
      | none =>
          intro character first
          rcases marked character first with rfl | rfl <;> rfl
    simp only [split, spanDigits_append digits ended, fraction, exponentSplit]

theorem fault?_eq_none_iff {layout : NumberLayout} :
    layout.fault? = none ↔ layout.whole ≠ [] ∧
      ¬(layout.whole.head? = some '0' ∧ layout.whole.length ≠ 1) ∧
      layout.fraction? ≠ some [] ∧ layout.exponent?.map Prod.snd ≠ some [] := by
  unfold fault?
  simp only
  split
  · simp_all
  split
  · simp_all
  split
  · simp_all
  split <;> simp_all

end NumberLayout

/-! ## Values -/

theorem readExponent?_cons {mark : Char} (marked : (mark == 'e' || mark == 'E') = true)
    (rest : List Char) :
    readExponent? (mark :: rest) =
      (readNat? (splitSign rest).2).map fun number : Nat =>
        if (splitSign rest).1 then -(number : Int) else number := by
  simp only [readExponent?, marked, if_true]
  cases rest with
  | nil => rfl
  | cons first rest =>
      by_cases minus : first = '-'
      · subst minus
        cases read : readNat? rest <;> simp [splitSign, read]
      by_cases plus : first = '+'
      · subst plus
        cases read : readNat? rest <;> simp [splitSign, read]
      · cases read : readNat? (first :: rest) <;> simp [splitSign, minus, plus, read]

/-- An exponent part that is split off as a whole is read as the power that it stands for. -/
theorem readExponent?_of_split {characters : List Char} {exponent? : Option (Bool × List Char)}
    (split : splitExponent characters = (exponent?, []))
    (nonempty : exponent?.map Prod.snd ≠ some []) :
    readExponent? characters = some (DecimalText.power exponent?) := by
  cases characters with
  | nil =>
      cases split
      rfl
  | cons mark rest =>
      by_cases marked : (mark == 'e' || mark == 'E') = true
      · rw [splitExponent, if_pos marked] at split
        injection split with same ended
        subst same
        obtain ⟨digits, written, -⟩ := spanDigits_eq (splitSign rest).2
        rw [ended, List.append_nil] at written
        rw [← written] at digits nonempty ⊢
        have read : readNat? (splitSign rest).2 = some (digitsValue (splitSign rest).2) := by
          have given : (splitSign rest).2 ≠ [] := fun empty => nonempty (congrArg some empty)
          simp [readNat?, digits, given]
        rw [readExponent?_cons marked, read]
        rfl
      · rw [splitExponent, if_neg marked] at split
        cases split

namespace NumberLayout

/-- What stands behind the point. -/
def decimals (layout : NumberLayout) : List Char :=
  layout.fraction?.getD []

/-- A text that is a valid number literal as a whole. -/
structure IsLiteral (written : List Char) : Prop where
  all : (split written).rest = []
  valid : (split written).fault? = none

namespace IsLiteral

variable {written : List Char} (literal : IsLiteral written)

include literal

/-- A literal begins with a digit. -/
theorem exists_digit : ∃ first more, written = first :: more ∧ isDigit first = true := by
  obtain ⟨digits, parts, -⟩ := spanDigits_eq written
  obtain ⟨first, more, whole⟩ :=
    List.exists_cons_of_ne_nil (fault?_eq_none_iff.1 literal.valid).1
  change (spanDigits written).1 = _ at whole
  rw [whole, List.all_cons, Bool.and_eq_true] at digits
  rw [whole] at parts
  exact ⟨first, _, parts, digits.1⟩

/-- A literal is read as the decimal number of its digits. -/
theorem readDecimal? :
    Number.readDecimal? written =
      some ⟨digitsValue ((split written).whole ++ (split written).decimals),
        (split written).exponent - (split written).decimals.length⟩ := by
  obtain ⟨whole, -, -, nonempty⟩ := fault?_eq_none_iff.1 literal.valid
  have exponent := readExponent?_of_split (Prod.ext rfl literal.all) nonempty
  have same : DecimalText.power (split written).exponent? = (split written).exponent := by
    unfold NumberLayout.exponent DecimalText.power
    cases (split written).exponent? <;> rfl
  change (spanDigits written).1 ≠ [] at whole
  have given : (split written).whole = (spanDigits written).1 ∧
      (split written).fraction? = (splitFraction (spanDigits written).2).1 := ⟨rfl, rfl⟩
  change readExponent? _ = some (DecimalText.power (split written).exponent?) at exponent
  rw [same] at exponent
  rw [decimals, given.1, given.2]
  unfold Number.readDecimal?
  generalize spanDigits written = parts at whole exponent ⊢
  obtain ⟨digits, behind⟩ := parts
  by_cases pointed : behind.head? = some '.'
  · obtain ⟨rest, rfl⟩ := List.head?_eq_some_iff.1 pointed
    simp only [splitFraction] at exponent ⊢
    simp [whole, exponent]
  · have noPoint := splitFraction_of_ne fun character first same => pointed (same ▸ first)
    rw [noPoint] at exponent ⊢
    cases behind with
    | nil => simp [whole, exponent]
    | cons first rest =>
        have other : first ≠ '.' := fun same => pointed (same ▸ rfl)
        simp [whole, exponent, other]

/-- A literal without fraction and exponent consists of its digits. -/
theorem eq_whole (fraction : (split written).fraction? = none)
    (exponent : (split written).exponent? = none) : written = (split written).whole := by
  obtain ⟨source, parts, exponentSplit, marked⟩ := split_parts written
  have empty : source = [] := by
    cases source with
    | nil => rfl
    | cons mark source =>
        have marked : (mark == 'e' || mark == 'E') = true := by simpa using marked mark rfl
        rw [splitExponent, if_pos marked, exponent] at exponentSplit
        cases exponentSplit
  rw [fraction, empty, literal.all] at parts
  simpa [DecimalText.fractionPart] using parts

end IsLiteral

/-- A fraction is written behind a point, and an exponent behind a mark. -/
theorem mem_of_split (characters : List Char) :
    ((split characters).fraction? ≠ none → '.' ∈ characters) ∧
      ((split characters).exponent? ≠ none → 'e' ∈ characters ∨ 'E' ∈ characters) := by
  obtain ⟨source, parts, exponentSplit, marked⟩ := split_parts characters
  constructor
  · intro given
    obtain ⟨fraction, same⟩ := Option.ne_none_iff_exists'.1 given
    rw [parts, same]
    simp [DecimalText.fractionPart]
  · intro given
    cases source with
    | nil => exact absurd (congrArg Prod.fst exponentSplit).symm given
    | cons mark source =>
        rw [parts]
        rcases marked mark rfl with rfl | rfl <;> simp

/-- The mark of a hexadecimal literal is no part of a number. -/
theorem rest_of_hexadecimal {mark : Char} (hexadecimal : mark = 'x' ∨ mark = 'X')
    (rest : List Char) : (split ('0' :: mark :: rest)).rest = mark :: rest := by
  rcases hexadecimal with rfl | rfl <;> rfl

end NumberLayout

/-- A literal without missing parts and leading zeros has no fault. -/
theorem fault?_of_tidy {text : DecimalText} {rest : List Char} (tidy : text.Tidy) :
    NumberLayout.fault? ⟨text.whole, text.fraction?, text.exponent?, rest⟩ = none := by
  refine NumberLayout.fault?_eq_none_iff.2 ⟨tidy.whole_ne_nil,
    fun zeros => zeros.2 (tidy.unpadded zeros.1), fun empty => (tidy.fraction _ empty).2 rfl,
    fun none => ?_⟩
  obtain ⟨signed, written, empty⟩ := Option.map_eq_some_iff.1 none
  exact (tidy.exponent signed written).2 empty

theorem split_of_tidy {text : DecimalText} (tidy : text.Tidy) :
    NumberLayout.split text.characters = ⟨text.whole, text.fraction?, text.exponent?, []⟩ := by
  have split := DecimalText.split_characters tidy delimited_nil
  rwa [List.append_nil] at split

/-- What documents write for a number is a literal. -/
theorem isLiteral_of_tidy {text : DecimalText} (tidy : text.Tidy) :
    NumberLayout.IsLiteral text.characters where
  all := by rw [split_of_tidy tidy]
  valid := by
    rw [split_of_tidy tidy]
    exact fault?_of_tidy tidy

/-! ## Values in JSON -/

theorem digitsValue_le_append (front back : List Char) :
    digitsValue front ≤ digitsValue (front ++ back) := by
  rw [digitsValue_append]
  exact Nat.le_trans (Nat.le_mul_of_pos_right _ (Nat.pow_pos (by decide))) (Nat.le_add_right ..)

/-- Digits that fit are gathered into the number that they stand for. -/
theorem foldl_addWhole {written : List Char} (fits : digitsValue written ≤ nat64Max) :
    written.foldl Scaled.addWhole ⟨0, 0, false⟩ = ⟨digitsValue written, 0, false⟩ := by
  induction written using List.reverseRecOn with
  | nil => rfl
  | append_singleton written digit ih =>
      rw [List.foldl_append, ih (Nat.le_trans (digitsValue_le_append _ _) fits), List.foldl_cons,
        List.foldl_nil, Scaled.addWhole]
      rw [digitsValue_append_single] at fits ⊢
      simp [Nat.mul_comm _ 10, fits]

/-- Digits behind the point that fit are gathered behind those in front of it. -/
theorem foldl_addFraction {written : List Char} {front : Nat} (exponent : Int)
    (fits : front * 10 ^ written.length + digitsValue written ≤ nat64Max) :
    written.foldl Scaled.addFraction ⟨front, exponent, false⟩ =
      ⟨front * 10 ^ written.length + digitsValue written, exponent - written.length, false⟩ := by
  induction written using List.reverseRecOn with
  | nil => simp [digitsValue]
  | append_singleton written digit ih =>
      have next : front * 10 ^ (written ++ [digit]).length + digitsValue (written ++ [digit]) =
          (front * 10 ^ written.length + digitsValue written) * 10 + digitValue digit := by
        rw [digitsValue_append_single, List.length_append, List.length_singleton, Nat.pow_succ]
        ring
      rw [next] at fits ⊢
      rw [List.foldl_append, ih (by omega), List.foldl_cons, List.foldl_nil, Scaled.addFraction]
      simp only [fits, decide_true, Bool.not_false, Bool.and_self, if_true, List.length_append,
        List.length_singleton]
      congr 1
      omega

namespace NumberLayout

/-- The integer of the digits in front of the point. -/
def integer (negative : Bool) (layout : NumberLayout) : Int :=
  if negative then -(digitsValue layout.whole : Int) else digitsValue layout.whole

/-- The decimal number of all digits. -/
def decimal (layout : NumberLayout) : Decimal :=
  ⟨digitsValue (layout.whole ++ layout.decimals), layout.exponent - layout.decimals.length⟩

/-- A literal that keeps its value: an integer of 64 bits with a sign, but not `-0`, or a decimal
number that becomes the double nearest to it. -/
def Faithful (negative : Bool) (layout : NumberLayout) : Prop :=
  if layout.fraction? = none ∧ layout.exponent? = none then
    fitsInt64 (layout.integer negative) = true ∧ (negative = true → layout.integer negative ≠ 0)
  else
    (layout.decimal.toDouble negative).isFinite = true ∧
      layout.value? negative = some (.real (layout.decimal.toDouble negative))

/-- A literal of moderate size: such an integer, or a decimal number of less than 53 bits with a
power of ten that is a double. -/
def Modest (negative : Bool) (layout : NumberLayout) : Prop :=
  if layout.fraction? = none ∧ layout.exponent? = none then
    fitsInt64 (layout.integer negative) = true ∧ (negative = true → layout.integer negative ≠ 0)
  else
    layout.decimal.coefficient < 2 ^ 53 ∧ -22 ≤ layout.decimal.exponent ∧
      layout.decimal.exponent ≤ 22

instance (negative : Bool) (layout : NumberLayout) : Decidable (layout.Faithful negative) :=
  inferInstanceAs (Decidable (ite ..))

instance (negative : Bool) (layout : NumberLayout) : Decidable (layout.Modest negative) :=
  inferInstanceAs (Decidable (ite ..))

variable {negative : Bool} {layout : NumberLayout}

theorem value?_of_integer (fraction : layout.fraction? = none) (exponent : layout.exponent? = none)
    (fits : fitsInt64 (layout.integer negative) = true)
    (nonzero : negative = true → layout.integer negative ≠ 0) :
    layout.value? negative = some (.whole (layout.integer negative)) := by
  rw [fitsInt64, Bool.and_eq_true, decide_eq_true_iff, decide_eq_true_iff, int64Min,
    int64Max] at fits
  have small : digitsValue layout.whole ≤ nat64Max := by
    unfold nat64Max
    unfold integer at fits
    split at fits <;> omega
  unfold value?
  rw [fraction, exponent]
  simp only [wholeNumber?, foldl_addWhole small]
  cases negative with
  | false => rfl
  | true =>
      have inside : 0 < digitsValue layout.whole ∧
          digitsValue layout.whole ≤ 0x8000_0000_0000_0000 := by
        have nonzero := nonzero rfl
        unfold integer at fits nonzero
        simp only [if_true] at fits nonzero
        omega
      simp [inside, integer]

theorem value?_of_decimal (real : ¬(layout.fraction? = none ∧ layout.exponent? = none))
    (digits : layout.decimal.coefficient < 2 ^ 53) (least : -22 ≤ layout.decimal.exponent)
    (greatest : layout.decimal.exponent ≤ 22) :
    layout.value? negative = some (.real (layout.decimal.toDouble negative)) := by
  have realNumber : layout.value? negative =
      realNumber? negative layout.whole layout.decimals layout.exponent := by
    unfold value?
    split
    · rename_i fraction exponent
      exact absurd ⟨fraction, exponent⟩ real
    · rfl
  have total : digitsValue (layout.whole ++ layout.decimals) ≤ nat64Max :=
    Nat.le_trans (Nat.le_of_lt digits) (by decide)
  have front := foldl_addWhole (Nat.le_trans (digitsValue_le_append _ _) total)
  rw [digitsValue_append] at total
  have scaled := @Scaled.toDouble?_of_small _ _ false digits least greatest negative
  have places : 0 - (layout.decimals.length : Int) + layout.exponent = layout.decimal.exponent := by
    show 0 - (layout.decimals.length : Int) + layout.exponent =
      layout.exponent - layout.decimals.length
    omega
  rw [realNumber, realNumber?, front]
  simp only [foldl_addFraction 0 total, places, ← digitsValue_append]
  exact congrArg (Option.map Number.real) scaled

/-- Scaling rounds the decimal numbers of moderate size only once. -/
theorem faithful_of_modest (modest : layout.Modest negative) : layout.Faithful negative := by
  unfold Faithful
  unfold Modest at modest
  split at modest
  · rename_i integer
    rw [if_pos integer]
    exact modest
  · rename_i real
    rw [if_neg real]
    obtain ⟨digits, least, greatest⟩ := modest
    constructor
    · exact Double.isFinite_ofDecimal (Nat.lt_trans digits (by decide)) greatest negative
    · exact value?_of_decimal real digits least greatest

end NumberLayout

end RadarRelay.Json
