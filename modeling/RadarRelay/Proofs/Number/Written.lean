import Mathlib.Data.List.Basic
import Mathlib.Data.List.Induction
import Mathlib.Tactic.Ring
import RadarRelay.Json.Literal
import RadarRelay.Proofs.Number.Rounding

/-!
# Numbers that have been written

A decimal literal has digits, possibly a fraction and possibly an exponent. Whatever
may follow a value in a document ends it, and what it denotes is the decimal number of
its digits. Every layout of a double is such a literal, so a double and a whole number
are each found again in what was written for them.
-/

namespace RadarRelay.Number

/-! ## Digits -/

/-- What holds of the ten digits holds of every character that counts as one. -/
theorem forall_isDigit {holds : Char → Prop} (each : ∀ digit < 10, holds (digitChar digit))
    {character : Char} (digit : isDigit character = true) : holds character := by
  rw [isDigit, Bool.and_eq_true, decide_eq_true_iff, decide_eq_true_iff] at digit
  have low : '0'.toNat ≤ character.toNat := digit.1
  have high : character.toNat ≤ '9'.toNat := digit.2
  have zero : '0'.toNat = 48 := rfl
  have nine : '9'.toNat = 57 := rfl
  have same : digitChar (character.toNat - 48) = character := by
    rw [digitChar, zero, Nat.add_sub_cancel' (zero ▸ low), Char.ofNat_toNat]
  exact same ▸ each _ (by omega)

theorem digitsValue_append (front back : List Char) :
    digitsValue (front ++ back) = digitsValue front * 10 ^ back.length + digitsValue back := by
  induction back using List.reverseRecOn with
  | nil => simp [digitsValue]
  | append_singleton back character ih =>
      rw [← List.append_assoc, digitsValue_append_single, ih, digitsValue_append_single,
        List.length_append, List.length_singleton, Nat.pow_succ]
      ring

@[simp] theorem digitsValue_zeros (count : Nat) : digitsValue (List.replicate count '0') = 0 := by
  induction count with
  | zero => rfl
  | succ count ih => rw [List.replicate_succ', digitsValue_append, ih, Nat.zero_mul]; rfl

/-- The digits of a positive number do not begin with a zero. -/
theorem head?_digits {number : Nat} (positive : number ≠ 0) : (digits number).head? ≠ some '0' := by
  induction number using Nat.strongRecOn with
  | ind number ih =>
      rw [digits]
      split
      · rename_i small
        have leading : ∀ digit < 10, digit ≠ 0 → digitChar digit ≠ '0' := by decide
        simpa using leading number small positive
      · have front := ih (number / 10) (by omega) (by omega)
        rwa [List.head?_append_of_ne_nil _ (digits_ne_nil _)]

/-- Only zero has a zero in front of its digits, and then no other digit. -/
theorem length_digits_of_head? {number : Nat} (leading : (digits number).head? = some '0') :
    (digits number).length = 1 := by
  by_cases none : number = 0
  · subst none
    rw [digits]
    rfl
  · exact absurd leading (head?_digits none)

theorem spanDigits_append {written rest : List Char} (digits : written.all isDigit = true)
    (ended : ∀ character ∈ rest.head?, isDigit character = false) :
    spanDigits (written ++ rest) = (written, rest) := by
  have each : ∀ character ∈ written, isDigit character = true := List.all_eq_true.1 digits
  have nothing : rest.takeWhile isDigit = [] ∧ rest.dropWhile isDigit = rest := by
    cases rest with
    | nil => exact ⟨rfl, rfl⟩
    | cons character rest => simp [ended character rfl]
  rw [spanDigits, List.takeWhile_append_of_pos each, List.dropWhile_append_of_pos each, nothing.1,
    nothing.2, List.append_nil]

/-! ## Decimal literals -/

/-- A decimal literal without a sign: its digits, those behind a point, and an exponent, which has
a sign in any case. -/
structure DecimalText where
  whole : List Char
  fraction? : Option (List Char)
  exponent? : Option (Bool × List Char)

namespace DecimalText

/-- What is written behind the whole part. -/
def fractionPart : Option (List Char) → List Char
  | some fraction => '.' :: fraction
  | none => []

@[inherit_doc fractionPart]
def exponentPart : Option (Bool × List Char) → List Char
  | some (negative, written) => 'e' :: (if negative then '-' else '+') :: written
  | none => []

def characters (text : DecimalText) : List Char :=
  text.whole ++ (fractionPart text.fraction? ++ exponentPart text.exponent?)

/-- The power of ten in an exponent part. -/
def power : Option (Bool × List Char) → Int
  | some (negative, written) =>
      if negative then -(digitsValue written : Int) else digitsValue written
  | none => 0

/-- What a literal denotes. -/
def decimal (text : DecimalText) : Decimal :=
  let fraction := text.fraction?.getD []
  ⟨digitsValue (text.whole ++ fraction), power text.exponent? - fraction.length⟩

/-- Every part that is there has digits, and the whole part has no zeros in front. -/
structure Tidy (text : DecimalText) : Prop where
  whole_digits : text.whole.all isDigit = true
  whole_ne_nil : text.whole ≠ []
  unpadded : text.whole.head? = some '0' → text.whole.length = 1
  fraction : ∀ written ∈ text.fraction?, written.all isDigit = true ∧ written ≠ []
  exponent : ∀ signed ∈ text.exponent?, signed.2.all isDigit = true ∧ signed.2 ≠ []

/-- The literal of a natural number. -/
def ofNat (number : Nat) : DecimalText := ⟨digits number, none, none⟩

theorem tidy_ofNat (number : Nat) : (ofNat number).Tidy where
  whole_digits := all_isDigit_digits number
  whole_ne_nil := digits_ne_nil number
  unpadded := length_digits_of_head?
  fraction := nofun
  exponent := nofun

@[simp] theorem characters_ofNat (number : Nat) : (ofNat number).characters = digits number :=
  List.append_nil _

@[simp] theorem decimal_ofNat (number : Nat) : (ofNat number).decimal = ⟨number, 0⟩ := by
  simp [ofNat, decimal, power]

end DecimalText

/-- What may follow a value in a document. -/
def Delimited (rest : List Char) : Prop :=
  ∀ character ∈ rest.head?, character = ',' ∨ character = ']' ∨ character = '\x7d'

theorem delimited_nil : Delimited [] := nofun

/-- A property of the three delimiters holds of the head of a delimited text. -/
theorem Delimited.head {rest : List Char} (delimited : Delimited rest) {holds : Char → Prop}
    (comma : holds ',') (bracket : holds ']') (brace : holds '\x7d') :
    ∀ character ∈ rest.head?, holds character := by
  intro character first
  rcases delimited character first with rfl | rfl | rfl
  · exact comma
  · exact bracket
  · exact brace

namespace DecimalText

open RadarRelay.Json (NumberLayout splitFraction splitExponent)

variable {text : DecimalText} {rest : List Char}

theorem splitExponent_exponentPart (tidy : text.Tidy) (delimited : Delimited rest) :
    splitExponent (exponentPart text.exponent? ++ rest) = (text.exponent?, rest) := by
  have ended : ∀ character ∈ rest.head?, isDigit character = false := delimited.head rfl rfl rfl
  cases written : text.exponent? with
  | none =>
      cases rest with
      | nil => rfl
      | cons character rest =>
          rcases delimited character rfl with rfl | rfl | rfl <;> rfl
  | some signed =>
      obtain ⟨negative, exponent⟩ := signed
      have digits := (tidy.exponent _ written).1
      have split := spanDigits_append digits ended
      cases negative <;> simp [exponentPart, splitExponent, Json.splitSign, split]

theorem splitFraction_fractionPart (tidy : text.Tidy) (delimited : Delimited rest) :
    splitFraction (fractionPart text.fraction? ++ (exponentPart text.exponent? ++ rest)) =
      (text.fraction?, exponentPart text.exponent? ++ rest) := by
  have ended : ∀ character ∈ (exponentPart text.exponent? ++ rest).head?,
      isDigit character = false ∧ character ≠ '.' := by
    cases text.exponent? with
    | none => exact delimited.head (by decide) (by decide) (by decide)
    | some signed =>
        rintro character ⟨⟩
        decide
  cases written : text.fraction? with
  | none =>
      generalize exponentPart text.exponent? ++ rest = tail at ended
      cases tail with
      | nil => rfl
      | cons character tail =>
          have other := (ended character rfl).2
          simp [fractionPart, splitFraction, other]
  | some fraction =>
      have digits := (tidy.fraction _ written).1
      have split := spanDigits_append digits fun character first => (ended character first).1
      simp [fractionPart, splitFraction, split]

theorem spanDigits_characters (tidy : text.Tidy) (delimited : Delimited rest) :
    spanDigits (text.characters ++ rest) =
      (text.whole, fractionPart text.fraction? ++ (exponentPart text.exponent? ++ rest)) := by
  have ended : ∀ character ∈
      (fractionPart text.fraction? ++ (exponentPart text.exponent? ++ rest)).head?,
      isDigit character = false := by
    cases text.fraction? with
    | some fraction =>
        rintro character ⟨⟩
        rfl
    | none =>
        cases text.exponent? with
        | some signed =>
            rintro character ⟨⟩
            rfl
        | none => exact delimited.head rfl rfl rfl
  rw [characters, List.append_assoc, List.append_assoc]
  exact spanDigits_append tidy.whole_digits ended

/-- A literal is split into its parts, and what follows it is left. -/
theorem split_characters (tidy : text.Tidy) (delimited : Delimited rest) :
    NumberLayout.split (text.characters ++ rest) =
      ⟨text.whole, text.fraction?, text.exponent?, rest⟩ := by
  unfold NumberLayout.split
  simp only [spanDigits_characters tidy delimited, splitFraction_fractionPart tidy delimited,
    splitExponent_exponentPart tidy delimited]

/-- A literal begins with a digit. -/
theorem exists_digit_characters (tidy : text.Tidy) :
    ∃ first more, text.characters = first :: more ∧ isDigit first = true := by
  obtain ⟨first, more, whole⟩ := List.exists_cons_of_ne_nil tidy.whole_ne_nil
  have digits := tidy.whole_digits
  rw [whole, List.all_cons, Bool.and_eq_true] at digits
  exact ⟨first, _, by rw [characters, whole, List.cons_append], digits.1⟩

/-- A literal behind an optional minus sign. -/
def signed (negative : Bool) (text : DecimalText) : List Char :=
  if negative then '-' :: text.characters else text.characters

end DecimalText

/-- An integer is written as the digits of its absolute value behind its sign. -/
theorem toList_intText (value : Int) :
    (intText value).toList = (DecimalText.ofNat value.natAbs).signed (decide (value < 0)) := by
  unfold intText DecimalText.signed
  simp only [DecimalText.characters_ofNat, decide_eq_true_eq]
  split <;> simp [natText]

/-! ## Layouts of doubles -/

namespace Style

/-- A literal that is no integer and denotes the same double as a decimal number. -/
structure Shows (characters : List Char) (decimal : Decimal) (text : DecimalText) : Prop where
  characters_eq : text.characters = characters
  tidy : text.Tidy
  real : text.fraction? ≠ none ∨ text.exponent? ≠ none
  toDouble_eq : ∀ negative, text.decimal.toDouble negative = decimal.toDouble negative

section Positional

variable {written : List Char} (isDigits : written.all isDigit = true) (nonempty : written ≠ [])

include isDigits nonempty

/-- The digits gain as many zeros as the exponent says, and one behind the point. -/
theorem exists_shows_padded (leading : written.head? ≠ some '0') (up : Nat) :
    ∃ text, Shows (written ++ List.replicate up '0' ++ ['.', '0'])
      ⟨digitsValue written, .ofNat up⟩ text := by
  refine ⟨⟨written ++ List.replicate up '0', some ['0'], none⟩, ?_, ?_, .inl nofun, ?_⟩
  · simp [DecimalText.characters, DecimalText.fractionPart, DecimalText.exponentPart]
  · refine ⟨by simp [isDigits, isDigit], by simp [nonempty], fun zero => ?_, ?_, nofun⟩
    · rw [List.head?_append_of_ne_nil _ nonempty] at zero
      exact absurd zero leading
    · rintro fraction ⟨⟩
      decide
  · intro negative
    have zeros : written ++ List.replicate up '0' ++ ['0'] =
        written ++ List.replicate (up + 1) '0' := by
      rw [List.replicate_succ', List.append_assoc]
    have scaled := Double.ofDecimal_scale negative (digitsValue written) (up + 1) (-1)
    have exponent : (-1 : Int) + (up + 1 : Nat) = Int.ofNat up := by
      simp
    rw [exponent] at scaled
    simpa [DecimalText.decimal, Decimal.toDouble, DecimalText.power, zeros, digitsValue_append]
      using scaled

/-- The point stands between the digits. -/
theorem exists_shows_split (leading : written.head? ≠ some '0') {below : Nat}
    (inside : below + 1 < written.length) :
    ∃ text, Shows (written.take (written.length - (below + 1)) ++
        '.' :: written.drop (written.length - (below + 1)))
      ⟨digitsValue written, .negSucc below⟩ text := by
  have length : (written.drop (written.length - (below + 1))).length = below + 1 := by
    rw [List.length_drop]
    omega
  have front : written.take (written.length - (below + 1)) ≠ [] := by
    rw [Ne, List.take_eq_nil_iff]
    exact not_or.2 ⟨by omega, nonempty⟩
  have both := List.take_append_drop (written.length - (below + 1)) written
  generalize written.take (written.length - (below + 1)) = whole at *
  generalize written.drop (written.length - (below + 1)) = fraction at *
  subst both
  rw [List.all_append, Bool.and_eq_true] at isDigits
  rw [List.head?_append_of_ne_nil _ front] at leading
  refine ⟨⟨whole, some fraction, none⟩, ?_, ?_, .inl nofun, fun negative => ?_⟩
  · simp [DecimalText.characters, DecimalText.fractionPart, DecimalText.exponentPart]
  · refine ⟨isDigits.1, front, fun zero => absurd zero leading, ?_, nofun⟩
    rintro _ ⟨⟩
    exact ⟨isDigits.2, List.ne_nil_of_length_pos (by omega)⟩
  · have places : (-(below + 1 : Nat) : Int) = Int.negSucc below := rfl
    simp [DecimalText.decimal, Decimal.toDouble, DecimalText.power, length, ← places]

/-- Zeros fill the places in front of the digits. -/
theorem exists_shows_filled {below : Nat} (outside : ¬below + 1 < written.length) :
    ∃ text, Shows ('0' :: '.' :: (List.replicate (below + 1 - written.length) '0' ++ written))
      ⟨digitsValue written, .negSucc below⟩ text := by
  have length : (List.replicate (below + 1 - written.length) '0' ++ written).length =
      below + 1 := by
    rw [List.length_append, List.length_replicate]
    omega
  refine ⟨⟨['0'], some (List.replicate (below + 1 - written.length) '0' ++ written), none⟩,
    ?_, ?_, .inl nofun, fun negative => ?_⟩
  · simp [DecimalText.characters, DecimalText.fractionPart, DecimalText.exponentPart]
  · refine ⟨rfl, by simp, fun _ => rfl, ?_, nofun⟩
    rintro fraction ⟨⟩
    simp [isDigits, isDigit, nonempty]
  · have zeros : digitsValue (['0'] ++ (List.replicate (below + 1 - written.length) '0' ++
        written)) = digitsValue written := by
      rw [digitsValue_append, digitsValue_append, digitsValue_zeros]
      simp [digitsValue, digitValue]
    have places : (-(below + 1 : Nat) : Int) = Int.negSucc below := rfl
    simp only [DecimalText.decimal, Option.getD_some, zeros, length, DecimalText.power,
      Int.zero_sub, places]

end Positional

variable {decimal : Decimal}

/-- A layout without exponent is a literal. -/
theorem exists_shows_positionalText {style : Style} (pointed : style.pointZero = true)
    (positive : decimal.coefficient ≠ 0) :
    ∃ text, Shows (style.positionalText (digits decimal.coefficient) decimal.exponent) decimal
      text := by
  obtain ⟨coefficient, exponent⟩ := decimal
  have isDigits := all_isDigit_digits coefficient
  have nonempty := digits_ne_nil coefficient
  have leading : (digits coefficient).head? ≠ some '0' := head?_digits positive
  have value := digitsValue_digits coefficient
  unfold positionalText
  cases exponent with
  | ofNat up =>
      have shows := exists_shows_padded isDigits nonempty leading up
      rw [value] at shows
      simpa only [pointed, if_true] using shows
  | negSucc below =>
      dsimp only
      split
      · rename_i inside
        have shows := exists_shows_split isDigits nonempty leading inside
        rwa [value] at shows
      · rename_i outside
        have shows := exists_shows_filled isDigits nonempty outside
        rwa [value] at shows

/-- A layout with an exponent is a literal. -/
theorem exists_shows_scientificText (positive : decimal.coefficient ≠ 0) :
    let written := digits decimal.coefficient
    ∃ text, Shows (scientificText written (decimal.exponent + ((written.length : Int) - 1))) decimal
      text := by
  obtain ⟨coefficient, exponent⟩ := decimal
  have isDigits := all_isDigit_digits coefficient
  have nonempty := digits_ne_nil coefficient
  have value := digitsValue_digits coefficient
  dsimp only at positive isDigits ⊢
  generalize digits coefficient = written at isDigits nonempty value ⊢
  obtain ⟨first, rest, rfl⟩ := List.exists_cons_of_ne_nil nonempty
  rw [List.all_cons, Bool.and_eq_true] at isDigits
  have single : [first].all isDigit = true := by simp [isDigits.1]
  have leading : exponent + (((first :: rest).length : Int) - 1) = exponent + rest.length := by
    simp
  have power : DecimalText.power (some (decide (exponent + rest.length < 0),
      digits (exponent + rest.length).natAbs)) = exponent + rest.length := by
    simp only [DecimalText.power, digitsValue_digits, decide_eq_true_iff]
    split <;> omega
  have exponentDigits : ∀ signed ∈ some (decide (exponent + rest.length < 0),
      digits (exponent + rest.length).natAbs), signed.2.all isDigit = true ∧ signed.2 ≠ [] := by
    rintro _ ⟨⟩
    exact ⟨all_isDigit_digits _, digits_ne_nil _⟩
  rw [leading]
  refine ⟨⟨[first], if rest = [] then none else some rest,
    some (decide (exponent + rest.length < 0), digits (exponent + rest.length).natAbs)⟩,
    ?_, ?_, .inr nofun, fun negative => ?_⟩
  · cases rest with
    | nil => simp [scientificText, DecimalText.characters, DecimalText.fractionPart,
        DecimalText.exponentPart]
    | cons second rest => simp [scientificText, DecimalText.characters, DecimalText.fractionPart,
        DecimalText.exponentPart]
  · refine ⟨single, List.cons_ne_nil _ _, fun _ => rfl, ?_, exponentDigits⟩
    intro fraction shown
    split at shown
    · cases shown
    · rename_i nonempty
      cases shown
      exact ⟨isDigits.2, nonempty⟩
  · have shown : (if rest = [] then none else some rest).getD [] = rest := by
      split
      · rename_i none
        rw [none]
        rfl
      · rfl
    have balance : exponent + (rest.length : Int) - rest.length = exponent := by omega
    simp only [DecimalText.decimal, shown, power, balance, Decimal.toDouble]
    rw [← value]
    rfl

/-- A finite double is found again in what is written for it in a document. -/
theorem exists_text_document (negative : Bool) (magnitude : Magnitude) :
    ∃ text : DecimalText, text.Tidy ∧ (text.fraction? ≠ none ∨ text.exponent? ≠ none) ∧
      (document.text (.finite negative magnitude)).toList = text.signed negative ∧
      text.decimal.toDouble negative = .finite negative magnitude := by
  have signed (text : DecimalText) :
      (if negative then ['-'] else []) ++ text.characters = text.signed negative := by
    cases negative <;> rfl
  by_cases none : magnitude.units = 0
  · refine ⟨⟨['0'], some ['0'], Option.none⟩, ⟨rfl, nofun, fun _ => rfl, ?_, nofun⟩, .inl nofun, ?_,
      ?_⟩
    · rintro _ ⟨⟩
      exact ⟨rfl, nofun⟩
    · rw [← signed]
      simp only [text, none, if_true, String.toList_ofList]
      rfl
    · rw [← Double.ofRatio_units, none]
      rfl
  · have shortest := Decimal.toDouble_shortest Tie.even magnitude
    generalize written : Decimal.shortest Tie.even magnitude = decimal at shortest
    have positive : decimal.coefficient ≠ 0 := by
      intro zero
      rw [Decimal.toDouble, zero] at shortest
      exact none (congrArg (fun number => (number.place?.getD 0).natAbs) shortest).symm
    obtain ⟨text, shows⟩ : ∃ text, Shows (document.decimalText decimal) decimal text := by
      unfold decimalText
      dsimp only
      split
      · exact exists_shows_positionalText rfl positive
      · exact exists_shows_scientificText positive
    refine ⟨text, shows.tidy, shows.real, ?_, ?_⟩
    · rw [← signed, shows.characters_eq, ← written]
      simp only [Style.text, none, if_false, String.toList_ofList]
      rfl
    · rw [shows.toDouble_eq]
      exact Double.ofDecimal_eq_finite positive shortest negative

end Style

end RadarRelay.Number
