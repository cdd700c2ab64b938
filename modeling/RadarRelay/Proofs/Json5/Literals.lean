import RadarRelay.Json5.Reader
import RadarRelay.Proofs.Json.Literals

/-!
# Number literals of JSON in JSON5

JSON5 splits a number off a text as JSON does. A literal without fraction and exponent is an
integer, which has to have 64 bits with a sign; any other literal is the double nearest to the
decimal number of its digits. That is the value that JSON gives to a literal, too, unless it is
`-0`, an integer beyond 64 bits with a sign, or a decimal number that JSON rounds more than once.
JSON5 drops the sign of `-0` and refuses such integers.
-/

namespace RadarRelay.Json5

open RadarRelay.Number RadarRelay.Document
open RadarRelay.Json (NumberLayout)
open RadarRelay.Json.NumberLayout (IsLiteral)

theorem not_mem_of_digits {written : List Char} (digits : written.all isDigit = true)
    (character : Char) (other : isDigit character = false) : character ∉ written := by
  intro member
  rw [List.all_eq_true.1 digits character member] at other
  cases other

/-! ## Values in JSON5 -/

/-- A literal behind an optional minus sign. -/
def signed (negative : Bool) (written : List Char) : List Char :=
  if negative then '-' :: written else written

section Literal

variable {written : List Char} (literal : IsLiteral written) (negative : Bool)

include literal

theorem isHexLiteral_of_literal : isHexLiteral (signed negative written) = false := by
  cases negative with
  | true => rfl
  | false =>
      rw [signed, if_neg Bool.false_ne_true]
      unfold isHexLiteral
      split
      · rename_i mark third more
        by_cases hexadecimal : mark = 'x' ∨ mark = 'X'
        · have all := literal.all
          rw [NumberLayout.rest_of_hexadecimal hexadecimal] at all
          cases all
        · simpa [not_or] using hexadecimal
      · rfl

theorem signed_ne_of_letter (word : List Char)
    (letter : ∀ character ∈ word.head?, isDigit character = false ∧ character ≠ '-') :
    signed negative written ≠ word ∧ signed negative written ≠ '-' :: word := by
  obtain ⟨first, more, rfl, digit⟩ := literal.exists_digit
  have unsigned : first :: more ≠ word := by
    rintro rfl
    rw [(letter first rfl).1] at digit
    cases digit
  cases negative with
  | true =>
      refine ⟨?_, fun same => unsigned (List.cons.inj same).2⟩
      rintro rfl
      exact (letter '-' rfl).2 rfl
  | false =>
      refine ⟨unsigned, fun same => ?_⟩
      rw [(List.cons.inj same).1] at digit
      cases digit

/-- A literal without fraction and exponent is an integer. -/
theorem isWhole_of_integer (fraction : (NumberLayout.split written).fraction? = none)
    (exponent : (NumberLayout.split written).exponent? = none) :
    isWhole (signed negative written) = true := by
  have digits : written.all isDigit = true := by
    rw [literal.eq_whole fraction exponent]
    exact (Json.spanDigits_eq written).1
  have absent (character : Char) (other : isDigit character = false) (noSign : character ≠ '-') :
      (signed negative written).contains character = false := by
    have outside : character ∉ written := not_mem_of_digits digits character other
    cases negative <;> simp [signed, outside, noSign]
  have infinity := signed_ne_of_letter literal negative infinityWord (by rintro _ ⟨⟩; decide)
  have nan := signed_ne_of_letter literal negative nanWord (by rintro _ ⟨⟩; decide)
  unfold isWhole
  rw [absent '.' rfl (by decide), absent 'e' rfl (by decide), absent 'E' rfl (by decide)]
  simp [bne_iff_ne.2 infinity.1, bne_iff_ne.2 infinity.2, bne_iff_ne.2 nan.1, bne_iff_ne.2 nan.2]

/-- With either of them it is not. -/
theorem isWhole_of_decimal (decimal : (NumberLayout.split written).fraction? ≠ none ∨
    (NumberLayout.split written).exponent? ≠ none) : isWhole (signed negative written) = false := by
  have present {character : Char} (member : character ∈ written) :
      (signed negative written).contains character = true := by
    cases negative <;> simp [signed, member]
  obtain ⟨point, mark⟩ := NumberLayout.mem_of_split written
  unfold isWhole
  rw [isHexLiteral_of_literal literal negative]
  rcases decimal with fraction | exponent
  · rw [present (point fraction)]
    rfl
  · rcases mark exponent with member | member
    · rw [present member]
      simp
    · rw [present member]
      simp

/-- A literal is read as the double nearest to the decimal number of its digits. -/
theorem readDouble?_of_literal {decimal : Decimal} (read : readDecimal? written = some decimal) :
    readDouble? (signed negative written) = some (decimal.toDouble negative) := by
  obtain ⟨first, more, rfl, digit⟩ := literal.exists_digit
  have noLetter : first.toLower ≠ 'i' ∧ first.toLower ≠ 'n' ∧ first ≠ '-' ∧ first ≠ '+' :=
    @forall_isDigit (fun character => character.toLower ≠ 'i' ∧ character.toLower ≠ 'n' ∧
      character ≠ '-' ∧ character ≠ '+') (by decide) first digit
  have unsigned : readUnsigned? negative (first :: more) = some (decimal.toDouble negative) := by
    rw [readUnsigned?, read]
    simp [noLetter]
  cases negative with
  | true => exact unsigned
  | false =>
      rw [signed, if_neg Bool.false_ne_true, ← unsigned]
      simp [readDouble?, noLetter]

theorem realValue_of_literal {decimal : Decimal} (read : readDecimal? written = some decimal)
    (finite : (decimal.toDouble negative).isFinite = true) :
    realValue (signed negative written) = .ok (decimal.toDouble negative) := by
  have infinity := signed_ne_of_letter literal negative infinityWord (by rintro _ ⟨⟩; decide)
  have nan := signed_ne_of_letter literal negative nanWord (by rintro _ ⟨⟩; decide)
  simp [realValue, infinity, nan, isHexLiteral_of_literal literal negative,
    readDouble?_of_literal literal negative read, finite]

/-- Digits are read as an integer behind any sign. -/
theorem readInt?_of_literal (fraction : (NumberLayout.split written).fraction? = none)
    (exponent : (NumberLayout.split written).exponent? = none) :
    readInt? (signed negative written) =
      some ((NumberLayout.split written).integer negative) := by
  have whole := literal.eq_whole fraction exponent
  have digits : written.all isDigit = true := by
    rw [whole]
    exact (Json.spanDigits_eq written).1
  obtain ⟨first, more, given, digit⟩ := literal.exists_digit
  have noSign : first ≠ '-' ∧ first ≠ '+' :=
    @forall_isDigit (fun character => character ≠ '-' ∧ character ≠ '+') (by decide) first digit
  have read : readNat? written = some (digitsValue (NumberLayout.split written).whole) := by
    have nonempty : written ≠ [] := given ▸ List.cons_ne_nil first more
    rw [← whole]
    simp [readNat?, digits, nonempty]
  cases negative with
  | true => simp [signed, readInt?, read, NumberLayout.integer]
  | false =>
      rw [signed, if_neg Bool.false_ne_true]
      rw [given] at read ⊢
      simp [readInt?, noSign, read, NumberLayout.integer]

theorem freeValue_of_integer (fraction : (NumberLayout.split written).fraction? = none)
    (exponent : (NumberLayout.split written).exponent? = none) :
    freeValue (signed negative written) =
      if fitsInt64 ((NumberLayout.split written).integer negative) then
        .ok (.whole ((NumberLayout.split written).integer negative))
      else .error .integer := by
  have read : readInt64? (signed negative written) =
      if fitsInt64 ((NumberLayout.split written).integer negative) then
        some ((NumberLayout.split written).integer negative)
      else none := by
    rw [readInt64?, readInt?_of_literal literal negative fraction exponent, Option.filter_some]
  simp only [freeValue, isWhole_of_integer literal negative fraction exponent, if_true,
    isHexLiteral_of_literal literal negative, Bool.false_eq_true, if_false, read]
  cases fitsInt64 ((NumberLayout.split written).integer negative) <;> rfl

theorem freeValue_of_decimal (decimal : (NumberLayout.split written).fraction? ≠ none ∨
    (NumberLayout.split written).exponent? ≠ none) :
    freeValue (signed negative written) =
      (realValue (signed negative written)).map .real := by
  rw [freeValue, isWhole_of_decimal literal negative decimal]
  rfl

end Literal

/-! ## Agreement -/

theorem toDouble_integer {negative : Bool} {layout : NumberLayout}
    (nonzero : negative = true → layout.integer negative ≠ 0) :
    Double.ofDecimal negative (digitsValue layout.whole) 0 =
      .ofInt (layout.integer negative) := by
  have sign : decide (layout.integer negative < 0) = negative := by
    cases negative with
    | false =>
        simp [NumberLayout.integer]
    | true =>
        have nonzero := nonzero rfl
        simp only [NumberLayout.integer, if_true] at nonzero ⊢
        rw [decide_eq_true_iff]
        omega
  have absolute : (layout.integer negative).natAbs = digitsValue layout.whole := by
    cases negative <;> simp [NumberLayout.integer]
  rw [Double.ofDecimal_eq_ratio, Double.ofInt, sign, absolute]
  simp

/-- A literal that keeps its value in JSON has the same value in both formats. -/
theorem numeral_of_faithful {negative : Bool} {written : List Char} (literal : IsLiteral written)
    (faithful : (NumberLayout.split written).Faithful negative) :
    ∃ number, (NumberLayout.split written).value? negative = some number ∧
      numeral (signed negative written) = .ofNumber number := by
  have read := literal.readDecimal?
  unfold NumberLayout.Faithful at faithful
  split at faithful
  · rename_i integer
    obtain ⟨fraction, exponent⟩ := integer
    obtain ⟨fits, nonzero⟩ := faithful
    refine ⟨_, NumberLayout.value?_of_integer fraction exponent fits nonzero, ?_⟩
    have decimal :
        readDecimal? written = some ⟨digitsValue (NumberLayout.split written).whole, 0⟩ := by
      rw [read]
      simp [NumberLayout.decimals, NumberLayout.exponent, fraction, exponent]
    have small : digitsValue (NumberLayout.split written).whole < 2 ^ 64 := by
      rw [fitsInt64, Bool.and_eq_true, decide_eq_true_iff, decide_eq_true_iff, int64Min,
        int64Max, NumberLayout.integer] at fits
      split at fits <;> omega
    have finite : (Decimal.toDouble negative
        ⟨digitsValue (NumberLayout.split written).whole, 0⟩).isFinite = true :=
      Double.isFinite_ofDecimal small (by simp) negative
    have value := realValue_of_literal literal negative decimal finite
    have free := freeValue_of_integer literal negative fraction exponent
    rw [if_pos fits] at free
    rw [numeral, free, value, Decimal.toDouble, toDouble_integer nonzero]
    rfl
  · rename_i real
    obtain ⟨finite, value⟩ := faithful
    refine ⟨_, value, ?_⟩
    have value := realValue_of_literal literal negative read finite
    have free := freeValue_of_decimal literal negative (Decidable.not_and_iff_not_or_not.1 real)
    rw [numeral, free, value]
    rfl

/-- No number of JSON is split off as a hexadecimal literal. -/
theorem splitHex?_of_ended {characters : List Char}
    (ended : ∀ mark ∈ (NumberLayout.split characters).rest.head?, mark ≠ 'x' ∧ mark ≠ 'X') :
    splitHex? characters = none := by
  unfold splitHex?
  split
  · rename_i mark rest
    by_cases hexadecimal : mark = 'x' ∨ mark = 'X'
    · rw [NumberLayout.rest_of_hexadecimal hexadecimal] at ended
      exact absurd hexadecimal (not_or.2 (ended mark rfl))
    · rw [not_or] at hexadecimal
      simp [hexadecimal]
  · rfl

theorem take_of_append {characters written rest : List Char}
    (parts : characters = written ++ rest) :
    characters.take (characters.length - rest.length) = written := by
  simp [parts]

/-- A number of JSON is split off as a number of JSON5. -/
theorem splitNumber?_of_valid {characters written rest : List Char}
    (parts : characters = written ++ rest) (behind : (NumberLayout.split characters).rest = rest)
    (valid : (NumberLayout.split characters).fault? = none)
    (ended : ∀ mark ∈ rest.head?, mark ≠ 'x' ∧ mark ≠ 'X') :
    splitNumber? characters = some (written, rest) := by
  obtain ⟨whole, unpadded, fraction, exponent⟩ := NumberLayout.fault?_eq_none_iff.1 valid
  have taken : characters.take (characters.length - rest.length) = written := take_of_append parts
  have decimal : splitDecimal? characters = some (written, rest) := by
    unfold splitDecimal?
    simp only [behind, taken, exponent, if_false, whole]
    simp [unpadded]
  subst behind
  rw [splitNumber?, splitHex?_of_ended ended, decimal]
  rfl

/-- It has the same value there when it keeps its value in JSON. -/
theorem splitNumber?_of_scanNumber {negative : Bool} {characters tail : List Char}
    {number : Json.Number} (scanned : Json.scanNumber negative characters = (.ok number, tail))
    (ended : ∀ mark ∈ tail.head?, mark ≠ 'x' ∧ mark ≠ 'X')
    (faithful : (NumberLayout.split characters).Faithful negative) :
    ∃ written, splitNumber? characters = some (written, tail) ∧
      numeral (signed negative written) = .ofNumber number := by
  unfold Json.scanNumber at scanned
  simp only at scanned
  split at scanned
  · cases scanned
  rename_i valid
  split at scanned
  · rename_i found value
    cases scanned
    obtain ⟨written, parts, split⟩ := NumberLayout.exists_written characters
    have sound := NumberLayout.fault?_eq_none_iff.1 valid
    have literal : IsLiteral written := by
      constructor
      · rw [split]
      · rw [split, NumberLayout.fault?_eq_none_iff]
        exact sound
    have given : (NumberLayout.split written).Faithful negative := by
      rw [split]
      exact faithful
    obtain ⟨other, same, agreed⟩ := numeral_of_faithful literal given
    rw [split] at same
    cases value.symm.trans same
    exact ⟨written, splitNumber?_of_valid parts rfl valid ended, agreed⟩
  · cases scanned

end RadarRelay.Json5
