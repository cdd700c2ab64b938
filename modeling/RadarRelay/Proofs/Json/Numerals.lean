import RadarRelay.Json.Printer
import RadarRelay.Json.Reader
import RadarRelay.Proofs.Document.Printed
import RadarRelay.Proofs.Json.Literals

/-!
# Numbers written in JSON

A literal that is written as documents write numbers is one token, up to whatever ends it, and
whole numbers of 64 bits, signed or unsigned, are found again. So are zeros of either sign,
which are doubles.
-/

namespace RadarRelay.Json

open RadarRelay.Number RadarRelay.Document

variable {text : DecimalText} {rest : List Char}

/-- The digits of an absolute value of 64 bits are that number again. -/
theorem wholeNumber?_digits {value : Int} (least : int64Min ≤ value) (greatest : value ≤ nat64Max) :
    wholeNumber? (decide (value < 0)) (digits value.natAbs) = some (.whole value) := by
  have fits : value.natAbs ≤ nat64Max := by
    unfold int64Min at least
    unfold nat64Max at greatest ⊢
    omega
  unfold wholeNumber?
  rw [foldl_addWhole (by rwa [digitsValue_digits]), digitsValue_digits]
  by_cases negative : value < 0
  · have inside : 0 < value.natAbs ∧ value.natAbs ≤ 0x8000_0000_0000_0000 := by
      unfold int64Min at least
      omega
    have same : -(value.natAbs : Int) = value := by omega
    simp only [negative, inside, same]
    rfl
  · have same : (value.natAbs : Int) = value := by omega
    simp only [negative, same]
    rfl

/-- The literal of a zero that is a double. -/
def zeroText : DecimalText := ⟨['0'], some ['0'], none⟩

theorem tidy_zeroText : zeroText.Tidy where
  whole_digits := rfl
  whole_ne_nil := nofun
  unpadded := fun _ => rfl
  fraction := by
    rintro _ ⟨⟩
    exact ⟨rfl, nofun⟩
  exponent := nofun

theorem exists_eq_zero {value : Double} (zero : value.isZero = true) :
    ∃ negative, value = .zero negative := by
  cases value with
  | nan => cases zero
  | infinite negative =>
      cases negative <;> simp [Double.isZero, Double.place?, unitsLimit_pos.ne'] at zero
  | finite negative magnitude =>
      have none : magnitude.units = 0 := by
        cases negative <;> simpa [Double.isZero, Double.place?, Double.signedUnits] using zero
      exact ⟨negative, by rw [← Double.ofRatio_units, none]; rfl⟩

/-- A number that is found again in what is written for it: a whole number of 64 bits, signed or
unsigned, or a zero of either sign. -/
def Number.Exact : Number → Prop
  | whole value => int64Min ≤ value ∧ value ≤ nat64Max
  | real value => value.isZero = true

/-- A number is written as a literal that stands for the number. -/
theorem Number.Exact.exists_text {number : Number} (exact : number.Exact) :
    ∃ (text : DecimalText) (negative : Bool), text.Tidy ∧ number.print = text.signed negative ∧
      ∀ rest, NumberLayout.value? ⟨text.whole, text.fraction?, text.exponent?, rest⟩ negative =
        some number := by
  cases number with
  | whole value =>
      exact ⟨_, _, DecimalText.tidy_ofNat value.natAbs, toList_intText value,
        fun _ => wholeNumber?_digits exact.1 exact.2⟩
  | real value =>
      obtain ⟨negative, rfl⟩ := exists_eq_zero exact
      refine ⟨zeroText, negative, tidy_zeroText, ?_, fun rest => ?_⟩
      · cases negative <;> decide +kernel
      · have value : realNumber? negative ['0'] ['0'] 0 = some (.real (.zero negative)) := by
          cases negative <;> decide +kernel
        exact value

/-- A literal that stands for a number is one token. -/
theorem tokens_signed (tidy : text.Tidy) (negative : Bool) (delimited : Delimited rest)
    {number : Number}
    (value : NumberLayout.value? ⟨text.whole, text.fraction?, text.exponent?, rest⟩ negative =
      some number) :
    tokens (text.signed negative ++ rest) = .number (.ofNumber number) :: tokens rest := by
  have scanned : scanNumber negative (text.characters ++ rest) = (.ok number, rest) := by
    simp only [scanNumber, DecimalText.split_characters tidy delimited, fault?_of_tidy tidy, value]
  cases negative with
  | true =>
      rw [DecimalText.signed, if_pos rfl, List.cons_append, tokens]
      simp [isBlank, scanToken, Token.punctuation?, scanned]
  | false =>
      obtain ⟨first, more, written, digit⟩ := text.exists_digit_characters tidy
      have other : first ∉ ['[', ']', '\x7b', '\x7d', ',', ':'] ∧ first ≠ '"' ∧ first ≠ '-' ∧
          isBlank first = false :=
        @forall_isDigit (fun character => character ∉ ['[', ']', '\x7b', '\x7d', ',', ':'] ∧
          character ≠ '"' ∧ character ≠ '-' ∧ isBlank character = false) (by decide) first digit
      obtain ⟨noToken, noQuote, noMinus, started⟩ := other
      rw [DecimalText.signed, if_neg Bool.false_ne_true]
      rw [written, List.cons_append] at scanned ⊢
      rw [tokens]
      simp [started, scanToken, Token.punctuation?_eq_none noToken, noQuote, noMinus, digit,
        scanned]

end RadarRelay.Json
