import RadarRelay.Json.Printer
import RadarRelay.Proofs.Document.Printed
import RadarRelay.Proofs.Json5.Literals

/-!
# Numbers written in JSON5

A literal that is written as documents write numbers is one token, up to whatever ends
it. It has the value it was written for: integers of 64 bits and finite doubles are read
back where any value may stand, and a double where a number is required.
-/

namespace RadarRelay.Json5

open RadarRelay.Number RadarRelay.Document
open RadarRelay.Json (NumberLayout)

variable {text : DecimalText} {rest : List Char}

/-- A literal is split off as far as it goes. -/
theorem splitNumber?_characters (tidy : text.Tidy) (delimited : Delimited rest) :
    splitNumber? (text.characters ++ rest) = some (text.characters, rest) := by
  have split := DecimalText.split_characters tidy delimited
  refine splitNumber?_of_valid rfl ?behind ?valid ?ended
  case behind => rw [split]
  case valid =>
    rw [split]
    exact Json.fault?_of_tidy tidy
  case ended => exact delimited.head (by decide) (by decide) (by decide)

/-- A literal is the double that it denotes, where a number is required. -/
theorem realValue_signed (tidy : text.Tidy) {negative : Bool} {magnitude : Magnitude}
    (value : text.decimal.toDouble negative = .finite negative magnitude) :
    realValue (text.signed negative) = .ok (.finite negative magnitude) := by
  have literal := Json.isLiteral_of_tidy tidy
  have read : readDecimal? text.characters = some text.decimal := by
    rw [literal.readDecimal?, Json.split_of_tidy tidy]
    rfl
  rw [← value]
  exact realValue_of_literal literal negative read (by rw [value]; rfl)

/-! ## Numbers of documents -/

/-- An integer is read back where any value may stand, if it has 64 bits with a sign. -/
theorem freeValue_print (value : Int) :
    freeValue (Json.Number.whole value).print =
      if fitsInt64 value then .ok (.whole value) else .error .integer := by
  have tidy := DecimalText.tidy_ofNat value.natAbs
  have split := Json.split_of_tidy tidy
  have same : (NumberLayout.split (DecimalText.ofNat value.natAbs).characters).integer
      (decide (value < 0)) = value := by
    rw [split]
    simp only [NumberLayout.integer, DecimalText.ofNat, digitsValue_digits, decide_eq_true_eq]
    split <;> omega
  have read := freeValue_of_integer (Json.isLiteral_of_tidy tidy) (decide (value < 0))
    (by rw [split]; rfl) (by rw [split]; rfl)
  rw [same] at read
  rw [Json.Number.print, toList_intText]
  exact read

theorem freeValue_whole {value : Int} (fits : fitsInt64 value = true) :
    freeValue (Json.Number.whole value).print = .ok (.whole value) := by
  rw [freeValue_print, if_pos fits]

/-- A finite double is read back where any value may stand. -/
theorem freeValue_real {value : Double} (finite : value.isFinite = true) :
    freeValue (Json.Number.real value).print = .ok (.real value) := by
  cases value with
  | nan | infinite => cases finite
  | finite negative magnitude =>
      obtain ⟨text, tidy, real, written, value⟩ := Style.exists_text_document negative magnitude
      have decimal : freeValue (text.signed negative) =
          (realValue (text.signed negative)).map .real :=
        freeValue_of_decimal (Json.isLiteral_of_tidy tidy) negative (by rwa [Json.split_of_tidy tidy])
      rw [Json.Number.print, if_pos finite, written, decimal, realValue_signed tidy value]
      rfl

/-- A natural number that its double gives back is read as that double, where a number is
required. -/
theorem realValue_natural {number : Nat} (finite : (Double.ofInt number).isFinite = true) :
    realValue (Json.Number.whole number).print = .ok (.ofInt number) := by
  have tidy := DecimalText.tidy_ofNat number
  have unsigned : decide ((number : Int) < 0) = false :=
    decide_eq_false (Int.not_lt.2 (Int.natCast_nonneg _))
  have value : (DecimalText.ofNat number).decimal.toDouble false = .ofInt number := by
    rw [DecimalText.decimal_ofNat, Double.ofInt, Int.natAbs_natCast, unsigned]
    by_cases none : number = 0
    · rw [none, Nat.zero_mul]
      rfl
    · rw [Decimal.toDouble, Double.ofDecimal_eq_ofRatio _ none]
      simp
  cases double : Double.ofInt number with
  | nan | infinite =>
      rw [double] at finite
      cases finite
  | finite negative magnitude =>
      have positive : negative = false := by
        rw [Double.ofInt, unsigned, Double.ofRatio] at double
        split at double <;> cases double
        rfl
      subst positive
      rw [Json.Number.print, toList_intText, Int.natAbs_natCast, unsigned]
      exact realValue_signed tidy (value.trans double)

/-- A number that begins with a digit is one token. -/
theorem scanToken_digit {character : Char} {rest tail written : List Char}
    (digit : isDigit character = true)
    (split : splitNumber? (character :: rest) = some (written, tail))
    (shorter : tail.length ≤ rest.length) :
    scanToken character rest = (.number (numeral written), tail) := by
  have other : character ∉ ['[', ']', '\x7b', '\x7d', ',', ':'] ∧
      character ∉ ['"', '\'', '+', '-'] :=
    @forall_isDigit (fun character => character ∉ ['[', ']', '\x7b', '\x7d', ',', ':'] ∧
      character ∉ ['"', '\'', '+', '-']) (by decide) character digit
  obtain ⟨noToken, noMark⟩ := other
  simp only [List.mem_cons, not_or] at noMark
  simp [scanToken, Token.punctuation?_eq_none noToken, noMark, digit, split, shorter]

/-- A literal is one token. -/
theorem tokens_signed (tidy : text.Tidy) (negative : Bool) (delimited : Delimited rest) :
    tokens (text.signed negative ++ rest) =
      .number (numeral (text.signed negative)) :: tokens rest := by
  have split := splitNumber?_characters tidy delimited
  cases negative with
  | true =>
      have scanned : scanToken '-' (text.characters ++ rest) =
          (.number (numeral ('-' :: text.characters)), rest) := by
        simp [scanToken, Token.punctuation?, split]
      have started : isBlank '-' = false := rfl
      rw [DecimalText.signed, if_pos rfl, List.cons_append, tokens, started, scanned]
      rfl
  | false =>
      obtain ⟨first, more, written, digit⟩ := text.exists_digit_characters tidy
      rw [DecimalText.signed, if_neg Bool.false_ne_true]
      rw [written, List.cons_append] at split ⊢
      have started : isBlank first = false ∧ first ≠ '/' :=
        @forall_isDigit (fun character => isBlank character = false ∧ character ≠ '/')
          (by decide) first digit
      rw [tokens, started.1, if_neg Bool.false_ne_true, if_neg started.2,
        scanToken_digit digit split (by simp)]

end RadarRelay.Json5
