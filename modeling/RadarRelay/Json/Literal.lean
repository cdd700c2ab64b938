import RadarRelay.Document.Outline
import RadarRelay.Number.DoubleText

/-!
# JSON literals

Scanners for string and number literals. Each returns what it read, or the
fault that it met, together with the characters behind it; the length lemmas
say that scanning never lengthens the text.

A number without fraction and exponent is whole when it fits 64 bits, unsigned
without a minus sign and signed with one; `-0` is the double of that sign. Any
other number is a double: its leading digits, as many as fit 64 bits, are
scaled by a power of ten with one rounding for each step, so the result can
differ from the nearest double in its last bit.
-/

namespace RadarRelay.Json

open RadarRelay.Number RadarRelay.Document

/-! ## Strings -/

/-- Where a scanner stands inside a string literal. -/
inductive Escape where
  | plain
  | backslash
  /-- Inside the four hexadecimal digits of an escape, which may follow a leading surrogate. -/
  | unicode (lead : Option Nat) (count value : Nat)
  /-- Behind a leading surrogate, before the backslash of its partner. -/
  | lead (surrogate : Nat)
  /-- Behind that backslash. -/
  | leadBackslash (surrogate : Nat)

/-- The value of a hexadecimal digit of either case. -/
def hexValue? (character : Char) : Option Nat :=
  let code := character.toNat
  if '0' ≤ character && character ≤ '9' then some (code - '0'.toNat)
  else if 'a' ≤ character && character ≤ 'f' then some (code - 'a'.toNat + 10)
  else if 'A' ≤ character && character ≤ 'F' then some (code - 'A'.toNat + 10)
  else none

/-- The character that a one-letter escape stands for. -/
def simpleEscape? : Char → Option Char
  | '"' => some '"'
  | '\\' => some '\\'
  | '/' => some '/'
  | 'b' => some '\x08'
  | 'f' => some '\x0c'
  | 'n' => some '\n'
  | 'r' => some '\r'
  | 't' => some '\t'
  | _ => none

def isLeadSurrogate (unit : Nat) : Bool := 0xD800 ≤ unit && unit ≤ 0xDBFF

def isTrailSurrogate (unit : Nat) : Bool := 0xDC00 ≤ unit && unit ≤ 0xDFFF

/-- The character of a surrogate pair. -/
def joinSurrogates (lead trail : Nat) : Char :=
  Char.ofNat ((lead - 0xD800) * 0x400 + (trail - 0xDC00) + 0x10000)

/-- What a completed escape of four digits does. -/
inductive Unit16 where
  | character (value : Char)
  | lead (surrogate : Nat)
  | fault (fault : SyntaxFault)

/-- A unit on its own is a character or a leading surrogate; behind a leading surrogate it has
to be a trailing one. -/
def unit16 : Option Nat → Nat → Unit16
  | none, unit =>
      if isTrailSurrogate unit then .fault .loneSurrogate
      else if isLeadSurrogate unit then .lead unit
      else .character (Char.ofNat unit)
  | some lead, unit =>
      if isTrailSurrogate unit then .character (joinSurrogates lead unit)
      else .fault .loneSurrogate

/-- The number of bytes of a text. -/
def byteCount (characters : List Char) : Nat :=
  characters.foldl (fun count character => count + character.utf8Size) 0

/-- Scans a string literal behind its opening quote. -/
def scanString : Escape → List Char → List Char → Except SyntaxFault String × List Char
  | _, _, [] => (.error .endInString, [])
  | .plain, content, character :: rest =>
      if character = '"' then (.ok (String.ofList content.reverse), rest)
      else if character = '\\' then scanString .backslash content rest
      else if character.toNat < 0x20 then (.error .controlCharacter, rest)
      else scanString .plain (character :: content) rest
  | .backslash, content, character :: rest =>
      if character = 'u' then scanString (.unicode none 0 0) content rest
      else
        match simpleEscape? character with
        | some meant => scanString .plain (meant :: content) rest
        | none => (.error .invalidEscape, rest)
  | .unicode lead count value, content, character :: rest =>
      match hexValue? character with
      | none =>
          if byteCount (character :: rest) + count < 4 then (.error .endInString, rest)
          else (.error .invalidEscape, rest)
      | some digit =>
          let unit := value * 16 + digit
          if count < 3 then scanString (.unicode lead (count + 1) unit) content rest
          else
            match unit16 lead unit with
            | .character meant => scanString .plain (meant :: content) rest
            | .lead surrogate => scanString (.lead surrogate) content rest
            | .fault fault => (.error fault, rest)
  | .lead surrogate, content, character :: rest =>
      if character = '\\' then scanString (.leadBackslash surrogate) content rest
      else (.error .unexpectedEndOfEscape, rest)
  | .leadBackslash surrogate, content, character :: rest =>
      if character = 'u' then scanString (.unicode (some surrogate) 0 0) content rest
      else (.error .unexpectedEndOfEscape, rest)

theorem length_scanString_le (escape : Escape) (content characters : List Char) :
    (scanString escape content characters).2.length ≤ characters.length := by
  fun_induction scanString escape content characters <;> simp_all <;> omega

/-! ## Numbers -/

/-- Digits gathered into a number of 64 bits, with the power of ten to scale it by. -/
structure Scaled where
  significand : Nat
  exponent : Int
  /-- Whether a digit did not fit any more. -/
  full : Bool

/-- Takes a digit in front of the point. One that does not fit only counts as a power of ten, and
so do all that follow it. -/
def Scaled.addWhole (scaled : Scaled) (digit : Char) : Scaled :=
  let next := scaled.significand * 10 + digitValue digit
  if !scaled.full && next ≤ nat64Max then { scaled with significand := next }
  else { scaled with exponent := scaled.exponent + 1, full := true }

/-- Takes a digit behind the point. One that does not fit is dropped, and so are all that follow
it. -/
def Scaled.addFraction (scaled : Scaled) (digit : Char) : Scaled :=
  let next := scaled.significand * 10 + digitValue digit
  if !scaled.full && next ≤ nat64Max then
    { scaled with significand := next, exponent := scaled.exponent - 1 }
  else { scaled with full := true }

/-- The double nearest to a power of ten. -/
def powerOfTen (exponent : Nat) : Double :=
  Double.ofDecimal false 1 exponent

/-- Divides by a power of ten in steps that have a finite divisor. -/
def scaleDown (value : Double) (exponent : Nat) : Double :=
  if exponent ≤ 308 then value.div (powerOfTen exponent)
  else if value.isZero then value
  else scaleDown (value.div (powerOfTen 308)) (exponent - 308)
termination_by exponent

/-- The scaled double, unless it is too large. -/
def Scaled.toDouble? (scaled : Scaled) (negative : Bool) : Option Double :=
  let value := Double.ofInt scaled.significand
  let signed := fun result : Double => if negative then result.neg else result
  match scaled.exponent with
  | .ofNat up =>
      if value.isZero then some (signed value)
      else if up ≤ 308 then
        let product := value.mul (powerOfTen up)
        if product.isFinite then some (signed product) else none
      else none
  | .negSucc below => some (signed (scaleDown value (below + 1)))

/-- A literal without fraction and exponent. -/
def wholeNumber? (negative : Bool) (whole : List Char) : Option Number :=
  let scaled := whole.foldl Scaled.addWhole ⟨0, 0, false⟩
  let value := digitsValue whole
  if scaled.full then (scaled.toDouble? negative).map .real
  else if !negative then some (.whole value)
  else if 0 < value && value ≤ 0x8000_0000_0000_0000 then some (.whole (-(value : Int)))
  else some (.real (Double.ofInt value).neg)

/-- A literal with a fraction or an exponent. -/
def realNumber? (negative : Bool) (whole fraction : List Char) (exponent : Int) : Option Number :=
  let front := whole.foldl Scaled.addWhole ⟨0, 0, false⟩
  let scaled := fraction.foldl Scaled.addFraction { front with full := false }
  ({ scaled with exponent := scaled.exponent + exponent }.toDouble? negative).map .real

/-- The parts of a number literal as they stand in the text, each as long as possible. -/
structure NumberLayout where
  whole : List Char
  /-- The digits behind a point. -/
  fraction? : Option (List Char)
  /-- The sign and digits behind an exponent mark. -/
  exponent? : Option (Bool × List Char)
  rest : List Char

/-- Splits off a sign. -/
def splitSign : List Char → Bool × List Char
  | '-' :: rest => (true, rest)
  | '+' :: rest => (false, rest)
  | rest => (false, rest)

/-- Splits off a point and the digits behind it. -/
def splitFraction : List Char → Option (List Char) × List Char
  | '.' :: rest => (some (spanDigits rest).1, (spanDigits rest).2)
  | rest => (none, rest)

/-- Splits off an exponent mark with the sign and digits behind it. -/
def splitExponent (characters : List Char) : Option (Bool × List Char) × List Char :=
  match characters with
  | mark :: rest =>
      if mark == 'e' || mark == 'E' then
        let signed := splitSign rest
        (some (signed.1, (spanDigits signed.2).1), (spanDigits signed.2).2)
      else (none, characters)
  | [] => (none, [])

namespace NumberLayout

/-- Splits an unsigned number off a text. -/
def split (characters : List Char) : NumberLayout :=
  let afterWhole := (spanDigits characters).2
  let afterFraction := (splitFraction afterWhole).2
  { whole := (spanDigits characters).1
    fraction? := (splitFraction afterWhole).1
    exponent? := (splitExponent afterFraction).1
    rest := (splitExponent afterFraction).2 }

/-- What is wrong with a literal: digits are missing, at the end of the text or in front of
something else, or there are zeros in front of it. -/
def fault? (layout : NumberLayout) : Option SyntaxFault :=
  let missing := fun atEnd : Bool =>
    some (if atEnd && layout.rest.isEmpty then SyntaxFault.endInValue else .invalidNumber)
  if layout.whole = [] then missing (layout.fraction?.isNone && layout.exponent?.isNone)
  else if layout.whole.head? = some '0' ∧ layout.whole.length ≠ 1 then some .invalidNumber
  else if layout.fraction? = some [] then missing layout.exponent?.isNone
  else if layout.exponent?.map Prod.snd = some [] then missing true
  else none

/-- The power of ten that the exponent part stands for. -/
def exponent (layout : NumberLayout) : Int :=
  match layout.exponent? with
  | some (negative, written) =>
      if negative then -(digitsValue written : Int) else digitsValue written
  | none => 0

/-- The number that a literal denotes. -/
def value? (layout : NumberLayout) (negative : Bool) : Option Number :=
  match layout.fraction?, layout.exponent? with
  | none, none => wholeNumber? negative layout.whole
  | _, _ => realNumber? negative layout.whole (layout.fraction?.getD []) layout.exponent

end NumberLayout

/-- Scans an unsigned number. -/
def scanNumber (negative : Bool) (characters : List Char) : Except SyntaxFault Number × List Char :=
  let layout := NumberLayout.split characters
  match layout.fault? with
  | some fault => (.error fault, layout.rest)
  | none =>
      match layout.value? negative with
      | some found => (.ok found, layout.rest)
      | none => (.error .numberOutOfRange, layout.rest)

theorem length_spanDigits_le (characters : List Char) :
    (spanDigits characters).2.length ≤ characters.length := by
  simpa [spanDigits] using (List.dropWhile_sublist (p := isDigit) (l := characters)).length_le

theorem length_splitSign_le (characters : List Char) :
    (splitSign characters).2.length ≤ characters.length := by
  unfold splitSign
  split <;> simp

theorem length_splitFraction_le (characters : List Char) :
    (splitFraction characters).2.length ≤ characters.length := by
  unfold splitFraction
  split
  · rename_i rest
    have := length_spanDigits_le rest
    simp
    omega
  · simp

theorem length_splitExponent_le (characters : List Char) :
    (splitExponent characters).2.length ≤ characters.length := by
  unfold splitExponent
  split
  · rename_i mark rest
    split
    · have first := length_spanDigits_le (splitSign rest).2
      have second := length_splitSign_le rest
      simp
      omega
    · simp
  · simp

theorem length_scanNumber_le (negative : Bool) (characters : List Char) :
    (scanNumber negative characters).2.length ≤ (spanDigits characters).2.length := by
  have same : (scanNumber negative characters).2 = (NumberLayout.split characters).rest := by
    unfold scanNumber
    simp only
    split
    · rfl
    · split <;> rfl
  rw [same]
  exact Nat.le_trans (length_splitExponent_le _) (length_splitFraction_le _)

/-- A number that starts with a digit takes at least that digit. -/
theorem length_scanNumber_cons_le (negative : Bool) {first : Char} (rest : List Char)
    (digit : isDigit first = true) :
    (scanNumber negative (first :: rest)).2.length ≤ rest.length := by
  refine Nat.le_trans (length_scanNumber_le negative _) ?_
  have : (spanDigits (first :: rest)).2 = (spanDigits rest).2 := by
    simp [spanDigits, digit]
  rw [this]
  exact length_spanDigits_le rest

end RadarRelay.Json
