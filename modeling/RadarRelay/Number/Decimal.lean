/-!
# Decimal digits of whole numbers

`digits` writes a natural number without leading zeros and `digitsValue` reads
a run of digits, so that reading what was written gives the number back.
Integers carry a sign in front of their digits.
-/

namespace RadarRelay.Number

/-- The character of a decimal digit. -/
def digitChar (digit : Nat) : Char :=
  Char.ofNat ('0'.toNat + digit)

/-- The value of an ASCII decimal digit. -/
def digitValue (character : Char) : Nat :=
  character.toNat - '0'.toNat

/-- Only the ten ASCII digits count as digits. -/
def isDigit (character : Char) : Bool :=
  '0' ≤ character && character ≤ '9'

/-- Decimal digits of a natural number, most significant first. -/
def digits (number : Nat) : List Char :=
  if number < 10 then [digitChar number]
  else digits (number / 10) ++ [digitChar (number % 10)]
termination_by number

/-- The number that a run of digits stands for; no digits stand for zero. -/
def digitsValue (characters : List Char) : Nat :=
  characters.foldl (fun value character => 10 * value + digitValue character) 0

/-- A natural number as text. -/
def natText (number : Nat) : String :=
  String.ofList (digits number)

/-- An integer as text: a minus sign only when it is negative. -/
def intText (number : Int) : String :=
  if number < 0 then "-" ++ natText number.natAbs else natText number.natAbs

/-- A natural number with leading zeros up to a width. -/
def paddedText (width number : Nat) : String :=
  let written := digits number
  String.ofList (List.replicate (width - written.length) '0' ++ written)

theorem digitValue_digitChar {digit : Nat} (small : digit < 10) :
    digitValue (digitChar digit) = digit := by
  revert digit
  decide

theorem isDigit_digitChar {digit : Nat} (small : digit < 10) :
    isDigit (digitChar digit) = true := by
  revert digit
  decide

theorem digitsValue_append_single (front : List Char) (character : Char) :
    digitsValue (front ++ [character]) = 10 * digitsValue front + digitValue character := by
  simp [digitsValue]

/-- Reading the digits of a number gives the number back. -/
@[simp] theorem digitsValue_digits (number : Nat) : digitsValue (digits number) = number := by
  induction number using Nat.strongRecOn with
  | ind number ih =>
      rw [digits]
      split
      · rename_i small
        simp [digitsValue, digitValue_digitChar small]
      · rw [digitsValue_append_single, ih _ (by omega),
          digitValue_digitChar (Nat.mod_lt _ (by decide))]
        omega

/-- What is written consists of digits. -/
theorem all_isDigit_digits (number : Nat) : (digits number).all isDigit = true := by
  induction number using Nat.strongRecOn with
  | ind number ih =>
      rw [digits]
      split
      · rename_i small
        simp [isDigit_digitChar small]
      · simp [ih _ (by omega : number / 10 < number),
          isDigit_digitChar (Nat.mod_lt number (by decide : 0 < 10))]

theorem digits_ne_nil (number : Nat) : digits number ≠ [] := by
  rw [digits]
  split <;> simp

/-- The least and greatest integers of 64 bits. -/
def int64Min : Int := -0x8000_0000_0000_0000

@[inherit_doc int64Min]
def int64Max : Int := 0x7fff_ffff_ffff_ffff

/-- The greatest natural number of 64 bits. -/
def nat64Max : Nat := 0xffff_ffff_ffff_ffff

/-- Whether an integer is one of 64 bits. -/
def fitsInt64 (number : Int) : Bool :=
  int64Min ≤ number && number ≤ int64Max

/-- Whether an integer is one of 32 bits. -/
def fitsInt32 (number : Int) : Bool :=
  -0x8000_0000 ≤ number && number ≤ 0x7fff_ffff

/-- An unsigned run of at least one digit. -/
def readNat? (characters : List Char) : Option Nat :=
  if characters ≠ [] && characters.all isDigit then some (digitsValue characters) else none

/-- An integer with an optional sign, `+` included. -/
def readInt? : List Char → Option Int
  | '-' :: rest => (readNat? rest).map fun number => -(number : Int)
  | '+' :: rest => (readNat? rest).map fun number => (number : Int)
  | characters => (readNat? characters).map fun number => (number : Int)

/-- An integer of 64 bits; a number outside that range is not read. -/
def readInt64? (characters : List Char) : Option Int :=
  (readInt? characters).filter fitsInt64

end RadarRelay.Number
