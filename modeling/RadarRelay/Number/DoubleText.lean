import RadarRelay.Number.Decimal
import RadarRelay.Number.Double

/-!
# Decimal text of doubles

A finite double is written with the fewest digits that read back as the same
double; among equally short candidates the nearest one is taken. The candidates
of a given length are the two neighbours of the value on the decimal grid of
that length, so the search tries lengths in turn and asks of each neighbour
whether it reads back. A `Style` decides the rest: which way an exact tie goes,
which magnitudes are written without an exponent, and whether a whole number
keeps `.0`.
-/

namespace RadarRelay.Number

/-- A positive decimal number `coefficient * 10 ^ exponent`. -/
structure Decimal where
  coefficient : Nat
  exponent : Int
  deriving DecidableEq, Repr

/-- Which neighbour is taken when both are equally near. -/
inductive Tie where
  | up
  | even
  deriving DecidableEq

namespace Decimal

/-- The double nearest to a decimal number. -/
def toDouble (negative : Bool) (decimal : Decimal) : Double :=
  Double.ofDecimal negative decimal.coefficient decimal.exponent

/-- Moves trailing zeros of the coefficient into the exponent. -/
def strip (coefficient : Nat) (exponent : Int) : Decimal :=
  if divisible : coefficient ≠ 0 ∧ coefficient % 10 = 0 then
    strip (coefficient / 10) (exponent + 1)
  else ⟨coefficient, exponent⟩
termination_by coefficient
decreasing_by omega

/-- Exponent of the leading decimal digit of a positive number of units. -/
def leadingExponent (units : Nat) : Int :=
  if unitsPerOne ≤ units then (digits (units / unitsPerOne)).length - 1
  else
    let inverse := (unitsPerOne + units - 1) / units
    Int.neg (digits (inverse - 1)).length

/-- Candidates with the given grid exponent: the neighbours of the value that read back, the
preferred one first. -/
def neighbours (tie : Tie) (magnitude : Magnitude) (exponent : Int) : List Decimal :=
  let (numerator, denominator) :=
    match exponent with
    | .ofNat up => (magnitude.units, unitsPerOne * Nat.pow 10 up)
    | .negSucc below => (magnitude.units * Nat.pow 10 (below + 1), unitsPerOne)
  let below := numerator / denominator
  let remainder := numerator % denominator
  let preferAbove :=
    denominator < 2 * remainder ||
      (2 * remainder == denominator && (tie == .up || below % 2 == 1))
  let lower := strip below exponent
  let upper := strip (below + 1) exponent
  let ordered := if preferAbove then [upper, lower] else [lower, upper]
  ordered.filter fun decimal => decimal.toDouble false == .finite false magnitude

/-- The exact decimal value, which always reads back. -/
def exact (magnitude : Magnitude) : Decimal :=
  strip (magnitude.units * Nat.pow 5 1074) (-1074)

/-- The shortest decimal number that reads back. -/
def shortest (tie : Tie) (magnitude : Magnitude) : Decimal :=
  let leading := leadingExponent magnitude.units
  let grids := (List.range 17).map fun (length : Nat) => leading - (length : Int)
  match (grids.flatMap (neighbours tie magnitude)).head? with
  | some decimal => decimal
  | none => exact magnitude

end Decimal

/-- How a double is laid out. -/
structure Style where
  tie : Tie
  /-- Whether a number with this leading decimal exponent is written without an exponent. -/
  positional : Int → Bool
  /-- Whether a whole number written without an exponent keeps `.0`. -/
  pointZero : Bool

namespace Style

/-- Messages and expressions write every number out in full. -/
def plain : Style := ⟨.up, fun _ => true, false⟩

/-- Like `plain`, but a whole number stays recognisable as floating point. -/
def pointed : Style := ⟨.up, fun _ => true, true⟩

/-- Documents write very small and very large numbers with an exponent. -/
def document : Style := ⟨.even, fun leading => -5 ≤ leading && leading ≤ 15, true⟩

/-- Digits without an exponent, the point placed `shift` digits from the right. -/
def positionalText (style : Style) (written : List Char) (exponent : Int) : List Char :=
  match exponent with
  | .ofNat up =>
      written ++ List.replicate up '0' ++ if style.pointZero then ['.', '0'] else []
  | .negSucc below =>
      let places := below + 1
      if places < written.length then
        written.take (written.length - places) ++ '.' :: written.drop (written.length - places)
      else '0' :: '.' :: (List.replicate (places - written.length) '0' ++ written)

/-- One digit, the remaining digits behind a point, and a signed exponent. -/
def scientificText (written : List Char) (leading : Int) : List Char :=
  let fraction := match written.drop 1 with
    | [] => []
    | rest => '.' :: rest
  let sign := if leading < 0 then '-' else '+'
  written.take 1 ++ fraction ++ 'e' :: sign :: digits leading.natAbs

/-- The text of a positive decimal number. -/
def decimalText (style : Style) (decimal : Decimal) : List Char :=
  let written := digits decimal.coefficient
  let leading := decimal.exponent + ((written.length : Int) - 1)
  if style.positional leading then style.positionalText written decimal.exponent
  else scientificText written leading

/-- The text of a double. -/
def text (style : Style) : Double → String
  | .nan => "NaN"
  | .infinite negative => if negative then "-inf" else "inf"
  | .finite negative magnitude =>
      let sign := if negative then ['-'] else []
      let written :=
        if magnitude.units = 0 then style.positionalText ['0'] 0
        else style.decimalText (Decimal.shortest style.tie magnitude)
      String.ofList (sign ++ written)

end Style

/-! ## Reading -/

/-- Splits off the digits at the start of a text. -/
def spanDigits (characters : List Char) : List Char × List Char :=
  (characters.takeWhile isDigit, characters.dropWhile isDigit)

/-- An exponent part: a mark, an optional sign and at least one digit. -/
def readExponent? : List Char → Option Int
  | mark :: rest =>
      if mark == 'e' || mark == 'E' then
        match rest with
        | '-' :: tail => (readNat? tail).map fun number => -(number : Int)
        | '+' :: tail => (readNat? tail).map fun number => (number : Int)
        | tail => (readNat? tail).map fun number => (number : Int)
      else none
  | [] => some 0

/-- An unsigned decimal number: digits, an optional fraction and an optional exponent, with at
least one digit before or behind the point. -/
def readDecimal? (characters : List Char) : Option Decimal := do
  let (whole, afterWhole) := spanDigits characters
  let (fraction, tail) := match afterWhole with
    | '.' :: rest => spanDigits rest
    | rest => ([], rest)
  if whole = [] && fraction = [] then none
  let exponent ← readExponent? tail
  return ⟨digitsValue (whole ++ fraction), exponent - fraction.length⟩

/-- Reads an unsigned number or one of the words for infinity and not-a-number, in any case. -/
def readUnsigned? (negative : Bool) (characters : List Char) : Option Double :=
  let lower := characters.map Char.toLower
  if lower = ['i', 'n', 'f'] || lower = ['i', 'n', 'f', 'i', 'n', 'i', 't', 'y'] then
    some (.infinite negative)
  else if lower = ['n', 'a', 'n'] then some .nan
  else (readDecimal? characters).map (·.toDouble negative)

/-- Reads a number with an optional sign, rounded to the nearest double. -/
def readDouble? : List Char → Option Double
  | '-' :: rest => readUnsigned? true rest
  | '+' :: rest => readUnsigned? false rest
  | characters => readUnsigned? false characters

/-- A candidate reads back as the value it stands for. -/
theorem Decimal.toDouble_of_mem_neighbours {tie : Tie} {magnitude : Magnitude} {exponent : Int}
    {decimal : Decimal} (candidate : decimal ∈ Decimal.neighbours tie magnitude exponent) :
    decimal.toDouble false = .finite false magnitude := by
  unfold Decimal.neighbours at candidate
  simpa using (List.mem_filter.1 candidate).2

end RadarRelay.Number
