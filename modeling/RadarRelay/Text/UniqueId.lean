/-!
# Unique ids

Ids that no two things share are numbers of 122 bits in the form of 32
hexadecimal digits in five groups. The first digit of the third group is 4, and
the first of the fourth group is one of 8, 9, a and b.
-/

namespace RadarRelay.Text

/-- The last digits of a number to base 16. -/
def hexText : Nat → Nat → String
  | 0, _ => ""
  | width + 1, number => hexText width (number / 16) ++ String.singleton (number % 16).digitChar

/-- The id of a number below 2^122. -/
def uniqueId (number : Nat) : String :=
  hexText 8 (number >>> 90) ++ "-" ++ hexText 4 (number >>> 74) ++ "-4" ++
    hexText 3 (number >>> 62) ++ "-" ++ hexText 4 (0x8000 + number >>> 48 % 0x4000) ++ "-" ++
    hexText 12 number

end RadarRelay.Text
