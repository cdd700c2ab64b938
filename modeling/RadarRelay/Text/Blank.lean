/-!
# Blank characters

White space in names, literals and identifiers is the Unicode property
`White_Space`. Trimming removes it from both ends and nothing else.
-/

namespace RadarRelay.Text

/-- Membership in the Unicode property `White_Space`. -/
def isBlank (character : Char) : Bool :=
  let code := character.toNat
  (9 ≤ code && code ≤ 13) || code == 0x20 || code == 0x85 || code == 0xA0 || code == 0x1680 ||
    (0x2000 ≤ code && code ≤ 0x200A) || code == 0x2028 || code == 0x2029 || code == 0x202F ||
    code == 0x205F || code == 0x3000

/-- Every character that the core library calls white space is blank here. -/
theorem isBlank_of_isWhitespace {character : Char} (white : character.isWhitespace = true) :
    isBlank character = true := by
  simp only [Char.isWhitespace, Bool.or_eq_true, decide_eq_true_eq] at white
  rcases white with ((rfl | rfl) | rfl) | rfl <;> decide

/-- Removes leading blanks. -/
def trimStart (characters : List Char) : List Char :=
  characters.dropWhile isBlank

/-- Removes trailing blanks. -/
def trimEnd (characters : List Char) : List Char :=
  (characters.reverse.dropWhile isBlank).reverse

/-- Removes blanks from both ends. -/
def trimChars (characters : List Char) : List Char :=
  trimEnd (trimStart characters)

/-- Removes blanks from both ends of a text. -/
def trim (text : String) : String :=
  String.ofList (trimChars text.toList)

@[simp] theorem trimStart_nil : trimStart [] = [] := rfl

@[simp] theorem trimEnd_nil : trimEnd [] = [] := rfl

/-- A text that does not begin with a blank loses nothing at its start. -/
theorem trimStart_cons_of_not_blank {character : Char} (rest : List Char)
    (visible : isBlank character = false) :
    trimStart (character :: rest) = character :: rest := by
  simp [trimStart, visible]

/-- A text that does not end with a blank loses nothing at its end. -/
theorem trimEnd_append_of_not_blank (front : List Char) {character : Char}
    (visible : isBlank character = false) :
    trimEnd (front ++ [character]) = front ++ [character] := by
  simp [trimEnd, visible]

end RadarRelay.Text
