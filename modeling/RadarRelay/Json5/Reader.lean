import RadarRelay.Document.Builder
import RadarRelay.Json5.Literal

/-!
# Reading JSON5

Configuration texts are JSON5: blanks include every Unicode space and line end,
comments count as blanks, a comma may follow the last item or field, and names
may be identifiers. There is no limit to the depth of a document. The outline
keeps literals with their spelling, so a text can be grammatical and still hold
a literal that has no content.
-/

namespace RadarRelay.Json5

open RadarRelay.Number RadarRelay.Document RadarRelay.Text

/-- Blanks between tokens. -/
def isBlank (character : Char) : Bool :=
  let code := character.toNat
  code == 0x9 || code == 0xB || code == 0xC || code == 0x20 || code == 0xA0 || code == 0xFEFF ||
    code == 0x1680 || (0x2000 ≤ code && code ≤ 0x200A) || code == 0x202F || code == 0x205F ||
    code == 0x3000 || isLineEnd character

/-- The text behind a comment that runs to the end of its line. -/
def afterLineComment (characters : List Char) : List Char :=
  characters.dropWhile fun character => !isLineEnd character

/-- The text behind the end of a comment between marks, if it ends. -/
def afterBlockComment? : List Char → Option (List Char)
  | '*' :: '/' :: rest => some rest
  | _ :: rest => afterBlockComment? rest
  | [] => none

theorem length_afterBlockComment?_le {characters rest : List Char}
    (found : afterBlockComment? characters = some rest) : rest.length ≤ characters.length := by
  fun_induction afterBlockComment? characters with
  | case1 tail =>
      simp only [Option.some.injEq] at found
      subst found
      simp
      omega
  | case2 first tail _ ih =>
      have := ih found
      simp
      omega
  | case3 => simp at found

/-- A word is a constant, a number or only a name, depending on how it is written. -/
def wordToken (source : List Char) (pieces : List Piece) : Token :=
  let name := spelling pieces
  if source = ['n', 'u', 'l', 'l'] then .constant .null name
  else if source = ['t', 'r', 'u', 'e'] then .constant (.bool true) name
  else if source = ['f', 'a', 'l', 's', 'e'] then .constant (.bool false) name
  else if source = infinityWord || source = nanWord then .numberWord (numeral source) name
  else .word name

/-- The token that starts with a character, and the text behind it. -/
def scanToken (character : Char) (rest : List Char) : Token × List Char :=
  match Token.punctuation? rest character with
  | some token => (token, rest)
  | none =>
      if character = '"' || character = '\'' then
        let (content, tail) := scanString character .plain [] rest
        match content with
        | some pieces => (.string (.before rest) (spelling pieces), tail)
        | none => (.bad true .expectedValue, tail)
      else if character = '+' || character = '-' then
        match splitNumber? rest with
        | some (written, tail) => (.number (numeral (character :: written)), tail)
        | none => (.bad false .expectedValue, rest)
      else if isDigit character || character = '.' then
        match splitNumber? (character :: rest) with
        | some (written, tail) =>
            if tail.length ≤ rest.length then (.number (numeral written), tail)
            else (.bad false .expectedValue, rest)
        | none => (.bad false .expectedValue, rest)
      else
        let (pieces, tail) := scanIdentifier false [] (character :: rest)
        if tail.length ≤ rest.length then
          let source := (character :: rest).take (rest.length + 1 - tail.length)
          (wordToken source pieces, tail)
        else (.bad false .expectedValue, rest)

theorem length_scanToken_le (character : Char) (rest : List Char) :
    (scanToken character rest).2.length ≤ rest.length := by
  unfold scanToken
  split
  · simp
  · split
    · have := length_scanString_le character .plain [] rest
      simp only
      split <;> simpa using this
    · split
      · split
        · rename_i found
          exact length_splitNumber?_le found
        · simp
      · split
        · split
          · split <;> simp_all
          · simp
        · simp only
          split <;> simp_all

/-- The text behind a comment whose first slash has been read. -/
def afterComment? : List Char → Option (List Char)
  | '/' :: rest => some (afterLineComment rest)
  | '*' :: rest => afterBlockComment? rest
  | _ => none

theorem length_afterComment?_le {characters rest : List Char}
    (found : afterComment? characters = some rest) : rest.length ≤ characters.length := by
  unfold afterComment? at found
  split at found
  · rename_i tail
    have := (List.dropWhile_sublist (p := fun character => !isLineEnd character)
      (l := tail)).length_le
    simp only [afterLineComment, Option.some.injEq] at found
    rw [← found]
    simp
    omega
  · have := length_afterBlockComment?_le found
    simp
    omega
  · simp at found

/-- The tokens of a text. -/
def tokens : List Char → List Token
  | [] => []
  | character :: rest =>
      if isBlank character then tokens rest
      else if character = '/' then
        match _ended : afterComment? rest with
        | some tail => tokens tail
        | none => [.bad false .expectedValue]
      else (scanToken character rest).1 :: tokens (scanToken character rest).2
termination_by characters => characters.length
decreasing_by
  · simp
  · have := length_afterComment?_le _ended
    simp
    omega
  · have := length_scanToken_le character rest
    simp
    omega

/-- Commas may precede closing brackets, identifiers are names, and depth is free. -/
def rules : Rules := ⟨true, true, none⟩

/-- The outline of a JSON5 text, if the text is grammatical. -/
def read? (text : String) : Option Outline :=
  let draft := rules.build (tokens text.toList)
  if draft.fault?.isNone then some draft.outline else none

end RadarRelay.Json5
