import RadarRelay.Document.Builder
import RadarRelay.Json.Literal

/-!
# Reading JSON

A text is cut into tokens and the tokens are built into an outline. Blanks are
the space and the three control characters for tabs and line ends. Documents
nest at most 127 containers deep, and commas and names are as strict as the
format is.
-/

namespace RadarRelay.Json

open RadarRelay.Number RadarRelay.Document

/-- Blanks between tokens. -/
def isBlank (character : Char) : Bool :=
  character == ' ' || character == '\n' || character == '\t' || character == '\r'

/-- Scans the remaining letters of a word. -/
def scanWord : List Char → List Char → Except SyntaxFault Unit × List Char
  | [], characters => (.ok (), characters)
  | _ :: _, [] => (.error .endInValue, [])
  | expected :: letters, character :: rest =>
      if character = expected then scanWord letters rest else (.error .expectedIdent, rest)

theorem length_scanWord_le (letters characters : List Char) :
    (scanWord letters characters).2.length ≤ characters.length := by
  fun_induction scanWord letters characters <;> grind

/-- The three words, with the letters behind the first and the values they stand for. -/
def constant? : Char → Option (List Char × Outline)
  | 'n' => some (['u', 'l', 'l'], .null)
  | 't' => some (['r', 'u', 'e'], .bool true)
  | 'f' => some (['a', 'l', 's', 'e'], .bool false)
  | _ => none

/-- The token that starts with a character, and the text behind it. -/
def scanToken (character : Char) (rest : List Char) : Token × List Char :=
  match Token.punctuation? rest character with
  | some token => (token, rest)
  | none =>
      if character = '"' then
        let (content, tail) := scanString .plain [] rest
        match content with
        | .ok text => (.string (.before rest) (.ok text), tail)
        | .error fault => (.bad true fault, tail)
      else if character = '-' then
        let (value, tail) := scanNumber true rest
        match value with
        | .ok found => (.number (.ofNumber found), tail)
        | .error fault => (.bad false fault, tail)
      else if isDigit character then
        let (value, tail) := scanNumber false (character :: rest)
        match value with
        | .ok found => (.number (.ofNumber found), tail)
        | .error fault => (.bad false fault, tail)
      else
        match constant? character with
        | some (letters, value) =>
            let (matched, tail) := scanWord letters rest
            match matched with
            | .ok () => (.constant value (.ok ""), tail)
            | .error fault => (.bad false fault, tail)
        | none => (.bad false .expectedValue, rest)

theorem length_scanToken_le (character : Char) (rest : List Char) :
    (scanToken character rest).2.length ≤ rest.length := by
  unfold scanToken
  split
  · simp
  · split
    · have := length_scanString_le .plain [] rest
      simp only
      split <;> simpa using this
    · split
      · have := Nat.le_trans (length_scanNumber_le true rest) (length_spanDigits_le rest)
        simp only
        split <;> simpa using this
      · split
        · rename_i digit
          have := length_scanNumber_cons_le false rest digit
          simp only
          split <;> simpa using this
        · split
          · rename_i letters value _
            have := length_scanWord_le letters rest
            simp only
            split <;> simpa using this
          · simp

/-- The tokens of a text. -/
def tokens : List Char → List Token
  | [] => []
  | character :: rest =>
      if isBlank character then tokens rest
      else
        (scanToken character rest).1 :: tokens (scanToken character rest).2
termination_by characters => characters.length
decreasing_by
  · simp
  · have := length_scanToken_le character rest
    simp
    omega

/-- Strict commas, quoted names, and at most 127 containers around a value. -/
def rules : Rules := ⟨false, false, some 127⟩

/-- The outline of a JSON text. -/
def draft (text : String) : Draft :=
  rules.build (tokens text.toList)

/-- The value of a JSON text. -/
def read (text : String) : Except Fault Json :=
  let draft := draft text
  match draft.fault? with
  | some fault => .error (.syntactic fault)
  | none => draft.outline.toJson

end RadarRelay.Json
