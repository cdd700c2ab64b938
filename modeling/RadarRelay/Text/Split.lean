/-!
# Splitting at a separator

`split` cuts a text at every occurrence of one character and keeps empty
pieces, so that `join` is its inverse. `splitFirst` cuts at the first
occurrence only.
-/

namespace RadarRelay.Text

/-- Cuts before the first separator: the text in front of it, and what follows it if it occurs. -/
def splitFirst (separator : Char) : List Char → List Char × Option (List Char)
  | [] => ([], none)
  | character :: rest =>
      if character = separator then ([], some rest)
      else
        let (front, back) := splitFirst separator rest
        (character :: front, back)

/-- Pieces between separators, in order; a text without a separator is its own only piece. -/
def split (separator : Char) : List Char → List (List Char)
  | [] => [[]]
  | character :: rest =>
      if character = separator then [] :: split separator rest
      else
        match split separator rest with
        | [] => [[character]]
        | piece :: pieces => (character :: piece) :: pieces

/-- Puts a separator between neighbouring pieces. -/
def join (separator : Char) : List (List Char) → List Char
  | [] => []
  | [piece] => piece
  | piece :: pieces => piece ++ separator :: join separator pieces

@[simp] theorem split_nil (separator : Char) : split separator [] = [[]] := rfl

theorem split_ne_nil (separator : Char) (characters : List Char) :
    split separator characters ≠ [] := by
  cases characters with
  | nil => simp
  | cons character rest =>
      simp only [split]
      split
      · simp
      · split <;> simp

/-- Joining the pieces gives back the text. -/
theorem join_split (separator : Char) (characters : List Char) :
    join separator (split separator characters) = characters := by
  induction characters with
  | nil => rfl
  | cons character rest ih =>
      have pieces := split_ne_nil separator rest
      simp only [split]
      split
      · rename_i equal
        cases found : split separator rest with
        | nil => exact absurd found pieces
        | cons piece others => simp [join, ← found, ih, equal]
      · cases found : split separator rest with
        | nil => exact absurd found pieces
        | cons piece others =>
            rw [found] at ih
            cases others <;> simp_all [join]

/-- The pieces of a string. -/
def pieces (separator : Char) (text : String) : List String :=
  (split separator text.toList).map String.ofList

/-- The text after the last separator, or the whole text when there is none. -/
def lastPiece (separator : Char) (text : String) : String :=
  (pieces separator text).getLastD ""

/-- Puts a separator text between neighbouring texts. -/
def joinWith (separator : String) (texts : List String) : String :=
  String.intercalate separator texts

end RadarRelay.Text
