import RadarRelay.Text.Split

/-!
# Wildcard patterns

In a pattern a star stands for any characters of one line and every other
character for itself. A text matches a pattern when it begins with what the
pattern describes; what follows is free. Each piece of the pattern between
stars is looked for at its first occurrence. No later occurrence could do
better, because a star that reaches the later one reaches over the earlier one
as well.
-/

namespace RadarRelay.Wildcard

open RadarRelay.Text

/-- The text behind a literal piece at its start. -/
def afterPiece? : List Char → List Char → Option (List Char)
  | [], text => some text
  | _ :: _, [] => none
  | expected :: piece, character :: text =>
      if expected = character then afterPiece? piece text else none

/-- The text behind the first occurrence of a piece that begins on the first line. -/
def afterFirst? (piece : List Char) : List Char → Option (List Char)
  | [] => afterPiece? piece []
  | character :: text =>
      match afterPiece? piece (character :: text) with
      | some rest => some rest
      | none => if character = '\n' then none else afterFirst? piece text

/-- Finds pieces one behind the other, each after a star. -/
def findPieces : List (List Char) → List Char → Bool
  | [], _ => true
  | piece :: pieces, text =>
      match afterFirst? piece text with
      | some rest => findPieces pieces rest
      | none => false

/-- Whether a text begins as a pattern describes. -/
def matchesStart (pattern text : List Char) : Bool :=
  match split '*' pattern with
  | [] => true
  | first :: pieces =>
      match afterPiece? first text with
      | some rest => findPieces pieces rest
      | none => false

/-- The text behind a piece is what the piece leaves of the text. -/
theorem afterPiece?_eq_some_iff {piece text rest : List Char} :
    afterPiece? piece text = some rest ↔ text = piece ++ rest := by
  fun_induction afterPiece? piece text with
  | case1 => simp
  | case2 => simp
  | case3 _ _ _ ih => simp [ih]
  | case4 _ _ _ _ different => simp [Ne.symm different]

end RadarRelay.Wildcard
