import RadarRelay.Json5.Reader
import RadarRelay.Proofs.Document.Sound

/-!
# Numbers in JSON5 texts

Whatever is in a text, a number in its outline is the value of a literal: where any value
may stand it is a whole number of 64 bits or a double.
-/

namespace RadarRelay.Document

open RadarRelay.Number

/-- A whole number where any value may stand is one of 64 bits. -/
def Numeral.Sound (numeral : Numeral) : Prop :=
  ∀ value, numeral.free = .ok (.whole value) → fitsInt64 value = true

end RadarRelay.Document

namespace RadarRelay.Json5

open RadarRelay.Number RadarRelay.Document

/-- A hexadecimal literal has at most 32 bits. -/
theorem hexLiteral_le {characters : List Char} {value : Nat}
    (read : hexLiteral characters = .ok value) : value ≤ 0xffff_ffff := by
  unfold hexLiteral at read
  split at read
  · split at read <;> cases read
    assumption
  · cases read

/-- The value of a literal is sound, whatever characters it consists of. -/
theorem sound_numeral (characters : List Char) : (numeral characters).Sound := by
  intro value free
  rw [numeral, freeValue] at free
  split at free
  · split at free
    · cases read : hexLiteral characters with
      | error fault =>
          rw [read] at free
          cases free
      | ok number =>
          rw [read] at free
          cases free
          have bound := hexLiteral_le read
          show (int64Min ≤ (number : Int) && (number : Int) ≤ int64Max) = true
          rw [Bool.and_eq_true, decide_eq_true_iff, decide_eq_true_iff, int64Min, int64Max]
          omega
    · cases read : readInt64? characters with
      | none =>
          rw [read] at free
          cases free
      | some number =>
          rw [read] at free
          cases free
          exact (Option.filter_eq_some_iff.1 read).2
  · cases real : realValue characters with
    | error fault =>
        rw [real] at free
        cases free
    | ok number =>
        rw [real] at free
        cases free

theorem sound_wordToken (source : List Char) (pieces : List Piece) :
    (wordToken source pieces).Sound Numeral.Sound := by
  unfold wordToken
  dsimp only
  split
  · trivial
  split
  · trivial
  split
  · trivial
  split
  · exact sound_numeral source
  · trivial

theorem sound_punctuation? {rest : List Char} {character : Char} {token : Token}
    (found : Token.punctuation? rest character = some token) : token.Sound Numeral.Sound := by
  unfold Token.punctuation? at found
  split at found <;> cases found <;> trivial

theorem sound_scanToken (character : Char) (rest : List Char) :
    (scanToken character rest).1.Sound Numeral.Sound := by
  unfold scanToken
  split
  · rename_i token found
    exact sound_punctuation? found
  split
  · dsimp only
    split <;> trivial
  split
  · split
    · exact sound_numeral _
    · trivial
  split
  · split
    · split
      · exact sound_numeral _
      · trivial
    · trivial
  · dsimp only
    split
    · exact sound_wordToken _ _
    · trivial

/-- The tokens of a text are sound. -/
theorem sound_tokens (characters : List Char) :
    ∀ token ∈ tokens characters, token.Sound Numeral.Sound := by
  fun_induction tokens characters with
  | case1 => simp
  | case2 character rest blank ih => exact ih
  | case3 rest tail ended mark ih => exact ih
  | case4 rest none mark =>
      intro token member
      rw [List.mem_singleton.1 member]
      trivial
  | case5 character rest blank mark ih =>
      intro token member
      rcases List.mem_cons.1 member with rfl | inside
      · exact sound_scanToken character rest
      · exact ih token inside

/-- The outline of a text is sound. -/
theorem sound_of_read? {text : String} {outline : Outline} (read : read? text = some outline) :
    outline.Sound Numeral.Sound := by
  unfold read? at read
  dsimp only at read
  split at read <;> cases read
  have start : (State.place .top).Sound Numeral.Sound := trivial
  exact Rules.sound_run start (sound_tokens text.toList)

end RadarRelay.Json5
