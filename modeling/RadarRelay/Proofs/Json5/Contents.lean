import RadarRelay.Proofs.Json5.Strings

/-!
# String literals of JSON in JSON5

A string literal of JSON that holds no separators is one of JSON5 with the same content. The two
scanners are run beside each other: JSON joins surrogates while it scans, and JSON5 keeps pieces
that spell the content afterwards.
-/

namespace RadarRelay.Json5

open RadarRelay.Number RadarRelay.Document
open RadarRelay.Json (hexValue? isLeadSurrogate isTrailSurrogate joinSurrogates unit16)

/-! ## Spelling -/

/-- Pieces that spell a content in front of whatever follows, both with the newest first. -/
def Spells (pieces : List Piece) (content : List Char) : Prop :=
  ∀ more, spell (pieces.reverse ++ more) = (spell more).map (content.reverse ++ ·)

variable {pieces : List Piece} {content : List Char}

namespace Spells

theorem nil : Spells [] [] := by
  intro more
  cases spelled : spell more <;> simp [spelled, Except.map]

theorem spell_reverse (spells : Spells pieces content) :
    spell pieces.reverse = .ok content.reverse := by
  have whole := spells []
  rw [List.append_nil] at whole
  rw [whole, spell]
  simp [Except.map]

/-- A longer list of pieces spells one character more. -/
theorem append (spells : Spells pieces content) (newest : List Piece) {meant : Char}
    (last : ∀ more, spell (newest.reverse ++ more) = (spell more).map (meant :: ·)) :
    Spells (newest ++ pieces) (meant :: content) := by
  intro more
  rw [List.reverse_append, List.append_assoc, spells, last]
  cases spell more <;> simp [Except.map]

theorem character (spells : Spells pieces content) (source : List Char) (meant : Char) :
    Spells (.character source meant :: pieces) (meant :: content) :=
  spells.append [.character source meant] fun more => by
    simp [spell]

end Spells

/-- Pieces that spell a content, behind which the unit of a leading surrogate may wait for its
partner. -/
def Waits (pieces : List Piece) (content : List Char) : Option Nat → Prop
  | none => Spells pieces content
  | some lead => ∃ front, pieces = .unit lead :: front ∧ isLeadSurrogate lead = true ∧
      Spells front content

theorem Spells.unit (spells : Spells pieces content) {value : Nat}
    (noTrail : isTrailSurrogate value = false) (noLead : isLeadSurrogate value = false) :
    Spells (.unit value :: pieces) (Char.ofNat value :: content) :=
  spells.append [.unit value] fun more => by
    rw [List.reverse_singleton, List.singleton_append, spell.eq_def]
    simp only [noTrail, noLead, Bool.false_eq_true, if_false]

theorem Spells.pair (spells : Spells pieces content) {lead trail : Nat}
    (leading : isLeadSurrogate lead = true) (trailing : isTrailSurrogate trail = true) :
    Spells (.unit trail :: .unit lead :: pieces) (joinSurrogates lead trail :: content) :=
  spells.append [.unit trail, .unit lead] fun more => by
    have noTrail : isTrailSurrogate lead = false := by
      simp only [isLeadSurrogate, isTrailSurrogate, Bool.and_eq_true, decide_eq_true_iff,
        Bool.and_eq_false_iff, decide_eq_false_iff_not] at leading ⊢
      omega
    simp [spell, noTrail, leading, trailing]

/-- A unit that completes a character spells it. -/
theorem Waits.character {lead : Option Nat} (waits : Waits pieces content lead) {value : Nat}
    {meant : Char} (complete : unit16 lead value = .character meant) :
    Spells (.unit value :: pieces) (meant :: content) := by
  cases lead with
  | none =>
      simp only [unit16] at complete
      split at complete
      · cases complete
      rename_i noTrail
      split at complete
      · cases complete
      rename_i noLead
      rw [← Json.Unit16.character.inj complete]
      exact Spells.unit waits (eq_false_of_ne_true noTrail) (eq_false_of_ne_true noLead)
  | some lead =>
      obtain ⟨front, rfl, leading, spells⟩ := waits
      simp only [unit16] at complete
      split at complete
      · rename_i trailing
        rw [← Json.Unit16.character.inj complete]
        exact spells.pair leading trailing
      · cases complete

/-- A unit that completes no character waits for its partner. -/
theorem Waits.lead {lead : Option Nat} (waits : Waits pieces content lead) {value surrogate : Nat}
    (found : unit16 lead value = .lead surrogate) :
    Waits (.unit value :: pieces) content (some surrogate) := by
  cases lead with
  | none =>
      simp only [unit16] at found
      split at found
      · cases found
      split at found
      · rename_i leading
        cases found
        exact ⟨pieces, rfl, leading, waits⟩
      · cases found
  | some lead =>
      simp only [unit16] at found
      split at found <;> cases found

/-! ## Scanning -/

/-- The value of hexadecimal digits, of which there may be none. -/
def digitsSoFar (digits : List Char) : Option Nat :=
  digits.foldlM (fun value character => (hexValue? character).map (value * 16 + ·)) 0

theorem digitsSoFar_append {digits : List Char} {value digit : Nat} {character : Char}
    (read : digitsSoFar digits = some value) (next : hexValue? character = some digit) :
    digitsSoFar (digits ++ [character]) = some (value * 16 + digit) := by
  rw [digitsSoFar] at read
  simp [digitsSoFar, List.foldlM_append, read, next]

/-- The places of the two scanners in one literal. JSON5 does not wait for the partner of a leading
surrogate. -/
inductive Beside (content : List Char) (pieces : List Piece) : Json.Escape → Escape → Prop
  | plain (spells : Spells pieces content) : Beside content pieces .plain .plain
  | backslash (spells : Spells pieces content) : Beside content pieces .backslash .backslash
  | unicode {lead : Option Nat} {digits : List Char} {value : Nat}
      (waits : Waits pieces content lead) (few : digits.length < 4)
      (read : digitsSoFar digits = some value) :
      Beside content pieces (.unicode lead digits.length value) (.hex true digits)
  | lead {surrogate : Nat} (waits : Waits pieces content (some surrogate)) :
      Beside content pieces (.lead surrogate) .plain
  | leadBackslash {surrogate : Nat} (waits : Waits pieces content (some surrogate)) :
      Beside content pieces (.leadBackslash surrogate) .backslash

/-- An escape of one letter stands for the same character in both formats. -/
theorem scanString_simple {character meant : Char}
    (escape : Json.simpleEscape? character = some meant) (pieces : List Piece) (rest : List Char) :
    scanString '"' .backslash pieces (character :: rest) =
      scanString '"' .plain (.character [character] meant :: pieces) rest := by
  unfold Json.simpleEscape? at escape
  split at escape <;> cases escape <;> rfl

theorem scanString_mark (pieces : List Piece) (rest : List Char) :
    scanString '"' .backslash pieces ('u' :: rest) = scanString '"' (.hex true []) pieces rest :=
  rfl

/-- A character of JSON ends no line. -/
theorem isLineEnd_of_printable {character : Char} (printable : ¬character.toNat < 0x20)
    (single : isSeparator character = false) : isLineEnd character = false := by
  have noFeed : character ≠ '\n' := by
    rintro rfl
    exact printable (by decide)
  have noReturn : character ≠ '\r' := by
    rintro rfl
    exact printable (by decide)
  unfold isSeparator at single
  unfold isLineEnd
  rw [Bool.or_assoc, single]
  simp [noFeed, noReturn]

theorem scanString_hex {digits : List Char} {value digit : Nat} {character : Char}
    (few : digits.length < 4) (read : digitsSoFar digits = some value)
    (next : hexValue? character = some digit) (pieces : List Piece) (rest : List Char) :
    scanString '"' (.hex true digits) pieces (character :: rest) =
      if digits.length < 3 then scanString '"' (.hex true (digits ++ [character])) pieces rest
      else scanString '"' .plain (.unit (value * 16 + digit) :: pieces) rest := by
  have number : hexNumber? (digits ++ [character]) = some (value * 16 + digit) := by
    rw [hexNumber?, if_neg (by simp)]
    exact digitsSoFar_append read next
  rw [scanString]
  simp only [next, number, Option.isNone_some, Bool.false_eq_true, if_false, if_true,
    List.length_append, List.length_singleton, Option.getD_some]
  by_cases more : digits.length < 3
  · rw [if_pos more, if_pos (by omega)]
  · rw [if_neg more, if_neg (by omega)]

/-- A literal that JSON scans is scanned beside it as pieces that spell its content. -/
theorem scanString_beside {characters tail : List Char} {text : String}
    (unseparated : characters.any isSeparator = false) {escape : Json.Escape} {content : List Char}
    {state : Escape} {pieces : List Piece} (beside : Beside content pieces escape state)
    (scanned : Json.scanString escape content characters = (.ok text, tail)) :
    ∃ found, scanString '"' state pieces characters = (some found, tail) ∧
      spell found = .ok text.toList := by
  induction characters generalizing escape content state pieces with
  | nil => cases escape <;> simp [Json.scanString] at scanned
  | cons character rest ih =>
      rw [List.any_cons, Bool.or_eq_false_iff] at unseparated
      obtain ⟨single, unseparated⟩ := unseparated
      have ih {escape content state pieces} := @ih unseparated escape content state pieces
      cases beside with
      | plain spells =>
          rw [Json.scanString] at scanned
          split at scanned
          · rename_i quote
            cases scanned
            refine ⟨pieces.reverse, ?_, ?_⟩
            · simp [scanString, quote]
            · rw [spells.spell_reverse, String.toList_ofList]
          rename_i quote
          split at scanned
          · rename_i backslash
            subst backslash
            exact ih (.backslash spells) scanned
          rename_i backslash
          split at scanned
          · cases scanned
          · rename_i printable
            have inside := isLineEnd_of_printable printable single
            have next : scanString '"' .plain pieces (character :: rest) =
                scanString '"' .plain (.character [character] character :: pieces) rest := by
              simp [scanString, quote, backslash, inside]
            rw [next]
            exact ih (.plain (spells.character [character] character)) scanned
      | backslash spells =>
          rw [Json.scanString] at scanned
          split at scanned
          · rename_i mark
            subst mark
            rw [scanString_mark]
            exact ih (@Beside.unicode _ _ none [] 0 spells (Nat.zero_lt_succ 3) rfl) scanned
          split at scanned
          · rename_i meant escape
            rw [scanString_simple escape]
            exact ih (.plain (spells.character [character] meant)) scanned
          · cases scanned
      | @unicode lead digits value waits few read =>
          rw [Json.scanString] at scanned
          split at scanned
          · split at scanned <;> cases scanned
          rename_i digit next
          rw [scanString_hex few read next]
          simp only at scanned
          split at scanned
          · rename_i more
            have length : (digits ++ [character]).length = digits.length + 1 := by simp
            rw [if_pos more]
            rw [← length] at scanned
            exact ih (.unicode waits (by omega) (digitsSoFar_append read next)) scanned
          · rename_i last
            rw [if_neg last]
            split at scanned
            · rename_i meant complete
              exact ih (.plain (waits.character complete)) scanned
            · -- JSON goes on to wait for the partner; JSON5 keeps the unit and stands in plain text.
              rename_i surrogate leading
              exact ih (.lead (waits.lead leading)) scanned
            · cases scanned
      | lead waits =>
          rw [Json.scanString] at scanned
          split at scanned
          · rename_i backslash
            subst backslash
            exact ih (.leadBackslash waits) scanned
          · cases scanned
      | leadBackslash waits =>
          rw [Json.scanString] at scanned
          split at scanned
          · rename_i mark
            subst mark
            rw [scanString_mark]
            exact ih (@Beside.unicode _ _ (some _) [] 0 waits (Nat.zero_lt_succ 3) rfl) scanned
          · cases scanned

/-- A string literal of JSON without separators is one of JSON5 with the same content. -/
theorem exists_pieces_of_json {characters tail : List Char} {text : String}
    (unseparated : characters.any isSeparator = false)
    (scanned : Json.scanString .plain [] characters = (.ok text, tail)) :
    ∃ found, scanString '"' .plain [] characters = (some found, tail) ∧
      spelling found = .ok text := by
  obtain ⟨found, same, spelled⟩ := scanString_beside unseparated (.plain .nil) scanned
  refine ⟨found, same, ?_⟩
  rw [spelling, spelled]
  exact congrArg Except.ok (String.ofList_toList ..)

end RadarRelay.Json5
