import RadarRelay.Proofs.Json.Tokens
import RadarRelay.Proofs.Json5.Contents
import RadarRelay.Proofs.Json5.Literals

/-!
# Plain JSON in JSON5

A JSON text is read as JSON5 with the same outline, when it holds no separators and its number
literals keep their values. The two readers go through the text side by side: each
token of the one is a token of the other, up to the name of a constant, and leads to the same
state.
-/

namespace RadarRelay.Json5

open RadarRelay.Number RadarRelay.Document
open RadarRelay.Json (NumberLayout Scanned AfterValue)

theorem isBlank_of_json {character : Char} (blank : Json.isBlank character = true) :
    isBlank character = true := by
  simp only [Json.isBlank, Bool.or_eq_true, beq_iff_eq] at blank
  rcases blank with ((rfl | rfl) | rfl) | rfl <;> decide

/-- The rules of JSON5 allow whatever those of JSON allow. -/
theorem extends_json : rules.Extends Json.rules where
  closes := nofun
  names := nofun
  opens _ _ := rfl

section AfterValue

variable {tail : List Char} (after : AfterValue tail)

include after

theorem endsWord_of_afterValue : EndsWord tail := by
  refine endsWord_of_mem fun character first => ?_
  rcases after character first with blank | rfl | rfl | rfl
  · simp only [Json.isBlank, Bool.or_eq_true, beq_iff_eq] at blank
    rcases blank with ((rfl | rfl) | rfl) | rfl <;> simp
  all_goals simp

theorem noHexMark_of_afterValue : ∀ mark ∈ tail.head?, mark ≠ 'x' ∧ mark ≠ 'X' := by
  intro mark first
  constructor <;> rintro rfl <;> simpa [Json.isBlank] using after _ first

end AfterValue

/-- A token of JSON starts with no blank and no comment. -/
theorem started_of_scanned {character : Char} {rest tail : List Char} {token : Token}
    (scanned : Scanned character rest token tail) :
    isBlank character = false ∧ character ≠ '/' := by
  cases scanned with
  | punctuation found =>
      unfold Token.punctuation? at found
      split at found <;> first | cases found; done | decide
  | string => decide
  | negative => decide
  | number digit =>
      exact @forall_isDigit (fun character => isBlank character = false ∧ character ≠ '/')
        (by decide) character digit
  | constant word =>
      unfold Json.constant? at word
      split at word <;> first | cases word; done | decide

/-- A token that JSON accepts in some state leads JSON5 to the same state. -/
theorem exists_token {character : Char} {rest tail : List Char} {token : Token}
    {state next : State} (scanned : Scanned character rest token tail)
    (read : Json.rules.step state token = .ok next)
    (faultless : (Json.rules.run next (Json.tokens tail)).fault? = none)
    (unseparated : rest.any isSeparator = false)
    (faithful : ∀ literal ∈ Json.literal? character rest, literal.2.Faithful literal.1) :
    ∃ same, scanToken character rest = (same, tail) ∧ rules.step state same = .ok next := by
  have accepted : rules.step state token = .ok next := extends_json.step read
  cases scanned with
  | punctuation found =>
      refine ⟨token, ?_, accepted⟩
      rw [scanToken, found]
  | @string _ _ text scanned =>
      obtain ⟨found, same, spelled⟩ := exists_pieces_of_json unseparated scanned
      refine ⟨_, ?_, accepted⟩
      simp [scanToken, Token.punctuation?, same, spelled]
  | @negative _ _ number scanned =>
      have after := Json.afterValue_of_step rfl read faultless
      obtain ⟨written, split, agreed⟩ := splitNumber?_of_scanNumber scanned
        (noHexMark_of_afterValue after) (faithful _ rfl)
      refine ⟨_, ?_, accepted⟩
      rw [← agreed]
      simp [scanToken, Token.punctuation?, split, signed]
  | number digit scanned =>
      have after := Json.afterValue_of_step rfl read faultless
      have noMinus : character ≠ '-' :=
        @forall_isDigit (fun character => character ≠ '-') (by decide) character digit
      have literal : Json.literal? character rest = some (false, .split (character :: rest)) := by
        simp [Json.literal?, noMinus, digit]
      have shorter : tail.length ≤ rest.length := by
        have := Json.length_scanNumber_cons_le false rest digit
        rwa [scanned] at this
      obtain ⟨written, split, agreed⟩ := splitNumber?_of_scanNumber scanned
        (noHexMark_of_afterValue after) (faithful _ literal)
      refine ⟨_, ?_, accepted⟩
      rw [← agreed]
      exact scanToken_digit digit split shorter
  | @constant _ letters _ value word =>
      have ended := endsWord_of_afterValue (Json.afterValue_of_step rfl read faultless)
      obtain ⟨path, expected, rfl⟩ := Rules.exists_valuePlace rfl rfl read
      refine ⟨.constant value (spelling (plainPieces (character :: letters))), ?_,
        Rules.step_leaf rules expected rfl⟩
      unfold Json.constant? at word
      split at word
      · cases word
        exact scanToken_word 'n' ['u', 'l', 'l'] (all_isWordLetter _ (by simp)) ended
      · cases word
        exact scanToken_word 't' ['r', 'u', 'e'] (all_isWordLetter _ (by simp)) ended
      · cases word
        exact scanToken_word 'f' ['a', 'l', 's', 'e'] (all_isWordLetter _ (by simp)) ended
      · cases word

/-- A JSON text without faults is a JSON5 text with the same outline. -/
theorem run_tokens {characters : List Char} {state : State}
    (faultless : (Json.rules.run state (Json.tokens characters)).fault? = none)
    (unseparated : characters.any isSeparator = false)
    (faithful : ∀ literal ∈ Json.literals characters, literal.2.Faithful literal.1) :
    rules.run state (tokens characters) = Json.rules.run state (Json.tokens characters) := by
  -- The steps of the induction are the tokens of JSON; what is kept is that no fault lies ahead.
  induction characters using Json.tokens.induct generalizing state with
  | case1 =>
      rw [tokens, Json.tokens]
      rfl
  | case2 character rest blank ih =>
      rw [Json.tokens, if_pos blank] at faultless ⊢
      rw [Json.literals, if_pos blank] at faithful
      rw [List.any_cons, Bool.or_eq_false_iff] at unseparated
      rw [tokens, if_pos (isBlank_of_json blank)]
      exact ih faultless unseparated.2 faithful
  | case3 character rest started ih =>
      obtain ⟨token, tail, next, given, scanned, read, going⟩ :=
        Json.exists_step (eq_false_of_ne_true started) faultless
      rw [Json.literals, if_neg started, given] at faithful
      rw [given] at ih
      rw [going] at faultless ⊢
      have behind : tail.any isSeparator = false := by
        rw [List.any_eq_false] at unseparated ⊢
        exact fun other member => unseparated other (scanned.suffix.subset member)
      rw [List.any_cons, Bool.or_eq_false_iff] at unseparated
      obtain ⟨same, token, accepted⟩ := exists_token scanned read faultless unseparated.2
        fun literal member => faithful literal (List.mem_append_left _ (Option.mem_toList.2 member))
      obtain ⟨noBlank, noSlash⟩ := started_of_scanned scanned
      rw [tokens, noBlank, if_neg Bool.false_ne_true, if_neg noSlash, token]
      simp only [Rules.run, accepted]
      exact ih faultless behind fun literal member =>
        faithful literal (List.mem_append_right _ member)

/-- A JSON text of that kind is read as JSON5 with the same outline. -/
theorem read?_of_json {text : String} (faultless : (Json.draft text).fault? = none)
    (unseparated : hasSeparator text = false)
    (faithful : ∀ literal ∈ Json.literals text.toList, literal.2.Faithful literal.1) :
    read? text = some (Json.draft text).outline := by
  have same : rules.build (tokens text.toList) = Json.draft text :=
    run_tokens faultless unseparated faithful
  simp [read?, same, faultless]

end RadarRelay.Json5
