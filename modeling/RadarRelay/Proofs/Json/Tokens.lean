import RadarRelay.Json.Reader
import RadarRelay.Proofs.Document.Lenient
import RadarRelay.Proofs.Json.Literals

/-!
# Tokens of JSON

A token that is complete has been scanned in one of five ways. In a text without faults every
token is complete, and behind a value stands a blank, a comma or a closing bracket.
-/

namespace RadarRelay

open RadarRelay.Number RadarRelay.Document

namespace Json

/-- How a complete token is scanned, from its first character and the text behind it: the token,
and the text behind the token. -/
inductive Scanned : Char → List Char → Token → List Char → Prop
  | punctuation {character : Char} {rest : List Char} {token : Token}
      (found : Token.punctuation? rest character = some token) :
      Scanned character rest token rest
  | string {rest tail : List Char} {text : String}
      (scanned : scanString .plain [] rest = (.ok text, tail)) :
      Scanned '"' rest (.string (.before rest) (.ok text)) tail
  | negative {rest tail : List Char} {number : Number}
      (scanned : scanNumber true rest = (.ok number, tail)) :
      Scanned '-' rest (.number (.ofNumber number)) tail
  | number {character : Char} {rest tail : List Char} {number : Number}
      (digit : isDigit character = true)
      (scanned : scanNumber false (character :: rest) = (.ok number, tail)) :
      Scanned character rest (.number (.ofNumber number)) tail
  | constant {character : Char} {letters tail : List Char} {value : Outline}
      (word : constant? character = some (letters, value)) :
      Scanned character (letters ++ tail) (.constant value (.ok "")) tail

theorem eq_append_of_scanWord {letters characters tail : List Char}
    (scanned : scanWord letters characters = (.ok (), tail)) : characters = letters ++ tail := by
  fun_induction scanWord letters characters with
  | case1 characters =>
      cases scanned
      rfl
  | case2 => cases scanned
  | case3 expected letters rest ih => rw [ih scanned, List.cons_append]
  | case4 => cases scanned

/-- A token is scanned in one of these ways or it is bad. -/
theorem scanned_of_scanToken {character : Char} {rest tail : List Char} {token : Token}
    (given : scanToken character rest = (token, tail))
    (complete : ∀ inString fault, token ≠ .bad inString fault) :
    Scanned character rest token tail := by
  have bad {inString : Bool} {fault : SyntaxFault} {behind : List Char}
      (given : (Token.bad inString fault, behind) = (token, tail)) : False :=
    complete inString fault (Prod.mk.inj given).1.symm
  unfold scanToken at given
  split at given
  · rename_i found
    cases given
    exact .punctuation found
  split at given
  · rename_i quote
    subst quote
    cases scanned : scanString .plain [] rest with
    | mk content behind =>
        rw [scanned] at given
        cases content with
        | ok text =>
            cases given
            exact .string scanned
        | error fault => exact (bad given).elim
  split at given
  · rename_i minus
    subst minus
    cases scanned : scanNumber true rest with
    | mk value behind =>
        rw [scanned] at given
        cases value with
        | ok number =>
            cases given
            exact .negative scanned
        | error fault => exact (bad given).elim
  split at given
  · rename_i digit
    cases scanned : scanNumber false (character :: rest) with
    | mk value behind =>
        rw [scanned] at given
        cases value with
        | ok number =>
            cases given
            exact .number digit scanned
        | error fault => exact (bad given).elim
  split at given
  · rename_i letters value word
    cases scanned : scanWord letters rest with
    | mk matched behind =>
        rw [scanned] at given
        cases matched with
        | ok matched =>
            cases given
            rw [eq_append_of_scanWord scanned]
            exact .constant word
        | error fault => exact (bad given).elim
  · exact (bad given).elim

theorem scanString_suffix (escape : Escape) (content characters : List Char) :
    (scanString escape content characters).2 <:+ characters := by
  fun_induction scanString escape content characters <;>
    simp_all [List.suffix_cons_iff]

theorem scanNumber_suffix (negative : Bool) (characters : List Char) :
    (scanNumber negative characters).2 <:+ characters := by
  have rest : (scanNumber negative characters).2 = (NumberLayout.split characters).rest := by
    unfold scanNumber
    simp only
    split
    · rfl
    · split <;> rfl
  obtain ⟨written, parts, -⟩ := NumberLayout.exists_written characters
  exact ⟨written, rest ▸ parts.symm⟩

/-- Behind a token stands the end of the text that it was scanned from. -/
theorem Scanned.suffix {character : Char} {rest tail : List Char} {token : Token}
    (scanned : Scanned character rest token tail) : tail <:+ character :: rest := by
  cases scanned with
  | punctuation found => exact List.suffix_cons character rest
  | string scanned =>
      have behind := scanString_suffix .plain [] rest
      rw [scanned] at behind
      exact behind.trans (List.suffix_cons ..)
  | negative scanned =>
      have behind := scanNumber_suffix true rest
      rw [scanned] at behind
      exact behind.trans (List.suffix_cons ..)
  | number digit scanned =>
      have behind := scanNumber_suffix false (character :: rest)
      rw [scanned] at behind
      exact behind
  | constant word => exact (List.suffix_append ..).trans (List.suffix_cons ..)

/-! ## Texts without faults -/

theorem comma_of_scanned {character : Char} {rest tail : List Char} {token : Token}
    (scanned : Scanned character rest token tail)
    (separator : token = .comma ∨ token = .closeArray ∨ token = .closeObject) :
    character = ',' ∨ character = ']' ∨ character = '\x7d' := by
  cases scanned with
  | punctuation found =>
      unfold Token.punctuation? at found
      split at found <;> cases found <;> simp at separator ⊢
  | _ => simp at separator

/-- The first token of a text without faults. -/
theorem exists_step {character : Char} {rest : List Char} {state : State}
    (started : isBlank character = false)
    (faultless : (rules.run state (tokens (character :: rest))).fault? = none) :
    ∃ token tail next, scanToken character rest = (token, tail) ∧
      Scanned character rest token tail ∧ rules.step state token = .ok next ∧
      rules.run state (tokens (character :: rest)) = rules.run next (tokens tail) := by
  rw [tokens, started] at faultless ⊢
  simp only [Bool.false_eq_true, if_false, Rules.run] at faultless ⊢
  rcases scanned : scanToken character rest with ⟨token, tail⟩
  rw [scanned] at faultless
  cases read : rules.step state token with
  | ok next =>
      refine ⟨token, tail, next, rfl, scanned_of_scanToken scanned ?_, read, ?_⟩
      · intro inString fault same
        rw [same] at read
        exact Rules.step_bad rules inString fault read
      · rfl
  | error fault =>
      simp only [read] at faultless
      cases faultless

/-- What may stand behind a value: a blank, a comma or a closing bracket. -/
def AfterValue (tail : List Char) : Prop :=
  ∀ character ∈ tail.head?,
    isBlank character = true ∨ character = ',' ∨ character = ']' ∨ character = '\x7d'

/-- It stands there in a text without faults. -/
theorem afterValue_of_run {path : Path} {value : Outline} {tail : List Char}
    (faultless : (rules.run (.fill path value) (tokens tail)).fault? = none) :
    AfterValue tail := by
  cases tail with
  | nil => nofun
  | cons character rest =>
      rintro _ ⟨⟩
      cases started : isBlank character with
      | true => exact .inl rfl
      | false =>
          obtain ⟨token, behind, next, -, scanned, read, -⟩ := exists_step started faultless
          exact .inr (comma_of_scanned scanned (Rules.separator_of_step read))

theorem afterValue_of_step {token : Token} {state next : State} {value : Outline}
    {tail : List Char} (leaf : token.leaf? = some value)
    (read : rules.step state token = .ok next)
    (faultless : (rules.run next (tokens tail)).fault? = none) : AfterValue tail := by
  obtain ⟨path, -, rfl⟩ := Rules.exists_valuePlace rfl leaf read
  exact afterValue_of_run faultless

/-! ## Number literals -/

/-- The number literal that a token is scanned from, with whether a minus sign precedes it. -/
def literal? (character : Char) (rest : List Char) : Option (Bool × NumberLayout) :=
  if character = '-' then some (true, .split rest)
  else if isDigit character then some (false, .split (character :: rest))
  else none

/-- The number literals of a text. -/
def literals : List Char → List (Bool × NumberLayout)
  | [] => []
  | character :: rest =>
      if isBlank character then literals rest
      else (literal? character rest).toList ++ literals (scanToken character rest).2
termination_by characters => characters.length
decreasing_by
  · simp
  · have := length_scanToken_le character rest
    simp
    omega

end Json

end RadarRelay
