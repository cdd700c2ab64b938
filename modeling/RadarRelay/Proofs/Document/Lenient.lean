import RadarRelay.Document.Builder

/-!
# Lenient rules

Rules extend others when they allow at least as much. What a token does under the narrower rules
it does under the wider ones too. Where names have to be quoted, a constant is never a name, so
neither its name nor the rules matter for what it does.
-/

namespace RadarRelay.Document

/-- The value of a token that is a whole value by itself and not a text. -/
def Token.leaf? : Token → Option Outline
  | .constant value _ => some value
  | .number value => some (.number value)
  | _ => none

/-- The place of the value that may come next. -/
def State.valuePlace? : State → Option Path
  | place path => some path
  | firstItem opening outer => some (.item opening [] outer)
  | nextItem opening items outer => some (.item opening items outer)
  | _ => none

namespace Rules

/-- Rules that allow whatever the narrower rules allow. -/
structure Extends (wide narrow : Rules) : Prop where
  closes : narrow.closeAfterComma = true → wide.closeAfterComma = true
  names : narrow.wordsAsNames = true → wide.wordsAsNames = true
  opens : ∀ path, narrow.mayOpen path = true → wide.mayOpen path = true

/-- A weaker guard lets the same state through. -/
theorem guarded {narrow wide : Prop} [Decidable narrow] [Decidable wide] {found next : State}
    {fault : SyntaxFault} (weaker : narrow → wide)
    (read : (if narrow then Except.ok found else .error fault) = .ok next) :
    (if wide then Except.ok found else .error fault) = .ok next := by
  split at read
  · rename_i inside
    rw [if_pos (weaker inside)]
    exact read
  · cases read

variable {wide narrow : Rules} {state next : State} {token : Token}

section Extends

variable (extend : wide.Extends narrow)

include extend

theorem Extends.startValue (path : Path) (read : narrow.startValue path token = .ok next) :
    wide.startValue path token = .ok next := by
  cases token with
  | openArray opening => exact guarded (extend.opens path) read
  | openObject opening => exact guarded (extend.opens path) read
  | _ => exact read

theorem Extends.startField (opening : Opening) (fields : List (Spelling × Outline)) (outer : Path)
    (read : narrow.startField opening fields outer token = .ok next) :
    wide.startField opening fields outer token = .ok next := by
  cases token with
  | word name => exact guarded extend.names read
  | constant value name => exact guarded extend.names read
  | numberWord value name => exact guarded extend.names read
  | bad inString fault => cases inString <;> exact read
  | _ => exact read

/-- A token that the narrower rules accept does the same under the wider rules. -/
theorem Extends.step (read : narrow.step state token = .ok next) :
    wide.step state token = .ok next := by
  have value (path : Path) : narrow.startValue path token = .ok next →
      wide.startValue path token = .ok next :=
    extend.startValue path
  have name (opening : Opening) (fields : List (Spelling × Outline)) (outer : Path) :
      narrow.startField opening fields outer token = .ok next →
        wide.startField opening fields outer token = .ok next :=
    extend.startField opening fields outer
  cases state with
  | place path => exact value path read
  | firstItem opening outer =>
      cases token with
      | closeArray => exact read
      | _ => exact value (.item opening [] outer) read
  | nextItem opening items outer =>
      cases token with
      | closeArray => exact guarded extend.closes read
      | _ => exact value (.item opening items outer) read
  | firstName opening outer =>
      cases token with
      | closeObject => exact read
      | _ => exact name opening [] outer read
  | nextName opening fields outer =>
      cases token with
      | closeObject => exact guarded extend.closes read
      | _ => exact name opening fields outer read
  | afterItem opening items outer => cases token <;> exact read
  | afterName opening fields name outer => cases token <;> exact read
  | afterField opening fields outer => cases token <;> exact read
  | done document => exact read

end Extends

theorem step_leaf (rules : Rules) {path : Path} {value : Outline}
    (expected : state.valuePlace? = some path) (leaf : token.leaf? = some value) :
    rules.step state token = .ok (.fill path value) := by
  cases state <;> cases expected <;> cases token <;> cases leaf <;> rfl

/-- Where names are quoted, a leaf is accepted only as a value. -/
theorem exists_valuePlace {rules : Rules} (quoted : rules.wordsAsNames = false) {value : Outline}
    (leaf : token.leaf? = some value) (read : rules.step state token = .ok next) :
    ∃ path, state.valuePlace? = some path ∧ next = .fill path value := by
  cases expected : state.valuePlace? with
  | some path =>
      rw [step_leaf rules expected leaf] at read
      exact ⟨path, rfl, (Except.ok.inj read).symm⟩
  | none =>
      exfalso
      cases state <;> cases expected <;> cases token <;> cases leaf <;>
        simp [Rules.step, Rules.startField, quoted] at read

/-- Behind a value stands nothing but a comma or a closing bracket. -/
theorem separator_of_step {rules : Rules} {path : Path} {value : Outline}
    (read : rules.step (.fill path value) token = .ok next) :
    token = .comma ∨ token = .closeArray ∨ token = .closeObject := by
  cases path with
  | top => cases read
  | item opening items outer => cases token <;> first | cases read; done | simp
  | member opening fields name outer => cases token <;> first | cases read; done | simp

theorem step_bad (rules : Rules) (inString : Bool) (fault : SyntaxFault) :
    rules.step state (.bad inString fault) ≠ .ok next := by
  cases state <;> cases inString <;> simp [Rules.step, Rules.startValue, Rules.startField]

end Rules

end RadarRelay.Document
