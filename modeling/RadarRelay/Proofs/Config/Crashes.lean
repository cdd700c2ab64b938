import RadarRelay.Proofs.Config.Rereading
import RadarRelay.Proofs.Document.Calm

/-!
# Texts that stop the program

Reading a configuration text gives a value or an error of the configuration, with two
exceptions. The mere name of a rule, where a rule should be, stops the program. So does
a value whose second byte begins a longer character, where a number is required. Types
without numbers have no other crash, and neither has any type a crash in an ungrammatical
text.
-/

namespace RadarRelay

open RadarRelay.Document

namespace Config

open Codec

variable {dialect : Dialect} {numbers : Bool}

theorem calm_filter : filterCodec.Calm dialect numbers := by
  refine calm_of_never fun outline crash => ?_
  rcases Except.of_bind_eq_error crash with crash | ⟨value, _, crash⟩
  · exact mapError_broken_ne_crash _ crash
  · cases read : Filter.ofJson value with
    | error | ok =>
        rw [read] at crash
        cases crash

theorem calm_optionalText : Codec.text.option.Calm dialect numbers :=
  (calm_textNamed _).option

theorem calm_natural (expected : String) : (natural expected).Calm .configuration true :=
  (calm_integer _ _ _).view _ _

theorem Statistics.calm : Statistics.codec.Calm dialect numbers := by
  refine Record.calm ?_
  simp only [Statistics.record, List.forall_mem_cons]
  exact ⟨Field.calm_ofCodec (calm_textNamed _), Field.calm_ofCodec (calm_variant _ _), List.forall_mem_nil _⟩

theorem NodeStatistics.calm : NodeStatistics.record.codec.Calm dialect numbers := by
  have statistics : Statistics.codec.option.Calm dialect numbers := Statistics.calm.option
  refine Record.calm ?_
  simp only [NodeStatistics.record, List.forall_mem_cons]
  exact ⟨Field.calm_ofCodec statistics, Field.calm_ofCodec statistics,
    Field.calm_ofCodec statistics, List.forall_mem_nil _⟩

theorem Node.calm : Node.record.codec.Calm .configuration true := by
  refine Record.calm ?_
  simp only [Node.record, List.forall_mem_cons]
  exact ⟨Field.calm_ofCodec (calm_textNamed _), Field.calm_ofCodec (calm_natural _).option,
    Field.calm_ofCodec (calm_natural _), Field.calm_ofCodec (calm_textNamed _).option,
    Field.calm_ofCodec NodeStatistics.calm, List.forall_mem_nil _⟩

theorem Subscription.calm : Subscription.record.codec.Calm dialect numbers := by
  refine Record.calm ?_
  simp only [Subscription.record, List.forall_mem_cons]
  exact ⟨Field.calm_ofCodec calm_optionalText, Field.calm_ofCodec calm_bool,
    Field.calm_ofCodec calm_oneOrMany, Field.calm_ofCodec calm_filter.option,
    Field.calm_ofCodec calm_bool, Field.calm_ofCodec (calm_textNamed _).list,
    Field.calm_ofCodec calm_oneOrMany, List.forall_mem_nil _⟩

theorem Decorator.calm : Decorator.record.codec.Calm dialect numbers := by
  refine Record.calm ?_
  simp only [Decorator.record, List.forall_mem_cons]
  exact ⟨Field.calm_ofCodec (calm_textNamed _), Field.calm_ofCodec calm_bool,
    Field.calm_ofCodec calm_json, List.forall_mem_nil _⟩

theorem Connection.calm : Connection.record.codec.Calm dialect numbers := by
  refine Record.calm ?_
  simp only [Connection.record, List.forall_mem_cons]
  exact ⟨Field.calm_ofCodec (calm_textNamed _), Field.calm_ofCodec calm_json, List.forall_mem_nil _⟩

theorem Sender.calm : Sender.record.codec.Calm dialect numbers := by
  refine Record.calm ?_
  simp only [Sender.record, List.forall_mem_cons]
  exact ⟨Field.calm_ofCodec (calm_textNamed _), Field.calm_ofCodec calm_optionalText,
    Field.calm_ofCodec calm_json, List.forall_mem_nil _⟩

theorem Publisher.calm : Publisher.record.codec.Calm .configuration true := by
  refine Record.calm ?_
  simp only [Publisher.record, List.forall_mem_cons]
  exact ⟨Field.calm_ofCodec (calm_natural _), Field.calm_ofCodec (calm_natural _),
    Field.calm_ofCodec Statistics.calm.option, Field.calm_ofCodec Statistics.calm.option, List.forall_mem_nil _⟩

theorem Publication.calm : Publication.record.codec.Calm .configuration true := by
  refine Record.calm ?_
  simp only [Publication.record, List.forall_mem_cons]
  exact ⟨Field.calm_ofCodec (calm_textNamed _), Field.calm_ofCodec calm_optionalText,
    Field.calm_ofCodec calm_bool, Field.calm_ofCodec calm_oneOrMany,
    Field.calm_ofCodec calm_filter.option, Field.calm_ofCodec Decorator.calm.list,
    Field.calm_ofCodec Connection.calm, Field.calm_ofCodec Publisher.calm, List.forall_mem_nil _⟩

/-- A text that is nothing but the name of a kind of rules. -/
def Rule.IsName (outline : Outline) : Prop :=
  ∃ opening name, outline = .string opening (.ok name) ∧ name ∈ Rule.kinds

/-- A rule stops the program at its mere name, and where the numbers of a publication do. -/
theorem Rule.crash_cases {outline : Outline}
    (crash : Rule.decode .configuration outline = .error .crash) :
    Rule.IsName outline ∨ outline.hasWide = true := by
  cases outline with
  | string opening spelling =>
      rcases Except.of_bind_eq_error crash with crash | ⟨name, named, crash⟩
      · exact absurd crash (mapError_broken_ne_crash _)
      split at crash
      · rename_i known
        have spelled : spelling = .ok name := Except.of_mapError_eq_ok named
        exact .inl ⟨opening, name, spelled ▸ rfl, by simpa using known⟩
      · cases crash
  | object opening fields =>
      cases fields with
      | nil => cases crash
      | cons field fields =>
          obtain ⟨spelling, content⟩ := field
          have inside (wide : content.hasWide = true) :
              (Outline.object opening ((spelling, content) :: fields)).hasWide = true :=
            Outline.hasWide_of_field (List.mem_cons_self ..) wide
          rcases Except.of_bind_eq_error crash with crash | ⟨name, _, crash⟩
          · exact absurd crash (mapError_broken_ne_crash _)
          split at crash
          · rcases Except.of_bind_eq_error crash with crash | ⟨_, _, crash⟩
            · have calm : Subscription.record.codec.Calm .configuration false := Subscription.calm
              cases (calm content crash).1
            · cases crash
          · rcases Except.of_bind_eq_error crash with crash | ⟨_, _, crash⟩
            · exact .inr (inside (Publication.calm content crash).2)
            · cases crash
          · cases crash
  | _ => cases crash

/-- Everything that a configuration text can be read into: the types that are written again,
free-form values, and the arguments of connections, senders and decorators. -/
inductive Target where
  | written (kind : Kind)
  | json
  | oneSender
  | severalSenders
  | nestedConnections
  | storageNames
  | greatestAge

namespace Target

/-- What is read into a target. -/
def Value : Target → Type
  | written kind => kind.Value
  | json => Json
  | oneSender => Sender
  | severalSenders => List Sender
  | nestedConnections => List Connection
  | storageNames => List String
  | greatestAge => Int

def codec : (target : Target) → Codec target.Value
  | written kind => kind.codec
  | json => .json
  | oneSender => Config.oneSender.codec
  | severalSenders => Config.severalSenders.codec
  | nestedConnections => Config.nestedConnections.codec
  | storageNames => Config.storageNames.codec
  | greatestAge => Config.greatestAge.codec

/-- Whether there are numbers in a target, other than in free-form values. -/
def hasNumbers : Target → Bool
  | written .document | written .node | written .publication | written .publisher => true
  | greatestAge => true
  | _ => false

theorem calm_arguments {record : Type} {shape : Record record} {name : String}
    {codec : Codec kind} {get : record → kind} {set : record → kind → record}
    (calm : codec.Calm .configuration numbers)
    (fields : shape.fields = [.needed name codec get set]) :
    shape.codec.Calm .configuration numbers := by
  refine Record.calm ?_
  rw [fields, List.forall_mem_cons]
  exact ⟨Field.calm_ofCodec calm, List.forall_mem_nil _⟩

/-- The program stops only at the mere name of a rule that should be one, or at a wide value in a
target with numbers. -/
theorem crash_cases {target : Target} {outline : Outline}
    (crash : target.codec.decode .configuration outline = .error .crash) :
    target = written .document ∧ Rule.IsName outline ∨
      target.hasNumbers = true ∧ outline.hasWide = true := by
  have calm (calm : target.codec.Calm .configuration target.hasNumbers) :
      target = written .document ∧ Rule.IsName outline ∨
        target.hasNumbers = true ∧ outline.hasWide = true :=
    .inr (calm outline crash)
  cases target with
  | json => exact calm calm_json
  | oneSender => exact calm (calm_arguments Sender.calm rfl)
  | severalSenders => exact calm (calm_arguments Sender.calm.list rfl)
  | nestedConnections => exact calm (calm_arguments Connection.calm.list rfl)
  | storageNames => exact calm (calm_arguments (calm_textNamed _).list rfl)
  | greatestAge => exact calm (calm_arguments (calm_integer _ _ _) rfl)
  | written kind =>
      cases kind with
      | document => exact (Rule.crash_cases crash).imp (⟨rfl, ·⟩) (⟨rfl, ·⟩)
      | node => exact calm Node.calm
      | nodeStatistics => exact calm NodeStatistics.calm
      | statistics => exact calm Statistics.calm
      | subscription => exact calm Subscription.calm
      | publication => exact calm Publication.calm
      | publisher => exact calm Publisher.calm
      | decorator => exact calm Decorator.calm
      | connection => exact calm Connection.calm
      | sender => exact calm Sender.calm
      | filter => exact calm calm_filter

/-- Reading any text into any target gives a value or an error of the configuration, unless it is a
text that is nothing but the name of a rule and should be one, or a text with a wide value where
numbers are required. The name of a rule stops the program in any case. -/
theorem parse_cases (target : Target) (text : String) :
    ((∃ value, parse target.codec text = .ok value) ∨
      (∃ message, parse target.codec text = .error (.config message)) ∨
        parse target.codec text = .error .crash ∧
          ∃ outline, Json5.read? text = some outline ∧
            (target = written .document ∧ Rule.IsName outline ∨
              target.hasNumbers = true ∧ outline.hasWide = true)) ∧
      ∀ outline, Json5.read? text = some outline → Rule.IsName outline →
        target = written .document → parse target.codec text = .error .crash := by
  constructor
  · unfold parse
    cases read : Json5.read? text with
    | none => exact .inr (.inl ⟨_, rfl⟩)
    | some outline =>
        dsimp only
        split
        · exact .inl ⟨_, rfl⟩
        · rename_i crash
          exact .inr (.inr ⟨rfl, outline, rfl, crash_cases crash⟩)
        · exact .inr (.inl ⟨_, rfl⟩)
  · rintro outline read ⟨opening, name, rfl, known⟩ rfl
    have crash : Rule.decode .configuration (.string opening (.ok name)) = .error .crash := by
      show (if Rule.kinds.contains name then _ else _) = _
      rw [if_pos (by simpa using known)]
      rfl
    have decoded : (written .document).codec.decode .configuration (.string opening (.ok name)) =
        .error .crash := crash
    unfold parse
    rw [read]
    simp only [decoded]

/-- A text that is the name of a kind of rules and nothing else. -/
theorem parse_cases_of_name :
    ∃ outline, Json5.read? "\"subscription\"" = some outline ∧ Rule.IsName outline ∧
      parse (written .document).codec "\"subscription\"" = .error .crash := by
  have text : (Json.string "subscription").text = "\"subscription\"" := by decide +kernel
  have plain : Json5.separated (.string "subscription") = false := by decide +kernel
  have read := Json5.read?_text (.string "subscription")
  rw [text, plain, if_neg Bool.false_ne_true] at read
  have named : Rule.IsName (Json5.outlineOf (.string "subscription")) := ⟨_, _, rfl, by decide⟩
  exact ⟨_, read, named, (parse_cases (written .document) _).2 _ read named rfl⟩

/-- Both exceptions occur. -/
theorem parse_crashes :
    parse (written .document).codec "\"subscription\"" = .error .crash ∧
      parse (written .publisher).codec "\x7bthreads: 'é'\x7d" = .error .crash := by
  have crash {kind : Type} (outcome : Except Failure kind)
      (stops : (match outcome with | .error .crash => true | _ => false) = true) :
      outcome = .error .crash := by
    split at stops
    · rfl
    · cases stops
  exact ⟨crash _ (by decide +kernel), crash _ (by decide +kernel)⟩

end Target

end Config

end RadarRelay
