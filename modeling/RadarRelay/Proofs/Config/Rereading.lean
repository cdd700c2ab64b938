import RadarRelay.Proofs.Document.Rereading
import RadarRelay.Proofs.Filter.Parts
import RadarRelay.Proofs.Filter.Written

/-!
# Configurations that were written

Every configuration type rereads. What was read of a text need not be any value of the
type: its numbers have come through doubles, and its free-form arguments and the literals
of its filters are legible. That is enough to read what is written for it, and the same
value comes back, however leniently the first text was written.
-/

namespace RadarRelay

open RadarRelay.Document RadarRelay.Number RadarRelay.Json5

namespace Filter

/-- A filter that was read from a legible value is written as one. -/
theorem legible_of_ofJson {value : Json} (legible : value.Legible) {filter : Filter}
    (read : ofJson value = .ok filter) : filter.toJson.Legible := by
  have denotes := ofJson_eq_ok_iff.1 read
  exact (Json.legible_iff _).2 (denotes.every_toJson ((Json.legible_iff _).1 legible))

end Filter

namespace Config

variable (dialect : Dialect)

theorem rereads_filter : filterCodec.Rereads dialect fun filter => filter.toJson.Legible where
  good_of_decode sound read := by
    obtain ⟨value, denoted, read⟩ := Except.of_bind_eq_ok read
    exact Filter.legible_of_ofJson
      (Outline.legible_of_toJson sound (Except.of_mapError_eq_ok denoted))
      (Except.of_mapError_eq_ok read)
  decode_outlineOf {filter} legible := by
    show ((outlineOf filter.toJson).toJson.mapError _ >>= fun value =>
      (Filter.ofJson value).mapError _) = _
    rw [toJson_outlineOf legible]
    show (Filter.ofJson filter.toJson).mapError _ = _
    rw [Filter.ofJson_toJson]
    rfl

theorem rereads_mode : modeCodec.Rereads dialect fun _ => True :=
  Codec.rereads_variant (fun mode => by cases mode <;> rfl) dialect

theorem rereads_text : Codec.text.Rereads dialect fun _ => True :=
  Codec.rereads_textNamed ..

theorem rereads_optionalText : Codec.text.option.Rereads dialect fun option =>
    ∀ text ∈ option, True :=
  (rereads_text dialect).option fun _ => nofun

theorem rereads_texts : (Codec.oneOrMany .text).Rereads dialect fun texts => ∀ text ∈ texts, True :=
  (rereads_text .alternative).oneOrMany (fun _ => trivial) dialect

theorem rereads_optionalFilter : filterCodec.option.Rereads dialect fun option =>
    ∀ filter ∈ option, filter.toJson.Legible :=
  (rereads_filter dialect).option fun {filter} _ => by cases filter <;> exact nofun

/-! ## Statistics -/

theorem Statistics.rereads : Statistics.codec.Rereads dialect fun _ => True := by
  have id := rereads_text dialect
  have mode := rereads_mode dialect
  refine Record.rereads trivial (fun _ _ _ _ _ _ _ _ => trivial) fun _ => ?_
  refine Record.decode_outlineOf (by decide)
    (.cons (Field.copies_ofCodec id trivial) (.cons (Field.copies_ofCodec mode trivial) .nil)) ?_ rfl
  simp [Record.Apart]

theorem Statistics.legible (config : Statistics) : (Statistics.codec.encode config).Legible :=
  Json.legible_ofFields ⟨trivial, trivial, trivial⟩

theorem Statistics.rereads_option : Statistics.codec.option.Rereads dialect fun option =>
    ∀ config ∈ option, True :=
  (Statistics.rereads dialect).option fun _ => nofun

theorem NodeStatistics.rereads : NodeStatistics.record.codec.Rereads dialect fun _ => True := by
  have statistics := Statistics.rereads_option dialect
  refine Record.rereads trivial (fun _ _ _ _ _ _ _ _ => trivial) fun _ => ?_
  refine Record.decode_outlineOf (by decide)
    (.cons (Field.copies_ofCodec statistics fun _ _ => trivial)
      (.cons (Field.copies_ofCodec statistics fun _ _ => trivial)
        (.cons (Field.copies_ofCodec statistics fun _ _ => trivial) .nil))) ?_ rfl
  simp [Record.Apart]

/-! ## Parts of publications -/

/-- The arguments of a decorator that was read are legible. -/
def Decorator.Readable (config : Decorator) : Prop := config.arguments.Legible

@[inherit_doc Decorator.Readable]
def Connection.Readable (config : Connection) : Prop := config.arguments.Legible

@[inherit_doc Decorator.Readable]
def Sender.Readable (config : Sender) : Prop := config.arguments.Legible

theorem Decorator.rereads : Decorator.record.codec.Rereads dialect Decorator.Readable := by
  have name := rereads_text dialect
  have allowDiscard := Codec.rereads_bool dialect
  have arguments := Codec.rereads_json dialect
  refine Record.rereads trivial ?_ fun readable => ?_
  · simp only [Decorator.record, List.forall_mem_cons]
    refine ⟨Field.keeps_ofCodec name ?_, Field.keeps_ofCodec allowDiscard ?_,
      Field.keeps_ofCodec arguments ?_, nofun⟩
    · exact fun given _ => given
    · exact fun given _ => given
    · exact fun _ legible => legible
  · refine Record.decode_outlineOf (by decide)
      (.cons (Field.copies_ofCodec name trivial)
        (.cons (Field.copies_ofCodec allowDiscard trivial)
          (.cons (Field.copies_ofCodec arguments readable) .nil))) ?_ rfl
    simp [Record.Apart]

theorem Connection.rereads : Connection.record.codec.Rereads dialect Connection.Readable := by
  have className := rereads_text dialect
  have arguments := Codec.rereads_json dialect
  refine Record.rereads trivial ?_ fun readable => ?_
  · simp only [Connection.record, List.forall_mem_cons]
    refine ⟨Field.keeps_ofCodec className ?_, Field.keeps_ofCodec arguments ?_, nofun⟩
    · exact fun given _ => given
    · exact fun _ legible => legible
  · refine Record.decode_outlineOf (by decide)
      (.cons (Field.copies_ofCodec className trivial)
        (.cons (Field.copies_ofCodec arguments readable) .nil)) ?_ rfl
    simp [Record.Apart]

theorem Sender.rereads : Sender.record.codec.Rereads dialect Sender.Readable := by
  have className := rereads_text dialect
  have id := rereads_optionalText dialect
  have arguments := Codec.rereads_json dialect
  refine Record.rereads trivial ?_ fun readable => ?_
  · simp only [Sender.record, List.forall_mem_cons]
    refine ⟨Field.keeps_ofCodec className ?_, Field.keeps_ofCodec id ?_,
      Field.keeps_ofCodec arguments ?_, nofun⟩
    · exact fun given _ => given
    · exact fun given _ => given
    · exact fun _ legible => legible
  · refine Record.decode_outlineOf (by decide)
      (.cons (Field.copies_ofCodec className trivial)
        (.cons (Field.copies_ofCodec id fun _ _ => trivial)
          (.cons (Field.copies_ofCodec arguments readable) .nil))) ?_ rfl
    simp [Record.Apart]

/-- The numbers of a publisher that was read were read as doubles. -/
structure Publisher.Readable (config : Publisher) : Prop where
  threads : Counted config.threads
  queueSize : Counted config.queueSize

theorem counted_one : Counted 1 := ⟨by decide +kernel, by decide +kernel⟩

theorem counted_hundred : Counted 100 := ⟨by decide +kernel, by decide +kernel⟩

theorem counted_fiveHundred : Counted 500 := ⟨by decide +kernel, by decide +kernel⟩

theorem Publisher.readable_defaults : Publisher.defaults.Readable :=
  ⟨counted_one, counted_hundred⟩

theorem Publisher.rereads :
    Publisher.record.codec.Rereads .configuration Publisher.Readable := by
  have number := Codec.rereads_natural "usize"
  have statistics := Statistics.rereads_option .configuration
  refine Record.rereads Publisher.readable_defaults ?_ fun readable => ?_
  · simp only [Publisher.record, List.forall_mem_cons]
    refine ⟨Field.keeps_ofCodec number ?_, Field.keeps_ofCodec number ?_,
      Field.keeps_ofCodec statistics ?_, Field.keeps_ofCodec statistics ?_, nofun⟩
    · exact fun given threads => { given with threads }
    · exact fun given queueSize => { given with queueSize }
    · exact fun given _ => { given with }
    · exact fun given _ => { given with }
  · refine Record.decode_outlineOf (by decide)
      (.cons (Field.copies_ofCodec number readable.threads)
        (.cons (Field.copies_ofCodec number readable.queueSize)
          (.cons (Field.copies_ofCodec statistics fun _ _ => trivial)
            (.cons (Field.copies_ofCodec statistics fun _ _ => trivial) .nil)))) ?_ rfl
    simp [Record.Apart]

/-! ## Nodes -/

/-- The numbers of a node that was read were read as doubles. -/
structure Node.Readable (config : Node) : Prop where
  maxContentLength : ∀ length ∈ config.maxContentLength, Counted length
  handledFilesLimit : Counted config.handledFilesLimit

theorem Node.rereads : Node.record.codec.Rereads .configuration Node.Readable := by
  have name := rereads_text .configuration
  have length := (Codec.rereads_natural "u64").option fun _ => nofun
  have limit := Codec.rereads_natural "usize"
  have folder : Codec.path.option.Rereads .configuration _ :=
    (Codec.rereads_textNamed "path string" .configuration).option fun _ => nofun
  have statistics := NodeStatistics.rereads .configuration
  refine Record.rereads ⟨nofun, counted_fiveHundred⟩ ?_ fun readable => ?_
  · simp only [Node.record, List.forall_mem_cons]
    refine ⟨Field.keeps_ofCodec name ?_, Field.keeps_ofCodec length ?_, Field.keeps_ofCodec limit ?_,
      Field.keeps_ofCodec folder ?_, Field.keeps_ofCodec statistics ?_, nofun⟩
    · exact fun given _ => { given with }
    · exact fun given maxContentLength => { given with maxContentLength }
    · exact fun given handledFilesLimit => { given with handledFilesLimit }
    · exact fun given _ => { given with }
    · exact fun given _ => { given with }
  · refine Record.decode_outlineOf (by decide)
      (.cons (Field.copies_ofCodec name trivial)
        (.cons (Field.copies_ofCodec length readable.maxContentLength)
          (.cons (Field.copies_ofCodec limit readable.handledFilesLimit)
            (.cons (Field.copies_ofCodec folder fun _ _ => trivial)
              (.cons (Field.copies_ofCodec statistics trivial) .nil))))) ?_ rfl
    simp [Record.Apart]

/-! ## Rules -/

/-- The filter of a subscription that was read has legible literals. -/
def Subscription.Readable (config : Subscription) : Prop :=
  ∀ filter ∈ config.filter, filter.toJson.Legible

theorem Subscription.rereads :
    Subscription.record.codec.Rereads .configuration Subscription.Readable := by
  have id := rereads_optionalText .configuration
  have flag := Codec.rereads_bool .configuration
  have storages := rereads_texts .configuration
  have filter := rereads_optionalFilter .configuration
  have origins := (rereads_text .configuration).list
  have statistics := (Statistics.rereads .alternative).oneOrMany
    (fun {config} _ => Statistics.legible config) .configuration
  refine Record.rereads nofun ?_ fun readable => ?_
  · simp only [Subscription.record, List.forall_mem_cons]
    refine ⟨Field.keeps_ofCodec id ?_, Field.keeps_ofCodec flag ?_, Field.keeps_ofCodec storages ?_,
      Field.keeps_ofCodec filter ?_, Field.keeps_ofCodec flag ?_, Field.keeps_ofCodec origins ?_,
      Field.keeps_ofCodec statistics ?_, nofun⟩
    · exact fun given _ => given
    · exact fun given _ => given
    · exact fun given _ => given
    · exact fun _ legible => legible
    · exact fun given _ => given
    · exact fun given _ => given
    · exact fun given _ => given
  · refine Record.decode_outlineOf (by decide)
      (.cons (Field.copies_ofCodec id fun _ _ => trivial)
        (.cons (Field.copies_ofCodec flag trivial)
          (.cons (Field.copies_ofCodec storages fun _ _ => trivial)
            (.cons (Field.copies_ofCodec filter readable)
              (.cons (Field.copies_ofCodec flag trivial)
                (.cons (Field.copies_ofCodec origins fun _ _ => trivial)
                  (.cons (Field.copies_ofCodec statistics fun _ _ => trivial) .nil))))))) ?_ rfl
    simp [Record.Apart]

/-- A publication that was read has readable parts. -/
structure Publication.Readable (config : Publication) : Prop where
  filter : ∀ filter ∈ config.filter, filter.toJson.Legible
  decorators : ∀ decorator ∈ config.decorators, decorator.Readable
  connection : config.connection.Readable
  publisher : config.publisher.Readable

theorem Publication.rereads :
    Publication.record.codec.Rereads .configuration Publication.Readable := by
  have name := rereads_text .configuration
  have className := rereads_optionalText .configuration
  have active := Codec.rereads_bool .configuration
  have origins := rereads_texts .configuration
  have filter := rereads_optionalFilter .configuration
  have decorators := (Decorator.rereads .configuration).list
  have connection := Connection.rereads .configuration
  have publisher := Publisher.rereads
  refine Record.rereads ⟨nofun, nofun, trivial, Publisher.readable_defaults⟩ ?_ fun readable => ?_
  · simp only [Publication.record, List.forall_mem_cons]
    refine ⟨Field.keeps_ofCodec name ?_, Field.keeps_ofCodec className ?_,
      Field.keeps_ofCodec active ?_, Field.keeps_ofCodec origins ?_, Field.keeps_ofCodec filter ?_,
      Field.keeps_ofCodec decorators ?_, Field.keeps_ofCodec connection ?_,
      Field.keeps_ofCodec publisher ?_, nofun⟩
    · exact fun given _ => { given with }
    · exact fun given _ => { given with }
    · exact fun given _ => { given with }
    · exact fun given _ => { given with }
    · exact fun given filter => { given with filter }
    · exact fun given decorators => { given with decorators }
    · exact fun given connection => { given with connection }
    · exact fun given publisher => { given with publisher }
  · refine Record.decode_outlineOf (by decide)
      (.cons (Field.copies_ofCodec name trivial)
        (.cons (Field.copies_ofCodec className fun _ _ => trivial)
          (.cons (Field.copies_ofCodec active trivial)
            (.cons (Field.copies_ofCodec origins fun _ _ => trivial)
              (.cons (Field.copies_ofCodec filter readable.filter)
                (.cons (Field.copies_ofCodec decorators readable.decorators)
                  (.cons (Field.copies_ofCodec connection readable.connection)
                    (.cons (Field.copies_ofCodec publisher readable.publisher) .nil)))))))) ?_ rfl
    simp [Record.Apart]

/-- The subscription or publication of a rule that was read is readable. -/
def Rule.Readable : Rule → Prop
  | .subscription config => config.Readable
  | .publication config => config.Readable

theorem Rule.readable_of_decode {outline : Outline} (sound : outline.Sound Numeral.Sound) {rule : Rule}
    (read : Rule.decode .configuration outline = .ok rule) : rule.Readable := by
  cases outline with
  | string opening spelling =>
      obtain ⟨name, -, read⟩ := Except.of_bind_eq_ok read
      split at read <;> cases read
  | object opening fields =>
      cases fields with
      | nil => cases read
      | cons field fields =>
          obtain ⟨spelling, content⟩ := field
          have content : content.Sound Numeral.Sound :=
            Outline.sound_object.1 sound _ (List.mem_cons_self ..)
          obtain ⟨name, -, read⟩ := Except.of_bind_eq_ok read
          split at read
          · obtain ⟨config, decoded, read⟩ := Except.of_bind_eq_ok read
            cases read
            exact Subscription.rereads.good_of_decode content decoded
          · obtain ⟨config, decoded, read⟩ := Except.of_bind_eq_ok read
            cases read
            exact Publication.rereads.good_of_decode content decoded
          · cases read
  | _ => cases read

theorem Rule.decode_outlineOf {rule : Rule} (readable : rule.Readable) :
    Rule.decode .configuration (outlineOf (Rule.codec.encode rule)) = .ok rule := by
  cases rule with
  | subscription config =>
      have read : Subscription.record.decode .configuration
          (outlineOf (Subscription.record.codec.encode config)) = .ok config :=
        Subscription.rereads.decode_outlineOf readable
      show (Subscription.record.decode .configuration
        (outlineOf (Subscription.record.codec.encode config)) >>= _) = _
      rw [read]
      rfl
  | publication config =>
      have read : Publication.record.decode .configuration
          (outlineOf (Publication.record.codec.encode config)) = .ok config :=
        Publication.rereads.decode_outlineOf readable
      show (Publication.record.decode .configuration
        (outlineOf (Publication.record.codec.encode config)) >>= _) = _
      rw [read]
      rfl

theorem Rule.rereads : Rule.codec.Rereads .configuration Rule.Readable where
  good_of_decode sound read := Rule.readable_of_decode sound read
  decode_outlineOf readable := Rule.decode_outlineOf readable

/-! ## Every type -/

/-- The types that configuration texts are read into, and that are written again. -/
inductive Kind where
  | document
  | node
  | nodeStatistics
  | statistics
  | subscription
  | publication
  | publisher
  | decorator
  | connection
  | sender
  | filter
  deriving DecidableEq, Repr

namespace Kind

/-- What is read into a type. -/
def Value : Kind → Type
  | document => Rule
  | node => Node
  | nodeStatistics => NodeStatistics
  | statistics => Statistics
  | subscription => Subscription
  | publication => Publication
  | publisher => Publisher
  | decorator => Decorator
  | connection => Connection
  | sender => Sender
  | filter => Filter

def codec : (kind : Kind) → Codec kind.Value
  | document => Rule.codec
  | node => Node.record.codec
  | nodeStatistics => NodeStatistics.record.codec
  | statistics => Statistics.codec
  | subscription => Subscription.record.codec
  | publication => Publication.record.codec
  | publisher => Publisher.record.codec
  | decorator => Decorator.record.codec
  | connection => Connection.record.codec
  | sender => Sender.record.codec
  | filter => filterCodec

/-- What is written for a value of a type. -/
def text (kind : Kind) (value : kind.Value) : String :=
  (kind.codec.encode value).text

theorem exists_rereads (kind : Kind) :
    ∃ good, kind.codec.Rereads .configuration good := by
  cases kind with
  | document => exact ⟨_, Rule.rereads⟩
  | node => exact ⟨_, Node.rereads⟩
  | nodeStatistics => exact ⟨_, NodeStatistics.rereads _⟩
  | statistics => exact ⟨_, Statistics.rereads _⟩
  | subscription => exact ⟨_, Subscription.rereads⟩
  | publication => exact ⟨_, Publication.rereads⟩
  | publisher => exact ⟨_, Publisher.rereads⟩
  | decorator => exact ⟨_, Decorator.rereads _⟩
  | connection => exact ⟨_, Connection.rereads _⟩
  | sender => exact ⟨_, Sender.rereads _⟩
  | filter => exact ⟨_, rereads_filter _⟩

/-- What is written for a value that was read is read again as the same value, in whatever spelling
it was read first; unless a string or a name of it holds a line or paragraph separator, for then
what is written is not grammatical. -/
theorem parse_text {kind : Kind} {text : String} {value : kind.Value}
    (accepted : parse kind.codec text = .ok value) :
    parse kind.codec (kind.text value) =
      if separated (kind.codec.encode value) then .error (.config "json5 syntax error")
      else .ok value := by
  obtain ⟨good, rereads⟩ := kind.exists_rereads
  have given : good value := by
    unfold parse at accepted
    split at accepted
    · cases accepted
    · rename_i outline read
      split at accepted
      · rename_i decoded
        cases accepted
        exact rereads.good_of_decode (sound_of_read? read) decoded
      · cases accepted
      · cases accepted
  have again := rereads.decode_outlineOf given
  unfold parse Kind.text
  rw [read?_text]
  cases separated (kind.codec.encode value) with
  | true => rfl
  | false => simp [again]

/-- Single values become lists, arrays become records, and numbers are cut off and moved between
their bounds. What comes out of it is read again. -/
theorem parse_text_of_lenient_publication :
    let lenient := "\x7bsubscription_origin: 'weather', connection: ['simple'], " ++
      "extra_arguments: [0x10, 1e30, \x7bid: 'sent', type: \x7bcount: 0\x7d\x7d]\x7d"
    ∃ value : publication.Value,
      parse publication.codec lenient = .ok value ∧
        parse publication.codec (publication.text value) = .ok value := by
  intro lenient
  have plain : (parse publication.codec lenient).toOption.map
      (fun value => separated (publication.codec.encode value)) = some false := by
    decide +kernel
  cases accepted : parse publication.codec lenient with
  | error failure =>
      rw [accepted] at plain
      cases plain
  | ok value =>
      rw [accepted] at plain
      have inside : separated (publication.codec.encode value) = false := Option.some.inj plain
      have again := parse_text accepted
      rw [inside] at again
      exact ⟨value, rfl, again⟩

/-- A separator that is accepted as an escape is written as it is and is not accepted again. -/
theorem parse_text_ne_ok_of_separator :
    ∃ value : sender.Value,
      parse sender.codec "\x7bclass: '\\u2028'\x7d" = .ok value ∧
        parse sender.codec (sender.text value) = .error (.config "json5 syntax error") := by
  have broken : (parse sender.codec "\x7bclass: '\\u2028'\x7d").toOption.map
      (fun value => (Json5.read? (sender.text value)).isNone) = some true := by
    decide +kernel
  cases accepted : parse sender.codec "\x7bclass: '\\u2028'\x7d" with
  | error failure =>
      rw [accepted] at broken
      cases broken
  | ok value =>
      rw [accepted] at broken
      refine ⟨value, rfl, ?_⟩
      unfold parse
      rw [Option.isNone_iff_eq_none.1 (Option.some.inj broken)]

end Kind

end Config

end RadarRelay
