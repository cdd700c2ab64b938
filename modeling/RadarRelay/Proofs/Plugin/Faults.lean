import RadarRelay.Proofs.Plugin.Contents

/-!
# Parts with and without faults

The parts of a configuration are looked at in reading order, each in surroundings
that remember what was asked for before. A part passes, and may add a sender, or it
has a fault. Which of both it is and what comes of it is settled by the part and by
what the surroundings remember. So either all parts of a list are built, or there
is the error of the first one with a fault.
-/

namespace RadarRelay

open RadarRelay.Config

variable {Memory : Type}

/-- The id that a sender is built with: the configured one, or a fresh one of its class. -/
def Config.Sender.givenId (around : Surroundings Memory) (config : Config.Sender)
    (memory : Memory) : String × Memory :=
  match config.id with
  | some id => (id, memory)
  | none =>
      let fresh : String × Memory := around.answer .freshId memory
      (config.className ++ "-" ++ fresh.1, fresh.2)

/-- What a builder makes of the name that it is registered under, an id and arguments. -/
def Builder.make (around : Surroundings Memory) (builder : Builder) (className id : String)
    (arguments : Json) (memory : Memory) : Except Error Sender × Memory :=
  match builder with
  | .external => around.answer (.makeSender className id arguments) memory
  | .builtIn =>
      ((decodeArguments storageNames.codec className arguments).map (Sender.storage id), memory)

namespace Plugins

/-! ## Parts with and without faults -/

section

variable (plugins : Plugins) (around : Surroundings Memory)

/-- A part without a fault, and the senders that it adds. The class of a connection denotes a kind
and its arguments hold what that kind needs; the class of a sender is registered and its builder
makes one. -/
inductive Passes (memory : Memory) : Part → List Sender → Memory → Prop
  | connection {config : Config.Connection} {kind : Kind} {parts : List Part}
      (names : kind.Names config.className) (read : kind.contents config = .ok parts) :
      Passes memory (.connection config) [] memory
  | sender {config : Config.Sender} {entry : String × Builder} {sender : Sender} {after : Memory}
      (registered : Registered plugins.senders config.className entry)
      (made : entry.2.make around entry.1 (config.givenId around memory).1 config.arguments
        (config.givenId around memory).2 = (.ok sender, after)) :
      Passes memory (.sender config) [sender] after

/-- A part with a fault, and its error. -/
inductive Faulty (memory : Memory) : Part → Error → Prop
  | unknownKind {config : Config.Connection}
      (unnamed : ∀ kind : Kind, ¬ kind.Names config.className) :
      Faulty memory (.connection config) (unknownConnection config.className)
  | arguments {config : Config.Connection} {kind : Kind} {error : Error}
      (names : kind.Names config.className) (refused : kind.contents config = .error error) :
      Faulty memory (.connection config) error
  | unregistered {config : Config.Sender}
      (missing : ∀ entry, ¬ Registered plugins.senders config.className entry) :
      Faulty memory (.sender config) (unknown "sender" config.className)
  | builder {config : Config.Sender} {entry : String × Builder} {error : Error} {after : Memory}
      (registered : Registered plugins.senders config.className entry)
      (failed : entry.2.make around entry.1 (config.givenId around memory).1 config.arguments
        (config.givenId around memory).2 = (.error error, after)) :
      Faulty memory (.sender config) error

/-- Parts without faults, one after the other, and the senders of all of them. -/
inductive Built : Memory → List Part → List Sender → Memory → Prop
  | nil (memory : Memory) : Built memory [] [] memory
  | cons {memory between after : Memory} {part : Part} {parts : List Part}
      {senders others : List Sender} (first : Passes plugins around memory part senders between)
      (rest : Built between parts others after) :
      Built memory (part :: parts) (senders ++ others) after

/-- Parts of which the first with a fault has a given error. -/
inductive Fails : Memory → List Part → Error → Prop
  | here {memory : Memory} {part : Part} {parts : List Part} {error : Error}
      (fault : Faulty plugins around memory part error) : Fails memory (part :: parts) error
  | later {memory between : Memory} {part : Part} {parts : List Part} {senders : List Sender}
      {error : Error} (first : Passes plugins around memory part senders between)
      (rest : Fails between parts error) : Fails memory (part :: parts) error

/-- A sender that is made at some time as it is configured. -/
def Makes (config : Config.Sender) (sender : Sender) : Prop :=
  ∃ memory after, Passes plugins around memory (.sender config) [sender] after

end

variable {plugins : Plugins} {around : Surroundings Memory} {memory between after : Memory}
  {part : Part} {parts : List Part} {senders : List Sender} {error : Error}

/-! A part passes or has a fault, and only in one way. -/

theorem Registered.unique {entries : List (String × Builder)} {className : String}
    {entry other : String × Builder} (registered : Registered entries className entry)
    (others : Registered entries className other) : entry = other :=
  Option.some.inj ((find?_eq_some_iff.2 registered).symm.trans (find?_eq_some_iff.2 others))

theorem Passes.unique {others : List Sender} {between after : Memory}
    (passes : Passes plugins around memory part senders between)
    (passes' : Passes plugins around memory part others after) :
    senders = others ∧ between = after := by
  cases passes with
  | connection => cases passes'; exact ⟨rfl, rfl⟩
  | sender registered made =>
      cases passes' with
      | sender registered' made' =>
          cases registered.unique registered'
          cases made.symm.trans made'
          exact ⟨rfl, rfl⟩

theorem Passes.not_faulty (passes : Passes plugins around memory part senders between) :
    ¬ Faulty plugins around memory part error := by
  intro faulty
  cases passes with
  | connection names read =>
      cases faulty with
      | unknownKind unnamed => exact unnamed _ names
      | arguments names' refused =>
          cases names.unique names'
          cases read.symm.trans refused
  | sender registered made =>
      cases faulty with
      | unregistered missing => exact missing _ registered
      | builder registered' failed =>
          cases registered.unique registered'
          cases made.symm.trans failed

theorem Faulty.unique {other : Error} (faulty : Faulty plugins around memory part error)
    (faulty' : Faulty plugins around memory part other) : error = other := by
  cases faulty with
  | unknownKind unnamed =>
      cases faulty' with
      | unknownKind => rfl
      | arguments names => exact absurd names (unnamed _)
  | arguments names refused =>
      cases faulty' with
      | unknownKind unnamed => exact absurd names (unnamed _)
      | arguments names' refused' =>
          cases names.unique names'
          cases refused.symm.trans refused'
          rfl
  | unregistered missing =>
      cases faulty' with
      | unregistered => rfl
      | builder registered => exact absurd registered (missing _)
  | builder registered failed =>
      cases faulty' with
      | unregistered missing => exact absurd registered (missing _)
      | builder registered' failed' =>
          cases registered.unique registered'
          cases failed.symm.trans failed'
          rfl

theorem Built.not_fails (built : Built plugins around memory parts senders after) :
    ¬ Fails plugins around memory parts error := by
  induction built with
  | nil => nofun
  | cons first _ ih =>
      intro fails
      cases fails with
      | here fault => exact first.not_faulty fault
      | later first' rest =>
          obtain ⟨-, rfl⟩ := first.unique first'
          exact ih rest

theorem Fails.unique {other : Error} (fails : Fails plugins around memory parts error)
    (fails' : Fails plugins around memory parts other) : error = other := by
  induction fails with
  | here fault =>
      cases fails' with
      | here fault' => exact fault.unique fault'
      | later first => exact absurd fault first.not_faulty
  | later first _ ih =>
      cases fails' with
      | here fault => exact absurd fault first.not_faulty
      | later first' rest =>
          obtain ⟨-, rfl⟩ := first.unique first'
          exact ih rest

/-! Parts in front of others. -/

theorem Built.append {more : List Part} {others : List Sender}
    (built : Built plugins around memory parts senders between)
    (rest : Built plugins around between more others after) :
    Built plugins around memory (parts ++ more) (senders ++ others) after := by
  induction built with
  | nil => exact rest
  | cons first _ ih =>
      rw [List.append_assoc]
      exact .cons first (ih rest)

theorem Fails.append (fails : Fails plugins around memory parts error) (more : List Part) :
    Fails plugins around memory (parts ++ more) error := by
  induction fails with
  | here fault => exact .here fault
  | later first _ ih => exact .later first ih

theorem Built.fails_append {more : List Part}
    (built : Built plugins around memory parts senders between)
    (rest : Fails plugins around between more error) :
    Fails plugins around memory (parts ++ more) error := by
  induction built with
  | nil => exact rest
  | cons first _ ih => exact .later first (ih rest)

end Plugins

end RadarRelay
