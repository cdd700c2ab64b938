import RadarRelay.Proofs.Activity.Alone
import RadarRelay.Proofs.Activity.Crew
import RadarRelay.Proofs.Plugin.Faults

/-!
# Built connections mirror their configuration

A connection is built when every part of its configuration passes. Its kinds, its
children and its senders are then those of the configuration, in the same order,
and the senders have the configured ids. Otherwise the error is that of the first
part with a fault.
-/

namespace RadarRelay.Plugins

open RadarRelay.Config

variable {State Memory Item Result Other : Type}

/-- How a kind with any number of senders joins them. -/
def Kind.join? : Kind → Option (List Sender → Connection)
  | failover => some .failover
  | backup => some .backup
  | distributed => some .distributed
  | simple | combined => none

/-- A connection of the kind, with the senders and with the children that are configured, in the
order in which they are. -/
inductive Mirrors (made : Config.Sender → Sender → Prop) : Config.Connection → Connection → Prop
  | simple {config : Config.Connection} {sender : Config.Sender} {built : Sender}
      (names : Kind.simple.Names config.className)
      (read : Kind.simple.contents config = .ok [.sender sender]) (isMade : made sender built) :
      Mirrors made config (.simple built)
  | several {config : Config.Connection} {kind : Kind} {join : List Sender → Connection}
      {senders : List Config.Sender} {built : List Sender} (joins : kind.join? = some join)
      (names : kind.Names config.className)
      (read : kind.contents config = .ok (senders.map .sender))
      (each : List.Forall₂ made senders built) : Mirrors made config (join built)
  | combined {config : Config.Connection} {connections : List Config.Connection}
      {built : List Connection} (names : Kind.combined.Names config.className)
      (read : Kind.combined.contents config = .ok (connections.map .connection))
      (each : List.Forall₂ (Mirrors made) connections built) :
      Mirrors made config (.combined built)

section

variable (plugins : Plugins) (around : Surroundings Memory)

/-- What a run comes to that builds some parts: a good result with the senders of all of them, or
the error of the first one with a fault. The state stays as it was. -/
inductive Settles (memory : Memory) (state : State) (parts : List Part)
    (senders : Result → List Sender) (good : Result → Prop) :
    Except Error Result × State × Memory → Prop
  | built {result : Result} {after : Memory}
      (built : Built plugins around memory parts (senders result) after) (isGood : good result) :
      Settles memory state parts senders good (.ok result, state, after)
  | failed {error : Error} {after : Memory} (fails : Fails plugins around memory parts error) :
      Settles memory state parts senders good (.error error, state, after)

end

variable {plugins : Plugins} {around : Surroundings Memory} {memory : Memory} {state : State}
  {parts : List Part} {senders : Result → List Sender} {good : Result → Prop}

/-! ## One step of building after the other -/

theorem Settles.map {outcome : Except Error Result × State × Memory}
    (settles : Settles plugins around memory state parts senders good outcome)
    {make : Result → Other} {others : Other → List Sender} {better : Other → Prop}
    (same : ∀ result, others (make result) = senders result)
    (keeps : ∀ result, good result → better (make result)) :
    Settles plugins around memory state parts others better (outcome.1.map make, outcome.2) := by
  cases settles with
  | built built isGood => exact .built (by rw [same]; exact built) (keeps _ isGood)
  | failed fails => exact .failed fails

theorem settles_map {activity : Activity State (Except Error Result)}
    (settles : Settles plugins around memory state parts senders good
      (activity.run around state memory))
    {make : Result → Other} {others : Other → List Sender} {better : Other → Prop}
    (same : ∀ result, others (make result) = senders result)
    (keeps : ∀ result, good result → better (make result)) :
    Settles plugins around memory state parts others better
      ((do return (← activity).map make : Activity State (Except Error Other)).run around state
        memory) := by
  rw [Activity.run_bind]
  exact settles.map same keeps

/-- Going through a list settles the parts of its items, one after the other. -/
theorem settles_attempt {action : Item → Activity State (Except Error Result)}
    {partsOf : Item → List Part} {goodFor : Item → Result → Prop} {items : List Item}
    (each : ∀ item ∈ items, ∀ memory, Settles plugins around memory state (partsOf item) senders
      (goodFor item) ((action item).run around state memory)) (memory : Memory) :
    Settles plugins around memory state (items.flatMap partsOf)
      (fun results => results.flatMap senders) (List.Forall₂ goodFor items)
      ((Activity.attempt action items).run around state memory) := by
  induction items generalizing memory with
  | nil => exact .built (.nil memory) .nil
  | cons item items ih =>
      have ih := ih fun other member => each other (List.mem_cons_of_mem _ member)
      rw [Activity.attempt, Activity.run_bind, List.flatMap_cons]
      have first := each item List.mem_cons_self memory
      revert first
      generalize (action item).run around state memory = outcome
      intro first
      cases first with
      | failed fails => exact .failed (fails.append _)
      | @built result between built isGood =>
          dsimp only
          rw [Activity.run_bind]
          have rest := ih between
          revert rest
          generalize (Activity.attempt action items).run around state between = outcome
          intro rest
          cases rest with
          | failed fails => exact .failed (built.fails_append fails)
          | built more areGood => exact .built (built.append more) (.cons isGood areGood)

/-- A connection that can be read settles as its contents do. -/
theorem Settles.connection {config : Config.Connection} {kind : Kind}
    {outcome : Except Error Result × State × Memory} (names : kind.Names config.className)
    (read : kind.contents config = .ok parts)
    (settles : Settles plugins around memory state (parts.flatMap Part.inOrder) senders good
      outcome) :
    Settles plugins around memory state (Part.connection config).inOrder senders good outcome := by
  rw [Part.inOrder_eq, Part.children_eq names read]
  cases settles with
  | built built isGood => exact .built (.cons (.connection names read) built) isGood
  | failed fails => exact .failed (.later (.connection names read) fails)

/-- A connection with a fault of its own fails with that. -/
theorem Settles.of_faulty {config : Config.Connection} {error : Error}
    (faulty : Faulty plugins around memory (.connection config) error) :
    Settles plugins around memory state (Part.connection config).inOrder senders good
      (.error error, state, memory) := by
  rw [Part.inOrder_eq]
  exact .failed (.here faulty)

/-! ## Senders -/

theorem inOrder_sender (config : Config.Sender) :
    (Part.sender config).inOrder = [.sender config] := by
  rw [Part.inOrder_eq]
  rfl

theorem flatMap_inOrder_senders (configs : List Config.Sender) :
    (configs.map Part.sender).flatMap Part.inOrder =
      configs.flatMap fun config => [.sender config] := by
  rw [List.flatMap_map]
  simp only [inOrder_sender]

/-- A sender is made by the builder of its class, under its id. -/
theorem run_buildSender (plugins : Plugins) (around : Surroundings Memory) (config : Config.Sender)
    (state : State) (memory : Memory) :
    (plugins.buildSender config).run around state memory =
      match find? plugins.senders config.className with
      | none => (.error (unknown "sender" config.className), state, memory)
      | some entry =>
          let given := config.givenId around memory
          let made := entry.2.make around entry.1 given.1 config.arguments given.2
          (made.1, state, made.2) := by
  rw [buildSender, Config.Sender.givenId]
  cases find? plugins.senders config.className with
  | none => rfl
  | some entry =>
      obtain ⟨className, builder⟩ := entry
      cases config.id <;> cases builder <;> rfl

theorem settles_buildSender (config : Config.Sender) (memory : Memory) :
    Settles plugins around memory state [.sender config] (fun sender => [sender])
      (Makes plugins around config) ((plugins.buildSender config).run around state memory) := by
  rw [run_buildSender]
  cases found : find? plugins.senders config.className with
  | none =>
      refine .failed (.here (.unregistered fun entry registered => ?_))
      cases found.symm.trans (find?_eq_some_iff.2 registered)
  | some entry =>
      have registered := find?_eq_some_iff.1 found
      dsimp only
      cases made : entry.2.make around entry.1 (config.givenId around memory).1 config.arguments
          (config.givenId around memory).2 with
      | mk outcome after =>
          cases outcome with
          | error error => exact .failed (.here (.builder registered made))
          | ok sender =>
              have passes := Passes.sender registered made
              exact .built (.cons passes (.nil after)) ⟨memory, after, passes⟩

theorem settles_buildSenders {config : Config.Connection} {kind : Kind}
    {join : List Sender → Connection} (joins : kind.join? = some join)
    (names : kind.Names config.className) (memory : Memory) :
    Settles plugins around memory state (Part.connection config).inOrder Connection.senders
      (Mirrors (Makes plugins around) config)
      ((do return (← plugins.buildSenders config).map join :
        Activity State (Except Error Connection)).run around state memory) := by
  have decodes : kind.contents config = (decodeArguments severalSenders.codec config.className
      config.arguments).map (List.map .sender) := by
    cases kind with
    | failover | backup | distributed => rfl
    | _ => cases joins
  have senders_join built : (join built).senders = built := by
    cases kind <;> cases joins <;> rfl
  rw [buildSenders]
  cases decoded : decodeArguments severalSenders.codec config.className config.arguments with
  | error error =>
      rw [decoded] at decodes
      exact .of_faulty (.arguments names decodes)
  | ok configs =>
      rw [decoded] at decodes
      refine .connection names decodes ?_
      rw [flatMap_inOrder_senders]
      refine settles_map (settles_attempt (fun config _ => settles_buildSender config) memory)
        (fun built => ?_) fun built each => .several joins names decodes each
      rw [senders_join, List.flatMap_singleton']

/-! ## Connections -/

theorem settles_buildWith {config : Config.Connection}
    {nested : List Config.Connection → Activity State (Except Error (List Connection))}
    (each : ∀ connections, Kind.combined.contents config = .ok (connections.map .connection) →
      ∀ memory, Settles plugins around memory state
        (connections.flatMap fun nested => (Part.connection nested).inOrder)
        (fun built => built.flatMap Connection.senders)
        (List.Forall₂ (Mirrors (Makes plugins around)) connections)
        ((nested connections).run around state memory)) (memory : Memory) :
    Settles plugins around memory state (Part.connection config).inOrder Connection.senders
      (Mirrors (Makes plugins around) config)
      ((plugins.buildWith nested config).run around state memory) := by
  unfold buildWith
  cases known : kind? config.className with
  | none => exact .of_faulty (.unknownKind (kind?_eq_none_iff.1 known))
  | some kind =>
      have names := kind?_eq_some_iff.1 known
      cases kind with
      | simple =>
          dsimp only
          cases decoded : decodeArguments oneSender.codec config.className config.arguments with
          | error error => exact .of_faulty (.arguments names (by rw [Kind.contents, decoded]; rfl))
          | ok sender =>
              have read : Kind.simple.contents config = .ok [.sender sender] := by
                rw [Kind.contents, decoded]
                rfl
              refine .connection names read ?_
              rw [List.flatMap_singleton, inOrder_sender]
              exact settles_map (settles_buildSender sender memory) (fun _ => rfl)
                fun built isMade => .simple names read isMade
      | failover | backup | distributed => exact settles_buildSenders rfl names memory
      | combined =>
          dsimp only
          cases decoded : decodeArguments nestedConnections.codec config.className
              config.arguments with
          | error error => exact .of_faulty (.arguments names (by rw [Kind.contents, decoded]; rfl))
          | ok connections =>
              have read : Kind.combined.contents config = .ok (connections.map .connection) := by
                rw [Kind.contents, decoded]
                rfl
              refine .connection names read ?_
              rw [List.flatMap_map]
              exact settles_map (each connections read memory)
                (fun built => Connection.sendersOfAll_eq_flatMap built)
                fun built areMirrors => .combined names read areMirrors

/-- Any bound of at least the depth of the arguments is enough. -/
theorem settles_buildNested {depth : Nat} {config : Config.Connection}
    (enough : config.arguments.depth ≤ depth) (memory : Memory) :
    Settles plugins around memory state (Part.connection config).inOrder Connection.senders
      (Mirrors (Makes plugins around) config)
      ((plugins.buildNested depth config).run around state memory) := by
  induction depth generalizing config memory with
  | zero =>
      rw [buildNested_zero]
      refine settles_buildWith (fun connections read => ?_) memory
      obtain ⟨_, decoded, -⟩ := Except.of_map_eq_ok read
      exact absurd (depth_lt_of_decodeArguments decoded).1 (Nat.not_lt_of_le enough)
  | succ depth ih =>
      rw [buildNested_succ]
      refine settles_buildWith (fun connections read => settles_attempt fun nested member => ?_)
        memory
      have less := Part.depth_le_of_mem_contents read (List.mem_map_of_mem member)
      exact ih (Nat.le_of_succ_le_succ (Nat.le_trans less enough))

theorem settles_buildConnection (plugins : Plugins) (around : Surroundings Memory)
    (config : Config.Connection) (state : State) (memory : Memory) :
    Settles plugins around memory state (Part.connection config).inOrder Connection.senders
      (Mirrors (Makes plugins around) config)
      ((plugins.buildConnection config).run around state memory) :=
  settles_buildNested (Nat.le_refl _) memory

/-! ## Ids -/

/-- Whether the senders that the surroundings make have the ids that are given to them. -/
def KeepsIds (around : Surroundings Memory) : Prop :=
  ∀ className id arguments memory sender,
    (around.answer (.makeSender className id arguments) memory).1 = .ok sender → sender.id = id

/-- Whether an id is the one that a sender is configured with, or a fresh one of its class. -/
def HasId (around : Surroundings Memory) (config : Config.Sender) (id : String) : Prop :=
  match config.id with
  | some given => id = given
  | none =>
      ∃ memory, ∃ fresh : String, (around.answer .freshId memory).1 = fresh ∧
        id = config.className ++ "-" ++ fresh

theorem hasId_givenId (around : Surroundings Memory) (config : Config.Sender) (memory : Memory) :
    HasId around config (config.givenId around memory).1 := by
  rw [HasId, Config.Sender.givenId]
  cases config.id with
  | some id => rfl
  | none => exact ⟨memory, _, rfl, rfl⟩

/-- The senders among some parts. -/
def sendersAmong (parts : List Part) : List Config.Sender :=
  parts.filterMap fun
    | .sender config => some config
    | .connection _ => none

theorem make_id (keeps : KeepsIds around) {builder : Builder} {className id : String}
    {arguments : Json} {sender : Sender} {after : Memory}
    (made : builder.make around className id arguments memory = (.ok sender, after)) :
    sender.id = id := by
  cases builder with
  | external => exact keeps className id arguments memory sender (congrArg Prod.fst made)
  | builtIn =>
      obtain ⟨names, -, rfl⟩ := Except.of_map_eq_ok (congrArg Prod.fst made)
      rfl

theorem Built.hasIds (keeps : KeepsIds around) {built : List Sender} {after : Memory}
    (isBuilt : Built plugins around memory parts built after) :
    List.Forall₂ (HasId around) (sendersAmong parts) (built.map Sender.id) := by
  induction isBuilt with
  | nil => exact .nil
  | @cons memory _ _ _ _ _ _ first _ ih =>
      cases first with
      | connection => exact ih
      | @sender config _ sender _ _ made =>
          have id := make_id keeps made
          refine .cons ?_ ih
          rw [id]
          exact hasId_givenId around config memory

/-- A connection is built exactly when all parts of its configuration pass, one after the other in
reading order. It then mirrors the configuration, its senders are the ones that were made, in that
order, and they have the configured ids where the surroundings keep the ids that are given.
Otherwise the error is that of the first part with a fault. -/
theorem buildConnection_mirrors (plugins : Plugins) (around : Surroundings Memory)
    (config : Config.Connection) (state : State) (memory : Memory) :
    let outcome := ((plugins.buildConnection config).run around state memory).1
    let parts := (Part.connection config).inOrder
    ((∃ connection, outcome = .ok connection) ↔
      ∃ senders after, Built plugins around memory parts senders after) ∧
    (∀ connection, outcome = .ok connection →
      Mirrors (Makes plugins around) config connection ∧
      (∃ after, Built plugins around memory parts connection.senders after) ∧
      (KeepsIds around →
        List.Forall₂ (HasId around) (sendersAmong parts) connection.senderIds)) ∧
    (∀ error, outcome = .error error ↔ Fails plugins around memory parts error) := by
  intro outcome parts
  have settles := settles_buildConnection plugins around config state memory
  have split : outcome = ((plugins.buildConnection config).run around state memory).1 := rfl
  revert split settles
  generalize (plugins.buildConnection config).run around state memory = run
  intro settles split
  cases settles with
  | @built connection after built mirrors =>
      rw [split]
      refine ⟨⟨fun _ => ⟨_, after, built⟩, fun _ => ⟨connection, rfl⟩⟩, ?_, fun error =>
        ⟨nofun, fun fails => absurd fails built.not_fails⟩⟩
      rintro _ ⟨⟩
      exact ⟨mirrors, ⟨after, built⟩, fun keeps => built.hasIds keeps⟩
  | failed fails =>
      rw [split]
      refine ⟨⟨nofun, fun ⟨_, _, built⟩ => absurd fails built.not_fails⟩, nofun, fun error =>
        ⟨?_, fun other => by rw [fails.unique other]⟩⟩
      rintro ⟨⟩
      exact fails

/-- Surroundings that make every sender, and have one id for those without one. -/
def obliging : Surroundings Unit where
  answer request _ :=
    match request with
    | .freshId => ("7f", ())
    | other => (other.granted, ())
  waits _ _ := false

/-- Two senders in front of a third one in a connection of a class of its own. The second has no
id. -/
def twoLevels (second last : String) : Config.Connection where
  className := "net.combined_connection"
  arguments := .object
    [ ("connections", .array
        [ .object
            [ ("arguments", .object
                [ ("senders", .array
                    [ .object [("class", .string "mem"), ("id", .string "a")],
                      .object [("class", .string second)] ]) ]),
              ("class", .string "backup") ],
          .object
            [ ("arguments", .object
                [("sender", .object [("class", .string "mem"), ("id", .string "c")])]),
              ("class", .string last) ] ]) ]

/-- A class by its last part, a fresh id, and a class that is not registered in front of one that
denotes no kind. -/
theorem buildConnection_mirrors_of_two_levels :
    let plugins : Plugins := ⟨[("mem", .external)], []⟩
    let built : Connection :=
      .combined [.backup [.external "a" 0, .external "net.mem-7f" 0], .simple (.external "c" 0)]
    KeepsIds obliging ∧
      Mirrors (Makes plugins obliging) (twoLevels "net.mem" "simple") built ∧
      List.Forall₂ (HasId obliging)
        (sendersAmong (Part.connection (twoLevels "net.mem" "simple")).inOrder)
        ["a", "net.mem-7f", "c"] ∧
      Fails plugins obliging () (Part.connection (twoLevels "net.tape" "ring")).inOrder
        (unknown "sender" "net.tape") := by
  intro plugins built
  have keeps : KeepsIds obliging := by
    rintro className id arguments ⟨⟩ sender ⟨⟩
    rfl
  have found : ((plugins.buildConnection (twoLevels "net.mem" "simple") :
      Activity Unit _).run obliging () ()).1 = .ok built := by rfl
  have failed : ((plugins.buildConnection (twoLevels "net.tape" "ring") :
      Activity Unit _).run obliging () ()).1 = .error (unknown "sender" "net.tape") := by rfl
  have mirrors := (buildConnection_mirrors plugins obliging _ () ()).2.1 built found
  have fails := ((buildConnection_mirrors plugins obliging _ () ()).2.2 _).1 failed
  exact ⟨keeps, mirrors.1, mirrors.2.2 keeps, fails⟩

end RadarRelay.Plugins
