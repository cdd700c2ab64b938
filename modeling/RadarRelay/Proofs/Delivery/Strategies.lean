import Mathlib.Data.List.Basic
import Mathlib.Data.List.Flatten
import RadarRelay.Delivery.Connection
import RadarRelay.Proofs.Activity.Running

/-!
# How connections use their senders

A connection of any kind uses senders in the order in which it lists them. Which
of them it uses depends on its kind and on what the earlier ones answered, and so
does its reply. `DeliveryCourse.Proper` says for each kind of connection how a
delivery goes in which no sender panics; a connection that combines others adds up
the deliveries through them. Senders are left out only by a failover that stopped at
its first success. What is listed as transmitted is what was asked for.
-/

namespace RadarRelay

open Activity

/-- Which external sender a request asks to transmit. -/
def Request.sender? : Request → Option Sender
  | send id serial _ _ => some (.external id serial)
  | _ => none

/-- Why a transmission ended in a panic, if it did. -/
def Reply.panic? : Reply → Option String
  | panicked reason => some reason
  | _ => none

/-- A sender outside of the node. -/
def Sender.isExternal : Sender → Bool
  | storage _ _ => false
  | external _ _ => true

/-- One use of a sender, and how it ended. -/
structure Transmission where
  sender : Sender
  reply : Reply

namespace Transmission

/-- The sender succeeded or failed, and did not panic. -/
def Answered (transmission : Transmission) : Prop :=
  ∀ reason, transmission.reply ≠ .panicked reason

/-- A sender that failed with an error. -/
def failure (failed : Sender × Error) : Transmission :=
  ⟨failed.1, .failed failed.2⟩

/-- The external senders among those used, in order. -/
def requested (transmissions : List Transmission) : List Sender :=
  (transmissions.map (·.sender)).filter Sender.isExternal

@[simp] theorem requested_append (first second : List Transmission) :
    requested (first ++ second) = requested first ++ requested second := by
  simp [requested]

theorem requested_cons (transmission : Transmission) (transmissions : List Transmission) :
    requested (transmission :: transmissions) =
      requested [transmission] ++ requested transmissions :=
  requested_append [transmission] transmissions

end Transmission

/-- Senders that are used one after the other, and the panic that ended this, if there was one. All
of them are used, or else those up to the first that panicked. -/
inductive Reached (senders : List Sender) : Option String → List Transmission → Prop where
  | all {transmissions : List Transmission} :
      (∀ transmission ∈ transmissions, transmission.Answered) →
      transmissions.map (·.sender) = senders → Reached senders none transmissions
  | cut {before : List Transmission} {sender : Sender} {reason : String} {missed : List Sender} :
      (∀ transmission ∈ before, transmission.Answered) →
      before.map (·.sender) ++ sender :: missed = senders →
      Reached senders (some reason) (before ++ [⟨sender, .panicked reason⟩])

namespace Reached

variable {senders others : List Sender} {panic : Option String} {reason : String}
  {transmissions later : List Transmission}

theorem nil : Reached [] none [] :=
  .all nofun rfl

/-- A sender that is used is reached, whatever becomes of it. -/
theorem single (sender : Sender) (reply : Reply) :
    Reached [sender] reply.panic? [⟨sender, reply⟩] := by
  have calm (answered : ∀ reason, reply ≠ .panicked reason) :
      Reached [sender] none [⟨sender, reply⟩] := .all (List.forall_mem_singleton.2 answered) rfl
  cases reply with
  | sent | failed => exact calm fun _ => nofun
  | panicked reason =>
      have stopped : Reached [sender] (some reason) ([] ++ [⟨sender, .panicked reason⟩]) :=
        .cut nofun rfl
      exact stopped

theorem append (first : Reached senders none transmissions)
    (second : Reached others panic later) :
    Reached (senders ++ others) panic (transmissions ++ later) := by
  obtain ⟨answered, rfl⟩ := first
  cases second with
  | all answeredLater used =>
      exact .all (List.forall_mem_append.2 ⟨answered, answeredLater⟩)
        (by rw [List.map_append, used])
  | cut answeredLater listed =>
      rw [← List.append_assoc]
      exact .cut (List.forall_mem_append.2 ⟨answered, answeredLater⟩)
        (by rw [List.map_append, List.append_assoc, listed])

/-- Nobody behind a panic is reached. -/
theorem append_cut (first : Reached senders (some reason) transmissions) (others : List Sender) :
    Reached (senders ++ others) (some reason) transmissions := by
  cases first with
  | cut answered listed =>
      exact .cut answered (by rw [← listed, List.append_assoc, List.cons_append])

/-- Everybody is reached when nobody panics. -/
theorem of_answered (reached : Reached senders panic transmissions)
    (answered : ∀ transmission ∈ transmissions, transmission.Answered) :
    panic = none ∧ transmissions.map (·.sender) = senders := by
  cases reached with
  | all _ used => exact ⟨rfl, used⟩
  | cut => exact absurd rfl (answered _ List.mem_concat_self _)

end Reached

/-! ## Deliveries with a list of their transmissions -/

namespace Sender

variable (file : File) (metadata : Metadata)

/-- `firstOf` with its transmissions. -/
def listedFirstOf (failures : List Error) :
    List Sender → Activity StorageRegistry (Reply × List Transmission)
  | [] => return (.failed (.failoverExhausted failures), [])
  | sender :: senders => do
      match ← sender.transmit file metadata with
      | .sent =>
          sender.noteSent metadata
          return (.sent, [⟨sender, .sent⟩])
      | .failed error =>
          sender.noteFailed metadata error
          let (reply, later) ← listedFirstOf (failures ++ [error]) senders
          return (reply, ⟨sender, .failed error⟩ :: later)
      | .panicked reason => return (.panicked reason, [⟨sender, .panicked reason⟩])

/-- `allOf` with its transmissions. -/
def listedAllOf : List Sender → Activity StorageRegistry (Reply × List Transmission)
  | [] => return (.sent, [])
  | sender :: senders => do
      match ← sender.transmit file metadata with
      | .sent =>
          sender.noteSent metadata
          let (reply, later) ← listedAllOf senders
          return (reply, ⟨sender, .sent⟩ :: later)
      | .failed error =>
          sender.noteFailed metadata error
          let (reply, later) ← listedAllOf senders
          return (reply, ⟨sender, .failed error⟩ :: later)
      | .panicked reason => return (.panicked reason, [⟨sender, .panicked reason⟩])

theorem fst_listedFirstOf (failures : List Error) (senders : List Sender) :
    Prod.fst <$> listedFirstOf file metadata failures senders =
      firstOf file metadata failures senders := by
  induction senders generalizing failures with
  | nil => rfl
  | cons sender senders ih =>
      rw [listedFirstOf, firstOf, map_bind]
      congr 1
      funext reply
      cases reply with
      | sent | failed | panicked =>
          simp only [map_eq_pure_bind, bind_assoc, pure_bind, ← ih]

theorem fst_listedAllOf (senders : List Sender) :
    Prod.fst <$> listedAllOf file metadata senders = allOf file metadata senders := by
  induction senders with
  | nil => rfl
  | cons sender senders ih =>
      rw [listedAllOf, allOf, map_bind]
      congr 1
      funext reply
      cases reply with
      | sent | failed | panicked =>
          simp only [map_eq_pure_bind, bind_assoc, pure_bind, ← ih]

end Sender

namespace Connection

variable (file : File) (metadata : Metadata)

mutual

/-- `publish` with its transmissions. -/
def listedPublish : Connection → Activity StorageRegistry (Reply × List Transmission)
  | simple sender => do
      let reply ← sender.transmit file metadata
      return (reply, [⟨sender, reply⟩])
  | failover senders => Sender.listedFirstOf file metadata [] senders
  | backup senders => Sender.listedAllOf file metadata senders
  | distributed senders => Sender.listedAllOf file metadata senders
  | combined connections => listedPublishAll connections

/-- `publishAll` with its transmissions. -/
def listedPublishAll : List Connection → Activity StorageRegistry (Reply × List Transmission)
  | [] => return (.sent, [])
  | connection :: connections => do
      match ← listedPublish connection with
      | (.sent, transmissions) =>
          let (reply, later) ← listedPublishAll connections
          return (reply, transmissions ++ later)
      | (.failed error, transmissions) =>
          Activity.note "delivery_failed" "connection"
            [ ("connection", connection.kind),
              ("file_id", metadata.fileId),
              ("err", error.message) ]
          let (reply, later) ← listedPublishAll connections
          return (reply, transmissions ++ later)
      | (.panicked reason, transmissions) => return (.panicked reason, transmissions)

end

mutual

theorem fst_listedPublish (connection : Connection) :
    Prod.fst <$> connection.listedPublish file metadata = connection.publish file metadata := by
  cases connection with
  | simple sender =>
      simp only [listedPublish, publish, map_eq_pure_bind, bind_assoc, pure_bind, bind_pure]
  | failover senders => exact Sender.fst_listedFirstOf file metadata [] senders
  | backup senders | distributed senders => exact Sender.fst_listedAllOf file metadata senders
  | combined connections => exact fst_listedPublishAll connections

theorem fst_listedPublishAll (connections : List Connection) :
    Prod.fst <$> listedPublishAll file metadata connections =
      publishAll file metadata connections := by
  cases connections with
  | nil => rfl
  | cons connection connections =>
      rw [listedPublishAll, publishAll, map_bind, ← fst_listedPublish connection, bind_map_left]
      congr 1
      funext ⟨reply, transmissions⟩
      cases reply with
      | sent | failed | panicked =>
          simp only [map_eq_pure_bind, bind_assoc, pure_bind, ← fst_listedPublishAll connections]

end

end Connection

/-! ## How a delivery goes -/

/-- A delivery through a connection: which senders were used, which were left out because another
one had succeeded, and how it ended. -/
structure DeliveryCourse where
  connection : Connection
  transmissions : List Transmission
  untried : List Sender
  reply : Reply

namespace DeliveryCourse

/-- A delivery goes as the kind of its connection says. -/
inductive Proper : DeliveryCourse → Prop where
  /-- The reply of the only sender is passed on. -/
  | simple (transmission : Transmission) :
      Proper ⟨.simple transmission.sender, [transmission], [], transmission.reply⟩
  /-- A failover ends with its first success. -/
  | firstSuccess (failed : List (Sender × Error)) (sender : Sender) (untried : List Sender) :
      Proper
        ⟨.failover (failed.map Prod.fst ++ sender :: untried),
          failed.map Transmission.failure ++ [⟨sender, .sent⟩], untried, .sent⟩
  /-- A failover without success uses all senders and tells all errors. -/
  | exhausted (failed : List (Sender × Error)) :
      Proper
        ⟨.failover (failed.map Prod.fst), failed.map Transmission.failure, [],
          .failed (.failoverExhausted (failed.map Prod.snd))⟩
  | backup (transmissions : List Transmission) :
      Proper ⟨.backup (transmissions.map (·.sender)), transmissions, [], .sent⟩
  | distributed (transmissions : List Transmission) :
      Proper ⟨.distributed (transmissions.map (·.sender)), transmissions, [], .sent⟩
  /-- Connections are used one after the other, whatever becomes of each. -/
  | combined (parts : List DeliveryCourse) (proper : ∀ part ∈ parts, part.Proper) :
      Proper
        ⟨.combined (parts.map connection), parts.flatMap transmissions, parts.flatMap untried,
          .sent⟩

variable {delivery : DeliveryCourse}

/-- A delivery panics only when a sender does. -/
theorem Proper.answered (proper : delivery.Proper)
    (answered : ∀ transmission ∈ delivery.transmissions, transmission.Answered)
    (reason : String) : delivery.reply ≠ .panicked reason := by
  cases proper with
  | simple transmission => exact answered transmission (List.mem_singleton_self _) reason
  | firstSuccess | exhausted | backup | distributed | combined => exact nofun

/-- Senders are used in the order in which they are listed. -/
theorem Proper.sublist (proper : delivery.Proper) :
    (delivery.transmissions.map (·.sender)).Sublist delivery.connection.senders := by
  induction proper with
  | simple | backup | distributed => exact List.Sublist.refl _
  | firstSuccess failed sender untried =>
      simp [Connection.senders, Function.comp_def, Transmission.failure]
  | exhausted failed => simp [Connection.senders, Function.comp_def, Transmission.failure]
  | combined parts proper ih =>
      rw [Connection.senders, Connection.sendersOfAll_eq_flatMap, List.map_flatMap,
        List.flatMap_map]
      exact List.Sublist.flatMap_right parts ih

/-- All senders are used unless a failover stopped early. -/
theorem Proper.complete (proper : delivery.Proper) (tried : delivery.untried = []) :
    delivery.transmissions.map (·.sender) = delivery.connection.senders := by
  induction proper with
  | simple | backup | distributed => rfl
  | firstSuccess failed sender untried =>
      cases tried
      simp [Connection.senders, Function.comp_def, Transmission.failure]
  | exhausted failed => simp [Connection.senders, Function.comp_def, Transmission.failure]
  | combined parts proper ih =>
      rw [Connection.senders, Connection.sendersOfAll_eq_flatMap, List.map_flatMap,
        List.flatMap_map]
      exact List.flatMap_congr fun part listed =>
        ih part listed (List.flatMap_eq_nil_iff.mp tried part listed)

/-- Deliveries through connections, one after the other, with these transmissions in all. -/
def Along (connections : List Connection) (transmissions : List Transmission) : Prop :=
  ∃ parts : List DeliveryCourse, (∀ part ∈ parts, part.Proper) ∧
    connections = parts.map connection ∧ transmissions = parts.flatMap DeliveryCourse.transmissions

theorem along_nil : Along [] [] :=
  ⟨[], nofun, rfl, rfl⟩

theorem Proper.along (proper : delivery.Proper) {connections : List Connection}
    {later : List Transmission} (others : Along connections later) :
    Along (delivery.connection :: connections) (delivery.transmissions ++ later) := by
  obtain ⟨parts, properParts, rfl, rfl⟩ := others
  exact ⟨delivery :: parts, List.forall_mem_cons.mpr ⟨proper, properParts⟩, rfl, rfl⟩

end DeliveryCourse

/-! ## Every delivery is proper -/

namespace Sender

variable (file : File) (metadata : Metadata)

theorem unseen_storeAll (id : String) (names : List String) :
    (storeAll id file metadata names).Unseen Request.sender? := by
  induction names with
  | nil => exact trivial
  | cons name names ih =>
      apply unseen_bind unseen_look
      intro registry
      cases registry.get? name with
      | some target =>
          apply unseen_bind (unseen_request rfl)
          intro stored
          cases stored with
          | ok => exact ih
          | error error => exact trivial
      | none => exact unseen_bind (unseen_request rfl) fun _ => ih

/-- Using a sender asks that sender, once, and no other one. -/
theorem asks_transmit (sender : Sender) :
    (sender.transmit file metadata).Asks Request.sender? fun reply requests =>
      requests = Transmission.requested [⟨sender, reply⟩] := by
  cases sender with
  | storage id names => exact (unseen_storeAll file metadata id names).asks
  | external id serial => exact fun reply => rfl

/-- Nothing is asked of a sender by reporting an event first. -/
theorem asks_noted {Result : Type} {wanted : Result → List Sender → Prop}
    (name component : String) (fields : List (String × String))
    {next : Activity StorageRegistry Result} (asks : next.Asks Request.sender? wanted) :
    (Activity.note name component fields >>= fun _ => next).Asks Request.sender? wanted :=
  (unseen_request rfl).asks_bind fun _ => asks

/-- Senders are tried up to the first success, or all of them in vain. -/
theorem asks_listedFirstOf (failures : List Error) (senders : List Sender) :
    (listedFirstOf file metadata failures senders).Asks Request.sender?
      fun (reply, transmissions) requests =>
        requests = Transmission.requested transmissions ∧
        ((∀ transmission ∈ transmissions, transmission.Answered) →
          (∃ (failed : List (Sender × Error)) (sender : Sender) (untried : List Sender),
            senders = failed.map Prod.fst ++ sender :: untried ∧
            transmissions = failed.map Transmission.failure ++ [⟨sender, .sent⟩] ∧
            reply = .sent) ∨
          (∃ failed : List (Sender × Error),
            senders = failed.map Prod.fst ∧
            transmissions = failed.map Transmission.failure ∧
            reply = .failed (.failoverExhausted (failures ++ failed.map Prod.snd)))) := by
  induction senders generalizing failures with
  | nil => exact ⟨rfl, fun _ => Or.inr ⟨[], rfl, rfl, by simp⟩⟩
  | cons sender senders ih =>
      apply asks_bind (asks_transmit file metadata sender)
      rintro reply requests rfl
      cases reply with
      | sent =>
          apply asks_noted
          exact ⟨List.append_nil _, fun _ => Or.inl ⟨[], sender, senders, rfl, rfl, rfl⟩⟩
      | failed error =>
          apply asks_noted
          apply asks_bind (ih (failures ++ [error]))
          rintro ⟨reply, later⟩ requests ⟨rfl, went⟩
          refine ⟨by rw [List.append_nil, ← Transmission.requested_cons], fun answered => ?_⟩
          have others := went fun transmission used =>
            answered transmission (List.mem_cons_of_mem _ used)
          rcases others with ⟨failed, success, untried, rfl, rfl, rfl⟩ | ⟨failed, rfl, rfl, rfl⟩
          · exact Or.inl ⟨(sender, error) :: failed, success, untried, rfl, rfl, rfl⟩
          · exact Or.inr ⟨(sender, error) :: failed, rfl, rfl, by simp⟩
      | panicked reason =>
          refine ⟨List.append_nil _, fun answered => ?_⟩
          exact absurd rfl (answered _ (List.mem_singleton_self _) reason)

/-- All senders are used, whatever the others answer, unless one of them panics. -/
theorem asks_listedAllOf (senders : List Sender) :
    (listedAllOf file metadata senders).Asks Request.sender?
      fun (reply, transmissions) requests =>
        requests = Transmission.requested transmissions ∧
        Reached senders reply.panic? transmissions ∧ (reply.panic? = none → reply = .sent) := by
  induction senders with
  | nil => exact ⟨rfl, .nil, fun _ => rfl⟩
  | cons sender senders ih =>
      apply asks_bind (asks_transmit file metadata sender)
      rintro reply requests rfl
      have begun := Reached.single sender reply
      cases reply with
      | sent | failed =>
          apply asks_noted
          apply asks_bind ih
          rintro ⟨reply, later⟩ requests ⟨rfl, reached, sent⟩
          exact ⟨by rw [List.append_nil, ← Transmission.requested_cons], begun.append reached, sent⟩
      | panicked reason => exact ⟨List.append_nil _, begun.append_cut senders, nofun⟩

end Sender

namespace Connection

variable (file : File) (metadata : Metadata)

mutual

theorem asks_listedPublish (connection : Connection) :
    (connection.listedPublish file metadata).Asks Request.sender?
      fun (reply, transmissions) requests =>
        requests = Transmission.requested transmissions ∧
        ((∀ transmission ∈ transmissions, transmission.Answered) →
          ∃ untried, DeliveryCourse.Proper ⟨connection, transmissions, untried, reply⟩) := by
  cases connection with
  | simple sender =>
      apply asks_bind (Sender.asks_transmit file metadata sender)
      rintro reply requests rfl
      exact ⟨List.append_nil _, fun _ => ⟨[], .simple ⟨sender, reply⟩⟩⟩
  | failover senders =>
      apply (Sender.asks_listedFirstOf file metadata [] senders).imp
      rintro ⟨reply, transmissions⟩ requests ⟨same, went⟩
      refine ⟨same, fun answered => ?_⟩
      rcases went answered with ⟨failed, sender, untried, rfl, rfl, rfl⟩ | ⟨failed, rfl, rfl, rfl⟩
      · exact ⟨untried, .firstSuccess failed sender untried⟩
      · exact ⟨[], .exhausted failed⟩
  | backup senders =>
      apply (Sender.asks_listedAllOf file metadata senders).imp
      rintro ⟨reply, transmissions⟩ requests ⟨same, reached, sent⟩
      refine ⟨same, fun answered => ?_⟩
      obtain ⟨calm, rfl⟩ := reached.of_answered answered
      obtain rfl := sent calm
      exact ⟨[], .backup transmissions⟩
  | distributed senders =>
      apply (Sender.asks_listedAllOf file metadata senders).imp
      rintro ⟨reply, transmissions⟩ requests ⟨same, reached, sent⟩
      refine ⟨same, fun answered => ?_⟩
      obtain ⟨calm, rfl⟩ := reached.of_answered answered
      obtain rfl := sent calm
      exact ⟨[], .distributed transmissions⟩
  | combined connections =>
      apply (asks_listedPublishAll connections).imp
      rintro ⟨reply, transmissions⟩ requests ⟨same, went⟩
      refine ⟨same, fun answered => ?_⟩
      obtain ⟨⟨parts, proper, rfl, rfl⟩, rfl⟩ := went answered
      exact ⟨_, .combined parts proper⟩

theorem asks_listedPublishAll (connections : List Connection) :
    (listedPublishAll file metadata connections).Asks Request.sender?
      fun (reply, transmissions) requests =>
        requests = Transmission.requested transmissions ∧
        ((∀ transmission ∈ transmissions, transmission.Answered) →
          DeliveryCourse.Along connections transmissions ∧ reply = .sent) := by
  cases connections with
  | nil => exact ⟨rfl, fun _ => ⟨DeliveryCourse.along_nil, rfl⟩⟩
  | cons connection connections =>
      apply asks_bind (asks_listedPublish connection)
      rintro ⟨first, transmissions⟩ requests ⟨rfl, begun⟩
      -- Success and failure go on alike.
      have onward : (listedPublishAll file metadata connections >>= fun (reply, later) =>
          pure (reply, transmissions ++ later)).Asks Request.sender?
            fun (reply, all) requests =>
              Transmission.requested transmissions ++ requests = Transmission.requested all ∧
              ((∀ transmission ∈ all, transmission.Answered) →
                DeliveryCourse.Along (connection :: connections) all ∧ reply = .sent) := by
        apply asks_bind (asks_listedPublishAll connections)
        rintro ⟨reply, later⟩ requests ⟨rfl, went⟩
        refine ⟨by simp, fun answered => ?_⟩
        rw [List.forall_mem_append] at answered
        obtain ⟨untried, proper⟩ := begun answered.1
        obtain ⟨others, sent⟩ := went answered.2
        exact ⟨proper.along others, sent⟩
      cases first with
      | sent => exact onward
      | failed error => exact Sender.asks_noted _ _ _ onward
      | panicked reason =>
          refine ⟨List.append_nil _, fun answered => ?_⟩
          obtain ⟨untried, proper⟩ := begun answered
          exact absurd rfl (proper.answered answered reason)

end

/-- What every delivery asks of senders, and how it ends. If each sender that is used either
succeeds or fails, then each part of the connection goes as its kind says; the senders are used in
the order of `senderIds`, and all of them are used unless a failover stopped early. -/
theorem publish_proper (connection : Connection) :
    Prod.fst <$> connection.listedPublish file metadata = connection.publish file metadata ∧
      (connection.listedPublish file metadata).Asks Request.sender?
        fun (reply, transmissions) requests =>
          requests = Transmission.requested transmissions ∧
          ((∀ transmission ∈ transmissions, transmission.Answered) →
            ∃ untried, DeliveryCourse.Proper ⟨connection, transmissions, untried, reply⟩ ∧
              (transmissions.map (·.sender.id)).Sublist connection.senderIds ∧
              (untried = [] → transmissions.map (·.sender.id) = connection.senderIds)) := by
  refine ⟨fst_listedPublish file metadata connection, ?_⟩
  apply (asks_listedPublish file metadata connection).imp
  rintro ⟨reply, transmissions⟩ requests ⟨same, went⟩
  refine ⟨same, fun answered => ?_⟩
  obtain ⟨untried, proper⟩ := went answered
  have ids : transmissions.map (·.sender.id) =
      (transmissions.map (·.sender)).map Sender.id := by
    rw [List.map_map, Function.comp_def]
  rw [ids]
  exact ⟨untried, proper, proper.sublist.map Sender.id,
    fun tried => congrArg (List.map Sender.id) (proper.complete tried)⟩

/-- A failover inside of a combination leaves its last sender out. -/
theorem publish_proper_of_early_success :
    let sender (id : String) : Sender := .external id 0
    let connection : Connection :=
      .combined [.failover [sender "a", sender "b", sender "c"], .simple (sender "d")]
    let around : Surroundings Unit :=
      ⟨fun
        | .send "a" _ _ _, _ => (.failed (.delivery "a" "refused"), ())
        | request, _ => (request.granted, ()),
        fun _ _ => false⟩
    let transmissions : List Transmission :=
      [⟨sender "a", .failed (.delivery "a" "refused")⟩, ⟨sender "b", .sent⟩, ⟨sender "d", .sent⟩]
    ((connection.listedPublish ⟨none⟩ .empty).run around.mindful .empty ((), [])).1 =
        (.sent, transmissions) ∧
      ∃ untried, DeliveryCourse.Proper ⟨connection, transmissions, untried, .sent⟩ ∧
        ["a", "b", "d"].Sublist connection.senderIds ∧
        (untried = [] → ["a", "b", "d"] = connection.senderIds) := by
  intro sender connection around transmissions
  refine ⟨rfl, ?_⟩
  obtain ⟨requests, ⟨-, went⟩, -⟩ := (publish_proper ⟨none⟩ .empty connection).2.run around
    (fun _ => rfl) .empty ((), [])
  apply went
  have answered : ∀ transmission ∈ transmissions, transmission.Answered := by
    simp [transmissions, Transmission.Answered]
  exact answered

end Connection

end RadarRelay
