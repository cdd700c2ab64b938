import RadarRelay.Proofs.Delivery.Strategies
import RadarRelay.Proofs.Delivery.Telling

/-!
# How far a delivery reaches

A connection without failovers is meant for all of its senders, and it uses them all
as long as they succeed or fail. A panic is caught where a worker delivers, outside
of every connection, so whoever is listed behind a sender that panicked gets nothing
of that delivery, in whichever part of the connection. `Reached` says exactly that
of the transmissions of one delivery.
-/

namespace RadarRelay

open Activity

namespace Connection

/-- No failover takes part, so nobody is left out because somebody else succeeded. -/
inductive Thorough : Connection → Prop where
  | simple (sender : Sender) : Thorough (.simple sender)
  | backup (senders : List Sender) : Thorough (.backup senders)
  | distributed (senders : List Sender) : Thorough (.distributed senders)
  | combined (connections : List Connection)
      (thorough : ∀ connection ∈ connections, Thorough connection) :
      Thorough (.combined connections)

/-- What was asked of senders is what is listed, and it went as far as it can go. -/
def Covers (senders : List Sender) (listed : Reply × List Transmission)
    (requests : List Sender) : Prop :=
  requests = Transmission.requested listed.2 ∧ Reached senders listed.1.panic? listed.2

variable (file : File) (metadata : Metadata)

/-- Connections are used one after the other until a sender panics. -/
theorem covers_listedPublishAll {connections : List Connection}
    (covers : ∀ connection ∈ connections,
      (connection.listedPublish file metadata).Asks Request.sender? (Covers connection.senders)) :
    (listedPublishAll file metadata connections).Asks Request.sender?
      (Covers (sendersOfAll connections)) := by
  induction connections with
  | nil => exact ⟨rfl, .nil⟩
  | cons connection connections ih =>
      rw [List.forall_mem_cons] at covers
      rw [sendersOfAll]
      apply asks_bind covers.1
      rintro ⟨first, transmissions⟩ requests ⟨rfl, begun⟩
      -- Success and failure go on alike.
      have onward (calm : first.panic? = none) :
          (listedPublishAll file metadata connections >>= fun listed =>
            pure (listed.1, transmissions ++ listed.2)).Asks Request.sender? fun listed requests =>
              Covers (connection.senders ++ sendersOfAll connections) listed
                (Transmission.requested transmissions ++ requests) := by
        rw [calm] at begun
        apply asks_bind (ih covers.2)
        rintro ⟨reply, later⟩ requests ⟨rfl, went⟩
        exact ⟨by simp, begun.append went⟩
      cases first with
      | sent => exact onward rfl
      | failed error => exact Sender.asks_noted _ _ _ (onward rfl)
      | panicked reason => exact ⟨List.append_nil _, begun.append_cut _⟩

/-- A connection without failovers uses its senders until one of them panics. -/
theorem covers_listedPublish {connection : Connection} (thorough : connection.Thorough) :
    (connection.listedPublish file metadata).Asks Request.sender?
      (Covers connection.senders) := by
  induction thorough with
  | simple sender =>
      apply asks_bind (Sender.asks_transmit file metadata sender)
      rintro reply requests rfl
      exact ⟨List.append_nil _, .single sender reply⟩
  | backup senders | distributed senders =>
      apply (Sender.asks_listedAllOf file metadata senders).imp
      rintro ⟨reply, transmissions⟩ requests ⟨same, reached, -⟩
      exact ⟨same, reached⟩
  | combined connections thorough ih => exact covers_listedPublishAll file metadata ih

end Connection

namespace Publication

/-- `deliver` with its transmissions. -/
def listedDeliver (publication : Publication) (parcel : Parcel) :
    Activity Outbound (List Transmission) := do
  publication.noteDelivery parcel.metadata "delivery_attempt"
    [("connection", publication.connection.kind)]
  let (reply, transmissions) ← Outbound.onStorages
    (publication.connection.listedPublish parcel.file.file parcel.metadata)
  Outbound.onDisk (Activity.change fun disk => disk.delete parcel.file)
  publication.settle parcel.metadata reply
  Outbound.onPool publication.id fun pool => ((), pool.finish parcel)
  return transmissions

variable (publication : Publication) (parcel : Parcel)

/-- What is listed of a delivery is listed of what a worker does. -/
theorem map_listedDeliver :
    (fun _ => ()) <$> publication.listedDeliver parcel = publication.deliver parcel := by
  have listed : Prod.fst <$> Outbound.onStorages
      (publication.connection.listedPublish parcel.file.file parcel.metadata) =
      Outbound.onStorages (publication.connection.publish parcel.file.file parcel.metadata) := by
    rw [← publication.connection.fst_listedPublish, map_eq_pure_bind, map_eq_pure_bind,
      Outbound.onStorages, Outbound.onStorages, within_bind]
    rfl
  simp only [listedDeliver, deliver, ← listed, map_bind, bind_map_left, map_pure]
  rfl

theorem unseen_settle (metadata : Metadata) (reply : Reply) :
    (publication.settle metadata reply).Unseen Request.sender? := by
  have counted (hooks : List Hook) :
      (Hook.incrementAll "delivery_worker" "" metadata hooks : Activity Outbound Unit).Unseen
        Request.sender? :=
    Hook.unseen_incrementAll (fun _ => rfl) _ _ _ _ fun _ _ _ _ => rfl
  cases reply with
  | sent | failed | panicked => exact unseen_bind (unseen_request rfl) fun _ => counted _

/-- What a worker does about one file, whatever senders answer. A connection without failovers uses
its senders one after the other, each once, up to the first that panics, and all of them when none
panics. Nobody else is asked to transmit anything. -/
theorem deliver_reaches (thorough : publication.connection.Thorough) :
    (fun _ => ()) <$> publication.listedDeliver parcel = publication.deliver parcel ∧
      (publication.listedDeliver parcel).Asks Request.sender? fun transmissions requests =>
        requests = Transmission.requested transmissions ∧
        (∃ panic, Reached publication.connection.senders panic transmissions) ∧
        ((∀ transmission ∈ transmissions, transmission.Answered) →
          transmissions.map (·.sender.id) = publication.connection.senderIds) := by
  have deleted : (Outbound.onDisk (change fun disk => disk.delete parcel.file)).Unseen
      Request.sender? := unseen_within fun _ => trivial
  refine ⟨publication.map_listedDeliver parcel, ?_⟩
  apply (unseen_request rfl).asks_bind
  intro _
  apply asks_bind (Connection.covers_listedPublish _ _ thorough).within
  rintro ⟨reply, transmissions⟩ requests ⟨same, reached⟩
  apply deleted.asks_bind
  intro _
  apply (publication.unseen_settle parcel.metadata reply).asks_bind
  intro _ _
  refine ⟨by rw [same, List.append_nil], ⟨_, reached⟩, fun answered => ?_⟩
  rw [Connection.senderIds, ← (reached.of_answered answered).2, List.map_map]
  rfl

/-- A panic inside of a combination leaves out whoever is listed behind it. -/
theorem deliver_reaches_of_inner_panic :
    let sender (id : String) : Sender := .external id 0
    let connection : Connection :=
      .combined [.simple (sender "a"), .distributed [sender "b", sender "c"], .simple (sender "d")]
    let publication : Publication :=
      ⟨0, "copies", true, [], .always, [], connection, 1, [], []⟩
    let parcel : Parcel := ⟨⟨0, ⟨none⟩, true⟩, .empty⟩
    let around : Surroundings Unit :=
      ⟨fun
        | .send "a" _ _ _, _ => (.failed (.delivery "a" "refused"), ())
        | .send "b" _ _ _, _ => (.panicked "exploded", ())
        | request, _ => (request.granted, ()),
        fun _ _ => false⟩
    let transmissions : List Transmission :=
      [⟨sender "a", .failed (.delivery "a" "refused")⟩, ⟨sender "b", .panicked "exploded"⟩]
    connection.Thorough ∧
      ((publication.listedDeliver parcel).run around.mindful .empty ((), [])).1 = transmissions ∧
      ∃ panic, Reached connection.senders panic transmissions := by
  intro sender connection publication parcel around transmissions
  have thorough : connection.Thorough := by
    apply Connection.Thorough.combined
    simp [Connection.Thorough.simple, Connection.Thorough.distributed]
  refine ⟨thorough, rfl, ?_⟩
  obtain ⟨requests, ⟨-, reached, -⟩, -⟩ := (deliver_reaches publication parcel thorough).2.run
    around (fun _ => rfl) .empty ((), [])
  exact reached

/-- Who is listed behind a sender that panics gets nothing, although a backup is meant for all. -/
theorem deliver_misses_behind_panic :
    let sender (id : String) : Sender := .external id 0
    let publication : Publication :=
      ⟨0, "copies", true, [], .always, [], .backup [sender "a", sender "b"], 1, [], []⟩
    let parcel : Parcel := ⟨⟨0, ⟨none⟩, true⟩, .empty⟩
    let around : Surroundings Unit :=
      ⟨fun
        | .send "a" _ _ _, _ => (.panicked "exploded", ())
        | request, _ => (request.granted, ()),
        fun _ _ => false⟩
    ((publication.deliver parcel).run around.mindful .empty ((), [])).2.2.2.filterMap
        Request.sender? = [sender "a"] ∧
      publication.connection.senders = [sender "a", sender "b"] := by
  exact ⟨rfl, rfl⟩

end Publication

end RadarRelay
