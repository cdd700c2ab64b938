import RadarRelay.Storage.Registry

/-!
# Connections

A connection combines senders into one way of delivering a file. `simple`
passes on what its sender answers. `failover` tries senders until one succeeds.
`backup` and `distributed` use every sender and never fail, and `combined` does
the same with whole connections. Only a panic ends a delivery early everywhere.
-/

namespace RadarRelay

namespace Sender

/-- Keeps a file in storages, in order. Storages that do not exist are passed over, and the first
one that fails ends the transmission. -/
def storeAll (id : String) (file : File) (metadata : Metadata) :
    List String → Activity StorageRegistry Reply
  | [] => return .sent
  | name :: names => do
      match (← Activity.look).get? name with
      | some target =>
          match ← Activity.request (.store target file metadata) with
          | .ok () => storeAll id file metadata names
          | .error error => return .failed (.delivery id error.message)
      | none =>
          Activity.note "storage_missing" "connection" [("sender", id), ("storage", name)]
          storeAll id file metadata names

/-- Transmits a file through one sender. -/
def transmit (file : File) (metadata : Metadata) : Sender → Activity StorageRegistry Reply
  | storage id names => storeAll id file metadata names
  | external id serial => Activity.request (.send id serial file metadata)

/-- Reports that a sender transmitted a file. -/
def noteSent (sender : Sender) (metadata : Metadata) : Activity StorageRegistry Unit :=
  Activity.note "delivery_ok" "connection"
    [("sender", sender.id), ("file_id", metadata.fileId)]

/-- Reports that a sender failed. -/
def noteFailed (sender : Sender) (metadata : Metadata) (error : Error) :
    Activity StorageRegistry Unit :=
  Activity.note "sender_failed" "connection"
    [("sender", sender.id), ("file_id", metadata.fileId), ("err", error.message)]

/-- Tries senders in order until one succeeds; `failures` holds the errors so far. -/
def firstOf (file : File) (metadata : Metadata) (failures : List Error) :
    List Sender → Activity StorageRegistry Reply
  | [] => return .failed (.failoverExhausted failures)
  | sender :: senders => do
      match ← sender.transmit file metadata with
      | .sent =>
          sender.noteSent metadata
          return .sent
      | .failed error =>
          sender.noteFailed metadata error
          firstOf file metadata (failures ++ [error]) senders
      | .panicked reason => return .panicked reason

/-- Uses every sender, whatever the others answer. -/
def allOf (file : File) (metadata : Metadata) : List Sender → Activity StorageRegistry Reply
  | [] => return .sent
  | sender :: senders => do
      match ← sender.transmit file metadata with
      | .sent =>
          sender.noteSent metadata
          allOf file metadata senders
      | .failed error =>
          sender.noteFailed metadata error
          allOf file metadata senders
      | .panicked reason => return .panicked reason

end Sender

/-- The senders of a publication and how they work together. -/
inductive Connection where
  | simple (sender : Sender)
  | failover (senders : List Sender)
  | backup (senders : List Sender)
  | distributed (senders : List Sender)
  | combined (connections : List Connection)

namespace Connection

instance : Inhabited Connection := ⟨combined []⟩

/-- The name of a kind of connection. -/
def kind : Connection → String
  | simple _ => "simple"
  | failover _ => "failover"
  | backup _ => "backup"
  | distributed _ => "distributed"
  | combined _ => "combined"

mutual

/-- The senders of a connection in the order of their use. -/
def senders : Connection → List Sender
  | simple sender => [sender]
  | failover senders => senders
  | backup senders => senders
  | distributed senders => senders
  | combined connections => sendersOfAll connections

@[inherit_doc senders]
def sendersOfAll : List Connection → List Sender
  | [] => []
  | connection :: connections => senders connection ++ sendersOfAll connections

end

/-- The ids of the senders of a connection in the order of their use. -/
def senderIds (connection : Connection) : List String :=
  connection.senders.map Sender.id

mutual

/-- Delivers a file. -/
def publish (file : File) (metadata : Metadata) : Connection → Activity StorageRegistry Reply
  | simple sender => sender.transmit file metadata
  | failover senders => Sender.firstOf file metadata [] senders
  | backup senders => Sender.allOf file metadata senders
  | distributed senders => Sender.allOf file metadata senders
  | combined connections => publishAll file metadata connections

/-- Delivers a file through several connections; one that fails is reported only. -/
def publishAll (file : File) (metadata : Metadata) :
    List Connection → Activity StorageRegistry Reply
  | [] => return .sent
  | connection :: connections => do
      match ← publish file metadata connection with
      | .sent => publishAll file metadata connections
      | .failed error =>
          Activity.note "delivery_failed" "connection"
            [ ("connection", connection.kind),
              ("file_id", metadata.fileId),
              ("err", error.message) ]
          publishAll file metadata connections
      | .panicked reason => return .panicked reason

end

@[simp] theorem sendersOfAll_eq_flatMap (connections : List Connection) :
    sendersOfAll connections = connections.flatMap senders := by
  induction connections with
  | nil => rfl
  | cons connection connections ih => simp [sendersOfAll, ih]

end Connection

end RadarRelay
