import Stheno.FT.InitReplica
import Stheno.Wire.Layout
import Stheno.Wire.TimeValue

/-!
# The members of the stream packets

What the packets of the stream channels hold: numbers and flags, times, the records of
peers and services, and payloads in chains of message blocks.
-/

namespace Stheno.Messages

open Wire Peer Net Superpeer.Packets
open Stheno.FT (OverlayPeerInfo ServiceParams FTInitReplicaPacket)

/-! ## An exception of the mesh -/

structure MeshException where
  message : CString
  deriving DecidableEq

namespace MeshException

/-- `888D73859FC70AC20F11A89E4C039C59`, in ASCII. -/
def objectID : List UInt8 :=
  [56, 56, 56, 68, 55, 51, 56, 53, 57, 70, 67, 55, 48, 65, 67, 50, 48, 70, 49, 49, 65, 56, 57, 69,
    52, 67, 48, 51, 57, 67, 53, 57]

def serialize (this : MeshException) : List Field :=
  [.string objectID, .string this.message.chars]

/-- The identifier of the class is read and not looked at. -/
def deserialize : Reader MeshException := do
  let _strObjectID ← readString
  let message ← readString
  pure { message }

theorem reads (this : MeshException) : Reads deserialize (bytes this.serialize) this := by
  have noNul : (0 : UInt8) ∉ objectID := by
    decide
  let identifier : CString := ⟨objectID, noNul, by decide⟩
  have encoded : bytes this.serialize = writeString identifier ++ writeString this.message := by
    rw [writeString_eq, writeString_eq, serialize, bytes, List.flatMap_cons, List.flatMap_singleton]
    rfl
  rw [encoded]
  apply (reads_string identifier).bind
  exact (reads_string this.message).bind_pure MeshException.mk

end MeshException

/-! ## Payloads -/

/-- The payload of a replication, for which a new packet has no block yet, is put in one
only where it has octets. -/
def readReplication : Reader (Option (List Wire.MessageBlock)) := do
  let size ← readULong 0
  if size = 0 then
    pure none
  else
    let octets ← readOctetArray size.toNat
    pure (some (blockOf octets))

/-- What is made of the payload of a replication. -/
def replicated (payload : List Wire.MessageBlock) : Option (List Wire.MessageBlock) :=
  if MessageBlock.octets payload = [] then none else some (blockOf (MessageBlock.octets payload))

theorem reads_replication {payload : List Wire.MessageBlock}
    (fits : (bytes (stateFields payload)).length < 2 ^ 32) :
    Reads readReplication (bytes (stateFields payload)) (replicated payload) := by
  have encoded : bytes (stateFields payload) =
      writeULong (UInt32.ofNat (MessageBlock.octets payload).length) ++
        MessageBlock.octets payload := by
    rw [stateFields, bytes, List.flatMap_cons, List.flatMap_singleton, MessageBlock.length_octets]
    rfl
  rw [encoded] at fits ⊢
  rw [List.length_append] at fits
  have bound : (MessageBlock.octets payload).length < UInt32.size := by
    change (MessageBlock.octets payload).length < 2 ^ 32
    omega
  have size := UInt32.toNat_ofNat_of_lt' bound
  apply (reads_uLong _ 0).bind
  rw [replicated]
  by_cases empty : MessageBlock.octets payload = []
  · rw [if_pos empty, empty]
    exact .pure none
  · have nonzero : UInt32.ofNat (MessageBlock.octets payload).length ≠ 0 := by
      intro zero
      rw [zero] at size
      exact empty (List.length_eq_zero_iff.mp size.symm)
    rw [if_neg nonzero, if_neg empty]
    have octets := (reads_octetArray (MessageBlock.octets payload)).bind_pure fun octets =>
      some (blockOf octets)
    rwa [← size] at octets

/-! ## All kinds -/

inductive Kind where
  | uLong
  | long
  | boolean
  | timeValue
  | uuid
  | sapInfo
  | qosEndpoint
  | overlayPeerInfo
  | serviceParams
  | meshException
  /-- A chain behind its length. -/
  | payload
  | replication
  /-- The body of a packet that has a module of its own. -/
  | initReplica
  deriving DecidableEq

namespace Kind

def Value : Kind → Type
  | .uLong => UInt32
  | .long => Int32
  | .boolean => Bool
  | .timeValue => TimeValue
  | .uuid => UUID
  | .sapInfo => SAPInfo
  | .qosEndpoint => QoSEndpoint
  | .overlayPeerInfo => OverlayPeerInfo
  | .serviceParams => ServiceParams
  | .meshException => MeshException
  | .payload => List Wire.MessageBlock
  | .replication => Option (List Wire.MessageBlock)
  | .initReplica => FTInitReplicaPacket

def write : (kind : Kind) → kind.Value → Result (List Field)
  | .uLong, (x : UInt32) => .ok [.uLong x]
  | .long, (x : Int32) => .ok [.long x.toInt]
  | .boolean, (x : Bool) => .ok [.boolean x]
  | .timeValue, (x : TimeValue) => .ok x.fields
  | .uuid, (x : UUID) => writeFields [.uuid x]
  | .sapInfo, (x : SAPInfo) => .ok [.sapInfo x]
  | .qosEndpoint, (x : QoSEndpoint) => .ok [.uShort x.type, .uShort x.priority]
  | .overlayPeerInfo, (x : OverlayPeerInfo) => x.serialize
  | .serviceParams, (x : ServiceParams) => x.serialize
  | .meshException, (x : MeshException) => .ok x.serialize
  | .payload, (x : List Wire.MessageBlock) => .ok (stateFields x)
  | .replication, (x : Option (List Wire.MessageBlock)) =>
      match x with
      | some held => .ok (stateFields held)
      | none => .error .nullDereference
  | .initReplica, (x : FTInitReplicaPacket) => x.serializeBody

def read : (kind : Kind) → Reader kind.Value
  | .uLong => readULong 0
  | .long => do
      let x ← readLong 0
      pure (Int32.ofInt x)
  | .boolean => readBoolean
  | .timeValue => TimeValue.deserialize
  | .uuid => UUID.deserialize
  | .sapInfo => SAPInfo.deserialize
  | .qosEndpoint => QoSEndpoint.deserialize
  | .overlayPeerInfo => OverlayPeerInfo.deserialize
  | .serviceParams => ServiceParams.deserialize
  | .meshException => MeshException.deserialize
  | .payload => readState
  | .replication => readReplication
  | .initReplica => FTInitReplicaPacket.deserializeBody

/-- A time keeps the low halves of its members and a payload comes in one block; the
parameters of a service are of the base class. -/
def copy : (kind : Kind) → kind.Value → kind.Value
  | .timeValue, (x : TimeValue) => x.copy
  | .serviceParams, (x : ServiceParams) => x.copy
  | .payload, (x : List Wire.MessageBlock) => blockOf (MessageBlock.octets x)
  | .replication, (x : Option (List Wire.MessageBlock)) => x.bind replicated
  | .initReplica, (x : FTInitReplicaPacket) => x.copy
  | _, x => x

/-- What is written has key data in its identifiers and no null pointer. -/
def Complete : (kind : Kind) → kind.Value → Prop
  | .uuid, (x : UUID) => x.Initialized
  | .overlayPeerInfo, (x : OverlayPeerInfo) => x.Complete
  | .serviceParams, (x : ServiceParams) => x.sid.Initialized ∧ x.specialization.Complete
  | .replication, (x : Option (List Wire.MessageBlock)) => x ≠ none
  | .initReplica, (x : FTInitReplicaPacket) => x.Complete
  | _, _ => True

theorem exists_write_iff (kind : Kind) (value : kind.Value) :
    (∃ body, kind.write value = .ok body) ↔ kind.Complete value := by
  cases kind with
  | uuid =>
      change (∃ body, writeFields [.uuid value] = .ok body) ↔ UUID.Initialized value
      simp only [writeFields_eq_ok, List.forall_mem_singleton]
      exact ⟨fun ⟨_, ready, _⟩ => ready, fun ready => ⟨_, ready, rfl⟩⟩
  | overlayPeerInfo => exact OverlayPeerInfo.exists_serialize_iff
  | serviceParams => exact ServiceParams.exists_serialize_iff
  | initReplica => exact FTInitReplicaPacket.exists_serializeBody_iff
  | replication =>
      cases value with
      | none => exact iff_of_false (by rintro ⟨body, ⟨⟩⟩) fun there => there rfl
      | some held => exact iff_of_true ⟨_, rfl⟩ (Option.some_ne_none held)
  | _ => exact iff_of_true ⟨_, rfl⟩ trivial

theorem reads_int32 (x : Int32) : Reads (Kind.read .long) (writeLong x.toInt) x := by
  have whole := (reads_long 0 x.le_toInt x.toInt_lt).bind_pure Int32.ofInt
  rwa [Int32.ofInt_toInt] at whole

theorem reads_qosEndpoint (qos : QoSEndpoint) :
    Reads QoSEndpoint.deserialize (bytes [.uShort qos.type, .uShort qos.priority]) qos := by
  have encoded : bytes [.uShort qos.type, .uShort qos.priority] = qos.serialize := by
    rw [bytes, List.flatMap_cons, List.flatMap_singleton]
    rfl
  rw [encoded]
  exact qos.reads

theorem reads (kind : Kind) (value : kind.Value) (body : List Field)
    (written : kind.write value = .ok body) (fits : (bytes body).length < 2 ^ 32) :
    Reads kind.read (bytes body) (kind.copy value) := by
  cases kind with
  | overlayPeerInfo => exact OverlayPeerInfo.reads written fits
  | serviceParams => exact ServiceParams.reads written fits
  | initReplica => exact FTInitReplicaPacket.reads written fits
  | replication =>
      cases value with
      | none => cases written
      | some held =>
          cases written
          exact reads_replication fits
  | payload =>
      cases written
      exact reads_state fits
  | timeValue =>
      cases written
      exact TimeValue.reads value
  | meshException =>
      cases written
      exact MeshException.reads value
  | uLong =>
      cases written
      rw [bytes_singleton]
      exact reads_uLong _ 0
  | long =>
      cases written
      rw [bytes_singleton]
      exact reads_int32 value
  | boolean =>
      cases written
      rw [bytes_singleton]
      exact reads_boolean _
  | uuid =>
      rcases writeFields_eq_ok.mp written with ⟨-, rfl⟩
      rw [bytes_singleton] at fits ⊢
      exact UUID.reads fits
  | sapInfo =>
      cases written
      rw [bytes_singleton] at fits ⊢
      exact SAPInfo.reads fits
  | qosEndpoint =>
      cases written
      exact reads_qosEndpoint value

end Kind

theorem octets_boolean (flagged : Bool) :
    (Field.boolean flagged).octets = writeBoolean flagged := rfl

/-- The kinds, as fields and on the wire. -/
def kinds : Coding Field Kind where
  encode := Field.octets
  flag := Field.boolean
  encode_flag := octets_boolean
  Value := Kind.Value
  write := Kind.write
  read := Kind.read
  copy := Kind.copy
  Complete := Kind.Complete
  exists_write_iff := Kind.exists_write_iff
  reads := Kind.reads

end Stheno.Messages
