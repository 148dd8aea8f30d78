import Stheno.Peer.Codec
import Stheno.Wire.OutputStream

/-!
# The calls of a body

The `serialize` methods of the records as calls of the stream they are given, and
the body of a packet as the list of its fields.  Where its lengths fit 32 bits and
its identifiers have key data a record writes the bytes of its codec.
-/

namespace Stheno

open Wire

namespace Wire

/-- A flag, and the calls for the value when there is one. -/
def callsOptional {α : Type} (calls : α → List Call) : Option α → List Call
  | some a => .writeBoolean true :: calls a
  | none => [.writeBoolean false]

/-- A signed count, and the calls for every element. -/
def callsCounted {α : Type} (calls : α → List Call) (list : List α) : List Call :=
  .writeLong list.length :: list.flatMap calls

/-- What a list of calls writes. -/
def written (calls : List Call) : List UInt8 :=
  calls.flatMap Call.written

@[simp]
theorem written_nil : written [] = [] :=
  rfl

@[simp]
theorem written_cons (call : Call) (calls : List Call) :
    written (call :: calls) = call.written ++ written calls :=
  List.flatMap_cons

@[simp]
theorem written_append (first second : List Call) :
    written (first ++ second) = written first ++ written second :=
  List.flatMap_append

theorem written_flatMap {α : Type} {calls : α → List Call} {write : α → List UInt8} {list : List α}
    (each : ∀ a ∈ list, written (calls a) = write a) :
    written (list.flatMap calls) = list.flatMap write := by
  induction list with
  | nil => rfl
  | cons head tail ih =>
      rw [List.flatMap_cons, written_append, each head List.mem_cons_self,
        ih fun a member => each a (List.mem_cons_of_mem _ member), List.flatMap_cons]

theorem written_optional {α : Type} {calls : α → List Call} {write : α → List UInt8}
    {value : Option α} (each : ∀ a, value = some a → written (calls a) = write a) :
    written (callsOptional calls value) = writeOptional write value := by
  cases value with
  | none => rfl
  | some a => rw [callsOptional, written_cons, each a rfl, writeOptional, Call.written]

theorem written_counted {α : Type} {calls : α → List Call} {write : α → List UInt8} {list : List α}
    (each : ∀ a ∈ list, written (calls a) = write a) :
    written (callsCounted calls list) = writeCounted write list := by
  rw [callsCounted, written_cons, written_flatMap each, writeCounted, Call.written]

theorem written_ofOctets {x : List UInt8} (fits : x.length < 2 ^ 32) :
    (Call.ofOctets x).written = x := by
  have whole : (UInt32.ofNat x.length).toNat = x.length := UInt32.toNat_ofNat_of_lt' fits
  rw [Call.ofOctets, Call.written, Nat.one_mul, whole, List.take_length]

/-- A string is written behind its length, which counts the NUL at its end. -/
theorem written_ofChars {chars : List UInt8} (bounded : chars.length + 1 < 2 ^ 32) :
    (Call.ofChars chars).written =
      writeULong (UInt32.ofNat (chars.length + 1)) ++ (chars ++ [0]) := by
  have lenField : (UInt32.ofNat chars.length).toNat = chars.length :=
    UInt32.toNat_ofNat_of_lt' (show chars.length < 2 ^ 32 by omega)
  have next : UInt32.ofNat chars.length + 1 = UInt32.ofNat (chars.length + 1) := by
    rw [UInt32.ofNat_add]
    rfl
  rw [Call.ofChars, Call.written]
  by_cases empty : chars = []
  · rw [empty]
    rfl
  · have nonzero : UInt32.ofNat chars.length ≠ 0 := by
      intro zero
      rw [zero] at lenField
      exact empty (List.length_eq_zero_iff.mp lenField.symm)
    rw [if_pos nonzero, next, UInt32.toNat_ofNat_of_lt' bounded, List.take_of_length_le (by simp)]

theorem written_ofCString (x : CString) : (Call.ofChars x.chars).written = writeString x := by
  rw [written_ofChars x.bounded, writeString_eq]

/-- No call passes a chain of message blocks. -/
def Plain (calls : List Call) : Prop :=
  ∀ call ∈ calls, call.chain = []

namespace Plain

theorem nil : Plain [] := by
  rintro call ⟨⟩

theorem cons {call : Call} {calls : List Call} (here : call.chain = []) (rest : Plain calls) :
    Plain (call :: calls) :=
  List.forall_mem_cons.mpr ⟨here, rest⟩

theorem append {first second : List Call} (left : Plain first) (right : Plain second) :
    Plain (first ++ second) :=
  List.forall_mem_append.mpr ⟨left, right⟩

theorem flatMap {α : Type} {calls : α → List Call} (each : ∀ a, Plain (calls a)) (list : List α) :
    Plain (list.flatMap calls) := by
  intro call member
  rcases List.mem_flatMap.mp member with ⟨a, -, inside⟩
  exact each a call inside

theorem optional {α : Type} {calls : α → List Call} (each : ∀ a, Plain (calls a)) :
    ∀ value, Plain (callsOptional calls value)
  | some a => cons rfl (each a)
  | none => cons rfl nil

theorem counted {α : Type} {calls : α → List Call} (each : ∀ a, Plain (calls a)) (list : List α) :
    Plain (callsCounted calls list) :=
  cons rfl (flatMap each list)

end Plain

end Wire

/-! ## Records -/

namespace UUID

def calls (this : UUID) : List Call :=
  [.writeULong (UInt32.ofNat this.key.length), .ofOctets this.key]

theorem written_calls {this : UUID} (fits : this.octets.length < 2 ^ 32) :
    written this.calls = this.octets := by
  rw [length_octets] at fits
  rw [calls, written_cons, written_cons, written_nil, written_ofOctets (by omega),
    List.append_nil, octets, Call.written]

theorem plain (this : UUID) : Plain this.calls :=
  .cons rfl (.cons rfl .nil)

end UUID

namespace Peer

def QoSEndpoint.calls (this : QoSEndpoint) : List Call :=
  [.writeUShort this.type, .writeUShort this.priority]

namespace Endpoint

def calls (this : Endpoint) : List Call :=
  [.writeOctet this.type, .ofChars this.host.chars, .writeUShort this.port] ++ this.qos.calls

theorem written_calls (this : Endpoint) : written this.calls = this.serialize := by
  simp only [calls, QoSEndpoint.calls, written_append, written_cons, written_nil, written_ofCString,
    List.append_nil, List.append_assoc]
  rfl

theorem plain (this : Endpoint) : Plain this.calls :=
  .cons rfl (.cons rfl (.cons rfl (.cons rfl (.cons rfl .nil))))

end Endpoint

namespace SAPInfo

def calls (this : SAPInfo) : List Call :=
  .writeULong (UInt32.ofNat this.endpointList.length) :: this.endpointList.flatMap Endpoint.calls

theorem written_calls (this : SAPInfo) : written this.calls = this.serialize := by
  rw [calls, written_cons, written_flatMap fun endpoint _ => endpoint.written_calls, serialize,
    Call.written]

theorem plain (this : SAPInfo) : Plain this.calls :=
  .cons rfl (.flatMap Endpoint.plain _)

theorem written_optional (sap : Option SAPInfo) :
    written (callsOptional calls sap) = writeOptional serialize sap :=
  Wire.written_optional fun info _ => info.written_calls

end SAPInfo

namespace ServiceInstanceInfo

def calls (this : ServiceInstanceInfo) : List Call :=
  this.sid.calls ++ (this.iid.calls ++ callsOptional SAPInfo.calls this.sapInfo)

theorem written_calls {this : ServiceInstanceInfo} (fits : this.octets.length < 2 ^ 32) :
    written this.calls = this.octets := by
  rw [octets, List.length_append, List.length_append] at fits
  rw [calls, written_append, written_append, SAPInfo.written_optional,
    UUID.written_calls (show this.sid.octets.length < 2 ^ 32 by omega),
    UUID.written_calls (show this.iid.octets.length < 2 ^ 32 by omega), octets]

theorem plain (this : ServiceInstanceInfo) : Plain this.calls :=
  .append this.sid.plain (.append this.iid.plain (.optional SAPInfo.plain _))

end ServiceInstanceInfo

namespace ServiceInfo

def calls (this : ServiceInfo) : List Call :=
  this.sid.calls ++
    callsCounted ServiceInstanceInfo.calls (this.runningServices.entries.map Prod.snd)

theorem written_calls {this : ServiceInfo} (fits : this.octets.length < 2 ^ 32) :
    written this.calls = this.octets := by
  rw [octets, List.length_append] at fits
  rw [calls, written_append, octets,
    UUID.written_calls (show this.sid.octets.length < 2 ^ 32 by omega), written_counted]
  intro info member
  apply ServiceInstanceInfo.written_calls
  have part : info.octets.length ≤ _ := length_le_length_flatMap member
  rw [writeCounted, List.length_append] at fits
  omega

theorem plain (this : ServiceInfo) : Plain this.calls :=
  .append this.sid.plain (.counted ServiceInstanceInfo.plain _)

end ServiceInfo

namespace PeerInfo

def calls (this : PeerInfo) : List Call :=
  .writeULong this.type :: (this.pid.calls ++ (this.fid.calls ++
    (callsOptional SAPInfo.calls this.meshSAP ++
      (callsOptional SAPInfo.calls this.discoverySAP ++
        (callsOptional SAPInfo.calls this.ftSAP ++
          callsCounted ServiceInfo.calls (this.services.entries.map Prod.snd))))))

theorem written_calls {this : PeerInfo} (fits : this.octets.length < 2 ^ 32) :
    written this.calls = this.octets := by
  simp only [octets, List.length_append] at fits
  have services : written (callsCounted ServiceInfo.calls (this.services.entries.map Prod.snd)) =
      writeCounted ServiceInfo.octets (this.services.entries.map Prod.snd) := by
    apply written_counted
    intro info member
    apply ServiceInfo.written_calls
    have part : info.octets.length ≤ _ := length_le_length_flatMap member
    simp only [writeCounted, List.length_append] at fits
    omega
  simp only [calls, written_cons, written_append, SAPInfo.written_optional, services, octets,
    UUID.written_calls (show this.pid.octets.length < 2 ^ 32 by omega),
    UUID.written_calls (show this.fid.octets.length < 2 ^ 32 by omega), Call.written]

theorem plain (this : PeerInfo) : Plain this.calls := by
  apply Plain.cons rfl
  apply Plain.append this.pid.plain
  apply Plain.append this.fid.plain
  apply Plain.append (.optional SAPInfo.plain _)
  apply Plain.append (.optional SAPInfo.plain _)
  apply Plain.append (.optional SAPInfo.plain _)
  exact .counted ServiceInfo.plain _

end PeerInfo

namespace P3PeerInfo

def calls (this : P3PeerInfo) : List Call :=
  this.toPeerInfo.calls ++ callsOptional Endpoint.calls this.cellEndpoint

theorem written_calls {this : P3PeerInfo} (fits : this.octets.length < 2 ^ 32) :
    written this.calls = this.octets := by
  rw [octets, List.length_append] at fits
  rw [calls, written_append, octets,
    PeerInfo.written_calls (show this.toPeerInfo.octets.length < 2 ^ 32 by omega),
    Wire.written_optional fun endpoint _ => endpoint.written_calls]

theorem plain (this : P3PeerInfo) : Plain this.calls :=
  .append this.toPeerInfo.plain (.optional Endpoint.plain _)

end P3PeerInfo

end Peer

/-! ## Bodies -/

namespace Wire

/-- A field of a packet. -/
inductive Field where
  | boolean (x : Bool)
  | octet (x : UInt8)
  | short (x : Int)
  | uShort (x : UInt16)
  | long (x : Int)
  | uLong (x : UInt32)
  | longLong (x : Int)
  | uLongLong (x : UInt64)
  /-- A C string, or a null pointer. -/
  | pointer (x : Option CString)
  /-- A string that keeps its length. -/
  | string (chars : List UInt8)
  | uuid (x : UUID)
  | endpoint (x : Peer.Endpoint)
  | sapInfo (x : Peer.SAPInfo)
  | peerInfo (x : Peer.PeerInfo)
  | p3PeerInfo (x : Peer.P3PeerInfo)
  | octetArray (x : List UInt8)
  | octetArrayMb (mb : List MessageBlock)

namespace Field

/-- The calls by which a body writes a field. -/
def calls : Field → List Call
  | .boolean x => [.writeBoolean x]
  | .octet x => [.writeOctet x]
  | .short x => [.writeShort x]
  | .uShort x => [.writeUShort x]
  | .long x => [.writeLong x]
  | .uLong x => [.writeULong x]
  | .longLong x => [.writeLongLong x]
  | .uLongLong x => [.writeULongLong x]
  | .pointer x => [.ofPointer x]
  | .string chars => [.ofChars chars]
  | .uuid x => x.calls
  | .endpoint x => x.calls
  | .sapInfo x => x.calls
  | .peerInfo x => x.calls
  | .p3PeerInfo x => x.calls
  | .octetArray x => [.ofOctets x]
  | .octetArrayMb mb => [.writeOctetArrayMb mb]

/-- The bytes that stand for a field, whatever its length. -/
def octets : Field → List UInt8
  | .boolean x => writeBoolean x
  | .octet x => writeOctet x
  | .short x => writeShort x
  | .uShort x => writeUShort x
  | .long x => writeLong x
  | .uLong x => writeULong x
  | .longLong x => ByteOutputStream.low8 (x % 2 ^ 64).toNat
  | .uLongLong x => ByteOutputStream.low8 x.toNat
  | .pointer x => writeString (x.getD .empty)
  | .string chars => writeULong (UInt32.ofNat (chars.length + 1)) ++ (chars ++ [0])
  | .uuid x => x.octets
  | .endpoint x => x.serialize
  | .sapInfo x => x.serialize
  | .peerInfo x => x.octets
  | .p3PeerInfo x => x.octets
  | .octetArray x => x
  | .octetArrayMb mb => MessageBlock.octets mb

/-- The identifiers of a field have key data. -/
def Initialized : Field → Prop
  | .uuid x => x.Initialized
  | .peerInfo x => x.Initialized
  | .p3PeerInfo x => x.Initialized
  | _ => True

instance : (field : Field) → Decidable field.Initialized
  | .uuid x => inferInstanceAs (Decidable x.Initialized)
  | .peerInfo x => inferInstanceAs (Decidable x.Initialized)
  | .p3PeerInfo x => inferInstanceAs (Decidable x.Initialized)
  | .boolean _ | .octet _ | .short _ | .uShort _ | .long _ | .uLong _ | .longLong _
  | .uLongLong _ | .pointer _ | .string _ | .endpoint _ | .sapInfo _ | .octetArray _
  | .octetArrayMb _ => .isTrue trivial

/-- A field whose bytes a 32-bit length can count is written whole. -/
theorem written_calls {this : Field} (fits : this.octets.length < 2 ^ 32) :
    written this.calls = this.octets := by
  cases this with
  | pointer x =>
      cases x with
      | none => rfl
      | some x => exact (List.append_nil _).trans (written_ofCString x)
  | string chars =>
      rw [octets, List.length_append, List.length_append, List.length_singleton] at fits
      rw [calls, written_cons, written_nil, List.append_nil, written_ofChars (by omega), octets]
  | uuid x => exact UUID.written_calls fits
  | endpoint x => exact x.written_calls
  | sapInfo x => exact x.written_calls
  | peerInfo x => exact Peer.PeerInfo.written_calls fits
  | p3PeerInfo x => exact Peer.P3PeerInfo.written_calls fits
  | octetArray x => exact (List.append_nil _).trans (written_ofOctets fits)
  | octetArrayMb mb => exact (List.append_nil _).trans (MessageBlock.flatMap_written fits)
  | _ => exact List.append_nil _

/-- The chain that a field holds. -/
def chain : Field → List MessageBlock
  | .octetArrayMb mb => mb
  | _ => []

theorem pointer_plain (x : Option CString) : Plain [.ofPointer x] := by
  cases x with
  | none => exact .cons rfl .nil
  | some x => exact .cons rfl .nil

/-- The only calls that pass a chain are those for the chains of the body. -/
theorem chain_or_plain (this : Field) :
    this.calls.map Call.chain = [this.chain] ∨ Plain this.calls ∧ this.chain = [] := by
  cases this with
  | octetArrayMb mb => exact .inl rfl
  | pointer x => exact .inr ⟨pointer_plain x, rfl⟩
  | uuid x => exact .inr ⟨x.plain, rfl⟩
  | endpoint x => exact .inr ⟨x.plain, rfl⟩
  | sapInfo x => exact .inr ⟨x.plain, rfl⟩
  | peerInfo x => exact .inr ⟨x.plain, rfl⟩
  | p3PeerInfo x => exact .inr ⟨x.plain, rfl⟩
  | _ => exact .inr ⟨.cons rfl .nil, rfl⟩

/-- A measure of chains has the same sum over the calls of a field as on its own
chain. -/
theorem sum_chain (this : Field) (measure : List MessageBlock → Nat) (empty : measure [] = 0) :
    (this.calls.map fun call => measure call.chain).sum = measure this.chain := by
  rcases this.chain_or_plain with own | ⟨plain, none⟩
  · have mapped : (this.calls.map fun call => measure call.chain) =
        (this.calls.map Call.chain).map measure := by
      rw [List.map_map]
      rfl
    rw [mapped, own, List.map_singleton, List.sum_singleton]
  · have zeros : (this.calls.map fun call => measure call.chain) = this.calls.map fun _ => 0 := by
      apply List.map_congr_left
      intro call member
      rw [plain call member, empty]
    rw [zeros, none, empty, List.map_const', List.sum_replicate_nat, Nat.mul_zero]

end Field

/-- The fields of a body; an identifier without key data throws. -/
def writeFields (body : List Field) : Result (List Field) :=
  if ∀ field ∈ body, field.Initialized then .ok body else .error .notInitialized

theorem writeFields_eq_ok {body written : List Field} :
    writeFields body = .ok written ↔ (∀ field ∈ body, field.Initialized) ∧ written = body := by
  rw [writeFields]
  by_cases ready : ∀ field ∈ body, field.Initialized
  · rw [if_pos ready, Except.ok.injEq]
    exact ⟨fun same => ⟨ready, same.symm⟩, fun ⟨_, same⟩ => same.symm⟩
  · rw [if_neg ready]
    constructor
    · rintro ⟨⟩
    · rintro ⟨impossible, -⟩
      exact absurd impossible ready

/-- The calls of `serializeBody` for a body with given fields. -/
def serializeBody (body : List Field) : List Call :=
  body.flatMap Field.calls

/-- The size of a body as a `StreamSize` counts it. -/
def getBodySerializationSize (body : List Field) : UInt32 :=
  UInt32.ofNat ((⟨0⟩ : StreamSize).run (serializeBody body)).totalLength

/-- A body that fits is written as the bytes of its fields. -/
theorem written_serializeBody {body : List Field}
    (fits : (body.flatMap Field.octets).length < 2 ^ 32) :
    written (serializeBody body) = body.flatMap Field.octets := by
  apply written_flatMap
  intro field member
  apply Field.written_calls
  exact Nat.lt_of_le_of_lt (length_le_length_flatMap member) fits

theorem sum_chains (body : List Field) (measure : List MessageBlock → Nat)
    (empty : measure [] = 0) :
    ((serializeBody body).map fun call => measure call.chain).sum =
      (body.map fun field => measure field.chain).sum := by
  induction body with
  | nil => rfl
  | cons field body ih =>
      rw [serializeBody, List.flatMap_cons, List.map_append, List.sum_append, field.sum_chain measure empty,
        List.map_cons, List.sum_cons, ← ih]
      rfl

end Wire

end Stheno
