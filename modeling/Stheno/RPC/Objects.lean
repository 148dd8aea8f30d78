import Mathlib.Data.Int.Basic
import Stheno.Linearization
import Stheno.Peer.Info
import Stheno.Wire.TimeValue

/-!
# The objects of the RPC service

The service has two objects: one that adds numbers to a sum, and one that simulates
faults.  An invocation names its object and carries the number of an operation with its
arguments; an operation that the object does not know has no reply.
-/

namespace Stheno.RPC

open Wire

/-- What the variables hold that a handler leaves uninitialised, where the argument is
too short for them. -/
structure Uninitialised where
  op : UInt16
  num : Int
  secs : Int
  usecs : UInt64

/-- What a two-way invocation leads to. -/
structure Invoked (Object : Type) where
  object : Object
  reply : Option (List UInt8)
  /-- What `replicate` is called with before the reply is sent. -/
  update : Option (List UInt8)

/-! ## The test object -/

/-- `Long` arithmetic wraps. -/
structure RPCTestObject where
  mSum : Int32
  deriving DecidableEq

namespace RPCTestObject

def oid : UUID :=
  ⟨[0xBF, 0xDD, 0x34, 0x0C, 0x31, 0xEC, 0xDD, 0x49, 0xCD, 0x7E, 0x69, 0x4A, 0xF4, 0xAF, 0xF4, 0x26]⟩

def PING_OP : UInt16 := 0x01

def SUM_OP : UInt16 := 0x02

def new : RPCTestObject :=
  ⟨0⟩

/-- The sum under the lock of the object. -/
def sum (this : RPCTestObject) (num : Int32) : RPCTestObject × Int32 :=
  (⟨this.mSum + num⟩, this.mSum + num)

def handleTwoWayInvocation (this : RPCTestObject) (isFT : Bool) (left : Uninitialised)
    (arg : List UInt8) : Result (Invoked RPCTestObject) := do
  let (op, is) ← readUShort left.op ⟨arg, true⟩
  if op = SUM_OP then
    let (num, _) ← readLong left.num is
    let (object, ret) := this.sum (Int32.ofInt num)
    pure {
      object
      reply := some (writeLong ret.toInt)
      update := if isFT then some (writeLong ret.toInt) else none }
  else
    pure { object := this, reply := none, update := none }

/-- A replica takes over the sum. -/
def onReplication (this : RPCTestObject) (payload : List UInt8) : Result RPCTestObject := do
  let (sum, _) ← readLong this.mSum.toInt ⟨payload, true⟩
  pure ⟨Int32.ofInt sum⟩

end RPCTestObject

/-! ## The manager of the runtime -/

namespace RPCRuntimeManagerObject

def oid : UUID :=
  ⟨[0x67, 0xF1, 0x2B, 0xAC, 0x6A, 0x3B, 0x5C, 0x70, 0x4D, 0x45, 0xBA, 0xE5, 0x32, 0x41, 0x68, 0x04]⟩

def HARD_FAULT_OP : UInt16 := 0x01

def TEMP_FAULT_OP : UInt16 := 0x02

def temporaryFault (_duration : TimeValue) : Bool :=
  true

def handleTwoWayInvocation (left : Uninitialised) (arg : List UInt8) :
    Result (Option (List UInt8)) := do
  let (op, is) ← readUShort left.op ⟨arg, true⟩
  if op = TEMP_FAULT_OP then
    let (secs, is) ← readLongLong left.secs is
    let (usecs, _) ← readULongLong left.usecs is
    pure (some (writeBoolean (temporaryFault (TimeValue.set secs (TimeValue.signed usecs)))))
  else
    pure none

/-- Whether the process ends. -/
def handleOneWayInvocation (left : Uninitialised) (arg : List UInt8) : Result Bool := do
  let (op, _) ← readUShort left.op ⟨arg, true⟩
  pure (op = HARD_FAULT_OP)

end RPCRuntimeManagerObject

/-! ## The service -/

structure RPCService where
  testObject : RPCTestObject
  /-- Whether it is the primary or a replica of a group. -/
  isFT : Bool

namespace RPCService

def handleTwoWayInvocation (this : RPCService) (left : Uninitialised) (oid : UUID)
    (arg : List UInt8) : Result (Invoked RPCService) :=
  if oid.sameKey RPCTestObject.oid then do
    let invoked ← this.testObject.handleTwoWayInvocation this.isFT left arg
    pure {
      object := { this with testObject := invoked.object }
      reply := invoked.reply
      update := invoked.update }
  else if oid.sameKey RPCRuntimeManagerObject.oid then do
    let reply ← RPCRuntimeManagerObject.handleTwoWayInvocation left arg
    pure { object := this, reply, update := none }
  else
    pure { object := this, reply := none, update := none }

/-- Whether the process ends; a ping changes nothing. -/
def handleOneWayInvocation (left : Uninitialised) (oid : UUID) (arg : List UInt8) : Result Bool :=
  if oid.sameKey RPCTestObject.oid then
    pure false
  else if oid.sameKey RPCRuntimeManagerObject.oid then
    RPCRuntimeManagerObject.handleOneWayInvocation left arg
  else
    pure false

end RPCService

/-! ## What is asked of the service -/

structure Invocation where
  oid : UUID
  arg : List UInt8
  deriving DecidableEq

inductive Operation where
  | sum (num : Int32)
  | temporaryFault

/-- The invocations of the operations that have a reply.  Octets behind the arguments are
not looked at. -/
inductive Asks : Invocation → Operation → Prop
  | sum (num : Int32) (rest : List UInt8) :
      Asks ⟨RPCTestObject.oid, writeUShort RPCTestObject.SUM_OP ++ writeLong num.toInt ++ rest⟩
        (.sum num)
  | temporaryFault (rest : List UInt8) :
      Asks ⟨RPCRuntimeManagerObject.oid, writeUShort RPCRuntimeManagerObject.TEMP_FAULT_OP ++ rest⟩
        .temporaryFault

namespace Operation

/-- The object that the operation belongs to. -/
def oid : Operation → UUID
  | sum _ => RPCTestObject.oid
  | temporaryFault => RPCRuntimeManagerObject.oid

def after (total : Int32) : Operation → Int32
  | sum num => total + num
  | temporaryFault => total

def reply (total : Int32) : Operation → List UInt8
  | sum num => writeLong (total + num).toInt
  | temporaryFault => writeBoolean true

/-- What the replicas of the service need to know of it. -/
def update (total : Int32) : Operation → Option (List UInt8)
  | sum num => some (writeLong (total + num).toInt)
  | temporaryFault => none

end Operation

theorem Asks.oid {invocation : Invocation} {operation : Operation} (asks : Asks invocation operation) :
    invocation.oid = operation.oid := by
  cases asks with
  | sum num rest => rfl
  | temporaryFault rest => rfl

/-- What the service is for: a counter that answers with the sum so far. -/
def counter (total : Int32) (invocation : Invocation) (after : Int32) (reply : List UInt8) : Prop :=
  ∃ operation, Asks invocation operation ∧ after = operation.after total ∧
    reply = operation.reply total

theorem reads_sum (x : Int32) (before : Int) :
    Reads (readLong before) (writeLong x.toInt) x.toInt :=
  reads_long before x.le_toInt x.toInt_lt

/-- A variable is read or left as it was. -/
theorem readField_ok {α : Type} (size : Nat) (decode : List UInt8 → α) (before : α)
    (stream : InputStream) : ∃ out, readField size decode before stream = .ok out := by
  by_cases enough : size ≤ stream.data.length
  · have taken : adjust size stream =
        .ok (some (stream.data.take size), { stream with data := stream.data.drop size }) := by
      rw [adjust, if_pos enough]
    exact ⟨_, Reader.bind_eq_ok.mpr ⟨_, _, taken, rfl⟩⟩
  · have short : adjust size stream = .ok (none, { stream with goodBit := false }) := by
      rw [adjust, if_neg enough]
    exact ⟨_, Reader.bind_eq_ok.mpr ⟨_, _, short, rfl⟩⟩

theorem RPCTestObject.handleTwoWayInvocation_sum (this : RPCTestObject) (isFT : Bool)
    (left : Uninitialised) (num : Int32) (rest : List UInt8) :
    this.handleTwoWayInvocation isFT left (writeUShort SUM_OP ++ writeLong num.toInt ++ rest) = .ok {
      object := ⟨this.mSum + num⟩
      reply := some (writeLong (this.mSum + num).toInt)
      update := if isFT then some (writeLong (this.mSum + num).toInt) else none } := by
  have op := reads_uShort SUM_OP left.op (writeLong num.toInt ++ rest) true
  have arg := reads_sum num left.num rest true
  rw [handleTwoWayInvocation, List.append_assoc, op]
  simp only [bind, Except.bind, if_true, arg, sum, Int32.ofInt_toInt]
  rfl

theorem RPCRuntimeManagerObject.handleTwoWayInvocation_temporaryFault (left : Uninitialised)
    (rest : List UInt8) :
    handleTwoWayInvocation left (writeUShort TEMP_FAULT_OP ++ rest) =
      .ok (some (writeBoolean true)) := by
  have op := reads_uShort TEMP_FAULT_OP left.op rest true
  rcases readField_ok 8 (fun octets => (ofLow8 octets : Int)) left.secs ⟨rest, true⟩ with
    ⟨⟨secs, is⟩, readSecs⟩
  rcases readField_ok 8 (fun octets => UInt64.ofNat (ofLow8 octets)) left.usecs is with
    ⟨⟨usecs, after⟩, readUsecs⟩
  rw [handleTwoWayInvocation, op]
  simp only [bind, Except.bind, if_true, readLongLong, readULongLong, readSecs, readUsecs]
  rfl

/-- The service serves the operations as the counter does, whatever its variables hold, and
a service with replicas tells them the sum. -/
theorem RPCService.handleTwoWayInvocation_of_asks (this : RPCService) (left : Uninitialised)
    {invocation : Invocation} {operation : Operation} (asks : Asks invocation operation) :
    this.handleTwoWayInvocation left invocation.oid invocation.arg = .ok {
      object := { this with testObject := ⟨operation.after this.testObject.mSum⟩ }
      reply := some (operation.reply this.testObject.mSum)
      update := if this.isFT then operation.update this.testObject.mSum else none } := by
  cases asks with
  | sum num rest =>
      have here : RPCTestObject.oid.sameKey RPCTestObject.oid = true := by
        decide
      rw [handleTwoWayInvocation, if_pos here,
        RPCTestObject.handleTwoWayInvocation_sum this.testObject this.isFT left num rest]
      rfl
  | temporaryFault rest =>
      have other : ¬ RPCRuntimeManagerObject.oid.sameKey RPCTestObject.oid = true := by
        decide
      have here : RPCRuntimeManagerObject.oid.sameKey RPCRuntimeManagerObject.oid = true := by
        decide
      rw [handleTwoWayInvocation, if_neg other, if_pos here,
        RPCRuntimeManagerObject.handleTwoWayInvocation_temporaryFault left rest]
      simp only [Operation.update, ite_self]
      rfl

theorem RPCTestObject.onReplication_sum (this : RPCTestObject) (sum : Int32) :
    this.onReplication (writeLong sum.toInt) = .ok ⟨sum⟩ := by
  have read := (reads_sum sum this.mSum.toInt).run
  rw [onReplication, read]
  simp only [bind, Except.bind, Int32.ofInt_toInt]
  rfl

end Stheno.RPC
