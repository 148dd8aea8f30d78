import Mathlib.Data.Nat.ModEq
import Stheno.Wire.Stream

/-!
# The two output streams

`OutputStream` is one interface with two implementations.  `ByteOutputStream`
writes into a chain of message blocks, to which it links new blocks and blocks of
its callers; `StreamSize` only counts.  A `serialize` method makes the same calls
on either, as it never looks at what they return, so a body is the list of its
calls.
-/

namespace Stheno.Wire

/-! ## Message blocks -/

/-- An `ACE_Message_Block`: the octets from its read to its write pointer, the
space behind them and the size of its buffer.  A chain is the list of the blocks
that `cont` leads through. -/
structure MessageBlock where
  data : List UInt8
  space : Nat
  size : Nat
  /-- The block does not own its data. -/
  dontDelete : Bool
  fits : data.length + space ≤ size
  deriving DecidableEq

namespace MessageBlock

def length (this : MessageBlock) : Nat :=
  this.data.length

/-- A new block with an empty buffer of a given size. -/
def ofSize (size : Nat) : MessageBlock where
  data := []
  space := size
  size := size
  dontDelete := false
  fits := by simp

def append (this : MessageBlock) (bytes : List UInt8) (room : bytes.length ≤ this.space) :
    MessageBlock where
  data := this.data ++ bytes
  space := this.space - bytes.length
  size := this.size
  dontDelete := this.dontDelete
  fits := by
    have fits := this.fits
    rw [List.length_append]
    omega

/-- The octets of a chain. -/
def octets (mb : List MessageBlock) : List UInt8 :=
  mb.flatMap data

/-- `total_length` of a chain. -/
def totalLength (mb : List MessageBlock) : Nat :=
  (mb.map length).sum

theorem length_octets (mb : List MessageBlock) : (octets mb).length = totalLength mb := by
  rw [octets, List.length_flatMap, totalLength]
  rfl

end MessageBlock

/-! ## Buffer sizes -/

/-- The constants of ACE that set the sizes of buffers. -/
structure BufferDefaults where
  bufsize : Nat
  expGrowthMax : Nat
  linearGrowthChunk : Nat
  memcpyTradeoff : Nat
  bufsize_pos : 0 < bufsize
  chunk_pos : 0 < linearGrowthChunk
  tradeoff_le : memcpyTradeoff ≤ 2 ^ 32

namespace BufferDefaults

/-- The values with which ACE is shipped. -/
def ace : BufferDefaults :=
  ⟨512, 65536, 65536, 256, by decide, by decide, by decide⟩

/-- One step of growth, exponential at first and linear for big buffers. -/
def grow (this : BufferDefaults) (newsize : Nat) : Nat :=
  if newsize < this.expGrowthMax then newsize * 2 else newsize + this.linearGrowthChunk

theorem lt_grow (this : BufferDefaults) {newsize : Nat} (positive : 0 < newsize) :
    newsize < this.grow newsize := by
  have chunk := this.chunk_pos
  rw [grow]
  split
  · omega
  · omega

/-- The loop of `first_size`. -/
def growTo (this : BufferDefaults) (minsize newsize : Nat) (positive : 0 < newsize) : Nat :=
  if newsize < minsize then
    this.growTo minsize (this.grow newsize) (Nat.lt_trans positive (this.lt_grow positive))
  else
    newsize
termination_by minsize - newsize
decreasing_by
  have longer := this.lt_grow positive
  omega

theorem le_growTo (this : BufferDefaults) (minsize newsize : Nat) (positive : 0 < newsize) :
    minsize ≤ this.growTo minsize newsize positive := by
  fun_induction growTo this minsize newsize positive with
  | case1 newsize positive shorter ih => exact ih
  | case2 newsize positive enough => exact Nat.le_of_not_lt enough

def firstSize (this : BufferDefaults) (minsize : Nat) : Nat :=
  if minsize = 0 then this.bufsize else this.growTo minsize this.bufsize this.bufsize_pos

theorem le_firstSize (this : BufferDefaults) (minsize : Nat) : minsize ≤ this.firstSize minsize := by
  rw [firstSize]
  split
  · omega
  · exact this.le_growTo _ _ _

def nextSize (this : BufferDefaults) (minsize : Nat) : Nat :=
  let newsize := this.firstSize minsize
  if newsize = minsize then this.grow newsize else newsize

theorem le_nextSize (this : BufferDefaults) (minsize : Nat) : minsize ≤ this.nextSize minsize := by
  have first := this.le_firstSize minsize
  rw [nextSize]
  split
  · rw [grow]
    split
    · omega
    · omega
  · exact first

end BufferDefaults

/-! ## Calls of the interface -/

/-- A call of an `OutputStream` method.  A pointer argument comes with the memory
behind it, which holds the elements that the call announces. -/
inductive Call where
  | writeBoolean (x : Bool)
  /-- Characters are written as octets. -/
  | writeOctet (x : UInt8)
  | writeShort (x : Int)
  | writeUShort (x : UInt16)
  | writeLong (x : Int)
  | writeULong (x : UInt32)
  | writeLongLong (x : Int)
  | writeULongLong (x : UInt64)
  /-- The overload with a length, to which the others come down. -/
  | writeString (len : UInt32) (x : List UInt8) (held : len ≠ 0 → (len + 1).toNat ≤ x.length)
  | writeBooleanArray (x : List Bool) (length : UInt32) (held : length.toNat ≤ x.length)
  /-- All arrays of fixed-width elements. -/
  | writeArray (size : Nat) (x : List UInt8) (length : UInt32)
      (held : size * length.toNat ≤ x.length)
  | writeOctetArrayMb (mb : List MessageBlock)

namespace Call

/-- A string with a length field of its own, which may have embedded NULs. -/
def ofChars (chars : List UInt8) : Call :=
  .writeString (UInt32.ofNat chars.length) (chars ++ [0]) (by
    rw [List.length_append, List.length_singleton, UInt32.toNat_add, UInt32.toNat_ofNat']
    intro _
    exact Nat.le_trans (Nat.mod_le _ _) (Nat.add_le_add_right (Nat.mod_le _ _) 1))

/-- A C string; a null pointer is written as an empty one. -/
def ofPointer : Option CString → Call
  | some x => ofChars x.chars
  | none => .writeString 0 [] (by
      intro nonzero
      exact absurd rfl nonzero)

/-- An octet array with its length cut to 32 bits. -/
def ofOctets (x : List UInt8) : Call :=
  .writeArray 1 x (UInt32.ofNat x.length) (by
    rw [UInt32.toNat_ofNat', Nat.one_mul]
    exact Nat.mod_le _ _)

end Call

/-! ## Writing bytes -/

/-- A `ByteOutputStream`: the blocks before the current one, which nothing
follows. -/
structure ByteOutputStream where
  defaults : BufferDefaults
  blocks : List MessageBlock
  current : MessageBlock
  currentIsWritable : Bool

namespace ByteOutputStream

/-- A stream whose first block has room for `size` octets. -/
def start (defaults : BufferDefaults) (size : Nat) : ByteOutputStream where
  defaults := defaults
  blocks := []
  current := .ofSize size
  currentIsWritable := true

/-- What the chain of the stream holds. -/
def contents (this : ByteOutputStream) : List UInt8 :=
  MessageBlock.octets (this.blocks ++ [this.current])

def totalLength (this : ByteOutputStream) : Nat :=
  MessageBlock.totalLength (this.blocks ++ [this.current])

/-- `adjust` and the copy behind it.  Where the current block is not writable or
too short, `grow_and_adjust` links a new one, which has room. -/
def put (this : ByteOutputStream) (bytes : List UInt8) : ByteOutputStream :=
  if room : this.currentIsWritable ∧ bytes.length ≤ this.current.space then
    { this with current := this.current.append bytes room.2 }
  else
    let newsize := this.defaults.nextSize (max bytes.length this.current.size)
    { this with
      blocks := this.blocks ++ [this.current]
      current := (MessageBlock.ofSize newsize).append bytes
        (Nat.le_trans (Nat.le_max_left _ _) (this.defaults.le_nextSize _))
      currentIsWritable := true }

def writeArray (this : ByteOutputStream) (size : Nat) (x : List UInt8) (length : UInt32) :
    ByteOutputStream :=
  if length = 0 then this else this.put (x.take (size * length.toNat))

/-- One round of `write_octet_array_mb`: a block that does not own its data or is
short is copied, any other is linked into the chain. -/
def writeBlock (this : ByteOutputStream) (i : MessageBlock) : ByteOutputStream :=
  if i.dontDelete then
    this.writeArray 1 i.data (UInt32.ofNat i.length)
  else if i.length < this.defaults.memcpyTradeoff ∧ i.length < this.current.space then
    this.writeArray 1 i.data (UInt32.ofNat i.length)
  else
    { this with
      blocks := this.blocks ++ [this.current]
      current := i
      currentIsWritable := false }

/-- An integer of eight bytes gets a slot of eight, of which `write_8` fills four
through a 32-bit pointer.  The others keep what the buffer held, here zeros. -/
def low8 (x : Nat) : List UInt8 :=
  toLE 4 x ++ [0, 0, 0, 0]

def writeString (this : ByteOutputStream) (len : UInt32) (x : List UInt8) : ByteOutputStream :=
  if len ≠ 0 then
    (this.put (writeULong (len + 1))).writeArray 1 x (len + 1)
  else
    (this.put (writeULong 1)).put (writeOctet 0)

def write (this : ByteOutputStream) : Call → ByteOutputStream
  | .writeBoolean x => this.put (Wire.writeBoolean x)
  | .writeOctet x => this.put (writeOctet x)
  | .writeShort x => this.put (writeShort x)
  | .writeUShort x => this.put (writeUShort x)
  | .writeLong x => this.put (writeLong x)
  | .writeULong x => this.put (writeULong x)
  | .writeLongLong x => this.put (low8 (x % 2 ^ 64).toNat)
  | .writeULongLong x => this.put (low8 x.toNat)
  | .writeString len x _ => this.writeString len x
  | .writeBooleanArray x length _ =>
      (x.take length.toNat).foldl (fun out i => out.put (Wire.writeBoolean i)) this
  | .writeArray size x length _ => this.writeArray size x length
  | .writeOctetArrayMb mb => mb.foldl writeBlock this

def run (this : ByteOutputStream) (calls : List Call) : ByteOutputStream :=
  calls.foldl write this

end ByteOutputStream

/-! ## Counting bytes -/

/-- A `StreamSize`.  Its `size_t` wraps at a multiple of the range of the unsigned
integer to which every reader of the size cuts it. -/
structure StreamSize where
  size : Nat
  deriving DecidableEq

namespace StreamSize

def totalLength (this : StreamSize) : Nat :=
  this.size

def adjust (this : StreamSize) (size : Nat) : StreamSize :=
  ⟨this.size + size⟩

def writeArray (this : StreamSize) (size : Nat) (length : UInt32) : StreamSize :=
  if length = 0 then this else this.adjust (size * length.toNat)

def writeString (this : StreamSize) (len : UInt32) : StreamSize :=
  if len ≠ 0 then (this.adjust 4).writeArray 1 (len + 1) else (this.adjust 4).adjust 1

/-- Every round of the loop over the chain counts the block it was given, the
first. -/
def writeOctetArrayMb (this : StreamSize) (mb : List MessageBlock) : StreamSize :=
  match mb with
  | [] => this
  | first :: _ => mb.foldl (fun count _ => count.adjust first.length) this

def write (this : StreamSize) : Call → StreamSize
  | .writeBoolean _ => this.adjust 1
  | .writeOctet _ => this.adjust 1
  | .writeShort _ => this.adjust 2
  | .writeUShort _ => this.adjust 2
  | .writeLong _ => this.adjust 4
  | .writeULong _ => this.adjust 4
  | .writeLongLong _ => this.adjust 8
  | .writeULongLong _ => this.adjust 8
  | .writeString len _ _ => this.writeString len
  | .writeBooleanArray _ length _ => this.adjust length.toNat
  | .writeArray size _ length _ => this.writeArray size length
  | .writeOctetArrayMb mb => this.writeOctetArrayMb mb

def run (this : StreamSize) (calls : List Call) : StreamSize :=
  calls.foldl write this

end StreamSize

/-! ## What the streams hold after a call -/

namespace MessageBlock

/-- The octets that reach the stream: a copied block is passed as an array with a
32-bit length. -/
def written (this : MessageBlock) : List UInt8 :=
  if this.dontDelete then this.data.take (UInt32.ofNat this.length).toNat else this.data

theorem length_written (this : MessageBlock) :
    this.written.length ≡ this.length [MOD 2 ^ 32] := by
  rw [written]
  split
  · rw [List.length_take, UInt32.toNat_ofNat', length, Nat.min_eq_left (Nat.mod_le _ _)]
    exact Nat.mod_modEq _ _
  · rfl

theorem written_of_lt {this : MessageBlock} (short : this.length < 2 ^ 32) :
    this.written = this.data := by
  have whole : (UInt32.ofNat this.length).toNat = this.data.length :=
    UInt32.toNat_ofNat_of_lt' short
  rw [written, whole, List.take_length, ite_self]

/-- A chain that a 32-bit length can count is written whole. -/
theorem flatMap_written {mb : List MessageBlock} (fits : (octets mb).length < 2 ^ 32) :
    mb.flatMap written = octets mb := by
  induction mb with
  | nil => rfl
  | cons head tail ih =>
      have both : head.data.length + (octets tail).length < 2 ^ 32 := by
        rwa [octets, List.flatMap_cons, List.length_append] at fits
      rw [List.flatMap_cons, ih (by omega), written_of_lt (show head.data.length < 2 ^ 32 by omega)]
      rfl

/-- What `total_length` of a chain would be if all blocks were as long as the
first. -/
def firstLengths (mb : List MessageBlock) : Nat :=
  mb.length * ((mb.head?.map length).getD 0)

theorem firstLengths_of_uniform {mb : List MessageBlock}
    (uniform : ∀ first ∈ mb.head?, ∀ block ∈ mb, block.length = first.length) :
    firstLengths mb = totalLength mb := by
  cases mb with
  | nil => rfl
  | cons first rest =>
      have lengths : (first :: rest).map length = List.replicate (first :: rest).length first.length := by
        apply List.eq_replicate_iff.mpr
        constructor
        · exact List.length_map _
        · intro size member
          rcases List.mem_map.mp member with ⟨block, inside, rfl⟩
          exact uniform first rfl block inside
      rw [totalLength, lengths, List.sum_replicate_nat]
      rfl

end MessageBlock

namespace Call

/-- The bytes that a call adds to a `ByteOutputStream`. -/
def written : Call → List UInt8
  | .writeBoolean x => Wire.writeBoolean x
  | .writeOctet x => Wire.writeOctet x
  | .writeShort x => Wire.writeShort x
  | .writeUShort x => Wire.writeUShort x
  | .writeLong x => Wire.writeLong x
  | .writeULong x => Wire.writeULong x
  | .writeLongLong x => ByteOutputStream.low8 (x % 2 ^ 64).toNat
  | .writeULongLong x => ByteOutputStream.low8 x.toNat
  | .writeString len x _ =>
      if len ≠ 0 then Wire.writeULong (len + 1) ++ x.take (len + 1).toNat
      else Wire.writeULong 1 ++ Wire.writeOctet 0
  | .writeBooleanArray x length _ => (x.take length.toNat).flatMap Wire.writeBoolean
  | .writeArray size x length _ => x.take (size * length.toNat)
  | .writeOctetArrayMb mb => mb.flatMap MessageBlock.written

/-- The bytes that a `StreamSize` counts for a call. -/
def counted : Call → Nat
  | .writeOctetArrayMb mb => MessageBlock.firstLengths mb
  | call => call.written.length

/-- The chain that a call passes. -/
def chain : Call → List MessageBlock
  | .writeOctetArrayMb mb => mb
  | _ => []

end Call

namespace ByteOutputStream

theorem length_contents (this : ByteOutputStream) : this.contents.length = this.totalLength :=
  MessageBlock.length_octets _

theorem contents_eq (this : ByteOutputStream) :
    this.contents = MessageBlock.octets this.blocks ++ this.current.data := by
  rw [contents, MessageBlock.octets, List.flatMap_append, List.flatMap_singleton]
  rfl

theorem contents_linked (this : ByteOutputStream) (block : MessageBlock) (writable : Bool) :
    ({ this with blocks := this.blocks ++ [this.current], current := block,
                 currentIsWritable := writable } : ByteOutputStream).contents =
      this.contents ++ block.data := by
  rw [contents_eq]
  rfl

/-- Wherever the bytes go, they follow what the stream holds. -/
@[simp]
theorem contents_put (this : ByteOutputStream) (bytes : List UInt8) :
    (this.put bytes).contents = this.contents ++ bytes := by
  rw [put]
  split
  · rw [contents_eq, contents_eq this, List.append_assoc]
    rfl
  · exact contents_linked _ _ _

@[simp]
theorem contents_writeArray (this : ByteOutputStream) (size : Nat) (x : List UInt8)
    (length : UInt32) :
    (this.writeArray size x length).contents = this.contents ++ x.take (size * length.toNat) := by
  rw [writeArray]
  split
  · rename_i empty
    simp [empty]
  · exact contents_put _ _

theorem contents_writeBlock (this : ByteOutputStream) (i : MessageBlock) :
    (this.writeBlock i).contents = this.contents ++ i.written := by
  rw [writeBlock]
  by_cases borrowed : i.dontDelete
  · rw [if_pos borrowed, MessageBlock.written, if_pos borrowed, contents_writeArray, Nat.one_mul]
  · rw [if_neg borrowed]
    split
    · -- a short block is copied whole, as its length is below 2 ^ 32
      rename_i short
      have below : i.length < 2 ^ 32 := Nat.lt_of_lt_of_le short.1 this.defaults.tradeoff_le
      have whole : (UInt32.ofNat i.length).toNat = i.data.length := UInt32.toNat_ofNat_of_lt' below
      rw [contents_writeArray, Nat.one_mul, whole, List.take_length,
        MessageBlock.written_of_lt below]
    · rw [MessageBlock.written, if_neg borrowed]
      exact contents_linked _ _ _

/-- A loop adds what its rounds add. -/
theorem contents_foldl {α : Type} {step : ByteOutputStream → α → ByteOutputStream}
    {bytes : α → List UInt8} (adds : ∀ out a, (step out a).contents = out.contents ++ bytes a)
    (list : List α) (this : ByteOutputStream) :
    (list.foldl step this).contents = this.contents ++ list.flatMap bytes := by
  induction list generalizing this with
  | nil => rw [List.foldl_nil, List.flatMap_nil, List.append_nil]
  | cons head tail ih =>
      rw [List.foldl_cons, ih, adds, List.flatMap_cons, List.append_assoc]

theorem contents_writeString (this : ByteOutputStream) (len : UInt32) (x : List UInt8)
    (held : len ≠ 0 → (len + 1).toNat ≤ x.length) :
    (this.writeString len x).contents =
      this.contents ++ (Call.writeString len x held).written := by
  rw [writeString, Call.written]
  split
  · rw [contents_writeArray, contents_put, Nat.one_mul, List.append_assoc]
  · rw [contents_put, contents_put, List.append_assoc]

/-- A call adds its bytes to the stream, in whichever blocks they end up. -/
theorem contents_write (this : ByteOutputStream) (call : Call) :
    (this.write call).contents = this.contents ++ call.written := by
  cases call with
  | writeString len x held => exact contents_writeString _ _ _ held
  | writeBooleanArray x length held =>
      exact contents_foldl (fun out i => contents_put out (Wire.writeBoolean i)) _ _
  | writeArray size x length held => exact contents_writeArray _ _ _ _
  | writeOctetArrayMb mb => exact contents_foldl contents_writeBlock _ _
  | _ => exact contents_put _ _

theorem contents_run (this : ByteOutputStream) (calls : List Call) :
    (this.run calls).contents = this.contents ++ calls.flatMap Call.written :=
  contents_foldl contents_write calls this

end ByteOutputStream

namespace StreamSize

theorem size_writeArray (this : StreamSize) (size : Nat) (x : List UInt8) (length : UInt32)
    (held : size * length.toNat ≤ x.length) :
    (this.writeArray size length).size =
      this.size + (Call.writeArray size x length held).counted := by
  rw [Call.counted, Call.written, List.length_take, Nat.min_eq_left held, writeArray]
  · split
    · rename_i empty
      simp [empty]
    · rfl
  · rintro mb ⟨⟩

theorem size_writeString (this : StreamSize) (len : UInt32) (x : List UInt8)
    (held : len ≠ 0 → (len + 1).toNat ≤ x.length) :
    (this.writeString len).size = this.size + (Call.writeString len x held).counted := by
  rw [Call.counted, Call.written, writeString]
  · by_cases empty : len = 0
    · rw [if_neg (not_not.mpr empty), if_neg (not_not.mpr empty)]
      rfl
    · rw [if_pos empty, if_pos empty, writeArray, List.length_append, List.length_take,
        Nat.min_eq_left (held empty)]
      split
      · rename_i wrapped
        simp [wrapped, adjust, writeULong]
      · simp [adjust, writeULong, Nat.add_assoc]
  · rintro mb ⟨⟩

theorem size_foldl_adjust {α : Type} (list : List α) (this : StreamSize) (size : Nat) :
    (list.foldl (fun count _ => count.adjust size) this).size = this.size + list.length * size := by
  induction list generalizing this with
  | nil => simp
  | cons head tail ih =>
      rw [List.foldl_cons, ih, List.length_cons, adjust]
      ring

theorem size_writeOctetArrayMb (this : StreamSize) (mb : List MessageBlock) :
    (this.writeOctetArrayMb mb).size = this.size + MessageBlock.firstLengths mb := by
  cases mb with
  | nil => simp [writeOctetArrayMb, MessageBlock.firstLengths]
  | cons first rest => exact size_foldl_adjust (first :: rest) this first.length

theorem size_write (this : StreamSize) (call : Call) :
    (this.write call).size = this.size + call.counted := by
  cases call with
  | writeString len x held => exact size_writeString _ _ _ held
  | writeBooleanArray x length held =>
      have octets : ((x.take length.toNat).flatMap Wire.writeBoolean).length = length.toNat := by
        have ones : (fun i => (Wire.writeBoolean i).length) = fun _ => 1 := rfl
        rw [List.length_flatMap, ones, List.map_const', List.sum_replicate_nat, List.length_take,
          Nat.min_eq_left held, Nat.mul_one]
      rw [write, adjust, Call.counted, Call.written, octets]
      rintro mb ⟨⟩
  | writeArray size x length held => exact size_writeArray _ _ _ _ held
  | writeOctetArrayMb mb => exact size_writeOctetArrayMb _ _
  | _ => rfl

theorem size_run (this : StreamSize) (calls : List Call) :
    (this.run calls).size = this.size + (calls.map Call.counted).sum := by
  induction calls generalizing this with
  | nil => rfl
  | cons call calls ih =>
      rw [run, List.foldl_cons, List.map_cons, List.sum_cons, ← Nat.add_assoc, ← size_write]
      exact ih _

end StreamSize

/-! ## Where the streams agree -/

namespace Call

/-- The streams disagree on a chain only, by what its blocks differ from the
first. -/
theorem counted_add_totalLength (call : Call) :
    call.counted + MessageBlock.totalLength call.chain ≡
      call.written.length + MessageBlock.firstLengths call.chain [MOD 2 ^ 32] := by
  cases call with
  | writeOctetArrayMb mb =>
      have blocks : (mb.flatMap MessageBlock.written).length ≡ MessageBlock.totalLength mb
          [MOD 2 ^ 32] := by
        induction mb with
        | nil => rfl
        | cons head tail ih =>
            rw [List.flatMap_cons, List.length_append]
            exact head.length_written.add ih
      rw [Nat.add_comm]
      exact (blocks.symm.add_right _)
  | _ => exact Nat.ModEq.refl _

theorem sum_counted_add (calls : List Call) :
    (calls.map counted).sum + (calls.map fun call => MessageBlock.totalLength call.chain).sum ≡
      (calls.flatMap written).length +
        (calls.map fun call => MessageBlock.firstLengths call.chain).sum [MOD 2 ^ 32] := by
  induction calls with
  | nil => rfl
  | cons call calls ih =>
      have both := call.counted_add_totalLength.add ih
      simp only [List.map_cons, List.sum_cons, List.flatMap_cons, List.length_append]
      convert both using 1
      · ring
      · ring

end Call

end Stheno.Wire
