import Stheno.Backlog
import Stheno.Superpeer.Catalogue
import Stheno.Superpeer.Reach

/-!
# A follower joins a cell

A JOIN_CELL goes on after its handler has returned.  The coordinator records the peer
and sends it the bytes of its tree, which the peer loads while its own handlers wait;
only then does `CellAcceptor` connect to the peer and add the connection to the group
to which the coordinator relays what it handles.  A handler changes the tree under the
lock of the cell and relays after it has released the lock.  What is handled after the
bytes were taken reaches the new follower exactly once and in order if each handler
waits with its relay until the peer is in the group and the earlier ones have relayed.
-/

namespace Stheno.Superpeer

open Stheno.Tree Peer

/-- A packet that a coordinator handles and relays to its followers. -/
inductive CellUpdate where
  | mesh (packet : MeshPacket)
  | info (srcPID : UUID) (info : InfoUpdate)

/-- The member of the group to which `CellGroup` does not relay it. -/
def CellUpdate.uuid : CellUpdate → UUID
  | .mesh packet => packet.uuid
  | .info srcPID _ => srcPID

/-- What a coordinator sends to a follower. -/
inductive Relay where
  | mesh (packet : Packet)
  | info (info : InfoUpdate)

/-- A process of the cell: the coordinator or a follower. -/
structure Replica where
  cell : Cell
  sensors : SensorKind → List SensorInfo

namespace Replica

def setTree (this : Replica) (cellTree : CellTree) : Replica :=
  { this with cell := { this.cell with cellTree } }

def processUpdateInfo (this : Replica) (info : InfoUpdate) : Result Replica :=
  (CellData.processUpdateInfo { cellTree := this.cell.cellTree, sensors := this.sensors } info).map
    fun data => { this.setTree data.cellTree with sensors := data.sensors }

/-- What the handler of the coordinator does under the lock, and what it relays. -/
def handle (config : P3Configuration) (this : Replica) : CellUpdate → Result (Replica × Relay)
  | .mesh packet => (this.cell.react config packet.toPacket).map fun reaction =>
      (this.setTree reaction.tree, .mesh reaction.toGroup)
  | .info _ info => (this.processUpdateInfo info).map fun after => (after, .info info)

/-- The handler of a follower. -/
def follow (config : P3Configuration) (this : Replica) : Relay → Result Replica
  | .mesh packet => (this.cell.follow config packet).map this.setTree
  | .info info => this.processUpdateInfo info

/-- A follower that is told makes the update of this coordinator. -/
def Alike (config : P3Configuration) (this : Replica) : CellUpdate → Prop
  | .mesh packet => catalogueView.Alike config this.cell packet
  | .info _ _ => True

end Replica

/-- The bytes of the coordinator's tree, taken when it had handled `position` packets. -/
structure Snapshot where
  position : Nat
  state : List UInt8

/-- The peer that joins. -/
inductive Newcomer where
  /-- In `Cell::open`, holding its lock. -/
  | opening
  | running (follower : Replica)
  /-- The process has ended. -/
  | ended

/-- A coordinator and a peer that joins its cell. -/
structure Admission where
  coordinator : Replica
  pid : UUID
  newcomer : Newcomer
  /-- The packets that the coordinator handles; a pending one has not been relayed yet
  and stands with the member that its relay leaves out. -/
  backlog : Backlog (UUID × Relay)
  snapshot : Option Snapshot
  /-- The peer is in `m_cellFollowerGroup`. -/
  member : Bool
  /-- The channel to the peer, the oldest packet first. -/
  channel : List Relay
  /-- The numbers of the packets that have been relayed to the peer. -/
  relayed : List Nat

def Newcomer.ofResult : Result Replica → Newcomer
  | .ok follower => .running follower
  | .error _ => .ended

namespace Admission

inductive Event where
  /-- The coordinator handles a packet from another channel, up to releasing its lock. -/
  | handle (update : CellUpdate)
  /-- The handler of pending packet `i` relays it to the members that the group has. -/
  | relay (i : Nat)
  /-- `handleJoinCell` for the peer. -/
  | joinCell (packet : JoinCellPacket)
  /-- `CellAcceptor::handle_input` adds the peer to the group. -/
  | add
  /-- The peer reads the tree from the reply and releases its lock. -/
  | load
  /-- The peer handles the next packet. -/
  | deliver

/-- The follower that the peer is with a tree.  Its cell is the one that the coordinator
named in the answer to its request. -/
def asFollower (this : Admission) (cellTree : CellTree) : Replica where
  cell :=
    { pid := this.pid
      cellID := this.coordinator.cell.cellID
      cellTree
      parentChannel := none }
  sensors := fun _ => []

/-- `new CellTree(is)`, at addresses of the peer's own heap. -/
def loaded (this : Admission) (state : List UInt8) : Result Replica :=
  (CellTree.deserialize 1 { data := state, goodBit := true }).map fun read =>
    this.asFollower read.1

/-- An event that cannot happen yet changes nothing; a fault of the coordinator ends
the run. -/
def step (config : P3Configuration) (this : Admission) : Event → Result Admission
  | .handle update => do
      let handled ← this.coordinator.handle config update
      pure { this with
        coordinator := handled.1
        backlog := this.backlog.push (update.uuid, handled.2) }
  | .relay i =>
      match this.backlog.pending[i]? with
      | none => pure this
      | some (number, uuid, relay) =>
          if this.member = true ∧ this.pid.sameKey uuid = false then
            pure { this with
              backlog := this.backlog.remove i
              channel := this.channel ++ [relay]
              relayed := this.relayed ++ [number] }
          else
            pure { this with backlog := this.backlog.remove i }
  | .joinCell packet =>
      if this.snapshot.isNone = true ∧ packet.header.srcPID = this.pid then
        let handled := this.coordinator.cell.handleJoinCell packet
        let joined := { this with coordinator := this.coordinator.setTree handled.tree }
        if handled.accepted then do
          let state ← handled.tree.serialize
          pure { joined with snapshot := some { position := this.backlog.count, state } }
        else
          pure joined
      else
        pure this
  | .add => pure (if this.snapshot.isSome then { this with member := true } else this)
  | .load =>
      match this.newcomer, this.snapshot with
      | .opening, some snapshot =>
          pure { this with newcomer := .ofResult (this.loaded snapshot.state) }
      | _, _ => pure this
  | .deliver =>
      match this.newcomer, this.channel with
      | .running follower, relay :: rest =>
          pure { this with newcomer := .ofResult (follower.follow config relay), channel := rest }
      | _, _ => pure this

def run (config : P3Configuration) (this : Admission) (events : List Event) : Result Admission :=
  events.foldlM (step config) this

/-- Nothing has been handled, and the peer is about to send its JOIN_CELL. -/
structure Starts (this : Admission) : Prop where
  inv : RepInv this.coordinator.cell.cellTree
  newcomer : this.newcomer = .opening
  backlog : this.backlog = .empty
  snapshot : this.snapshot = none
  member : this.member = false
  channel : this.channel = []
  relayed : this.relayed = []

/-- What may happen next so that the peer catches up. -/
def Orderly (config : P3Configuration) (this : Admission) : Event → Prop
  /- After the state was sent, packets are about other peers, and a follower makes the
  update of the coordinator. -/
  | .handle update => this.snapshot.isSome = true →
      update.uuid ≠ this.pid ∧ this.coordinator.Alike config update
  /- A packet that the state contains is relayed before the peer is in the group, any
  other one afterwards, in the order in which they were handled. -/
  | .relay i => ∀ snapshot number uuid relay, this.snapshot = some snapshot →
      this.backlog.pending[i]? = some (number, uuid, relay) →
        if number < snapshot.position then
          this.member = true → uuid = this.pid
        else
          this.member = true ∧
            ∀ earlier ∈ this.backlog.pending.take i, earlier.1 < snapshot.position
  | .joinCell packet =>
      (this.coordinator.cell.handleJoinCell packet).accepted = true →
        (this.coordinator.cell.handleJoinCell packet).tree.Transferable
  | .add => True
  | .load => True
  | .deliver => True

/-- Every event of a run is orderly when it happens. -/
def AllOrderly (config : P3Configuration) : Admission → List Event → Prop
  | _, [] => True
  | this, event :: events =>
      this.Orderly config event ∧
        ∀ after, this.step config event = .ok after → after.AllOrderly config events

end Admission

/-! ## One packet -/

namespace Replica

variable {config : P3Configuration} {this after coordinator follower : Replica}

/-- The trees of the two show the same catalogue. -/
def InStep (coordinator follower : Replica) : Prop :=
  catalogueView.InStep coordinator.cell follower.cell

/-- A sensor update leaves the tree alone wherever it is made. -/
theorem processUpdateInfo_sensor (this : Replica) {sensor : SensorInfoUpdate} {kind : SensorKind}
    (known : SensorKind.ofOperation sensor.operation = some kind) :
    ∃ after, this.processUpdateInfo (.sensor sensor) = .ok after ∧ after.cell = this.cell := by
  unfold processUpdateInfo CellData.processUpdateInfo
  simp only [known]
  split
  · exact ⟨_, rfl, rfl⟩
  · exact ⟨_, rfl, rfl⟩

/-- What an update that is made does to the cell. -/
theorem processUpdateInfo_cases {info : InfoUpdate} (done : this.processUpdateInfo info = .ok after) :
    (∃ update tree, info = .mesh update ∧ this.cell.cellTree.processUpdateInfo update = .ok tree ∧
      after = this.setTree tree) ∨
    (∃ sensor kind, info = .sensor sensor ∧ SensorKind.ofOperation sensor.operation = some kind ∧
      after.cell = this.cell) := by
  cases info with
  | mesh update =>
      rcases Result.map_eq_ok.mp done with ⟨data, processed, rfl⟩
      rcases Result.map_eq_ok.mp processed with ⟨tree, made, rfl⟩
      exact Or.inl ⟨update, tree, rfl, made, rfl⟩
  | sensor sensor =>
      cases known : SensorKind.ofOperation sensor.operation with
      | none =>
          unfold processUpdateInfo CellData.processUpdateInfo at done
          simp only [known] at done
          cases done
      | some kind =>
          rcases this.processUpdateInfo_sensor known with ⟨made, here, kept⟩
          cases here.symm.trans done
          exact Or.inr ⟨sensor, kind, rfl, known, kept⟩

/-- The coordinator keeps its place and its invariant. -/
theorem handle_frame (inv : RepInv this.cell.cellTree) {update : CellUpdate} {relay : Relay}
    (done : this.handle config update = .ok (after, relay)) :
    after.cell.cellID = this.cell.cellID ∧ RepInv after.cell.cellTree := by
  cases update with
  | mesh packet =>
      rcases Result.map_eq_ok.mp done with ⟨reaction, reacts, equal⟩
      cases equal
      exact ⟨rfl, Cell.repInv_react inv reacts⟩
  | info srcPID info =>
      rcases Result.map_eq_ok.mp done with ⟨processed, made, equal⟩
      cases equal
      rcases processUpdateInfo_cases made with ⟨update, tree, -, updated, rfl⟩ | ⟨-, -, -, -, kept⟩
      · exact ⟨rfl, inv.processUpdateInfo updated⟩
      · rw [kept]
        exact ⟨rfl, inv⟩

/-- A follower in step makes the update of its coordinator. -/
theorem InStep.follow (inStep : InStep coordinator follower)
    (inv : RepInv coordinator.cell.cellTree) {update : CellUpdate} {relay : Relay}
    (alike : coordinator.Alike config update)
    (done : coordinator.handle config update = .ok (after, relay)) :
    ∃ next, follower.follow config relay = .ok next ∧ InStep after next := by
  cases update with
  | mesh packet =>
      rcases Result.map_eq_ok.mp done with ⟨reaction, reacts, equal⟩
      cases equal
      rcases CellView.InStep.follow inStep inv alike reacts with ⟨tree, followed, invTree, shown⟩
      refine ⟨follower.setTree tree, ?_, inStep.cellID, invTree, shown⟩
      rw [Replica.follow, followed]
      rfl
  | info srcPID info =>
      rcases Result.map_eq_ok.mp done with ⟨processed, made, equal⟩
      cases equal
      rcases processUpdateInfo_cases made with
        ⟨update, tree, rfl, updated, rfl⟩ | ⟨sensor, kind, rfl, known, kept⟩
      · rcases CellTree.processUpdateInfo_of_catalogue inStep.shown updated with
          ⟨copy, followed, shown⟩
        refine ⟨follower.setTree copy, ?_, inStep.cellID, ?_, shown⟩
        · simp only [Replica.follow, processUpdateInfo, CellData.processUpdateInfo, followed,
            Except.map]
          rfl
        · exact inStep.inv.processUpdateInfo followed
      · rcases follower.processUpdateInfo_sensor known with ⟨next, followed, keptHere⟩
        refine ⟨next, followed, ?_⟩
        rw [InStep, kept, keptHere]
        exact inStep

end Replica

/-! ## One step -/

namespace Admission

variable {config : P3Configuration} {this after : Admission} {snapshot : Snapshot}

/-- The peer is the follower, or will be when it has loaded the state. -/
def BecomesFollower (this : Admission) (snapshot : Snapshot) (follower : Replica) : Prop :=
  match this.newcomer with
  | .opening => this.loaded snapshot.state = .ok follower
  | .running current => current = follower
  | .ended => False

/-- The pending packets that the state does not contain. -/
def owed (this : Admission) (snapshot : Snapshot) : List (Nat × UUID × Relay) :=
  this.backlog.since snapshot.position

/-- The peer catches up with the coordinator by what is under way and what is owed. -/
structure Following (config : P3Configuration) (this : Admission) (snapshot : Snapshot) : Prop where
  reached : snapshot.position ≤ this.backlog.count
  numbers : this.relayed ++ (this.owed snapshot).map Prod.fst =
    List.range' snapshot.position (this.backlog.count - snapshot.position)
  others : ∀ entry ∈ this.owed snapshot, entry.2.1 ≠ this.pid
  follows : ∃ follower, this.BecomesFollower snapshot follower ∧
    CatchesUp (Replica.follow config) Replica.InStep this.coordinator follower
      (this.channel ++ (this.owed snapshot).map fun entry => entry.2.2)

/-- What every orderly run keeps. -/
structure Sound (config : P3Configuration) (this : Admission) : Prop where
  inv : RepInv this.coordinator.cell.cellTree
  early : this.snapshot = none → this.newcomer = .opening ∧ this.member = false ∧
    this.channel = [] ∧ this.relayed = []
  late : ∀ snapshot, this.snapshot = some snapshot → this.Following config snapshot

theorem Following.handle (following : this.Following config snapshot)
    (inv : RepInv this.coordinator.cell.cellTree) {update : CellUpdate}
    (other : update.uuid ≠ this.pid) (alike : this.coordinator.Alike config update)
    {coordinator : Replica} {relay : Relay}
    (done : this.coordinator.handle config update = .ok (coordinator, relay)) :
    Following config
      { this with coordinator, backlog := this.backlog.push (update.uuid, relay) } snapshot := by
  have owed := Backlog.since_push following.reached (update.uuid, relay)
  constructor
  · exact Nat.le_succ_of_le following.reached
  · have grown : this.backlog.count + 1 - snapshot.position =
        this.backlog.count - snapshot.position + 1 := Nat.succ_sub following.reached
    have last : snapshot.position + (this.backlog.count - snapshot.position) = this.backlog.count :=
      Nat.add_sub_cancel' following.reached
    simp only [Admission.owed, owed, List.map_append, ← List.append_assoc]
    rw [← Admission.owed, following.numbers]
    change _ = List.range' snapshot.position (this.backlog.count + 1 - snapshot.position)
    rw [grown, List.range'_1_concat, last]
    rfl
  · intro entry member
    simp only [Admission.owed, owed] at member
    rcases List.mem_append.mp member with before | isLast
    · exact following.others entry before
    · rw [List.mem_singleton.mp isLast]
      exact other
  · rcases following.follows with ⟨follower, becomes, catchesUp⟩
    have place := (Replica.handle_frame inv done).1
    refine ⟨follower, ?_, ?_⟩
    · simp only [BecomesFollower, loaded, asFollower, place] at becomes ⊢
      exact becomes
    · simp only [Admission.owed, owed, List.map_append, ← List.append_assoc]
      apply catchesUp.concat
      intro state inStep
      exact inStep.follow inv alike done

/-- A packet that the state contains is relayed to the other members. -/
theorem Following.relay_contained (following : this.Following config snapshot) {i : Nat}
    {entry : Nat × UUID × Relay} (there : this.backlog.pending[i]? = some entry)
    (contained : entry.1 < snapshot.position) :
    Following config { this with backlog := this.backlog.remove i } snapshot := by
  have owed : (this.backlog.remove i).since snapshot.position = this.owed snapshot :=
    Backlog.since_remove_of_lt there contained
  constructor
  · exact following.reached
  · rw [Admission.owed, owed]
    exact following.numbers
  · rw [Admission.owed, owed]
    exact following.others
  · rw [Admission.owed, owed]
    exact following.follows

/-- The next packet that the peer is owed is relayed to it. -/
theorem Following.relay_owed (following : this.Following config snapshot) {i : Nat}
    {number : Nat} {uuid : UUID} {relay : Relay}
    (there : this.backlog.pending[i]? = some (number, uuid, relay))
    (owed : snapshot.position ≤ number)
    (first : ∀ earlier ∈ this.backlog.pending.take i, earlier.1 < snapshot.position) :
    uuid ≠ this.pid ∧ Following config
      { this with
        backlog := this.backlog.remove i
        channel := this.channel ++ [relay]
        relayed := this.relayed ++ [number] } snapshot := by
  have split : this.owed snapshot =
      (number, uuid, relay) :: (this.backlog.remove i).since snapshot.position :=
    Backlog.since_eq_cons there owed first
  have others := following.others
  have numbers := following.numbers
  have follows := following.follows
  rw [split] at others numbers follows
  constructor
  · exact others _ List.mem_cons_self
  · constructor
    · exact following.reached
    · exact (List.append_assoc _ _ _).trans numbers
    · intro entry member
      exact others entry (List.mem_cons_of_mem _ member)
    · rcases follows with ⟨follower, becomes, catchesUp⟩
      refine ⟨follower, becomes, ?_⟩
      rw [List.append_assoc]
      exact catchesUp

/-- The peer reads the tree that was written. -/
theorem loaded_octets (this : Admission) {tree : CellTree} (transferable : tree.Transferable) :
    this.loaded tree.octets = .ok (this.asFollower (tree.relocated 1)) := by
  have read := CellTree.reads_tree transferable 1 [] true
  rw [List.append_nil] at read
  rw [loaded, read]
  rfl

/-- The state that is sent is the tree of the coordinator. -/
theorem following_joinCell {tree : CellTree} (inv : RepInv tree) (transferable : tree.Transferable)
    (newcomer : this.newcomer = .opening) (channel : this.channel = [])
    (relayed : this.relayed = []) :
    Following config
      { this with
        coordinator := this.coordinator.setTree tree
        snapshot := some { position := this.backlog.count, state := tree.octets } }
      { position := this.backlog.count, state := tree.octets } := by
  have owed := this.backlog.since_count
  constructor
  · exact Nat.le_refl _
  · simp only [Admission.owed, owed, relayed, Nat.sub_self]
    rfl
  · intro entry member
    rw [Admission.owed, owed] at member
    cases member
  · refine ⟨this.asFollower (tree.relocated 1), ?_, ?_⟩
    · simp only [BecomesFollower, newcomer]
      exact this.loaded_octets transferable
    · simp only [Admission.owed, owed, channel, List.map_nil, List.append_nil]
      exact CatchesUp.nil_iff.mpr
        ⟨rfl, inv.relocated 1, CellView.tree_of_same (tree.sameUpToPointers_relocated 1)⟩

/-- A state that has not been sent binds no one. -/
theorem Sound.of_early (inv : RepInv this.coordinator.cell.cellTree) (unsent : this.snapshot = none)
    (early : this.newcomer = .opening ∧ this.member = false ∧ this.channel = [] ∧
      this.relayed = []) : this.Sound config where
  inv := inv
  early := fun _ => early
  late := by
    intro snapshot sent
    cases unsent.symm.trans sent

theorem Sound.of_late (inv : RepInv this.coordinator.cell.cellTree)
    (sent : this.snapshot = some snapshot) (following : this.Following config snapshot) :
    this.Sound config where
  inv := inv
  early := by
    intro unsent
    cases unsent.symm.trans sent
  late := by
    intro other isOther
    cases sent.symm.trans isOther
    exact following

theorem Sound.handle (sound : this.Sound config) {update : CellUpdate}
    (orderly : this.Orderly config (.handle update))
    (done : this.step config (.handle update) = .ok after) : after.Sound config := by
  rcases Result.bind_eq_ok.mp done with ⟨⟨coordinator, relay⟩, handled, rest⟩
  cases rest
  have inv := (Replica.handle_frame sound.inv handled).2
  rcases Option.eq_none_or_eq_some this.snapshot with unsent | ⟨snapshot, sent⟩
  · exact Sound.of_early inv unsent (sound.early unsent)
  · rcases orderly (Option.isSome_iff_exists.mpr ⟨snapshot, sent⟩) with ⟨other, alike⟩
    exact Sound.of_late inv sent ((sound.late snapshot sent).handle sound.inv other alike handled)

theorem Sound.relay (sound : this.Sound config) {i : Nat}
    (orderly : this.Orderly config (.relay i))
    (done : this.step config (.relay i) = .ok after) : after.Sound config := by
  unfold step at done
  dsimp only at done
  cases there : this.backlog.pending[i]? with
  | none =>
      rw [there] at done
      cases done
      exact sound
  | some entry =>
      rcases entry with ⟨number, uuid, relay⟩
      rw [there] at done
      dsimp only at done
      cases sent : this.snapshot with
      | none =>
          have early := sound.early sent
          have outside : ¬(this.member = true ∧ this.pid.sameKey uuid = false) := by
            rw [early.2.1]
            simp
          rw [if_neg outside] at done
          cases done
          exact Sound.of_early sound.inv sent early
      | some snapshot =>
          have following := sound.late snapshot sent
          have allowed := orderly snapshot number uuid relay sent there
          by_cases contained : number < snapshot.position
          · rw [if_pos contained] at allowed
            have left_out : ¬(this.member = true ∧ this.pid.sameKey uuid = false) := by
              rintro ⟨inside, other⟩
              rw [allowed inside, Bool.eq_false_iff] at other
              exact other (UUID.sameKey_iff.mpr rfl)
            rw [if_neg left_out] at done
            cases done
            exact Sound.of_late sound.inv sent (following.relay_contained there contained)
          · rw [if_neg contained] at allowed
            rcases allowed with ⟨inside, first⟩
            rcases following.relay_owed there (Nat.not_lt.mp contained) first with ⟨other, owed⟩
            have told : this.member = true ∧ this.pid.sameKey uuid = false := by
              rw [Bool.eq_false_iff, ne_eq, UUID.sameKey_iff]
              exact ⟨inside, fun own => other own.symm⟩
            rw [if_pos told] at done
            cases done
            exact Sound.of_late sound.inv sent owed

theorem Sound.joinCell (sound : this.Sound config) {packet : JoinCellPacket}
    (orderly : this.Orderly config (.joinCell packet))
    (done : this.step config (.joinCell packet) = .ok after) : after.Sound config := by
  unfold step at done
  dsimp only at done
  split at done
  · rename_i enabled
    have unsent := Option.isNone_iff_eq_none.mp enabled.1
    have early := sound.early unsent
    have inv := sound.inv.handleJoinCell packet
    cases accepted : (this.coordinator.cell.handleJoinCell packet).accepted with
    | false =>
        rw [accepted] at done
        cases done
        exact Sound.of_early inv unsent early
    | true =>
        rw [accepted] at done
        rcases Result.bind_eq_ok.mp done with ⟨state, written, made⟩
        rw [CellTree.octets_of_serialize written] at made
        cases made
        exact Sound.of_late inv rfl
          (following_joinCell inv (orderly accepted) early.1 early.2.2.1 early.2.2.2)
  · cases done
    exact sound

theorem Sound.add (sound : this.Sound config) (done : this.step config .add = .ok after) :
    after.Sound config := by
  unfold step at done
  cases done
  cases sent : this.snapshot with
  | none => exact sound
  | some snapshot =>
      have following := sound.late snapshot sent
      exact Sound.of_late sound.inv rfl
        ⟨following.reached, following.numbers, following.others, following.follows⟩

theorem Sound.load (sound : this.Sound config) (done : this.step config .load = .ok after) :
    after.Sound config := by
  unfold step at done
  dsimp only at done
  split at done
  · rename_i snapshot opening sent
    cases done
    have following := sound.late snapshot sent
    rcases following.follows with ⟨follower, becomes, catchesUp⟩
    simp only [BecomesFollower, opening] at becomes
    refine Sound.of_late sound.inv sent
      ⟨following.reached, following.numbers, following.others, follower, ?_, catchesUp⟩
    rw [becomes]
    rfl
  · cases done
    exact sound

theorem Sound.deliver (sound : this.Sound config) (done : this.step config .deliver = .ok after) :
    after.Sound config := by
  unfold step at done
  dsimp only at done
  split at done
  · rename_i current relay rest runs head
    cases done
    cases sent : this.snapshot with
    | none =>
        rw [(sound.early sent).1] at runs
        cases runs
    | some snapshot =>
        have following := sound.late snapshot sent
        rcases following.follows with ⟨follower, becomes, catchesUp⟩
        simp only [BecomesFollower, runs] at becomes
        subst becomes
        rw [head, List.cons_append] at catchesUp
        rcases catchesUp.uncons with ⟨next, followed, catchesUpNext⟩
        refine Sound.of_late sound.inv rfl
          ⟨following.reached, following.numbers, following.others, next, ?_, catchesUpNext⟩
        rw [followed]
        rfl
  · cases done
    exact sound

theorem Sound.step (sound : this.Sound config) {event : Event} (orderly : this.Orderly config event)
    (done : this.step config event = .ok after) : after.Sound config := by
  cases event with
  | handle update => exact sound.handle orderly done
  | relay i => exact sound.relay orderly done
  | joinCell packet => exact sound.joinCell orderly done
  | add => exact sound.add done
  | load => exact sound.load done
  | deliver => exact sound.deliver done

/-! ## A run -/

theorem Starts.sound (starts : this.Starts) : this.Sound config :=
  Sound.of_early starts.inv starts.snapshot
    ⟨starts.newcomer, starts.member, starts.channel, starts.relayed⟩

theorem Sound.run (sound : this.Sound config) {events : List Event}
    (orderly : this.AllOrderly config events) (done : this.run config events = .ok after) :
    after.Sound config := by
  induction events generalizing this with
  | nil =>
      cases done
      exact sound
  | cons event events inductionHypothesis =>
      rcases Result.bind_eq_ok.mp done with ⟨next, here, rest⟩
      exact inductionHypothesis (sound.step orderly.1 here) (orderly.2 next here) rest

section Window

theorem AllOrderly.cons {this next : Admission} {event : Event} {events : List Event}
    (orderly : this.Orderly config event) (done : this.step config event = .ok next)
    (rest : next.AllOrderly config events) : this.AllOrderly config (event :: events) := by
  constructor
  · exact orderly
  · intro after other
    cases done.symm.trans other
    exact rest

end Window

end Admission

end Stheno.Superpeer
