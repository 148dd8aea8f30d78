import Stheno.Superpeer.Uplink

/-!
# A mesh that forms

Peers ask for a place on the multicast group, open a cell with the first reply that they
hear there, whoever it is for, and join the coordinator that it names.  A peer whose reply
names no coordinator becomes the coordinator of its cell before anybody has heard of it:
the tree that the reply was taken from learns of it with its join.
-/

namespace Stheno.Superpeer

open Stheno.Tree Peer

/-- The search of a peer for a cell. -/
inductive Search where
  /-- `requestCell` has not returned; these are the replies that the peer has heard. -/
  | waiting (heard : List CellReply)
  /-- `requestCell` has returned, and no cell is open yet. -/
  | returned (info : Option CellReply)
  deriving DecidableEq

namespace Search

/-- The replies that a cell may be opened with. -/
def replies : Search → List CellReply
  | waiting heard => heard
  | returned info => info.toList

/-- Another reply on the multicast group. -/
def hear (this : Search) (reply : CellReply) : Search :=
  match this with
  | waiting heard => waiting (heard ++ [reply])
  | returned info => returned info

def isWaiting : Search → Bool
  | waiting _ => true
  | returned _ => false

/-- `requestCell` returns a reply that was heard, or none. -/
def finish (this : Search) (info : Option CellReply) : Search :=
  match this with
  | waiting heard => if ∀ reply ∈ info, reply ∈ heard then returned info else waiting heard
  | returned info => returned info

theorem mem_replies_hear {this : Search} {reply other : CellReply} :
    other ∈ (this.hear reply).replies ↔
      other ∈ this.replies ∨ this.isWaiting = true ∧ other = reply := by
  cases this with
  | waiting heard => simp [hear, replies, isWaiting]
  | returned info => simp [hear, replies, isWaiting]

theorem mem_replies_of_finish {this : Search} {info : Option CellReply} {reply : CellReply}
    (member : reply ∈ (this.finish info).replies) : reply ∈ this.replies := by
  cases this with
  | waiting heard =>
      simp only [finish] at member
      split at member
      · rename_i allHeard
        exact allHeard reply (Option.mem_toList.mp member)
      · exact member
  | returned info => exact member

end Search

/-- The runtimes of a mesh. -/
structure Assembly where
  /-- The peers that look for a cell. -/
  search : UUID → Option Search
  /-- The peers that have opened their cell. -/
  site : UUID → Option Uplink
  /-- The coordinators that have to join a parent. -/
  pending : UUID → Option (Opening × ParentPeer)
  /-- The packets on the channel of a coordinator to its parent. -/
  link : UUID → List JoinMeshPacket
  /-- The cells that were created for a reply. -/
  made : List CellID
  /-- The number of identifiers that were generated. -/
  next : Nat

namespace Uplink

/-- The part of the state that the packet handlers use. -/
def toCell (this : Uplink) : Cell where
  pid := this.pid
  cellID := this.cellID
  cellTree := this.cellTree
  parentChannel := this.parentChannel.map ParentPeer.toParentChannel

/-- The cell that is created for a request, if any. -/
def created (this : Uplink) (generated : CellID) (srcFID : Option CellID) : Option CellID :=
  if srcFID = none ∧ this.cellTree.getAvailableNode P3PeerInfo.SUPERPEER = none then some generated
  else none

/-- The JOIN_MESH of a coordinator. -/
def joinMeshPacket (this : Uplink) (opening : Opening) : JoinMeshPacket where
  header := this.toCell.header
  type := P3PeerInfo.SUPERPEER_COORD
  uuid := this.pid
  cellID := this.cellID
  parentCellID := this.parentCellID
  endpoint := opening.endpoint
  discoverySAP := opening.discoverySAP
  meshSAP := opening.meshSAP
  ftSAP := opening.ftSAP

end Uplink

/-- The JOIN_CELL of a follower. -/
def Opening.joinCellPacket (this : Opening) (cellID : CellID) : JoinCellPacket where
  header := { srcPID := this.pid, srcFID := cellID }
  endpoint := this.endpoint
  discoverySAP := this.discoverySAP
  meshSAP := this.meshSAP
  ftSAP := this.ftSAP

namespace Assembly

def empty : Assembly where
  search _ := none
  site _ := none
  pending _ := none
  link _ := []
  made := []
  next := 0

def setSearch (this : Assembly) (p : UUID) (search : Option Search) : Assembly :=
  { this with search := Function.update this.search p search }

def setSite (this : Assembly) (p : UUID) (site : Option Uplink) : Assembly :=
  { this with site := Function.update this.site p site }

def setPending (this : Assembly) (p : UUID) (pending : Option (Opening × ParentPeer)) : Assembly :=
  { this with pending := Function.update this.pending p pending }

def setLink (this : Assembly) (p : UUID) (packets : List JoinMeshPacket) : Assembly :=
  { this with link := Function.update this.link p packets }

/-- A coordinator has handled a packet. -/
def handled (this : Assembly) (r : UUID) (tree : CellTree) (toParent : Option JoinMeshPacket) :
    Assembly :=
  { this with
    site := Function.update this.site r ((this.site r).map fun u => { u with cellTree := tree })
    link := Function.update this.link r (this.link r ++ toParent.toList) }

/-- A cell was created, if `created` is one. -/
def draw (this : Assembly) (created : Option CellID) : Assembly :=
  { this with
    made := this.made ++ created.toList
    next := if created.isSome then this.next + 1 else this.next }

/-- A reply on the multicast group: those of the waiting peers hear it that it reaches. -/
def hear (this : Assembly) (hearers : List UUID) (reply : CellReply) : Assembly :=
  { this with
    search := fun p =>
      if p ∈ hearers then (this.search p).map fun search => search.hear reply
      else this.search p }

/-- A peer without a cell opens one with what `requestCell` has returned; without a reply
it does so under the next identifier. -/
def mayOpen (generate : Nat → CellID) (this : Assembly) (opening : Opening) : Bool :=
  (this.site opening.pid).isNone && opening.endpoint.isSome &&
    this.search opening.pid = some (.returned opening.info) &&
      (opening.info.isSome || opening.generated = generate this.next)

inductive Event where
  /-- A peer without a cell calls `requestCell`. -/
  | ask (p : UUID)
  /-- A coordinator handles a REQUEST_CELL; the reply reaches some peers. -/
  | request (r : UUID) (srcFID : Option CellID) (hearers : List UUID)
  /-- `requestCell` returns. -/
  | finish (p : UUID) (info : Option CellReply)
  /-- A peer opens a cell without a coordinator. -/
  | lead (opening : Opening)
  /-- The JOIN_MESH exchange of a coordinator. -/
  | joinMesh (p : UUID) (reached answered : Bool)
  /-- A peer opens a cell with a coordinator, which is not noticed before the
  coordinator has handled its JOIN_CELL. -/
  | follow (opening : Opening) (answered listening : Bool) (base : Addr)
  /-- The parent of a coordinator handles the next packet from it. -/
  | deliver (p : UUID)

/-- An event that cannot happen changes nothing. -/
def step (config : P3Configuration) (generate : Nat → CellID) (this : Assembly) :
    Event → Result Assembly
  | .ask p =>
      if (this.site p).isNone ∧ (this.search p).isNone then
        .ok (this.setSearch p (some (.waiting [])))
      else
        .ok this
  | .request r srcFID hearers =>
      match this.site r with
      | none => .ok this
      | some u =>
          if u.coordinator then do
            let answer ← u.toCell.handleCellRequest config (generate this.next) srcFID
            let drawn := this.draw (u.created (generate this.next) srcFID)
            pure ((drawn.handled r answer.tree none).hear hearers answer.reply)
          else
            .ok this
  | .finish p info =>
      .ok (this.setSearch p ((this.search p).map fun search => search.finish info))
  | .lead opening =>
      if this.mayOpen generate opening then
        let opened := this.setSearch opening.pid none
        match opening.info with
        | none =>
            let u := opening.coordinating config opening.generated none
            .ok { opened.setSite opening.pid (some u) with next := this.next + 1 }
        | some info =>
            if info.hasCoordinator then
              .ok this
            else
              let u := opening.coordinating config info.cell (info.parent.map Prod.fst)
              .ok ((opened.setSite opening.pid (some u)).setPending opening.pid
                (info.parentPeer.map fun parent => (opening, parent)))
      else
        .ok this
  | .joinMesh p reached answered =>
      match this.pending p, this.site p with
      | some (opening, parent), some u =>
          match if reached then this.site parent.uuid else none with
          | none => .ok ((this.setPending p none).setSite p none)
          | some r => do
              let handled ← r.toCell.handleJoinMesh config (u.joinMeshPacket opening)
              let contact := if handled.accepted ∧ answered then Contact.accepted else .refused
              let joined := (this.setPending p none).handled parent.uuid handled.tree handled.toParent
              pure (joined.setSite p ((joined.site p).bind fun u =>
                Opening.connectToParentCoordinator u parent contact))
      | _, _ => .ok this
  | .follow opening answered listening base =>
      if this.mayOpen generate opening then
        let opened := this.setSearch opening.pid none
        match opening.info with
        | some info =>
            match info.coordinator with
            | some ⟨coordinator, some _⟩ =>
                match this.site coordinator with
                | none => .ok opened
                | some r =>
                    let handled := r.toCell.handleJoinCell (opening.joinCellPacket info.cell)
                    let answer :=
                      if handled.accepted ∧ answered then
                        some (handled.tree.relocated base, listening)
                      else
                        none
                    let joined := opened.handled coordinator handled.tree handled.toParent
                    .ok (joined.setSite opening.pid
                      ({ opening with answer }.joinNonCoordinator info coordinator))
            | _ => .ok this
        | none => .ok this
      else
        .ok this
  | .deliver p =>
      match (this.site p).bind Uplink.parentChannel, this.link p with
      | some parent, packet :: rest =>
          match this.site parent.uuid with
          | none => .ok (this.setLink p rest)
          | some r => do
              let handled ← r.toCell.handleJoinMesh config packet
              pure ((this.setLink p rest).handled parent.uuid handled.tree handled.toParent)
      | _, _ => .ok this

def run (config : P3Configuration) (generate : Nat → CellID) (this : Assembly) :
    List Event → Result Assembly
  | [] => .ok this
  | event :: rest => do
      let after ← this.step config generate event
      after.run config generate rest

/-! ## One coordinator a cell -/

/-- No cell has two coordinators. -/
def OneCoordinator (this : Assembly) : Prop :=
  ∀ p q u v, this.site p = some u → this.site q = some v →
    u.coordinator = true → v.coordinator = true → u.cellID = v.cellID → p = q

/-- A peer leads a cell, or has heard that nobody does and may open it with that. -/
def Told (this : Assembly) (p : UUID) (cell : CellID) : Prop :=
  (∃ u, this.site p = some u ∧ u.coordinator = true ∧ u.cellID = cell) ∨
    ∃ search reply, this.search p = some search ∧ reply ∈ search.replies ∧
      reply.hasCoordinator = false ∧ reply.cell = cell

/-- At most one peer is told that a cell has no coordinator. -/
def OneTold (this : Assembly) : Prop :=
  ∀ cell p q, this.Told p cell → this.Told q cell → p = q

/-- A peer waits for a reply, and one that reaches `hearers` reaches it. -/
def Hears (this : Assembly) (hearers : List UUID) (p : UUID) : Prop :=
  p ∈ hearers ∧ ∃ search, this.search p = some search ∧ search.isWaiting = true

/-- The reply to a peer without a cell reaches one peer at most, if the cell is created for
it; if there is a cell with room and without a superpeer, nobody else has been offered it
or leads it either. -/
def Fits (this : Assembly) : Event → Prop
  | .request r none hearers => ∀ u, this.site r = some u → u.coordinator = true →
      (u.cellTree.getAvailableNode P3PeerInfo.SUPERPEER = none →
        ∀ p q, this.Hears hearers p → this.Hears hearers q → p = q) ∧
      ∀ path node, u.cellTree.getAvailableNode P3PeerInfo.SUPERPEER = some path →
        u.cellTree.rootNode.at? path = some node → node.label.sps = [] →
          ∀ p, this.Hears hearers p →
            ∀ q, this.Hears hearers q ∨ this.Told q node.label.cellID → q = p
  | _ => True

def AllFit (config : P3Configuration) (generate : Nat → CellID) (this : Assembly) :
    List Event → Prop
  | [] => True
  | event :: rest => ∀ after, this.step config generate event = .ok after →
      this.Fits event ∧ after.AllFit config generate rest

/-! ### What holds in any case -/

/-- A cell that nobody is in, with room for a superpeer, was created for a reply; and
every superpeer has an endpoint. -/
structure Good (made : List CellID) (info : CellInfo) : Prop where
  empty : info.sps = [] → info.isFull .sps = false → info.cellID ∈ made
  endpoints : ∀ peer ∈ info.sps, peer.cellEndpoint ≠ none

/-- What every step keeps: new identifiers are new, the cells that nobody leads were created,
and so were those below other cells. -/
structure Sound (generate : Nat → CellID) (this : Assembly) : Prop where
  drawn : ∀ cell ∈ this.made, ∃ i < this.next, cell = generate i
  sites : ∀ p u, this.site p = some u → u.coordinator = true →
    ∃ i < this.next, u.cellID = generate i
  offered : ∀ p search, this.search p = some search → ∀ reply ∈ search.replies,
    reply.hasCoordinator = false → reply.cell ∈ this.made
  trees : ∀ p u, this.site p = some u → u.coordinator = true →
    ∀ info ∈ u.cellTree.rootNode.labels, Good this.made info
  bound : ∀ p u, this.site p = some u → u.parentChannel ≠ none → u.cellID ∈ this.made
  joining : ∀ p opening parent, this.pending p = some (opening, parent) →
    opening.endpoint ≠ none ∧ ∃ u, this.site p = some u ∧ u.cellID ∈ this.made
  packets : ∀ p, ∀ packet ∈ this.link p, packet.endpoint ≠ none ∧ packet.cellID ∈ this.made

section

variable {config : P3Configuration} {made more : List CellID} {info after : CellInfo}
  {peer : P3PeerInfo}

theorem Good.mono (good : Good made info) (kept : ∀ cell ∈ made, cell ∈ more) : Good more info where
  empty := fun vacant room => kept _ (good.empty vacant room)
  endpoints := good.endpoints

theorem Good.of_made (member : info.cellID ∈ made) (vacant : info.sps = []) : Good made info where
  empty := fun _ _ => member
  endpoints := by
    rw [vacant]
    rintro peer ⟨⟩

theorem Good.add (good : Good made info) (reachable : peer.cellEndpoint ≠ none)
    (added : info.add peer = some after) : Good made after := by
  rcases CellInfo.add_eq_some_iff.mp added with ⟨list, -, -, -, rfl⟩
  cases list with
  | sps =>
      constructor
      · intro vacant
        exact absurd vacant (List.append_ne_nil_of_right_ne_nil _ (List.cons_ne_nil _ _))
      · intro other member
        rcases List.mem_append.mp member with inList | isPeer
        · exact good.endpoints other inList
        · rw [List.mem_singleton.mp isPeer]
          exact reachable
  | sensors => exact ⟨good.empty, good.endpoints⟩
  | monitors => exact ⟨good.empty, good.endpoints⟩

/-- The tree of a new coordinator has one node, which has the coordinator in it or no
room for a superpeer. -/
theorem good_ownTree {opening : Opening} (reachable : opening.endpoint ≠ none) (cellID : CellID) :
    ∀ info ∈ (opening.ownTree config cellID).rootNode.labels, Good made info := by
  let self := P3PeerInfo.announced P3PeerInfo.SUPERPEER_COORD opening.pid cellID opening.endpoint
    opening.meshSAP opening.discoverySAP opening.ftSAP
  let t := CellTree.new config cellID
  have known : t.getCellTreeNode self.fid = some [] := CellTree.getCellTreeNode_of_root
  have own : opening.ownTree config cellID = (t.addAt [] self).1 := by
    rw [Opening.ownTree, CellTree.addPeer]
    simp only [t, self] at known ⊢
    rw [known]
  have leaf : t.rootNode.labels = [t.rootNode.label] := CellTreeNode.labels_new _ _ _ _ _ _
  rw [own]
  rcases t.addAt_cases [] self with ⟨n, after, found, added, updated⟩ | ⟨refuses, refused⟩
  · rw [SlotTree.at?_nil, Option.some.injEq] at found
    subst found
    have joined : after.sps = [self] := by
      rcases CellInfo.add_eq_some_iff.mp added with ⟨list, ofType, -, -, rfl⟩
      cases ofType
      rfl
    rcases SlotTree.exists_labels_relabelAt (SlotTree.at?_nil t.rootNode) with
      ⟨before, behind, whole, relabelled⟩
    rw [leaf] at whole
    have only : before = [] ∧ behind = [] := by
      rcases List.append_eq_singleton_iff.mp whole.symm with ⟨empty, single⟩ | ⟨-, ⟨⟩⟩
      exact ⟨empty, (List.cons.inj single).2⟩
    have labels : (t.addAt [] self).1.rootNode.labels = [after] := by
      rw [updated]
      have relabelled := relabelled fun _ => after
      rw [only.1, only.2] at relabelled
      exact relabelled
    rw [labels]
    intro info member
    rw [List.mem_singleton.mp member]
    constructor
    · intro vacant
      cases joined.symm.trans vacant
    · intro peer inList
      rw [joined] at inList
      rw [List.mem_singleton.mp inList]
      exact reachable
  · rw [refused, leaf]
    intro info member
    rw [List.mem_singleton.mp member]
    constructor
    · intro _ room
      have accepted : ∃ after, t.rootNode.label.add self = some after :=
        ⟨_, CellInfo.add_eq_some_iff.mpr ⟨.sps, rfl, by rintro temp ⟨⟩, room, rfl⟩⟩
      rcases accepted with ⟨after, added⟩
      cases (refuses t.rootNode (SlotTree.at?_nil _)).symm.trans added
    · rintro peer ⟨⟩

/-! ### The answer to a request -/

theorem hasCoordinator_offerReply {tree : CellTree} {node : CellTreeNode} {reply : CellReply}
    (good : Good made node.label) (done : Cell.offerReply tree node = .ok reply) :
    reply.cell = node.label.cellID ∧ (reply.hasCoordinator = false ↔ node.label.sps = []) := by
  rcases Cell.offerReply_spec done with ⟨cell, coordinator⟩
  constructor
  · exact cell
  · rw [CellReply.hasCoordinator, coordinator, CellInfo.getCoordinator]
    cases list : node.label.sps with
    | nil => simp
    | cons c rest =>
        have reachable := good.endpoints c (by rw [list]; exact List.mem_cons_self)
        simp [NamedCoordinator.of, reachable]

theorem label_of_offerParent {t : CellTree} {fid : CellID} {node : CellTreeNode}
    (done : t.offerParent fid = .ok node) : node.label ∈ t.rootNode.labels := by
  have atPath : ∃ path, t.rootNode.at? path = some node := by
    unfold CellTree.offerParent at done
    simp only at done
    split at done
    · rename_i place found
      cases done
      split at found
      · rcases Option.bind_eq_some_iff.mp found with ⟨child, -, above⟩
        rcases Option.bind_eq_some_iff.mp above with ⟨path, -, atPath⟩
        exact ⟨path, atPath⟩
      · rcases Option.bind_eq_some_iff.mp found with ⟨place, -, atPath⟩
        exact ⟨place.1, atPath⟩
    · cases done
  rcases atPath with ⟨path, found⟩
  exact SlotTree.mem_labels_iff.mpr ⟨node, SlotTree.mem_nodes_of_at? found, rfl⟩

/-- A cell that asks for a parent is told of one with a coordinator. -/
theorem hasCoordinator_of_cell {u : Uplink} {generated fid : CellID} {answer : CellAnswer}
    (good : ∀ info ∈ u.cellTree.rootNode.labels, Good made info)
    (done : u.toCell.handleCellRequest config generated (some fid) = .ok answer) :
    answer.tree = u.cellTree ∧ answer.reply.hasCoordinator = true := by
  rcases Result.bind_eq_ok.mp done with ⟨node, offered, rest⟩
  rcases Result.bind_eq_ok.mp rest with ⟨coord, coordinates, built⟩
  cases built
  have first : node.label.sps.head? = some coord := by
    unfold CellTree.coordinatorOf at coordinates
    split at coordinates
    · rename_i found
      cases coordinates
      exact found
    · cases coordinates
  have reachable := (good _ (label_of_offerParent offered)).endpoints coord
    (List.mem_of_head? first)
  exact ⟨rfl, Option.isSome_iff_ne_none.mpr reachable⟩

theorem handleCellRequest_spec {u : Uplink} {generated : CellID} {srcFID : Option CellID}
    {answer : CellAnswer} (good : ∀ info ∈ u.cellTree.rootNode.labels, Good made info)
    (done : u.toCell.handleCellRequest config generated srcFID = .ok answer) :
    (∀ info ∈ answer.tree.rootNode.labels,
      Good (made ++ (u.created generated srcFID).toList) info) ∧
    (answer.reply.hasCoordinator = false →
      answer.reply.cell ∈ made ++ (u.created generated srcFID).toList) := by
  have kept : ∀ info ∈ u.cellTree.rootNode.labels,
      Good (made ++ (u.created generated srcFID).toList) info :=
    fun info member => (good info member).mono fun _ => List.mem_append_left _
  cases srcFID with
  | none =>
      rcases Result.bind_eq_ok.mp done with ⟨⟨tree, node⟩, offered, rest⟩
      rcases Result.bind_eq_ok.mp rest with ⟨reply, replied, built⟩
      cases built
      rcases CellTree.offer_cases offered with
        ⟨path, available, found, room, same⟩ | ⟨available, cell, vacant, path, n, i, found, free, new⟩
      · have member : node.label ∈ u.cellTree.rootNode.labels :=
          SlotTree.mem_labels_iff.mpr ⟨node, SlotTree.mem_nodes_of_at? found, rfl⟩
        rcases hasCoordinator_offerReply (good _ member) replied with ⟨offers, leaderless⟩
        constructor
        · intro info inTree
          simp only at same inTree
          rw [same] at inTree
          exact kept info inTree
        · intro absent
          rw [offers]
          exact (kept _ member).empty (leaderless.mp absent) room
      · have isCreated : u.created generated none = some generated := if_pos ⟨rfl, available⟩
        rw [isCreated] at kept ⊢
        have last : generated ∈ made ++ (some generated).toList :=
          List.mem_append_right _ List.mem_cons_self
        constructor
        · simp only at new
          rw [new]
          apply CellTree.forall_labels_fillNew kept found free
          intro info named empty
          exact Good.of_made (named ▸ last) empty
        · intro _
          rw [(Cell.offerReply_spec replied).1]
          simp only at cell
          rw [cell]
          exact last
  | some fid =>
      rcases hasCoordinator_of_cell good done with ⟨tree, present⟩
      constructor
      · rw [tree]
        exact kept
      · intro absent
        cases present.symm.trans absent

/-! ### What a packet does to a tree -/

theorem good_handleJoinMesh {cell : Cell} {packet : JoinMeshPacket}
    {handled : Handled JoinMeshPacket JoinMeshPacket}
    (good : ∀ info ∈ cell.cellTree.rootNode.labels, Good made info)
    (reachable : packet.endpoint ≠ none) (member : packet.cellID ∈ made)
    (done : cell.handleJoinMesh config packet = .ok handled) :
    ∀ info ∈ handled.tree.rootNode.labels, Good made info := by
  rcases Result.bind_eq_ok.mp done with ⟨out, joined, built⟩
  cases built
  apply CellTree.forall_labels_join good ?_ ?_ joined
  · intro info after added before
    exact before.add reachable added
  · intro info named vacant
    exact Good.of_made (named ▸ member) vacant

/-- The packet that is relayed to the parent names the same peer. -/
theorem relayed_handleJoinMesh {cell : Cell} {packet : JoinMeshPacket}
    {handled : Handled JoinMeshPacket JoinMeshPacket}
    (done : cell.handleJoinMesh config packet = .ok handled) :
    ∀ relayed ∈ handled.toParent,
      relayed.endpoint = packet.endpoint ∧ relayed.cellID = packet.cellID := by
  rcases Result.bind_eq_ok.mp done with ⟨out, -, built⟩
  cases built
  intro relayed sent
  dsimp only at sent
  split at sent
  · rcases Option.map_eq_some_iff.mp sent with ⟨parent, -, rfl⟩
    exact ⟨rfl, rfl⟩
  · cases sent

theorem good_handleJoinCell {cell : Cell} {packet : JoinCellPacket}
    (good : ∀ info ∈ cell.cellTree.rootNode.labels, Good made info)
    (reachable : packet.endpoint ≠ none) :
    ∀ info ∈ (cell.handleJoinCell packet).tree.rootNode.labels, Good made info := by
  simp only [Cell.handleJoinCell]
  split
  · apply CellTree.forall_labels_addAt good
    intro info after added before
    exact before.add reachable added
  · exact good

/-! ### The parts of a step -/

variable {generate : Nat → CellID} {s next : Assembly}

/-- A state whose coordinators are among those of a sound one. -/
theorem Sound.of_kept (sound : Sound generate s) (search : next.search = s.search)
    (made : next.made = s.made) (count : next.next = s.next)
    (kept : ∀ p v, next.site p = some v → v.coordinator = true →
      ∃ u, s.site p = some u ∧ u.coordinator = true ∧ u.cellID = v.cellID)
    (trees : ∀ p u, next.site p = some u → u.coordinator = true →
      ∀ info ∈ u.cellTree.rootNode.labels, Good next.made info)
    (bound : ∀ p u, next.site p = some u → u.parentChannel ≠ none → u.cellID ∈ next.made)
    (joining : ∀ p opening parent, next.pending p = some (opening, parent) →
      opening.endpoint ≠ none ∧ ∃ u, next.site p = some u ∧ u.cellID ∈ next.made)
    (packets : ∀ p, ∀ packet ∈ next.link p, packet.endpoint ≠ none ∧ packet.cellID ∈ next.made) :
    Sound generate next where
  drawn := by
    rw [made, count]
    exact sound.drawn
  sites := by
    intro p v isSite leads
    rcases kept p v isSite leads with ⟨u, before, led, same⟩
    rw [← same, count]
    exact sound.sites p u before led
  offered := by
    rw [search, made]
    exact sound.offered
  trees := trees
  bound := bound
  joining := joining
  packets := packets

theorem site_handled (s : Assembly) (r p : UUID) (tree : CellTree)
    (toParent : Option JoinMeshPacket) :
    (s.handled r tree toParent).site p =
      (s.site p).map fun u => if p = r then { u with cellTree := tree } else u := by
  by_cases same : p = r
  · subst same
    simp [handled]
  · simp [handled, same]

/-- A handler that keeps its tree good and relays a packet that is. -/
theorem Sound.handled (sound : Sound generate s) {r : UUID} {tree : CellTree}
    {toParent : Option JoinMeshPacket}
    (good : ∀ u, s.site r = some u → u.coordinator = true →
      ∀ info ∈ tree.rootNode.labels, Good s.made info)
    (relays : ∀ packet ∈ toParent, packet.endpoint ≠ none ∧ packet.cellID ∈ s.made) :
    Sound generate (s.handled r tree toParent) := by
  have before : ∀ p v, (s.handled r tree toParent).site p = some v →
      ∃ u, s.site p = some u ∧ v = if p = r then { u with cellTree := tree } else u := by
    intro p v isSite
    rw [site_handled] at isSite
    rcases Option.map_eq_some_iff.mp isSite with ⟨u, isU, rfl⟩
    exact ⟨u, isU, rfl⟩
  have search : (s.handled r tree toParent).search = s.search := rfl
  apply sound.of_kept search rfl rfl
  · intro p v isSite leads
    rcases before p v isSite with ⟨u, isU, rfl⟩
    refine ⟨u, isU, ?_⟩
    split at leads
    · rw [if_pos ‹p = r›]
      exact ⟨leads, rfl⟩
    · rw [if_neg ‹¬p = r›]
      exact ⟨leads, rfl⟩
  · intro p v isSite leads
    rcases before p v isSite with ⟨u, isU, rfl⟩
    split at leads
    · rename_i same
      subst same
      rw [if_pos rfl]
      exact good u isU leads
    · rename_i other
      rw [if_neg other]
      exact sound.trees p u isU leads
  · intro p v isSite linked
    rcases before p v isSite with ⟨u, isU, rfl⟩
    split at linked
    · rw [if_pos ‹p = r›]
      exact sound.bound p u isU linked
    · rw [if_neg ‹¬p = r›]
      exact sound.bound p u isU linked
  · intro p opening parent pends
    rcases sound.joining p opening parent pends with ⟨reachable, u, isU, member⟩
    refine ⟨reachable, if p = r then { u with cellTree := tree } else u, ?_, ?_⟩
    · rw [site_handled, isU]
      rfl
    · split
      · exact member
      · exact member
  · intro p packet sent
    by_cases same : p = r
    · subst same
      have sent : packet ∈ s.link p ++ toParent.toList := by
        simpa [Assembly.handled] using sent
      rcases List.mem_append.mp sent with old | new
      · exact sound.packets p packet old
      · exact relays packet (Option.mem_toList.mp new)
    · have sent : packet ∈ s.link p := by
        simpa [Assembly.handled, Function.update_of_ne same] using sent
      exact sound.packets p packet sent

/-- A created cell has a new identifier. -/
theorem Sound.draw (sound : Sound generate s) {created : Option CellID}
    (new : ∀ cell ∈ created, cell = generate s.next) : Sound generate (s.draw created) := by
  have grows : ∀ cell ∈ s.made, cell ∈ (s.draw created).made :=
    fun cell => List.mem_append_left _
  have later : ∀ i, i < s.next → i < (s.draw created).next := by
    intro i earlier
    simp only [Assembly.draw]
    split
    · exact Nat.lt_succ_of_lt earlier
    · exact earlier
  constructor
  · intro cell member
    rcases List.mem_append.mp member with old | isNew
    · rcases sound.drawn cell old with ⟨i, earlier, rfl⟩
      exact ⟨i, later i earlier, rfl⟩
    · have isCreated := Option.mem_toList.mp isNew
      refine ⟨s.next, ?_, new cell isCreated⟩
      rw [Assembly.draw, isCreated]
      exact Nat.lt_succ_self s.next
  · intro p u isSite leads
    rcases sound.sites p u isSite leads with ⟨i, earlier, drawn⟩
    exact ⟨i, later i earlier, drawn⟩
  · intro p search searches reply member absent
    exact grows _ (sound.offered p search searches reply member absent)
  · intro p u isSite leads info member
    exact (sound.trees p u isSite leads info member).mono grows
  · intro p u isSite linked
    exact grows _ (sound.bound p u isSite linked)
  · intro p opening parent pends
    rcases sound.joining p opening parent pends with ⟨reachable, u, isU, member⟩
    exact ⟨reachable, u, isU, grows _ member⟩
  · intro p packet sent
    rcases sound.packets p packet sent with ⟨reachable, member⟩
    exact ⟨reachable, grows _ member⟩

/-- A search changes, and its new replies offer created cells. -/
theorem Sound.of_search (sound : Sound generate s) {searches : UUID → Option Search}
    (offered : ∀ p search, searches p = some search → ∀ reply ∈ search.replies,
      reply.hasCoordinator = false → reply.cell ∈ s.made) :
    Sound generate { s with search := searches } where
  drawn := sound.drawn
  sites := sound.sites
  offered := offered
  trees := sound.trees
  bound := sound.bound
  joining := sound.joining
  packets := sound.packets

theorem Sound.hear (sound : Sound generate s) {hearers : List UUID} {reply : CellReply}
    (offers : reply.hasCoordinator = false → reply.cell ∈ s.made) :
    Sound generate (s.hear hearers reply) := by
  apply sound.of_search
  intro p search searches other member absent
  split at searches
  · rcases Option.map_eq_some_iff.mp searches with ⟨before, searched, rfl⟩
    rcases Search.mem_replies_hear.mp member with old | ⟨-, rfl⟩
    · exact sound.offered p before searched other old absent
    · exact offers absent
  · exact sound.offered p search searches other member absent

/-- The replies of one search become fewer. -/
theorem Sound.setSearch (sound : Sound generate s) {p : UUID} {search : Option Search}
    (fewer : ∀ after, search = some after → ∀ reply ∈ after.replies,
      ∃ before, s.search p = some before ∧ reply ∈ before.replies) :
    Sound generate (s.setSearch p search) := by
  apply sound.of_search
  intro q other searches reply member absent
  by_cases same : q = p
  · subst same
    rw [Function.update_self] at searches
    rcases fewer other searches reply member with ⟨before, searched, old⟩
    exact sound.offered q before searched reply old absent
  · rw [Function.update_of_ne same] at searches
    exact sound.offered q other searches reply member absent

/-- A site changes, appears or goes; it is no new coordinator. -/
theorem Sound.setSite (sound : Sound generate s) {p : UUID} {site : Option Uplink}
    (kept : ∀ v, site = some v → v.coordinator = true →
      ∃ u, s.site p = some u ∧ u.coordinator = true ∧ u.cellID = v.cellID)
    (trees : ∀ v, site = some v → v.coordinator = true →
      ∀ info ∈ v.cellTree.rootNode.labels, Good s.made info)
    (bound : ∀ v, site = some v → v.parentChannel ≠ none → v.cellID ∈ s.made)
    (idle : s.pending p = none) : Sound generate (s.setSite p site) := by
  have cases : ∀ (holds : UUID → Uplink → Prop), (∀ v, site = some v → holds p v) →
      (∀ q v, s.site q = some v → holds q v) →
        ∀ q v, (s.setSite p site).site q = some v → holds q v := by
    intro holds here there q v isSite
    by_cases same : q = p
    · subst same
      have updated : (s.setSite q site).site q = site := Function.update_self _ _ _
      exact here v (updated.symm.trans isSite)
    · have unchanged : (s.setSite p site).site q = s.site q := Function.update_of_ne same _ _
      exact there q v (unchanged.symm.trans isSite)
  have search : (s.setSite p site).search = s.search := rfl
  apply sound.of_kept search rfl rfl
  · exact cases _ kept fun q v isSite leads => ⟨v, isSite, leads, rfl⟩
  · exact cases _ trees sound.trees
  · exact cases _ bound sound.bound
  · intro q opening parent pends
    rcases sound.joining q opening parent pends with ⟨reachable, u, isU, member⟩
    have other : q ≠ p := by
      rintro rfl
      cases idle.symm.trans pends
    exact ⟨reachable, u, (Function.update_of_ne other _ _).trans isU, member⟩
  · exact sound.packets

theorem Sound.setPending_none (sound : Sound generate s) (p : UUID) :
    Sound generate (s.setPending p none) where
  drawn := sound.drawn
  sites := sound.sites
  offered := sound.offered
  trees := sound.trees
  bound := sound.bound
  joining := by
    intro q opening parent pends
    by_cases same : q = p
    · subst same
      have updated : (s.setPending q none).pending q = none := Function.update_self _ _ _
      cases updated.symm.trans pends
    · have unchanged : (s.setPending p none).pending q = s.pending q :=
        Function.update_of_ne same _ _
      exact sound.joining q opening parent (unchanged.symm.trans pends)
  packets := sound.packets

theorem Sound.setLink (sound : Sound generate s) {p : UUID} {packets : List JoinMeshPacket}
    (kept : ∀ packet ∈ packets, packet ∈ s.link p) : Sound generate (s.setLink p packets) where
  drawn := sound.drawn
  sites := sound.sites
  offered := sound.offered
  trees := sound.trees
  bound := sound.bound
  joining := sound.joining
  packets := by
    intro q packet sent
    by_cases same : q = p
    · subst same
      have updated : (s.setLink q packets).link q = packets := Function.update_self _ _ _
      rw [updated] at sent
      exact sound.packets q packet (kept packet sent)
    · have unchanged : (s.setLink p packets).link q = s.link q := Function.update_of_ne same _ _
      rw [unchanged] at sent
      exact sound.packets q packet sent

/-! ### New coordinators -/

theorem mayOpen_iff {opening : Opening} : s.mayOpen generate opening = true ↔
    s.site opening.pid = none ∧ opening.endpoint ≠ none ∧
      s.search opening.pid = some (.returned opening.info) ∧
        (opening.info = none → opening.generated = generate s.next) := by
  unfold mayOpen
  cases opening.info with
  | none => simp [and_assoc, Option.isSome_iff_ne_none]
  | some info => simp [and_assoc, Option.isSome_iff_ne_none]

/-- After a peer has opened its uplink, what holds of it and of the others holds of all. -/
theorem forall_site_lead {p : UUID} {v : Uplink} (count : Nat) (holds : UUID → Uplink → Prop)
    (here : holds p v) (there : ∀ q u, s.site q = some u → holds q u) (q : UUID) (u : Uplink)
    (isSite : { s.setSite p (some v) with next := count }.site q = some u) : holds q u := by
  by_cases same : q = p
  · subst same
    have updated : { s.setSite q (some v) with next := count }.site q = some v :=
      Function.update_self _ _ _
    cases updated.symm.trans isSite
    exact here
  · have unchanged : { s.setSite p (some v) with next := count }.site q = s.site q :=
      Function.update_of_ne same _ _
    exact there q u (unchanged.symm.trans isSite)

/-- A coordinator appears. -/
theorem Sound.lead (sound : Sound generate s) {p : UUID} {v : Uplink} (free : s.site p = none)
    {count : Nat} (grows : s.next ≤ count)
    (drawn : ∃ i < count, v.cellID = generate i)
    (good : ∀ info ∈ v.cellTree.rootNode.labels, Good s.made info)
    (unbound : v.parentChannel = none) :
    Sound generate { s.setSite p (some v) with next := count } := by
  constructor
  · intro cell member
    rcases sound.drawn cell member with ⟨i, earlier, same⟩
    exact ⟨i, Nat.lt_of_lt_of_le earlier grows, same⟩
  · apply forall_site_lead count
      (fun _ u => u.coordinator = true → ∃ i < count, u.cellID = generate i)
    · exact fun _ => drawn
    · intro q u isSite leads
      rcases sound.sites q u isSite leads with ⟨i, earlier, same⟩
      exact ⟨i, Nat.lt_of_lt_of_le earlier grows, same⟩
  · exact sound.offered
  · exact forall_site_lead count _ (fun _ => good) sound.trees
  · exact forall_site_lead count _ (fun linked => absurd unbound linked) sound.bound
  · intro q opening parent pends
    rcases sound.joining q opening parent pends with ⟨reachable, u, isU, member⟩
    have other : q ≠ p := by
      rintro rfl
      cases free.symm.trans isU
    exact ⟨reachable, u, (Function.update_of_ne other _ _).trans isU, member⟩
  · exact sound.packets

/-! ### The steps -/

theorem Sound.step_request (sound : Sound generate s) {r : UUID} {srcFID : Option CellID}
    {hearers : List UUID}
    (done : s.step config generate (.request r srcFID hearers) = .ok next) :
    Sound generate next := by
  simp only [Assembly.step] at done
  cases isSite : s.site r with
  | none =>
      simp only [isSite] at done
      cases done
      exact sound
  | some u =>
      simp only [isSite] at done
      split at done
      · rename_i leads
        rcases Result.bind_eq_ok.mp done with ⟨answer, answered, built⟩
        cases built
        rcases handleCellRequest_spec (sound.trees r u isSite leads) answered with ⟨good, offered⟩
        apply Sound.hear
        · apply Sound.handled
          · apply sound.draw
            intro cell isCreated
            unfold Uplink.created at isCreated
            split at isCreated
            · exact (Option.some.inj isCreated).symm
            · cases isCreated
          · intro _ _ _
            exact good
          · rintro packet ⟨⟩
        · exact offered
      · cases done
        exact sound

theorem Sound.step_ask (sound : Sound generate s) {p : UUID}
    (done : s.step config generate (.ask p) = .ok next) : Sound generate next := by
  simp only [Assembly.step] at done
  split at done
  · cases done
    apply sound.setSearch
    rintro after ⟨⟩ reply ⟨⟩
  · cases done
    exact sound

theorem Sound.step_finish (sound : Sound generate s) {p : UUID} {info : Option CellReply}
    (done : s.step config generate (.finish p info) = .ok next) : Sound generate next := by
  cases done
  apply sound.setSearch
  intro after finished reply member
  rcases Option.map_eq_some_iff.mp finished with ⟨before, searched, rfl⟩
  exact ⟨before, searched, Search.mem_replies_of_finish member⟩

/-- A peer that opens a cell has no search. -/
theorem Sound.forget (sound : Sound generate s) (p : UUID) :
    Sound generate (s.setSearch p none) := by
  apply sound.setSearch
  rintro after ⟨⟩

/-- A reply that offers a cell without a coordinator offers one that was created. -/
theorem Sound.made_of_returned (sound : Sound generate s) {p : UUID} {info : CellReply}
    (source : s.search p = some (.returned (some info))) (absent : info.hasCoordinator = false) :
    info.cell ∈ s.made :=
  sound.offered p _ source info List.mem_cons_self absent

theorem Sound.step_lead (sound : Sound generate s)
    {opening : Opening} (done : s.step config generate (.lead opening) = .ok next) :
    Sound generate next := by
  simp only [Assembly.step] at done
  split at done
  · rename_i may
    rcases mayOpen_iff.mp may with ⟨free, reachable, source, draws⟩
    have opened := sound.forget opening.pid
    cases given : opening.info with
    | none =>
        simp only [given] at done
        cases done
        apply opened.lead free (Nat.le_succ _)
        · exact ⟨s.next, Nat.lt_succ_self _, draws given⟩
        · exact good_ownTree reachable _
        · rfl
    | some info =>
        simp only [given] at done source
        split at done
        · cases done
          exact sound
        · rename_i absent
          have member := sound.made_of_returned source (Bool.eq_false_iff.mpr absent)
          cases done
          have led := opened.lead (v := opening.coordinating config info.cell
            (info.parent.map Prod.fst)) free (Nat.le_refl _) (sound.drawn _ member)
            (good_ownTree reachable _) rfl
          constructor
          · exact led.drawn
          · exact led.sites
          · exact led.offered
          · exact led.trees
          · exact led.bound
          · intro q other parent pends
            by_cases same : q = opening.pid
            · subst same
              have updated := Function.update_self opening.pid
                (info.parentPeer.map fun parent => (opening, parent)) s.pending
              rcases Option.map_eq_some_iff.mp (updated.symm.trans pends) with ⟨peer, -, equal⟩
              cases equal
              exact ⟨reachable, _, Function.update_self _ _ _, member⟩
            · have unchanged := Function.update_of_ne same
                (info.parentPeer.map fun parent => (opening, parent)) s.pending
              exact led.joining q other parent (unchanged.symm.trans pends)
          · exact led.packets
  · cases done
    exact sound

/-- A JOIN_MESH that is handled somewhere. -/
theorem Sound.handleJoinMesh (sound : Sound generate s) {r : UUID} {u : Uplink}
    (isSite : s.site r = some u) {packet : JoinMeshPacket} (reachable : packet.endpoint ≠ none)
    (member : packet.cellID ∈ s.made) {handled : Handled JoinMeshPacket JoinMeshPacket}
    (done : u.toCell.handleJoinMesh config packet = .ok handled) :
    Sound generate (s.handled r handled.tree handled.toParent) := by
  apply sound.handled
  · intro v isV leads
    cases isSite.symm.trans isV
    exact good_handleJoinMesh (sound.trees r u isSite leads) reachable member done
  · intro relayed sent
    rcases relayed_handleJoinMesh done relayed sent with ⟨endpoint, cell⟩
    rw [endpoint, cell]
    exact ⟨reachable, member⟩

/-- A site keeps its cell when a packet is handled somewhere. -/
theorem cellID_of_handled {p r : UUID} {tree : CellTree} {toParent : Option JoinMeshPacket}
    {u x : Uplink} (isSite : s.site p = some u) (isX : (s.handled r tree toParent).site p = some x) :
    x.cellID = u.cellID := by
  rw [site_handled] at isX
  rcases Option.map_eq_some_iff.mp isX with ⟨y, isY, rfl⟩
  cases isSite.symm.trans isY
  split
  · rfl
  · rfl

/-- A coordinator that is connected stays the same apart from its channel. -/
theorem connectToParentCoordinator_eq_some {x v : Uplink} {parent : ParentPeer}
    {contact : Contact} (connected : Opening.connectToParentCoordinator x parent contact = some v) :
    v.coordinator = x.coordinator ∧ v.cellID = x.cellID ∧ v.cellTree = x.cellTree := by
  cases contact with
  | unreachable => cases connected
  | refused =>
      cases connected
      exact ⟨rfl, rfl, rfl⟩
  | accepted =>
      cases connected
      exact ⟨rfl, rfl, rfl⟩

theorem Sound.step_joinMesh (sound : Sound generate s) {p : UUID} {reached answered : Bool}
    (done : s.step config generate (.joinMesh p reached answered) = .ok next) :
    Sound generate next := by
  simp only [Assembly.step] at done
  split at done
  · rename_i opening parent u pends isSite
    rcases sound.joining p opening parent pends with ⟨reachable, v, isV, member⟩
    cases isSite.symm.trans isV
    have waiting := sound.setPending_none p
    have idle : (s.setPending p none).pending p = none := Function.update_self _ _ _
    split at done
    · cases done
      apply waiting.setSite
      · rintro v ⟨⟩
      · rintro v ⟨⟩
      · rintro v ⟨⟩
      · exact idle
    · rename_i w isParent
      rcases Result.bind_eq_ok.mp done with ⟨handled, here, built⟩
      cases built
      have isW : (s.setPending p none).site parent.uuid = some w := by
        split at isParent
        · exact isParent
        · cases isParent
      have joined := waiting.handleJoinMesh isW reachable member here
      apply joined.setSite
      · intro v isV leads
        rcases Option.bind_eq_some_iff.mp isV with ⟨x, isX, connected⟩
        rcases connectToParentCoordinator_eq_some connected with ⟨coordinator, cell, -⟩
        exact ⟨x, isX, coordinator.symm.trans leads, cell.symm⟩
      · intro v isV leads
        rcases Option.bind_eq_some_iff.mp isV with ⟨x, isX, connected⟩
        rcases connectToParentCoordinator_eq_some connected with ⟨coordinator, -, tree⟩
        rw [tree]
        exact joined.trees p x isX (coordinator.symm.trans leads)
      · intro v isV _
        rcases Option.bind_eq_some_iff.mp isV with ⟨x, isX, connected⟩
        rw [(connectToParentCoordinator_eq_some connected).2.1,
          cellID_of_handled (s := s.setPending p none) isSite isX]
        exact member
      · exact idle
  · cases done
    exact sound

/-- A JOIN_CELL that is handled somewhere. -/
theorem Sound.handleJoinCell (sound : Sound generate s) {r : UUID} {u : Uplink}
    (isSite : s.site r = some u) {packet : JoinCellPacket} (reachable : packet.endpoint ≠ none) :
    Sound generate (s.handled r (u.toCell.handleJoinCell packet).tree
      (u.toCell.handleJoinCell packet).toParent) := by
  apply sound.handled
  · intro v isV leads
    cases isSite.symm.trans isV
    exact good_handleJoinCell (sound.trees r u isSite leads) reachable
  · intro relayed sent
    rcases Option.map_eq_some_iff.mp sent with ⟨channel, isChannel, rfl⟩
    rcases Option.map_eq_some_iff.mp isChannel with ⟨peer, isPeer, -⟩
    constructor
    · exact reachable
    · apply sound.bound r u isSite
      rw [isPeer]
      exact Option.some_ne_none peer

/-- A peer that joins another coordinator leads no cell. -/
theorem joinNonCoordinator_eq_some {opening : Opening} {info : CellReply}
    {coordinator : UUID} {v : Uplink} (isV : opening.joinNonCoordinator info coordinator = some v) :
    v.coordinator = false ∧ v.parentChannel = none := by
  unfold Opening.joinNonCoordinator at isV
  split at isV
  · cases isV
    exact ⟨rfl, rfl⟩
  · cases isV

theorem Sound.step_follow (sound : Sound generate s) {opening : Opening}
    {answered listening : Bool} {base : Addr}
    (done : s.step config generate (.follow opening answered listening base) = .ok next) :
    Sound generate next := by
  simp only [Assembly.step] at done
  split at done
  · rename_i may
    rcases mayOpen_iff.mp may with ⟨free, reachable, -⟩
    have opened := sound.forget opening.pid
    have idle : s.pending opening.pid = none := by
      cases pends : s.pending opening.pid with
      | none => rfl
      | some pair =>
          rcases sound.joining opening.pid pair.1 pair.2 pends with ⟨-, u, isU, -⟩
          cases free.symm.trans isU
    split at done
    · rename_i info given
      split at done
      · rename_i coordinator addr named
        split at done
        · cases done
          exact opened
        · rename_i r isSite
          cases done
          have joined := opened.handleJoinCell isSite
            (show (opening.joinCellPacket info.cell).endpoint ≠ none from reachable)
          apply joined.setSite
          · intro v isV leads
            cases (joinNonCoordinator_eq_some isV).1.symm.trans leads
          · intro v isV leads
            cases (joinNonCoordinator_eq_some isV).1.symm.trans leads
          · intro v isV linked
            exact absurd (joinNonCoordinator_eq_some isV).2 linked
          · exact idle
      · cases done
        exact sound
    · cases done
      exact sound
  · cases done
    exact sound

theorem Sound.step_deliver (sound : Sound generate s) {p : UUID}
    (done : s.step config generate (.deliver p) = .ok next) : Sound generate next := by
  simp only [Assembly.step] at done
  split at done
  · rename_i parent packet rest isParent isLink
    have sent : packet ∈ s.link p := by
      rw [isLink]
      exact List.mem_cons_self
    have received : Sound generate (s.setLink p rest) := by
      apply sound.setLink
      intro other member
      rw [isLink]
      exact List.mem_cons_of_mem _ member
    rcases sound.packets p packet sent with ⟨reachable, member⟩
    split at done
    · cases done
      exact received
    · rename_i r isSite
      rcases Result.bind_eq_ok.mp done with ⟨handled, here, built⟩
      cases built
      have isR : (s.setLink p rest).site parent.uuid = some r := isSite
      exact received.handleJoinMesh isR reachable member here
  · cases done
    exact sound

theorem Sound.step (sound : Sound generate s) {event : Event}
    (done : s.step config generate event = .ok next) : Sound generate next := by
  cases event with
  | ask p => exact sound.step_ask done
  | request r srcFID hearers => exact sound.step_request done
  | finish p info => exact sound.step_finish done
  | lead opening => exact sound.step_lead done
  | joinMesh p reached answered => exact sound.step_joinMesh done
  | follow opening answered listening base => exact sound.step_follow done
  | deliver p => exact sound.step_deliver done

/-! ### Whom the replies make a coordinator -/

theorem OneTold.oneCoordinator (one : s.OneTold) : s.OneCoordinator := by
  intro p q u v isU isV leadsU leadsV same
  exact one v.cellID p q (.inl ⟨u, isU, leadsU, same⟩) (.inl ⟨v, isV, leadsV, rfl⟩)

/-- Where nobody is told anything new, at most one peer still is. -/
theorem OneTold.of_told (one : s.OneTold) (kept : ∀ p cell, next.Told p cell → s.Told p cell) :
    next.OneTold := by
  intro cell p q toldP toldQ
  exact one cell p q (kept p cell toldP) (kept q cell toldQ)

/-- The cells that somebody was told of have identifiers that were drawn. -/
theorem Sound.drawn_of_told (sound : Sound generate s) {p : UUID} {cell : CellID}
    (told : s.Told p cell) : ∃ i < s.next, cell = generate i := by
  rcases told with ⟨u, isSite, leads, rfl⟩ | ⟨search, reply, searches, member, absent, rfl⟩
  · exact sound.sites p u isSite leads
  · exact sound.drawn _ (sound.offered p search searches reply member absent)

theorem Sound.not_told (injective : Function.Injective generate) (sound : Sound generate s)
    (p : UUID) : ¬s.Told p (generate s.next) := by
  intro told
  rcases sound.drawn_of_told told with ⟨i, earlier, same⟩
  exact Nat.ne_of_gt earlier (injective same)

/-- A site that leads the cell that it led before, or none, and a search with fewer replies. -/
theorem told_of_kept
    (sites : ∀ p v, next.site p = some v → v.coordinator = true → s.Told p v.cellID)
    (searches : ∀ p after, next.search p = some after → ∀ reply ∈ after.replies,
      ∃ before, s.search p = some before ∧ reply ∈ before.replies)
    (p : UUID) (cell : CellID) (told : next.Told p cell) : s.Told p cell := by
  rcases told with ⟨v, isSite, leads, rfl⟩ | ⟨after, reply, searched, member, absent, offers⟩
  · exact sites p v isSite leads
  · rcases searches p after searched reply member with ⟨before, was, old⟩
    exact .inr ⟨before, reply, was, old, absent, offers⟩

/-- Whom a packet that is handled somewhere has told of a cell. -/
theorem told_handled_iff {r p : UUID} {tree : CellTree} {toParent : Option JoinMeshPacket}
    {cell : CellID} : (s.handled r tree toParent).Told p cell ↔ s.Told p cell := by
  have sites : (∃ u, (s.handled r tree toParent).site p = some u ∧ u.coordinator = true ∧
      u.cellID = cell) ↔ ∃ u, s.site p = some u ∧ u.coordinator = true ∧ u.cellID = cell := by
    rw [site_handled]
    cases isSite : s.site p with
    | none => simp
    | some u =>
        by_cases same : p = r
        · simp [same]
        · simp [same]
  exact or_congr sites Iff.rfl

theorem told_hear_iff {hearers : List UUID} {reply : CellReply} {p : UUID} {cell : CellID} :
    (s.hear hearers reply).Told p cell ↔
      s.Told p cell ∨ s.Hears hearers p ∧ reply.hasCoordinator = false ∧ reply.cell = cell := by
  constructor
  · rintro (⟨u, isSite, leads, same⟩ | ⟨search, other, searches, member, absent, same⟩)
    · exact .inl (.inl ⟨u, isSite, leads, same⟩)
    · simp only [hear] at searches
      split at searches
      · rename_i reached
        rcases Option.map_eq_some_iff.mp searches with ⟨before, searched, rfl⟩
        rcases Search.mem_replies_hear.mp member with old | ⟨waits, rfl⟩
        · exact .inl (.inr ⟨before, other, searched, old, absent, same⟩)
        · exact .inr ⟨⟨reached, before, searched, waits⟩, absent, same⟩
      · exact .inl (.inr ⟨search, other, searches, member, absent, same⟩)
  · rintro ((⟨u, isSite, leads, same⟩ | ⟨search, other, searched, member, absent, same⟩) |
      ⟨⟨reached, search, searched, waits⟩, absent, same⟩)
    · exact .inl ⟨u, isSite, leads, same⟩
    · by_cases reached : p ∈ hearers
      · refine .inr ⟨search.hear reply, other, ?_, ?_, absent, same⟩
        · simp [hear, reached, searched]
        · exact Search.mem_replies_hear.mpr (.inl member)
      · refine .inr ⟨search, other, ?_, member, absent, same⟩
        simp [hear, reached, searched]
    · refine .inr ⟨search.hear reply, reply, ?_, ?_, absent, same⟩
      · simp [hear, reached, searched]
      · exact Search.mem_replies_hear.mpr (.inr ⟨waits, rfl⟩)

/-- After a reply at most one peer is told, if those that it reaches are one, and the one
that was told of the cell before. -/
theorem oneTold_hear_iff (one : s.OneTold) {hearers : List UUID} {reply : CellReply} :
    (s.hear hearers reply).OneTold ↔ (reply.hasCoordinator = false →
      ∀ p, s.Hears hearers p → ∀ q, s.Hears hearers q ∨ s.Told q reply.cell → q = p) := by
  constructor
  · intro after absent p hearsP q claims
    have toldP : (s.hear hearers reply).Told p reply.cell :=
      told_hear_iff.mpr (.inr ⟨hearsP, absent, rfl⟩)
    rcases claims with hearsQ | toldQ
    · exact after reply.cell q p (told_hear_iff.mpr (.inr ⟨hearsQ, absent, rfl⟩)) toldP
    · exact after reply.cell q p (told_hear_iff.mpr (.inl toldQ)) toldP
  · intro only cell p q toldP toldQ
    rcases told_hear_iff.mp toldP with oldP | ⟨hearsP, absent, rfl⟩
    · rcases told_hear_iff.mp toldQ with oldQ | ⟨hearsQ, absent, rfl⟩
      · exact one cell p q oldP oldQ
      · exact only absent q hearsQ p (.inr oldP)
    · rcases told_hear_iff.mp toldQ with oldQ | ⟨hearsQ, -, -⟩
      · exact (only absent p hearsP q (.inr oldQ)).symm
      · exact (only absent p hearsP q (.inl hearsQ)).symm

theorem fits_of_unanswered {r : UUID} {srcFID : Option CellID} {hearers : List UUID}
    (silent : ∀ u, s.site r = some u → u.coordinator ≠ true) :
    s.Fits (.request r srcFID hearers) := by
  cases srcFID with
  | none =>
      intro u isU leads
      exact absurd leads (silent u isU)
  | some fid => trivial

/-- A reply to a peer without a cell names a cell in the tree, or one that no reply has
named. -/
theorem fits_searching_iff (injective : Function.Injective generate) (sound : Sound generate s)
    {r : UUID} {u : Uplink} (isSite : s.site r = some u) (leads : u.coordinator = true)
    {hearers : List UUID} {answer : CellAnswer}
    (answered : u.toCell.handleCellRequest config (generate s.next) none = .ok answer) :
    (answer.reply.hasCoordinator = false →
      ∀ p, s.Hears hearers p → ∀ q, s.Hears hearers q ∨ s.Told q answer.reply.cell → q = p) ↔
        s.Fits (.request r none hearers) := by
  have good := sound.trees r u isSite leads
  rcases Result.bind_eq_ok.mp answered with ⟨⟨tree, node⟩, offered, rest⟩
  rcases Result.bind_eq_ok.mp rest with ⟨reply, replied, built⟩
  cases built
  rcases CellTree.offer_cases offered with
    ⟨path, available, found, -, -⟩ | ⟨available, cell, vacant, -⟩
  · have member : node.label ∈ u.cellTree.rootNode.labels :=
      SlotTree.mem_labels_iff.mpr ⟨node, SlotTree.mem_nodes_of_at? found, rfl⟩
    rcases hasCoordinator_offerReply (good _ member) replied with ⟨offers, leaderless⟩
    rw [offers, leaderless]
    constructor
    · intro only v isV _
      cases isSite.symm.trans isV
      constructor
      · intro full
        cases available.symm.trans full
      · intro otherPath other isAvailable atPath empty
        cases available.symm.trans isAvailable
        cases found.symm.trans atPath
        exact only empty
    · intro fits empty
      exact (fits u isSite leads).2 path node available found empty
  · have isGood : Good [node.label.cellID] node.label := Good.of_made List.mem_cons_self vacant
    rcases hasCoordinator_offerReply isGood replied with ⟨offers, leaderless⟩
    simp only at cell
    rw [offers, leaderless, cell]
    constructor
    · intro only v isV _
      cases isSite.symm.trans isV
      constructor
      · intro _ p q hearsP hearsQ
        exact only vacant q hearsQ p (.inl hearsP)
      · intro path other isAvailable
        cases available.symm.trans isAvailable
    · rintro fits - p hearsP q (hearsQ | toldQ)
      · exact (fits u isSite leads).1 available q p hearsQ hearsP
      · exact absurd toldQ (sound.not_told injective q)

theorem oneTold_request_iff (injective : Function.Injective generate) (sound : Sound generate s)
    (one : s.OneTold) {r : UUID} {srcFID : Option CellID} {hearers : List UUID}
    (done : s.step config generate (.request r srcFID hearers) = .ok next) :
    next.OneTold ↔ s.Fits (.request r srcFID hearers) := by
  simp only [Assembly.step] at done
  cases isSite : s.site r with
  | none =>
      simp only [isSite] at done
      cases done
      apply iff_of_true one
      apply fits_of_unanswered
      intro u isU
      cases isSite.symm.trans isU
  | some u =>
      simp only [isSite] at done
      split at done
      · rename_i leads
        rcases Result.bind_eq_ok.mp done with ⟨answer, answered, built⟩
        cases built
        have same : ∀ p cell, ((s.draw (u.created (generate s.next) srcFID)).handled r answer.tree
            none).Told p cell ↔ s.Told p cell := fun p cell => told_handled_iff
        have before : ((s.draw (u.created (generate s.next) srcFID)).handled r answer.tree
            none).OneTold := one.of_told fun p cell => (same p cell).mp
        rw [oneTold_hear_iff before]
        simp only [same]
        cases srcFID with
        | none => exact fits_searching_iff injective sound isSite leads answered
        | some fid =>
            have good := sound.trees r u isSite leads
            apply iff_of_true
            · intro absent
              cases (hasCoordinator_of_cell good answered).2.symm.trans absent
            · trivial
      · rename_i follows
        cases done
        apply iff_of_true one
        apply fits_of_unanswered
        intro v isV
        cases isSite.symm.trans isV
        exact follows

/-! ### The other events -/

/-- A peer's search ends or goes on; nobody is told more. -/
theorem told_setSearch {p : UUID} {search : Option Search}
    (fewer : ∀ after, search = some after → ∀ reply ∈ after.replies,
      ∃ before, s.search p = some before ∧ reply ∈ before.replies)
    {q : UUID} {cell : CellID} (told : (s.setSearch p search).Told q cell) : s.Told q cell := by
  apply told_of_kept _ _ q cell told
  · exact fun q v isSite leads => .inl ⟨v, isSite, leads, rfl⟩
  · intro q after searched reply member
    by_cases same : q = p
    · subst same
      simp only [Assembly.setSearch, Function.update_self] at searched
      exact fewer after searched reply member
    · simp only [Assembly.setSearch, Function.update_of_ne same] at searched
      exact ⟨after, searched, member⟩

theorem told_forget {p q : UUID} {cell : CellID} (told : (s.setSearch p none).Told q cell) :
    s.Told q cell := by
  apply told_setSearch _ told
  rintro after ⟨⟩

/-- A site that appears leads a cell that the peer was told of, or none. -/
theorem told_setSite {p : UUID} {site : Option Uplink}
    (kept : ∀ v, site = some v → v.coordinator = true → s.Told p v.cellID)
    {q : UUID} {cell : CellID} (told : (s.setSite p site).Told q cell) : s.Told q cell := by
  apply told_of_kept _ _ q cell told
  · intro q v isSite leads
    by_cases same : q = p
    · subst same
      simp only [Assembly.setSite, Function.update_self] at isSite
      exact kept v isSite leads
    · simp only [Assembly.setSite, Function.update_of_ne same] at isSite
      exact .inl ⟨v, isSite, leads, rfl⟩
  · exact fun q after searched reply member => ⟨after, searched, member⟩

/-- A peer that has opened a cell is told of that cell only, and nobody else of another. -/
theorem told_opened {p q : UUID} {v : Uplink} {cell : CellID}
    (told : ((s.setSearch p none).setSite p (some v)).Told q cell) :
    s.Told q cell ∨ q = p ∧ cell = v.cellID := by
  rcases told with ⟨u, isSite, leads, rfl⟩ | searches
  · by_cases same : q = p
    · subst same
      simp only [Assembly.setSite, Function.update_self] at isSite
      cases isSite
      exact .inr ⟨rfl, rfl⟩
    · simp only [Assembly.setSite, Function.update_of_ne same] at isSite
      exact .inl (.inl ⟨u, isSite, leads, rfl⟩)
  · exact .inl (told_forget (.inr searches))

/-- Nobody else was told of the cell that a founder generates. -/
theorem oneTold_founded (injective : Function.Injective generate) (sound : Sound generate s)
    (one : s.OneTold) {p : UUID} {v : Uplink} (founds : v.cellID = generate s.next) :
    ((s.setSearch p none).setSite p (some v)).OneTold := by
  intro cell q r toldQ toldR
  rcases told_opened toldQ with oldQ | ⟨rfl, rfl⟩
  · rcases told_opened toldR with oldR | ⟨-, rfl⟩
    · exact one cell q r oldQ oldR
    · rw [founds] at oldQ
      exact absurd oldQ (sound.not_told injective q)
  · rcases told_opened toldR with oldR | ⟨rfl, -⟩
    · rw [founds] at oldR
      exact absurd oldR (sound.not_told injective r)
    · rfl

theorem oneTold_lead (injective : Function.Injective generate) (sound : Sound generate s)
    (one : s.OneTold) {opening : Opening}
    (done : s.step config generate (.lead opening) = .ok next) : next.OneTold := by
  simp only [Assembly.step] at done
  split at done
  · rename_i may
    rcases mayOpen_iff.mp may with ⟨-, -, source, draws⟩
    cases given : opening.info with
    | none =>
        simp only [given] at done
        cases done
        exact oneTold_founded injective sound one (draws given)
    | some info =>
        simp only [given] at done source
        split at done
        · cases done
          exact one
        · rename_i absent
          cases done
          have told : s.Told opening.pid info.cell :=
            .inr ⟨_, info, source, List.mem_cons_self, Bool.eq_false_iff.mpr absent, rfl⟩
          apply one.of_told
          intro p cell toldP
          rcases told_opened toldP with old | ⟨rfl, rfl⟩
          · exact old
          · exact told
  · cases done
    exact one

theorem told_joinMesh {p : UUID} {reached answered : Bool}
    (done : s.step config generate (.joinMesh p reached answered) = .ok next) (q : UUID)
    (cell : CellID) (told : next.Told q cell) : s.Told q cell := by
  simp only [Assembly.step] at done
  split at done
  · split at done
    · cases done
      apply told_setSite (s := s.setPending p none) _ told
      rintro v ⟨⟩
    · rcases Result.bind_eq_ok.mp done with ⟨handled, here, built⟩
      cases built
      apply told_handled_iff.mp (told_setSite _ told)
      intro v isV leads
      rcases Option.bind_eq_some_iff.mp isV with ⟨x, isX, connected⟩
      rcases connectToParentCoordinator_eq_some connected with ⟨coordinator, same, -⟩
      exact .inl ⟨x, isX, coordinator.symm.trans leads, same.symm⟩
  · cases done
    exact told

theorem told_follow {opening : Opening} {answered listening : Bool} {base : Addr}
    (done : s.step config generate (.follow opening answered listening base) = .ok next) (q : UUID)
    (cell : CellID) (told : next.Told q cell) : s.Told q cell := by
  simp only [Assembly.step] at done
  split at done
  · split at done
    · split at done
      · split at done
        · cases done
          exact told_forget told
        · cases done
          apply told_forget (told_handled_iff.mp (told_setSite _ told))
          intro v isV leads
          cases (joinNonCoordinator_eq_some isV).1.symm.trans leads
      · cases done
        exact told
    · cases done
      exact told
  · cases done
    exact told

theorem told_deliver {p : UUID} (done : s.step config generate (.deliver p) = .ok next) (q : UUID)
    (cell : CellID) (told : next.Told q cell) : s.Told q cell := by
  simp only [Assembly.step] at done
  split at done
  · split at done
    · cases done
      exact told
    · rename_i parent packet rest isParent isLink _ _ _
      rcases Result.bind_eq_ok.mp done with ⟨handled, -, built⟩
      cases built
      exact (told_handled_iff (s := s.setLink p rest)).mp told
  · cases done
    exact told

theorem told_ask {p : UUID} (done : s.step config generate (.ask p) = .ok next) (q : UUID)
    (cell : CellID) (told : next.Told q cell) : s.Told q cell := by
  simp only [Assembly.step] at done
  split at done
  · cases done
    apply told_setSearch _ told
    rintro after ⟨⟩ reply ⟨⟩
  · cases done
    exact told

theorem told_finish {p : UUID} {info : Option CellReply}
    (done : s.step config generate (.finish p info) = .ok next) (q : UUID) (cell : CellID)
    (told : next.Told q cell) : s.Told q cell := by
  cases done
  apply told_setSearch _ told
  intro after finished reply member
  rcases Option.map_eq_some_iff.mp finished with ⟨before, searched, rfl⟩
  exact ⟨before, searched, Search.mem_replies_of_finish member⟩

/-- The requests that fit are those after which at most one peer is told. -/
theorem oneTold_step_iff (injective : Function.Injective generate) (sound : Sound generate s)
    (one : s.OneTold) {event : Event} (done : s.step config generate event = .ok next) :
    next.OneTold ↔ s.Fits event := by
  cases event with
  | ask p => exact iff_of_true (one.of_told (told_ask done)) trivial
  | request r srcFID hearers => exact oneTold_request_iff injective sound one done
  | finish p info => exact iff_of_true (one.of_told (told_finish done)) trivial
  | lead opening => exact iff_of_true (oneTold_lead injective sound one done) trivial
  | joinMesh p reached answered => exact iff_of_true (one.of_told (told_joinMesh done)) trivial
  | follow opening answered listening base =>
      exact iff_of_true (one.of_told (told_follow done)) trivial
  | deliver p => exact iff_of_true (one.of_told (told_deliver done)) trivial

/-! ### Runs -/

theorem Sound.empty : Sound generate Assembly.empty where
  drawn := by rintro cell ⟨⟩
  sites := by rintro p u ⟨⟩
  offered := by rintro p search ⟨⟩
  trees := by rintro p u ⟨⟩
  bound := by rintro p u ⟨⟩
  joining := by rintro p opening parent ⟨⟩
  packets := by rintro p packet ⟨⟩

theorem oneTold_empty : Assembly.empty.OneTold := by
  rintro cell p q (⟨u, ⟨⟩, -⟩ | ⟨search, reply, ⟨⟩, -⟩)

theorem runs_allFit : Runs (step config generate) (run config generate) Fits
    (AllFit config generate) where
  run_nil := fun _ => rfl
  run_cons := fun _ _ _ => rfl
  allFit_nil := fun _ => trivial
  allFit_cons := fun _ _ _ => Iff.rfl

theorem Sound.run_iff (injective : Function.Injective generate) (sound : Sound generate s)
    (one : s.OneTold) {events : List Event} :
    (∀ before, before <+: events → ∀ reached, s.run config generate before = .ok reached →
      reached.OneCoordinator ∧ reached.OneTold) ↔ s.AllFit config generate events := by
  apply runs_allFit.always_iff (fun sound => sound.step) _ sound
  · exact ⟨one.oneCoordinator, one⟩
  · rintro s event after sound ⟨-, one⟩ done
    have decided := oneTold_step_iff injective sound one done
    constructor
    · rintro ⟨-, oneAfter⟩
      exact decided.mp oneAfter
    · intro fits
      have oneAfter := decided.mpr fits
      exact ⟨oneAfter.oneCoordinator, oneAfter⟩

/-- From an empty mesh on, no cell ever has two coordinators and at most one peer is
told that it has none: exactly in the runs whose requests fit. -/
theorem one_coordinator_iff (injective : Function.Injective generate) (events : List Event) :
    (∀ before, before <+: events → ∀ reached,
      Assembly.empty.run config generate before = .ok reached →
        reached.OneCoordinator ∧ reached.OneTold) ↔
      Assembly.empty.AllFit config generate events :=
  Sound.empty.run_iff injective oneTold_empty

end

section ThreePeers

/-- Cells of one superpeer each. -/
def oneEach : P3Configuration :=
  { defaults with CELL_SPS := fun _ => some 1 }

/-- Identifiers none of which begins with another. -/
def identifier (n : Nat) : CellID :=
  ⟨List.replicate n 0 ++ [1]⟩

theorem identifier_injective : Function.Injective identifier := by
  intro m n same
  have lengths := congrArg (fun cell : CellID => cell.key.length) same
  simpa [identifier] using lengths

/-- A peer that opens a cell. -/
def peerOpening (pid : UUID) (info : Option CellReply) : Opening where
  pid := pid
  generated := identifier 0
  endpoint := some someEndpoint
  discoverySAP := none
  meshSAP := none
  ftSAP := none
  info := info
  contact := .accepted
  answer := none

/-- The reply that offers the cell 1 below the root cell, which the peer 11 leads. -/
def emptyCellReply : CellReply where
  cell := identifier 1
  coordinator := none
  parent := some (identifier 0, { uuid := ⟨[11]⟩, addr := some someEndpoint })
  discoverySAP := none
  meshSAP := none
  ftSAP := none

/-- The peer 11 hears nothing and founds the mesh. -/
def founding : List Event :=
  [.ask ⟨[11]⟩, .finish ⟨[11]⟩ none, .lead (peerOpening ⟨[11]⟩ none)]

/-- The peer 12 asks twice before it hears that it leads a new cell; 13 asks when the
root has its join. -/
def oneAfterAnother : List Event :=
  founding ++
    [.ask ⟨[12]⟩, .request ⟨[11]⟩ none [⟨[12]⟩], .request ⟨[11]⟩ none [⟨[12]⟩],
      .finish ⟨[12]⟩ (some emptyCellReply), .lead (peerOpening ⟨[12]⟩ (some emptyCellReply)),
      .joinMesh ⟨[12]⟩ true true, .ask ⟨[13]⟩, .request ⟨[11]⟩ none [⟨[13]⟩]]

/-- The only peer that a reply reaches is the only one that was offered the cell in it. -/
theorem fits_of_only {s : Assembly} {r p : UUID} {u : Uplink} (isSite : s.site r = some u)
    (only : ∀ path node, u.cellTree.getAvailableNode P3PeerInfo.SUPERPEER = some path →
      u.cellTree.rootNode.at? path = some node → ∀ q, s.Told q node.label.cellID → q = p) :
    s.Fits (.request r none [p]) := by
  have hearer : ∀ q, s.Hears [p] q → q = p := fun q hears => List.mem_singleton.mp hears.1
  intro v isV _
  cases isSite.symm.trans isV
  constructor
  · intro _ q q' hears hears'
    exact (hearer q hears).trans (hearer q' hears').symm
  · intro path node available found _ q hears q' claims
    rw [hearer q hears]
    rcases claims with hears' | told
    · exact hearer q' hears'
    · exact only path node available found q' told

/-- No cell of the tree has room. -/
theorem fits_of_full {s : Assembly} {r p : UUID} {u : Uplink} (isSite : s.site r = some u)
    (full : u.cellTree.getAvailableNode P3PeerInfo.SUPERPEER = none) :
    s.Fits (.request r none [p]) := by
  apply fits_of_only isSite
  intro path node available
  cases full.symm.trans available

theorem AllFit.cons {config : P3Configuration} {generate : Nat → CellID} {s after : Assembly}
    {event : Event} {rest : List Event} (done : s.step config generate event = .ok after)
    (fits : s.Fits event) (later : after.AllFit config generate rest) :
    s.AllFit config generate (event :: rest) := by
  intro other taken
  cases done.symm.trans taken
  exact ⟨fits, later⟩

theorem oneAfterAnother_fits : Assembly.empty.AllFit oneEach identifier oneAfterAnother := by
  refine AllFit.cons rfl trivial ?_
  refine AllFit.cons rfl trivial ?_
  refine AllFit.cons rfl trivial ?_
  refine AllFit.cons rfl trivial ?_
  refine AllFit.cons rfl (fits_of_full rfl rfl) ?_
  refine AllFit.cons rfl ?_ ?_
  · apply fits_of_only rfl
    rintro path node available found q (⟨u, isSite, leads, same⟩ | ⟨search, reply, searches, -⟩)
    · cases available
      cases found
      by_cases isRoot : q = ⟨[11]⟩
      · subst isRoot
        cases isSite
        exact absurd same (by decide)
      · simp [draw, handled, Assembly.hear, setSearch, setSite, Assembly.empty, peerOpening, isRoot]
          at isSite
    · by_contra other
      simp [draw, handled, Assembly.hear, setSearch, setSite, Assembly.empty, peerOpening, other]
        at searches
  refine AllFit.cons rfl trivial ?_
  refine AllFit.cons rfl trivial ?_
  refine AllFit.cons rfl trivial ?_
  refine AllFit.cons rfl trivial ?_
  exact AllFit.cons rfl (fits_of_full rfl rfl) trivial

/-- One peer founds the mesh, and another one is offered a new cell and leads it. -/
theorem one_coordinator_second :
    ∃ reached u, Assembly.empty.run oneEach identifier oneAfterAnother = .ok reached ∧
      reached.site ⟨[12]⟩ = some u ∧ u.coordinator = true ∧
      reached.OneCoordinator ∧ reached.OneTold :=
  ⟨_, _, rfl, rfl, rfl,
    (one_coordinator_iff identifier_injective _).mpr oneAfterAnother_fits _ List.prefix_rfl _ rfl⟩

/-- Two peers that wait at the same time hear the same reply and lead the same cell. -/
theorem exists_two_coordinators :
    ∃ told led u v,
      Assembly.empty.run oneEach identifier
        (founding ++ [.ask ⟨[12]⟩, .ask ⟨[13]⟩, .request ⟨[11]⟩ none [⟨[12]⟩, ⟨[13]⟩]]) = .ok told ∧
      told.search ⟨[12]⟩ = some (.waiting [emptyCellReply]) ∧
      told.search ⟨[13]⟩ = some (.waiting [emptyCellReply]) ∧
      told.run oneEach identifier
        [.finish ⟨[12]⟩ (some emptyCellReply), .finish ⟨[13]⟩ (some emptyCellReply),
          .lead (peerOpening ⟨[12]⟩ (some emptyCellReply)),
          .lead (peerOpening ⟨[13]⟩ (some emptyCellReply))] = .ok led ∧
      led.site ⟨[12]⟩ = some u ∧ led.site ⟨[13]⟩ = some v ∧
      u.coordinator = true ∧ v.coordinator = true ∧ u.cellID = v.cellID :=
  ⟨_, _, _, _, rfl, rfl, rfl, rfl, rfl, rfl, rfl, rfl, rfl⟩

end ThreePeers

end Assembly

end Stheno.Superpeer
