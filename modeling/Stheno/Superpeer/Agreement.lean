import Stheno.Superpeer.Followers
import Stheno.Superpeer.RebindChain

/-!
# Agreement over a run

One relayable packet takes a group in step to a group in step, so a run of them
ends with every follower in agreement with the coordinator.
-/

namespace Stheno.Superpeer

open Stheno.Tree Peer

/-! ## One packet -/

/-- The state that a coordinator reaches, without its followers. -/
theorem Cell.repInv_react {config : P3Configuration} {cell : Cell} (inv : RepInv cell.cellTree)
    {packet : MeshPacket} {reaction : Reaction}
    (done : cell.react config packet.toPacket = .ok reaction) : RepInv reaction.tree := by
  cases packet with
  | join packet =>
      simp only [MeshPacket.toPacket, react] at done
      rcases Result.bind_eq_ok.mp done with ⟨handled, here, rest⟩
      cases rest
      rcases handleJoinMesh_eq here with ⟨status, joined, -⟩
      exact inv.join joined
  | rebind packet =>
      simp only [MeshPacket.toPacket, react] at done
      rcases Result.bind_eq_ok.mp done with ⟨handled, here, rest⟩
      cases rest
      exact inv.handleRebindMesh here
  | leave packet =>
      simp only [MeshPacket.toPacket, react, handleLeaveMesh] at done
      rcases Result.bind_eq_ok.mp done with ⟨handled, here, rest⟩
      rcases Result.bind_eq_ok.mp here with ⟨left, departed, tree⟩
      cases rest
      cases tree
      exact inv.leave departed

/-- A follower that is told makes an update that shows as that of the coordinator. -/
theorem CellView.InStep.follow {β : Type} {V : CellView β} {config : P3Configuration}
    {coordinator follower : Cell} (inStep : V.InStep coordinator follower)
    (inv : RepInv coordinator.cellTree) {packet : MeshPacket}
    (alike : V.Alike config coordinator packet) {reaction : Reaction}
    (done : coordinator.react config packet.toPacket = .ok reaction) :
    ∃ tree, follower.follow config reaction.toGroup = .ok tree ∧ RepInv tree ∧
      V.tree tree = V.tree reaction.tree := by
  cases packet with
  | join packet =>
      simp only [MeshPacket.toPacket, Cell.react] at done
      rcases Result.bind_eq_ok.mp done with ⟨handled, here, rest⟩
      cases rest
      rcases Cell.handleJoinMesh_eq here with ⟨status, joined, toGroup⟩
      rcases tree_join (V := V) config coordinator.cellTree packet.peerInfo
        (coordinator.joinParent packet) with ⟨out, done, shown⟩
      cases joined.symm.trans done
      rcases Cell.JoinsAlike.same_join V config alike with ⟨finds, same⟩
      rcases inStep.joins config finds with ⟨tree, followed, invTree, shownTree⟩
      refine ⟨tree, ?_, invTree, ?_⟩
      · rw [toGroup]
        exact followed
      · rw [shownTree, same, ← shown]
  | rebind packet =>
      simp only [MeshPacket.toPacket, Cell.react] at done
      rcases Result.bind_eq_ok.mp done with ⟨handled, here, rest⟩
      cases rest
      rcases Cell.handleRebindMesh_eq here with ⟨s, after, read, grafted, toGroup⟩
      rcases (alike s after read).same_join with ⟨finds, same⟩
      rcases inStep.joins config finds with ⟨tree, followed, invTree, shownTree⟩
      refine ⟨tree, ?_, invTree, ?_⟩
      · rw [toGroup]
        exact followed
      · rw [shownTree, grafted]
        exact same
  | leave packet =>
      simp only [MeshPacket.toPacket, Cell.react, Cell.handleLeaveMesh] at done
      rcases Result.bind_eq_ok.mp done with ⟨handled, here, rest⟩
      rcases Result.bind_eq_ok.mp here with ⟨left, departed, tree⟩
      cases rest
      cases tree
      have leader := tree_leave (V := V) inv packet.uuid packet.cellID
      have member := tree_leave (V := V) inStep.inv packet.uuid packet.cellID
      rw [departed] at leader
      rw [inStep.shown, leader] at member
      cases followed : follower.cellTree.leave packet.uuid packet.cellID with
      | error fault =>
          rw [followed] at member
          cases member
      | ok out =>
          rw [followed] at member
          refine ⟨out.1, ?_, inStep.inv.leave followed, (Option.some.inj member).symm⟩
          simp only [Cell.follow, Cell.handleCoordinatorLeaveMesh, followed]
          rfl

theorem InStepWith.follow {config : P3Configuration} {coordinator follower : Cell}
    (inStep : InStepWith coordinator follower) (inv : RepInv coordinator.cellTree)
    {packet : MeshPacket} (alike : coordinator.Alike config packet) {reaction : Reaction}
    (done : coordinator.react config packet.toPacket = .ok reaction) :
    ∃ tree, follower.follow config reaction.toGroup = .ok tree ∧ RepInv tree ∧
      tree.directory = reaction.tree.directory :=
  (inStepWith_iff.mp inStep).follow inv (Cell.alike_iff.mp alike) done

/-- A packet that changes nothing may be kept from a follower. -/
theorem Cell.tree_of_unmoved {config : P3Configuration} {cell : Cell} (inv : RepInv cell.cellTree)
    {packet : MeshPacket} (unmoved : cell.Unmoved packet) {reaction : Reaction}
    (done : cell.react config packet.toPacket = .ok reaction) : reaction.tree = cell.cellTree := by
  cases packet with
  | join packet =>
      simp only [MeshPacket.toPacket, react, handleJoinMesh] at done
      rcases Result.bind_eq_ok.mp done with ⟨handled, here, rest⟩
      rcases Result.bind_eq_ok.mp here with ⟨joined, declined, tree⟩
      rw [CellTree.join_of_declines config unmoved] at declined
      cases declined
      cases tree
      cases rest
      rfl
  | rebind packet =>
      simp only [MeshPacket.toPacket, react] at done
      rcases Result.bind_eq_ok.mp done with ⟨handled, here, rest⟩
      cases rest
      rcases handleRebindMesh_eq here with ⟨s, after, read, grafted, -⟩
      exact grafted.trans (CellTree.addSubtree_tree_eq_iff.mpr (unmoved s after read))
  | leave packet =>
      simp only [MeshPacket.toPacket, react, handleLeaveMesh] at done
      rcases Result.bind_eq_ok.mp done with ⟨handled, here, rest⟩
      rcases Result.bind_eq_ok.mp here with ⟨out, departed, tree⟩
      cases rest
      cases tree
      have left := CellTree.left_leave inv packet.uuid packet.cellID
      have absent : ∀ {path : Path} {n : CellTreeNode} {info : CellInfo},
          cell.cellTree.getCellTreeNode packet.cellID = some path →
          cell.cellTree.rootNode.at? path = some n → n.label.remove packet.uuid ≠ some info := by
        intro path n info known found removed
        rw [CellInfo.remove_eq_none_iff.mpr (unmoved path n known found)] at removed
        cases removed
      rw [departed] at left
      cases left with
      | unknownCell unknown => rfl
      | unknownPeer known found missing => rfl
      | peer known found removed staffed => exact absurd removed (absent known found)
      | cell known found removed deserted => exact absurd removed (absent known found)

namespace Group

/-- Every follower is in step with the coordinator. -/
structure InStep (this : Group) : Prop where
  inv : RepInv this.coordinator.cellTree
  followers : ∀ follower ∈ this.followers, InStepWith this.coordinator follower

/-- One follower after one packet. -/
theorem InStep.receive {config : P3Configuration} {group : Group} (inStep : group.InStep)
    {packet : MeshPacket} {reaction : Reaction}
    (done : group.coordinator.react config packet.toPacket = .ok reaction) {follower : Cell}
    (member : follower ∈ group.followers)
    (suits : if follower.pid = packet.uuid then group.coordinator.Unmoved packet
      else group.coordinator.Alike config packet) :
    ∃ after, follower.receive config packet.uuid reaction.toGroup = .ok after ∧
      InStepWith { group.coordinator with cellTree := reaction.tree } after := by
  have before := inStep.followers follower member
  unfold Cell.receive
  by_cases own : follower.pid = packet.uuid
  · rw [if_pos own] at suits
    rw [if_pos (UUID.sameKey_iff.mpr own)]
    have kept := Cell.tree_of_unmoved inStep.inv suits done
    exact ⟨follower, rfl, before.cellID, before.inv, before.directory.trans (by rw [kept])⟩
  · rw [if_neg own] at suits
    rw [if_neg (by simpa using own)]
    rcases before.follow inStep.inv suits done with ⟨tree, followed, inv, recorded⟩
    exact ⟨{ follower with cellTree := tree }, by rw [followed]; rfl, before.cellID, inv, recorded⟩

/-- A relayable packet that the coordinator survives keeps the group in step. -/
theorem InStep.handle {config : P3Configuration} {group : Group} (inStep : group.InStep)
    {packet : MeshPacket} (relayable : group.Relayable config packet) {coordinator : Cell}
    (done : group.coordinator.handle config packet = .ok coordinator) :
    ∃ after, group.handle config packet = .ok after ∧ after.coordinator = coordinator ∧
      after.InStep := by
  rcases Result.map_eq_ok.mp done with ⟨reaction, reacts, rfl⟩
  rcases Result.exists_mapM fun follower member =>
    inStep.receive reacts member (relayable follower member) with ⟨followers, relayed, all⟩
  refine ⟨{ coordinator := { group.coordinator with cellTree := reaction.tree }, followers }, ?_,
    rfl, Cell.repInv_react inStep.inv reacts, all⟩
  unfold Group.handle
  rw [reacts]
  simp only [bind, Except.bind, relayed]
  rfl

end Group

/-! ## A run -/

/-- The coordinator handles packets one after another. -/
def Cell.run (config : P3Configuration) (this : Cell) (packets : List MeshPacket) : Result Cell :=
  packets.foldlM (Cell.handle config) this

namespace Group

/-- The group handles packets one after another, each relayed before the next. -/
def run (config : P3Configuration) (this : Group) (packets : List MeshPacket) : Result Group :=
  packets.foldlM (Group.handle config) this

/-- Every packet of a run is relayable when it arrives. -/
def AllRelayable (config : P3Configuration) : Group → List MeshPacket → Prop
  | _, [] => True
  | group, packet :: packets =>
      group.Relayable config packet ∧
        ∀ after, group.handle config packet = .ok after → after.AllRelayable config packets

/-- A run of relayable packets that the coordinator survives keeps the group in step. -/
theorem InStep.run {config : P3Configuration} {group : Group} (inStep : group.InStep)
    {packets : List MeshPacket} (relayable : group.AllRelayable config packets)
    {coordinator : Cell} (survives : group.coordinator.run config packets = .ok coordinator) :
    ∃ after, group.run config packets = .ok after ∧ after.coordinator = coordinator ∧
      after.InStep := by
  induction packets generalizing group with
  | nil =>
      cases survives
      exact ⟨group, rfl, rfl, inStep⟩
  | cons packet packets ih =>
      rcases Result.bind_eq_ok.mp survives with ⟨next, here, rest⟩
      rcases inStep.handle relayable.1 here with ⟨middle, handled, rfl, inStepMiddle⟩
      rcases ih inStepMiddle (relayable.2 middle handled) rest with ⟨after, done, same, inStepAfter⟩
      refine ⟨after, ?_, same, inStepAfter⟩
      rw [Group.run, List.foldlM_cons, handled]
      exact done

end Group

section TwoFollowers

/-- A superpeer that joins a cell. -/
def joining (uuid : UUID) (cellID : CellID) (parentCellID : Option CellID) : JoinMeshPacket :=
  { header := { srcPID := uuid, srcFID := cellID }
    type := P3PeerInfo.SUPERPEER
    uuid
    cellID
    parentCellID
    endpoint := none
    discoverySAP := none
    meshSAP := none
    ftSAP := none }

end TwoFollowers

end Stheno.Superpeer
