import Mathlib.Data.List.Perm.Basic
import Mathlib.Data.List.Nodup
import Stheno.Flood
import Stheno.Superpeer.Handlers

/-!
# The way of an update through the mesh

A peer hands its updates to the coordinator of its cell, and each coordinator hands
them to the coordinator of the parent cell and to the members of its follower group,
except the one that they came from.  On the chain from the cell of the peer to the
root these channels form a tree with the peer at its root: no two links lead to one
peer, and every coordinator and follower is behind the peer.
-/

namespace Stheno.Superpeer

open Peer

/-- A cell with the peers at the ends of its channels: the coordinator and the members
of `m_cellFollowerGroup`. -/
structure CellLinks where
  coordinator : UUID
  followers : List UUID

namespace CellLinks

def members (this : CellLinks) : List UUID :=
  this.coordinator :: this.followers

/-- The coordinator of the parent cell, the other end of `m_parentChannel`. -/
def parent (above : List CellLinks) : List UUID :=
  (above.head?.map coordinator).toList

end CellLinks

/-- The peers to which `pid` passes an update from `srcPID` on; a peer that is no
coordinator passes nothing on. -/
def passOn : List CellLinks → UUID → UUID → List UUID
  | [], _, _ => []
  | cell :: above, srcPID, pid =>
      if cell.coordinator = pid then
        CellLinks.parent above ++ Cell.groupMembers cell.followers srcPID
      else
        passOn above srcPID pid

/-- The channels from the coordinators of a chain. -/
def links : List CellLinks → List (UUID × UUID)
  | [] => []
  | cell :: above =>
      (cell.followers ++ CellLinks.parent above).map (fun dst => (cell.coordinator, dst)) ++
        links above

theorem mem_links_cons {cell : CellLinks} {above : List CellLinks} {src dst : UUID} :
    (src, dst) ∈ links (cell :: above) ↔
      (src = cell.coordinator ∧ (dst ∈ cell.followers ∨ dst ∈ CellLinks.parent above)) ∨
        (src, dst) ∈ links above := by
  rw [links, List.mem_append, List.mem_map]
  constructor
  · rintro (⟨other, member, equal⟩ | higher)
    · cases equal
      exact Or.inl ⟨rfl, List.mem_append.mp member⟩
    · exact Or.inr higher
  · rintro (⟨rfl, member⟩ | higher)
    · exact Or.inl ⟨dst, List.mem_append.mpr member, rfl⟩
    · exact Or.inr higher

/-- Links start at coordinators. -/
theorem coordinator_of_mem_links {chain : List CellLinks} {src dst : UUID}
    (linked : (src, dst) ∈ links chain) : src ∈ chain.map CellLinks.coordinator := by
  induction chain with
  | nil => cases linked
  | cons cell above inductionHypothesis =>
      rcases mem_links_cons.mp linked with ⟨rfl, -⟩ | higher
      · exact List.mem_cons_self
      · exact List.mem_cons_of_mem _ (inductionHypothesis higher)

/-- Every peer of a chain but the first coordinator is the end of one link. -/
theorem targets_perm (cell : CellLinks) (above : List CellLinks) :
    (cell.coordinator :: (links (cell :: above)).map Prod.snd).Perm
      ((cell :: above).flatMap CellLinks.members) := by
  induction above generalizing cell with
  | nil =>
      simp only [links, CellLinks.parent, List.head?_nil, Option.map_none, Option.toList_none,
        List.append_nil, List.map_map, List.flatMap_cons, List.flatMap_nil, CellLinks.members]
      exact List.Perm.of_eq (congrArg _ (List.map_id _))
  | cons next above inductionHypothesis =>
      have ends : (links (cell :: next :: above)).map Prod.snd =
          cell.followers ++ next.coordinator :: (links (next :: above)).map Prod.snd := by
        rw [links, List.map_append, List.map_map]
        have targets : (Prod.snd ∘ fun dst => (cell.coordinator, dst)) = (id : UUID → UUID) := rfl
        rw [targets, List.map_id]
        simp [CellLinks.parent]
      rw [ends, List.flatMap_cons, CellLinks.members, List.cons_append]
      exact ((inductionHypothesis next).append_left cell.followers).cons _

theorem coordinator_mem_members {chain : List CellLinks} {pid : UUID}
    (coordinates : pid ∈ chain.map CellLinks.coordinator) :
    pid ∈ chain.flatMap CellLinks.members := by
  rcases List.mem_map.mp coordinates with ⟨cell, member, rfl⟩
  exact List.mem_flatMap.mpr ⟨cell, member, List.mem_cons_self⟩

theorem Cell.mem_groupMembers {members : List UUID} {uuid pid : UUID} :
    pid ∈ Cell.groupMembers members uuid ↔ pid ∈ members ∧ pid ≠ uuid := by
  rw [Cell.groupMembers, List.mem_filter, Bool.not_eq_true', Bool.eq_false_iff, ne_eq,
    UUID.sameKey_iff]

/-- What a coordinator passes on goes over its links. -/
theorem mem_links_of_mem_passOn {chain : List CellLinks} {srcPID pid dst : UUID}
    (passed : dst ∈ passOn chain srcPID pid) : (pid, dst) ∈ links chain := by
  induction chain with
  | nil => cases passed
  | cons cell above inductionHypothesis =>
      rw [mem_links_cons]
      unfold passOn at passed
      split at passed
      · rename_i here
        refine Or.inl ⟨here.symm, ?_⟩
        rcases List.mem_append.mp passed with up | aside
        · exact Or.inr up
        · exact Or.inl (List.mem_of_mem_filter aside)
      · exact Or.inr (inductionHypothesis passed)

/-- Each link of a coordinator is served, except the one that the update came over. -/
theorem mem_passOn_of_mem_links {chain : List CellLinks} {srcPID pid dst : UUID}
    (distinct : (chain.flatMap CellLinks.members).Nodup) (linked : (pid, dst) ∈ links chain)
    (other : dst ≠ srcPID) : dst ∈ passOn chain srcPID pid := by
  induction chain with
  | nil => cases linked
  | cons cell above inductionHypothesis =>
      rw [List.flatMap_cons, List.nodup_append] at distinct
      unfold passOn
      rcases mem_links_cons.mp linked with ⟨rfl, aside | up⟩ | higher
      · rw [if_pos rfl]
        apply List.mem_append_right
        exact Cell.mem_groupMembers.mpr ⟨aside, other⟩
      · rw [if_pos rfl]
        exact List.mem_append_left _ up
      · have apart : cell.coordinator ≠ pid :=
          distinct.2.2 _ List.mem_cons_self _ (coordinator_mem_members (coordinator_of_mem_links higher))
        rw [if_neg apart]
        exact inductionHypothesis distinct.2.1 higher

theorem member_of_mem_links {cell : CellLinks} {above : List CellLinks} {src dst : UUID}
    (linked : (src, dst) ∈ links (cell :: above)) :
    dst ∈ (cell :: above).flatMap CellLinks.members :=
  (targets_perm cell above).subset
    (List.mem_cons_of_mem _ (List.mem_map.mpr ⟨_, linked, rfl⟩))

/-- No link leads to the first coordinator. -/
theorem notMem_links_coordinator {cell : CellLinks} {above : List CellLinks}
    (distinct : ((cell :: above).flatMap CellLinks.members).Nodup) (src : UUID) :
    (src, cell.coordinator) ∉ links (cell :: above) := by
  intro linked
  have targets := (targets_perm cell above).nodup_iff.mpr distinct
  exact (List.nodup_cons.mp targets).1 (List.mem_map.mpr ⟨_, linked, rfl⟩)

/-- Links lead away from the first coordinator. -/
theorem links_asymm {chain : List CellLinks} (distinct : (chain.flatMap CellLinks.members).Nodup)
    {src dst : UUID} (linked : (src, dst) ∈ links chain) : (dst, src) ∉ links chain := by
  induction chain with
  | nil => cases linked
  | cons cell above inductionHypothesis =>
      intro back
      have apart := distinct
      rw [List.flatMap_cons, List.nodup_append] at apart
      rcases mem_links_cons.mp linked with ⟨rfl, -⟩ | higher
      · exact notMem_links_coordinator distinct dst back
      · rcases mem_links_cons.mp back with ⟨rfl, -⟩ | backHigher
        · exact notMem_links_coordinator distinct src linked
        · exact inductionHypothesis apart.2.1 higher backHigher

/-- The way from a peer to the root of the mesh: the peer, its cell, and the cells from
there to the root.  A peer belongs to one cell. -/
structure Route where
  pid : UUID
  fid : CellID
  cell : CellLinks
  above : List CellLinks
  home : pid ∈ cell.members
  distinct : ((cell :: above).flatMap CellLinks.members).Nodup

namespace Route

variable (route : Route)

def chain : List CellLinks :=
  route.cell :: route.above

/-- The peers of the cells from the peer to the root. -/
def peers : List UUID :=
  route.chain.flatMap CellLinks.members

/-- The peers to which `updateState` sends an update: those of a coordinator, or the
other end of `m_client`. -/
def outlets : List UUID :=
  if route.cell.coordinator = route.pid then passOn route.chain route.pid route.pid
  else [route.cell.coordinator]

/-- An update of the peer may be under way from the one to the other. -/
def Link (src dst : UUID) : Prop :=
  dst ≠ route.pid ∧
    ((src = route.pid ∧ dst = route.cell.coordinator) ∨ (src, dst) ∈ links route.chain)

variable {route}

/-- The peer coordinates no cell but its own. -/
theorem coordinator_eq (coordinates : route.pid ∈ route.chain.map CellLinks.coordinator) :
    route.cell.coordinator = route.pid := by
  rcases List.mem_cons.mp coordinates with here | higher
  · exact here.symm
  · have apart := route.distinct
    rw [List.flatMap_cons, List.nodup_append] at apart
    exact absurd rfl (apart.2.2 _ route.home _ (coordinator_mem_members higher))

theorem links_single {first second dst : UUID} (linked : (first, dst) ∈ links route.chain)
    (other : (second, dst) ∈ links route.chain) : first = second := by
  have targets := (targets_perm route.cell route.above).nodup_iff.mpr route.distinct
  have same := List.inj_on_of_nodup_map (List.nodup_cons.mp targets).2 linked other rfl
  exact congrArg Prod.fst same

/-- No two links lead to one peer. -/
theorem Link.single {first second dst : UUID} (linked : route.Link first dst)
    (other : route.Link second dst) : first = second := by
  rcases linked with ⟨-, ⟨rfl, rfl⟩ | below⟩
  · rcases other with ⟨-, ⟨rfl, -⟩ | below⟩
    · rfl
    · exact absurd below (notMem_links_coordinator route.distinct second)
  · rcases other with ⟨-, ⟨rfl, rfl⟩ | otherBelow⟩
    · exact absurd below (notMem_links_coordinator route.distinct first)
    · exact links_single below otherBelow

theorem Link.loopless (pid : UUID) : ¬route.Link pid pid := by
  rintro ⟨other, ⟨rfl, -⟩ | below⟩
  · exact other rfl
  · exact links_asymm route.distinct below below

theorem Link.mem_peers {src dst : UUID} (linked : route.Link src dst) : dst ∈ route.peers := by
  rcases linked with ⟨-, ⟨-, rfl⟩ | below⟩
  · exact List.mem_append_left _ List.mem_cons_self
  · exact member_of_mem_links below

/-- A link starts at the peer or at a coordinator. -/
theorem Link.source {src dst : UUID} (linked : route.Link src dst) :
    src = route.pid ∨ src ∈ route.chain.map CellLinks.coordinator := by
  rcases linked with ⟨-, ⟨rfl, -⟩ | below⟩
  · exact Or.inl rfl
  · exact Or.inr (coordinator_of_mem_links below)

/-- The peer sends its updates over its own links. -/
theorem mem_outlets_iff {dst : UUID} : dst ∈ route.outlets ↔ route.Link route.pid dst := by
  unfold outlets Link
  by_cases coordinates : route.cell.coordinator = route.pid
  · rw [if_pos coordinates]
    constructor
    · intro passed
      have below := mem_links_of_mem_passOn passed
      refine ⟨?_, Or.inr below⟩
      rintro rfl
      exact links_asymm route.distinct below below
    · rintro ⟨other, ⟨-, rfl⟩ | below⟩
      · exact absurd coordinates other
      · exact mem_passOn_of_mem_links route.distinct below other
  · rw [if_neg coordinates, List.mem_singleton]
    constructor
    · rintro rfl
      exact ⟨coordinates, Or.inl ⟨rfl, rfl⟩⟩
    · rintro ⟨other, ⟨-, rfl⟩ | below⟩
      · rfl
      · exact absurd (coordinator_eq (coordinator_of_mem_links below)) coordinates

/-- A peer that got an update over a link passes it on over its own links. -/
theorem mem_passOn_iff {src pid dst : UUID} (linked : route.Link src pid) :
    dst ∈ passOn route.chain src pid ↔ route.Link pid dst := by
  constructor
  · intro passed
    have below := mem_links_of_mem_passOn passed
    refine ⟨?_, Or.inr below⟩
    rintro rfl
    rcases linked with ⟨other, ⟨rfl, rfl⟩ | linkedBelow⟩
    · rw [chain, passOn, if_pos rfl] at passed
      rcases List.mem_append.mp passed with up | aside
      · have apart := route.distinct
        rw [List.flatMap_cons, List.nodup_append] at apart
        cases higher : route.above with
        | nil =>
            rw [higher] at up
            cases up
        | cons next rest =>
            rw [higher] at up apart
            apply apart.2.2 _ route.home _ (coordinator_mem_members _) rfl
            rw [List.mem_singleton.mp up]
            exact List.mem_cons_self
      · exact (Cell.mem_groupMembers.mp aside).2 rfl
    · -- only the coordinator of the peer's cell links to the peer, and nothing links there
      rcases List.mem_cons.mp route.home with coordinates | follows
      · rw [coordinates] at below
        exact notMem_links_coordinator route.distinct pid below
      · have home : (route.cell.coordinator, route.pid) ∈ links route.chain :=
          mem_links_cons.mpr (Or.inl ⟨rfl, Or.inl follows⟩)
        rw [links_single below home] at linkedBelow
        exact notMem_links_coordinator route.distinct src linkedBelow
  · rintro ⟨other, ⟨same, -⟩ | below⟩
    · exact absurd same linked.1
    · apply mem_passOn_of_mem_links route.distinct below
      rintro rfl
      rcases linked with ⟨-, ⟨same, -⟩ | linkedBelow⟩
      · exact other same
      · exact links_asymm route.distinct below linkedBelow

/-- The coordinators above a cell are behind its coordinator. -/
theorem reaches_above {cell : CellLinks} {above : List CellLinks}
    (within : ∀ src dst, (src, dst) ∈ links (cell :: above) → (src, dst) ∈ links route.chain)
    (coordinates : ∀ next ∈ above, next.coordinator ∈ route.chain.map CellLinks.coordinator ∧
      next.coordinator ≠ route.pid) {pid : UUID}
    (member : pid ∈ (cell :: above).map CellLinks.coordinator) :
    Relation.ReflTransGen (fun src dst => route.Link src dst ∧
      dst ∈ route.chain.map CellLinks.coordinator) cell.coordinator pid := by
  induction above generalizing cell with
  | nil =>
      rw [List.mem_singleton.mp member]
  | cons next above inductionHypothesis =>
      rcases List.mem_cons.mp member with rfl | higher
      · exact .refl
      · have step := coordinates next List.mem_cons_self
        apply Relation.ReflTransGen.head
        · constructor
          · refine ⟨step.2, Or.inr (within _ _ (mem_links_cons.mpr (Or.inl ⟨rfl, Or.inr ?_⟩)))⟩
            exact List.mem_singleton.mpr rfl
          · exact step.1
        · apply inductionHypothesis _ _ higher
          · intro src dst linked
            exact within src dst (mem_links_cons.mpr (Or.inr linked))
          · intro other held
            exact coordinates other (List.mem_cons_of_mem _ held)

/-- Every coordinator is behind the peer, over coordinators. -/
theorem reaches_coordinator {pid : UUID}
    (member : pid ∈ route.chain.map CellLinks.coordinator) :
    Relation.ReflTransGen (fun src dst => route.Link src dst ∧
      dst ∈ route.chain.map CellLinks.coordinator) route.pid pid := by
  have higher : Relation.ReflTransGen (fun src dst => route.Link src dst ∧
      dst ∈ route.chain.map CellLinks.coordinator) route.cell.coordinator pid := by
    apply reaches_above (fun _ _ linked => linked) _ member
    intro next held
    refine ⟨List.mem_cons_of_mem _ (List.mem_map_of_mem held), ?_⟩
    rintro same
    have apart := route.distinct
    rw [List.flatMap_cons, List.nodup_append] at apart
    exact apart.2.2 _ route.home _ (coordinator_mem_members (List.mem_map_of_mem held)) same.symm
  by_cases coordinates : route.cell.coordinator = route.pid
  · rw [← coordinates]
    exact higher
  · exact .head ⟨⟨coordinates, Or.inl ⟨rfl, rfl⟩⟩, List.mem_cons_self⟩ higher

/-- Every other peer is at the end of a link of a coordinator. -/
theorem link_of_follower {cell : CellLinks} (held : cell ∈ route.chain) {pid : UUID}
    (follows : pid ∈ cell.followers) (other : pid ≠ route.pid) :
    route.Link cell.coordinator pid := by
  refine ⟨other, Or.inr ?_⟩
  generalize route.chain = chain at held
  induction chain with
  | nil => cases held
  | cons first above inductionHypothesis =>
      rcases List.mem_cons.mp held with rfl | higher
      · exact mem_links_cons.mpr (Or.inl ⟨rfl, Or.inl follows⟩)
      · exact mem_links_cons.mpr (Or.inr (inductionHypothesis higher))

end Route

end Stheno.Superpeer
