import Mathlib.Data.List.Flatten
import Mathlib.Data.List.Induction
import Stheno.Selection
import Stheno.Superpeer.Contents
import Stheno.Superpeer.Queries

/-!
# Sites for a replica

`getPoL` finds a peer as long as there is a superpeer with a load that is not filtered:
the bound of its running minimum excludes no load.
-/

namespace Stheno.Superpeer

open Stheno.Tree Peer

/-- The identifier that a filter excludes. -/
def pidOf (peer : P3PeerInfo) : UUID :=
  peer.pid

namespace CellTree

/-- The superpeers of all cells. -/
def superpeers (this : CellTree) : List P3PeerInfo :=
  this.rootNode.collect fun info => info.getPeersByType P3PeerInfo.SUPERPEER_COORD

/-- The superpeers that can take an instance. -/
def sites (this : CellTree) : List P3PeerInfo :=
  this.superpeers.filter fun peer => load peer ≠ -1

/-- One round of the search, when it is known which identifiers are filtered. -/
def weigh (filtered : UUID → Bool) (least : Least) (peer : P3PeerInfo) : Least :=
  if filtered peer.pid then
    least
  else if load peer ≠ -1 ∧ load peer ≤ least.min then
    { min := load peer, peer := some peer }
  else
    least

/-- The identifiers of a filter. -/
def listed (filter : List UUID) (uuid : UUID) : Bool :=
  uuid ∈ filter

/-- The plain answer: the last of the least loaded superpeers that the filter does not list. -/
def leastLoaded (this : CellTree) (filter : List UUID) : Option P3PeerInfo :=
  (this.superpeers.foldl (weigh (listed filter)) { min := 2 ^ 31 - 1, peer := none }).peer

theorem foldlM_evaluate_eq (filter : List UUID) (least : Least) (labels : List CellInfo) :
    labels.foldlM (evaluate filter) least =
      (labels.flatMap fun info => info.getPeersByType P3PeerInfo.SUPERPEER_COORD).foldlM
        (consider filter) least := by
  induction labels generalizing least with
  | nil => rfl
  | cons info labels ih =>
      rw [List.foldlM_cons, List.flatMap_cons, List.foldlM_append]
      exact congrArg (evaluate filter least info >>= ·) (funext fun least => ih least)

/-- The search is a loop over the superpeers. -/
theorem getPoL_eq_foldlM {t : CellTree} (inv : PointerInv t) (peer : Option P3PeerInfo)
    (filter : List UUID) :
    t.getPoL peer filter =
      (t.superpeers.foldlM (consider filter) { min := 2 ^ 31 - 1, peer }).map Least.peer := by
  rw [getPoL_eq inv, foldlM_evaluate_eq]
  rfl

/-! ## The filter -/

/-- Between identifiers of one length the filter excludes those that it lists. -/
theorem isUUIDInList_of_length_eq {uuid : UUID} {filter : List UUID}
    (sameLength : ∀ other ∈ filter, other.key.length = uuid.key.length) :
    isUUIDInList uuid filter = .ok (listed filter uuid) := by
  induction filter with
  | nil => rfl
  | cons other filter ih =>
      rcases List.forall_mem_cons.mp sameLength with ⟨here, rest⟩
      have later := ih rest
      rw [isUUIDInList, UUID.isEqual_of_length_eq here, later]
      by_cases same : other = uuid
      · subst same
        simp [listed, UUID.sameKey, bind, Except.bind, pure, Except.pure]
      · simp [listed, UUID.sameKey, same, Ne.symm same, bind, Except.bind]

/-- Whether an entry of a filter is a prefix of an identifier. -/
def covered (filter : List UUID) (uuid : UUID) : Bool :=
  filter.any fun other => other.key.isPrefixOf uuid.key

/-- A filter without an entry that is longer than the identifier gives a verdict. -/
theorem isUUIDInList_of_le {uuid : UUID} {filter : List UUID}
    (bounded : ∀ other ∈ filter, other.key.length ≤ uuid.key.length) :
    isUUIDInList uuid filter = .ok (covered filter uuid) := by
  induction filter with
  | nil => rfl
  | cons other filter ih =>
      rcases List.forall_mem_cons.mp bounded with ⟨here, rest⟩
      rw [isUUIDInList, UUID.isEqual, if_pos here, ih rest, covered, covered, List.any_cons]
      cases other.key.isPrefixOf uuid.key with
      | true => rfl
      | false => rfl

/-- An entry without data excludes every identifier. -/
theorem isUUIDInList_of_empty {other : UUID} (empty : other.key = []) (uuid : UUID)
    (filter : List UUID) : isUUIDInList uuid (other :: filter) = .ok true := by
  rw [isUUIDInList, UUID.isEqual_of_empty empty]
  rfl

theorem consider_eq {filtered : UUID → Bool} {filter : List UUID} {peer : P3PeerInfo}
    (verdict : isUUIDInList peer.pid filter = .ok (filtered peer.pid)) (least : Least) :
    consider filter least peer = .ok (weigh filtered least peer) := by
  rw [consider, verdict, weigh]
  change (if filtered peer.pid = true then _ else _) = _
  split
  · rfl
  · split
    · rfl
    · rfl

/-- The search when it is known which superpeers the filter excludes. -/
theorem getPoL_eq_weigh {t : CellTree} (inv : PointerInv t) {filtered : UUID → Bool}
    {filter : List UUID}
    (verdicts : ∀ peer ∈ t.superpeers, isUUIDInList peer.pid filter = .ok (filtered peer.pid))
    (peer : Option P3PeerInfo) :
    t.getPoL peer filter =
      .ok (t.superpeers.foldl (weigh filtered) { min := 2 ^ 31 - 1, peer }).peer := by
  rw [getPoL_eq_foldlM inv, Result.foldlM_eq_ok fun other member => consider_eq (verdicts other member)]
  rfl

theorem getPoL_eq_leastLoaded {t : CellTree} (inv : PointerInv t) {filter : List UUID}
    (sameLength : ∀ peer ∈ t.superpeers, ∀ other ∈ filter,
      other.key.length = peer.pid.key.length) :
    t.getPoL none filter = .ok (t.leastLoaded filter) :=
  getPoL_eq_weigh inv (fun peer member => isUUIDInList_of_length_eq (sameLength peer member)) none

/-- With an entry without data in the first place nothing is found. -/
theorem getPoL_of_empty {t : CellTree} (inv : PointerInv t) {other : UUID} (empty : other.key = [])
    (peer : Option P3PeerInfo) (filter : List UUID) :
    t.getPoL peer (other :: filter) = .ok peer := by
  have verdicts : ∀ next ∈ t.superpeers,
      isUUIDInList next.pid (other :: filter) = .ok ((fun _ => true) next.pid) :=
    fun next _ => isUUIDInList_of_empty empty next.pid filter
  rw [@getPoL_eq_weigh _ inv (fun _ => true) _ verdicts peer]
  have kept : ∀ (peers : List P3PeerInfo) (least : Least),
      peers.foldl (weigh fun _ => true) least = least := by
    intro peers
    induction peers with
    | nil => exact fun least => rfl
    | cons next peers ih => exact ih
  rw [kept]

/-- Superpeers have other identifiers where all the peers have. -/
theorem nodup_superpeers {t : CellTree} (unique : t.pids.Nodup) :
    (t.superpeers.map pidOf).Nodup := by
  have kept : (t.superpeers.map pidOf).Sublist t.pids := by
    rw [superpeers, pids, SlotTree.collect, SlotTree.collect, List.map_flatMap]
    apply List.Sublist.flatMap_right
    intro info _
    change (info.sps.map pidOf).Sublist (info.pids)
    rw [CellInfo.pids, CellInfo.allPeers, List.append_assoc, List.map_append]
    exact List.sublist_append_left _ _
  exact unique.sublist kept

theorem listed_iff {uuid : UUID} {filter : List UUID} :
    listed filter uuid = true ↔ uuid ∈ filter := by
  simp [listed]

/-- A load is an `int`. -/
theorem load_le (peer : P3PeerInfo) : load peer ≤ 2 ^ 31 - 1 := by
  have bound := @Int.bmod_lt peer.getTotalServicesRunning.toNat (2 ^ 32) (Nat.two_pow_pos 32)
  exact Int.le_of_lt_add_one bound

/-- A peer that the loop takes is a site outside the filter, and while it has none there
was none: the minimum is still the largest number. -/
theorem foldl_weigh (filter : List UUID) (peers : List P3PeerInfo) :
    let least := peers.foldl (weigh (listed filter)) { min := 2 ^ 31 - 1, peer := none }
    (∀ peer, least.peer = some peer →
        (peer ∈ peers ∧ load peer ≠ -1) ∧ peer.pid ∉ filter) ∧
      (least.peer = none → least.min = 2 ^ 31 - 1 ∧
        ∀ peer ∈ peers, load peer ≠ -1 → peer.pid ∈ filter) := by
  induction peers using List.reverseRecOn with
  | nil => simp
  | append_singleton peers last ih =>
      obtain ⟨taken, left⟩ := ih
      rw [List.foldl_append, List.foldl_cons, List.foldl_nil]
      generalize peers.foldl (weigh (listed filter)) { min := 2 ^ 31 - 1, peer := none } = least at taken left
      have kept : ∀ peer, least.peer = some peer →
          (peer ∈ peers ++ [last] ∧ load peer ≠ -1) ∧ peer.pid ∉ filter := by
        intro peer held
        obtain ⟨⟨member, site⟩, outside⟩ := taken peer held
        exact ⟨⟨List.mem_append_left _ member, site⟩, outside⟩
      have still : least.peer = none → (load last ≠ -1 → last.pid ∈ filter) →
          least.min = 2 ^ 31 - 1 ∧ ∀ peer ∈ peers ++ [last], load peer ≠ -1 → peer.pid ∈ filter := by
        intro none filtered
        obtain ⟨min, all⟩ := left none
        refine ⟨min, ?_⟩
        intro peer member
        rcases List.mem_append.mp member with before | isLast
        · exact all peer before
        · rw [List.mem_singleton.mp isLast]
          exact filtered
      rw [weigh]
      split
      next filtered =>
        rw [listed_iff] at filtered
        exact ⟨kept, fun none => still none fun _ => filtered⟩
      next unfiltered =>
        rw [listed_iff] at unfiltered
        split
        next less =>
          constructor
          · rintro peer ⟨⟩
            exact ⟨⟨List.mem_append_right _ List.mem_cons_self, less.1⟩, unfiltered⟩
          · intro impossible
            cases impossible
        next more =>
          refine ⟨kept, fun none => still none fun site => ?_⟩
          rw [(left none).1] at more
          exact absurd ⟨site, load_le last⟩ more

/-- The search as a choice among the sites. -/
theorem chooses_leastLoaded (t : CellTree) : Chooses pidOf t.leastLoaded t.sites where
  chosen := by
    intro filter peer offered
    obtain ⟨⟨member, site⟩, outside⟩ := (foldl_weigh filter t.superpeers).1 peer offered
    exact ⟨List.mem_filter.mpr ⟨member, decide_eq_true site⟩, outside⟩
  exhausted := by
    intro filter none peer isSite
    obtain ⟨member, site⟩ := List.mem_filter.mp isSite
    exact ((foldl_weigh filter t.superpeers).2 none).2 peer member (of_decide_eq_true site)

theorem nodup_sites {t : CellTree} (unique : t.pids.Nodup) :
    (t.sites.map pidOf).Nodup :=
  (nodup_superpeers unique).sublist (List.filter_sublist.map _)

end CellTree

end Stheno.Superpeer
