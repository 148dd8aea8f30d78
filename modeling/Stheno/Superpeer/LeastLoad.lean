import Stheno.Superpeer.RebindChain
import Stheno.Superpeer.Sites

/-!
# The search for the least loaded superpeer

The loop of `getPoL` evaluates every node once, in preorder.  Its answer is that of the
plain recursion, the last of the superpeers with the least load outside the filter, as
long as no entry of the filter is a proper prefix of the identifier that is to be found:
such an entry excludes it, and an entry that is longer than an identifier is compared past
its end.
-/

namespace Stheno.Superpeer

open Stheno.Tree Peer

namespace CellTree

/-- The loop over the superpeers of a node in the plain recursion. -/
def searchCell (filter : List UUID) (least : Least) (info : CellInfo) : Least :=
  (info.getPeersByType P3PeerInfo.SUPERPEER_COORD).foldl (weigh (listed filter)) least

mutual

/-- The plain recursive search. -/
def searchPoL (filter : List UUID) (least : Least) : CellTreeNode → Least
  | .node info slots => searchPoLOfSlots filter (searchCell filter least info) slots

/-- The loop over the children. -/
def searchPoLOfSlots (filter : List UUID) (least : Least) : List (Option CellTreeNode) → Least
  | [] => least
  | none :: slots => searchPoLOfSlots filter least slots
  | some c :: slots => searchPoLOfSlots filter (searchPoL filter least c) slots

end

/-- A superpeer with a load that is not filtered. -/
def Eligible (filtered : UUID → Bool) (peer : P3PeerInfo) : Prop :=
  filtered peer.pid = false ∧ load peer ≠ -1

/-- The last of the eligible peers with the least load, or what there was when there is
none. -/
inductive Finds (peers : List P3PeerInfo) (filtered : UUID → Bool) (peer : Option P3PeerInfo)
    (least : Least) : Prop where
  | untouched (none : ∀ other ∈ peers, ¬Eligible filtered other) (min : least.min = 2 ^ 31 - 1)
      (kept : least.peer = peer)
  | found {before after : List P3PeerInfo} {found : P3PeerInfo}
      (split : peers = before ++ found :: after) (eligible : Eligible filtered found)
      (lowest : ∀ other ∈ before, Eligible filtered other → load found ≤ load other)
      (last : ∀ other ∈ after, Eligible filtered other → load found < load other)
      (min : least.min = load found) (taken : least.peer = some found)

/-! ## The recursion -/

theorem searchPoL_eq (filter : List UUID) (least : Least) (node : CellTreeNode) :
    searchPoL filter least node = node.labels.foldl (searchCell filter) least := by
  induction node using SlotTree.induction generalizing least with
  | node info slots inductionHypothesis =>
      have inSlots : ∀ (rest : List (Option CellTreeNode)) (least : Least),
          (∀ c, some c ∈ rest → some c ∈ slots) → searchPoLOfSlots filter least rest =
            (SlotTree.labelsOfSlots rest).foldl (searchCell filter) least := by
        intro rest
        induction rest with
        | nil =>
            intro least _
            rfl
        | cons slot rest restHypothesis =>
            intro least among
            have amongRest : ∀ c, some c ∈ rest → some c ∈ slots :=
              fun c member => among c (List.mem_cons_of_mem _ member)
            cases slot with
            | none =>
                rw [searchPoLOfSlots, SlotTree.labelsOfSlots_cons_none]
                exact restHypothesis least amongRest
            | some c =>
                rw [searchPoLOfSlots, SlotTree.labelsOfSlots_cons_some, List.foldl_append,
                  restHypothesis _ amongRest, inductionHypothesis c (among c List.mem_cons_self)]
      rw [searchPoL, inSlots slots _ fun c member => member, SlotTree.labels_node, List.foldl_cons]

/-- The recursion goes through the superpeers of the tree. -/
theorem searchPoL_rootNode (t : CellTree) (filter : List UUID) (least : Least) :
    searchPoL filter least t.rootNode = t.superpeers.foldl (weigh (listed filter)) least := by
  rw [searchPoL_eq, superpeers, SlotTree.collect]
  generalize t.rootNode.labels = labels
  induction labels generalizing least with
  | nil => rfl
  | cons info labels inductionHypothesis =>
      rw [List.foldl_cons, List.flatMap_cons, List.foldl_append, inductionHypothesis]
      rfl

/-! ## The last of the least -/

section

variable {filtered : UUID → Bool} {peer : Option P3PeerInfo}

theorem weigh_of_eligible {least : Least} {last : P3PeerInfo} (eligible : Eligible filtered last)
    (less : load last ≤ least.min) :
    weigh filtered least last = { min := load last, peer := some last } := by
  have outside : ¬filtered last.pid = true := by
    rw [eligible.1]
    exact Bool.false_ne_true
  rw [weigh, if_neg outside, if_pos ⟨eligible.2, less⟩]

theorem weigh_of_not {least : Least} {last : P3PeerInfo}
    (passed : Eligible filtered last → ¬load last ≤ least.min) :
    weigh filtered least last = least := by
  rw [weigh]
  split
  next inList => rfl
  next outside =>
    apply if_neg
    rintro ⟨loaded, less⟩
    exact passed ⟨Bool.eq_false_iff.mpr outside, loaded⟩ less

/-- One more superpeer replaces what was found when it is eligible and no more loaded. -/
theorem Finds.weigh {peers : List P3PeerInfo} {least : Least}
    (finds : Finds peers filtered peer least) (last : P3PeerInfo) :
    Finds (peers ++ [last]) filtered peer (weigh filtered least last) := by
  by_cases taken : Eligible filtered last ∧ load last ≤ least.min
  · rw [weigh_of_eligible taken.1 taken.2]
    apply @Finds.found _ _ _ _ peers [] last rfl taken.1 _ _ (by dsimp only) rfl
    · intro other member eligible
      cases finds with
      | untouched none _ _ => exact absurd eligible (none other member)
      | @found before after found split _ lowest later min _ =>
          have less := taken.2
          rw [min] at less
          rw [split] at member
          rcases List.mem_append.mp member with inBefore | inRest
          · exact le_trans less (lowest other inBefore eligible)
          · rcases List.mem_cons.mp inRest with rfl | inAfter
            · exact less
            · exact le_trans less (le_of_lt (later other inAfter eligible))
    · intro other impossible
      cases impossible
  · have passed : Eligible filtered last → ¬load last ≤ least.min := fun eligible less =>
      taken ⟨eligible, less⟩
    rw [weigh_of_not passed]
    cases finds with
    | untouched none min kept =>
        apply Finds.untouched _ min kept
        intro other member eligible
        rcases List.mem_append.mp member with before | isLast
        · exact none other before eligible
        · -- no load is above the largest number
          rw [List.mem_singleton.mp isLast] at eligible
          apply passed eligible
          rw [min]
          exact load_le last
    | @found before after found split eligible lowest later min held =>
        apply @Finds.found _ _ _ _ before (after ++ [last]) found _ eligible lowest _ min held
        · rw [split, List.append_assoc, List.cons_append]
        · intro other member eligibleOther
          rcases List.mem_append.mp member with inAfter | isLast
          · exact later other inAfter eligibleOther
          · rw [List.mem_singleton.mp isLast] at eligibleOther ⊢
            rw [← min]
            exact not_le.mp (passed eligibleOther)

theorem finds_foldl (filtered : UUID → Bool) (peer : Option P3PeerInfo)
    (peers : List P3PeerInfo) :
    Finds peers filtered peer
      (peers.foldl (CellTree.weigh filtered) { min := 2 ^ 31 - 1, peer }) := by
  induction peers using List.reverseRecOn with
  | nil =>
      have none : ∀ other ∈ ([] : List P3PeerInfo), ¬Eligible filtered other := by
        intro other impossible
        cases impossible
      exact .untouched none rfl rfl
  | append_singleton peers last inductionHypothesis =>
      rw [List.foldl_append, List.foldl_cons, List.foldl_nil]
      exact inductionHypothesis.weigh last

/-- Superpeers with more load than what was found do not replace it. -/
theorem foldl_weigh_of_more {least : Least} {peers : List P3PeerInfo}
    (more : ∀ other ∈ peers, Eligible filtered other → least.min < load other) :
    peers.foldl (CellTree.weigh filtered) least = least := by
  induction peers with
  | nil => rfl
  | cons other peers inductionHypothesis =>
      rcases List.forall_mem_cons.mp more with ⟨here, rest⟩
      rw [List.foldl_cons, weigh_of_not fun eligible => not_le.mpr (here eligible)]
      exact inductionHypothesis rest

/-- The last of the least loaded superpeers is found. -/
theorem foldl_weigh_of_split {before after : List P3PeerInfo} {found : P3PeerInfo}
    (eligible : Eligible filtered found)
    (lowest : ∀ other ∈ before, Eligible filtered other → load found ≤ load other)
    (last : ∀ other ∈ after, Eligible filtered other → load found < load other) :
    (before ++ found :: after).foldl (CellTree.weigh filtered) { min := 2 ^ 31 - 1, peer } =
      { min := load found, peer := some found } := by
  have less : load found ≤
      (before.foldl (CellTree.weigh filtered) { min := 2 ^ 31 - 1, peer }).min := by
    cases finds_foldl filtered peer before with
    | untouched none min kept =>
        rw [min]
        exact load_le found
    | @found first rest least split isEligible _ _ min _ =>
        rw [min]
        apply lowest least _ isEligible
        rw [split]
        exact List.mem_append_right _ List.mem_cons_self
  rw [List.foldl_append, List.foldl_cons, weigh_of_eligible eligible less]
  apply foldl_weigh_of_more
  dsimp only
  exact last

/-- A stricter filter gives the same answer when it does not exclude that one. -/
theorem foldl_weigh_of_stricter {stricter : UUID → Bool} {peers : List P3PeerInfo}
    (excludes : ∀ other ∈ peers, filtered other.pid = true → stricter other.pid = true)
    (kept : ∀ found, (peers.foldl (CellTree.weigh filtered) ⟨2 ^ 31 - 1, none⟩).peer = some found →
      stricter found.pid = false) :
    (peers.foldl (CellTree.weigh stricter) ⟨2 ^ 31 - 1, peer⟩).peer =
      (peers.foldl (CellTree.weigh filtered) ⟨2 ^ 31 - 1, peer⟩).peer := by
  have fewer : ∀ other ∈ peers, Eligible stricter other → Eligible filtered other := by
    rintro other member ⟨outside, loaded⟩
    refine ⟨?_, loaded⟩
    rw [Bool.eq_false_iff]
    intro inList
    rw [excludes other member inList] at outside
    cases outside
  cases finds_foldl filtered none peers with
  | untouched noneEligible _ _ =>
      have still := @foldl_weigh_of_more stricter ⟨2 ^ 31 - 1, peer⟩ peers
        fun other member eligible =>
          absurd (fewer other member eligible) (noneEligible other member)
      have plain := @foldl_weigh_of_more filtered ⟨2 ^ 31 - 1, peer⟩ peers
        fun other member eligible => absurd eligible (noneEligible other member)
      rw [still, plain]
  | @found before after found split eligible lowest last min taken =>
      have outside := kept found taken
      subst split
      have inBefore : ∀ other ∈ before, other ∈ before ++ found :: after :=
        fun other member => List.mem_append_left _ member
      have inAfter : ∀ other ∈ after, other ∈ before ++ found :: after :=
        fun other member => List.mem_append_right _ (List.mem_cons_of_mem _ member)
      rw [foldl_weigh_of_split eligible lowest last, foldl_weigh_of_split ⟨outside, eligible.2⟩
        (fun other member isEligible => lowest other member (fewer other (inBefore other member) isEligible))
        (fun other member isEligible => last other member (fewer other (inAfter other member) isEligible))]

end

/-! ## What the filter excludes -/

/-- An entry is a prefix of the identifier. -/
def Covers (other uuid : UUID) : Prop :=
  other.key <+: uuid.key

instance (other uuid : UUID) : Decidable (Covers other uuid) :=
  inferInstanceAs (Decidable (_ <+: _))

/-- The comparisons stay within the identifier: no entry before the first one that covers it is
longer. -/
def FilterEnds (uuid : UUID) : List UUID → Prop
  | [] => True
  | other :: filter => other.key.length ≤ uuid.key.length ∧ (¬Covers other uuid → FilterEnds uuid filter)

theorem isEqual_of_le {other uuid : UUID} (within : other.key.length ≤ uuid.key.length) :
    other.isEqual uuid = .ok (decide (Covers other uuid)) := by
  rw [UUID.isEqual, if_pos within]
  congr 1
  rw [Bool.eq_iff_iff, List.isPrefixOf_iff_prefix, decide_eq_true_iff]
  exact Iff.rfl

theorem covered_iff {filter : List UUID} {uuid : UUID} :
    covered filter uuid = true ↔ ∃ other ∈ filter, Covers other uuid := by
  simp [covered, Covers, List.any_eq_true, List.isPrefixOf_iff_prefix]

/-- The filter gives a verdict where the comparisons stay within the identifier, and excludes it
if an entry covers it. -/
theorem isUUIDInList_eq_ok_iff {uuid : UUID} {filter : List UUID} {verdict : Bool} :
    isUUIDInList uuid filter = .ok verdict ↔ FilterEnds uuid filter ∧ covered filter uuid = verdict := by
  induction filter with
  | nil =>
      rw [isUUIDInList, Except.ok.injEq]
      exact (and_iff_right trivial).symm
  | cons other filter inductionHypothesis =>
      rw [isUUIDInList, FilterEnds, covered, List.any_cons]
      by_cases within : other.key.length ≤ uuid.key.length
      · rw [isEqual_of_le within]
        by_cases covers : Covers other uuid
        · have isPrefix := List.isPrefixOf_iff_prefix.mpr covers
          simp [covers, isPrefix, within, bind, Except.bind, pure, Except.pure]
        · have notPrefix : other.key.isPrefixOf uuid.key = false := by
            rw [Bool.eq_false_iff]
            intro isPrefix
            exact covers (List.isPrefixOf_iff_prefix.mp isPrefix)
          simp only [covers, decide_false, bind, Except.bind, Bool.false_eq_true, if_false, within,
            true_and, not_false_eq_true, true_implies, notPrefix, Bool.false_or]
          exact inductionHypothesis
      · constructor
        · intro impossible
          rw [UUID.isEqual, if_neg within] at impossible
          split at impossible
          · cases impossible
          · cases impossible
        · rintro ⟨⟨impossible, -⟩, -⟩
          exact absurd impossible within

/-- The search stays within the identifiers, and no entry of the filter is a prefix of the one
that is to be found. -/
structure Unmasked (t : CellTree) (filter : List UUID) : Prop where
  within : ∀ peer ∈ t.superpeers, FilterEnds peer.pid filter
  kept : ∀ peer, t.leastLoaded filter = some peer → ∀ other ∈ filter, ¬Covers other peer.pid

/-- Whatever the caller passes as the result, the loop ends, evaluates every node once in
preorder, answers what the recursion answers, and finds the last of the least loaded superpeers
outside the filter. -/
def Searches (t : CellTree) (filter : List UUID) : Prop :=
  ∀ peer, ∃ least, t.getPoL peer filter = .ok least.peer ∧
    t.watchPoL peer filter = .ok (t.rootNode.labels, least.peer) ∧
    searchPoL filter { min := 2 ^ 31 - 1, peer } t.rootNode = least ∧
    Finds t.superpeers (listed filter) peer least

/-- The filter's verdicts, where every comparison stays within its identifier. -/
theorem isUUIDInList_of_within {uuid : UUID} {filter : List UUID} (within : FilterEnds uuid filter) :
    isUUIDInList uuid filter = .ok (covered filter uuid) :=
  isUUIDInList_eq_ok_iff.mpr ⟨within, rfl⟩

theorem watchPoL_of_getPoL {t : CellTree} (inv : PointerInv t) {peer answer : Option P3PeerInfo}
    {filter : List UUID} (answered : t.getPoL peer filter = .ok answer) :
    t.watchPoL peer filter = .ok (t.rootNode.labels, answer) := by
  rw [getPoL_eq inv] at answered
  rcases Result.map_eq_ok.mp answered with ⟨least, evaluated, rfl⟩
  rw [watchPoL_eq inv, evaluated]
  rfl

/-- Where the pointers are right, the search is the plain one exactly when the filter does not
mask its answer. -/
theorem getPoL_finds_iff {t : CellTree} (inv : PointerInv t) (filter : List UUID) :
    Searches t filter ↔ Unmasked t filter := by
  constructor
  · intro searches
    rcases searches none with ⟨least, answered, -, searched, -⟩
    have within : ∀ peer ∈ t.superpeers, FilterEnds peer.pid filter := by
      intro peer member
      rw [getPoL_eq_foldlM inv] at answered
      rcases Result.map_eq_ok.mp answered with ⟨final, ran, -⟩
      rcases Result.exists_of_foldlM ran peer member with ⟨before, after, round⟩
      rcases Result.bind_eq_ok.mp round with ⟨verdict, decided, -⟩
      exact (isUUIDInList_eq_ok_iff.mp decided).1
    refine ⟨within, ?_⟩
    intro peer leastLoaded other member covers
    have verdicts := fun (peer : P3PeerInfo) member => isUUIDInList_of_within (within peer member)
    rw [getPoL_eq_weigh inv verdicts] at answered
    rw [searchPoL_rootNode] at searched
    have taken : (t.superpeers.foldl (weigh (covered filter))
        { min := 2 ^ 31 - 1, peer := none }).peer = some peer := by
      rw [Except.ok.inj answered, ← searched]
      exact leastLoaded
    cases finds_foldl (covered filter) none t.superpeers with
    | untouched _ _ kept =>
        rw [kept] at taken
        cases taken
    | found _ eligible _ _ _ isTaken =>
        rw [isTaken] at taken
        cases taken
        have excluded := covered_iff.mpr ⟨other, member, covers⟩
        rw [eligible.1] at excluded
        cases excluded
  · intro unmasked peer
    have agrees : t.getPoL peer filter =
        .ok (searchPoL filter { min := 2 ^ 31 - 1, peer } t.rootNode).peer := by
      have verdicts := fun (peer : P3PeerInfo) member =>
        isUUIDInList_of_within (unmasked.within peer member)
      rw [getPoL_eq_weigh inv verdicts, searchPoL_rootNode]
      congr 1
      apply foldl_weigh_of_stricter
      · intro other _ inList
        exact covered_iff.mpr ⟨other.pid, listed_iff.mp inList, List.prefix_refl _⟩
      · intro found leastLoaded
        rw [Bool.eq_false_iff]
        intro excluded
        rcases covered_iff.mp excluded with ⟨other, member, covers⟩
        exact unmasked.kept found leastLoaded other member covers
    refine ⟨_, agrees, watchPoL_of_getPoL inv agrees, rfl, ?_⟩
    rw [searchPoL_rootNode]
    exact finds_foldl _ peer t.superpeers

/-- Between identifiers of one length nothing is masked. -/
theorem unmasked_of_length_eq {t : CellTree} {filter : List UUID}
    (sameLength : ∀ peer ∈ t.superpeers, ∀ other ∈ filter,
      other.key.length = peer.pid.key.length) : Unmasked t filter where
  within := by
    intro peer member
    have lengths := sameLength peer member
    generalize peer.pid = uuid at lengths
    induction filter with
    | nil => trivial
    | cons other filter inductionHypothesis =>
        rcases List.forall_mem_cons.mp lengths with ⟨here, rest⟩
        refine ⟨Nat.le_of_eq here, fun _ => inductionHypothesis ?_ rest⟩
        exact fun peer member other inRest => sameLength peer member other (List.mem_cons_of_mem _ inRest)
  kept := by
    intro peer leastLoaded other member covers
    rcases (foldl_weigh filter t.superpeers).1 peer leastLoaded with ⟨⟨inTree, -⟩, outside⟩
    have equal : other = peer.pid :=
      congrArg UUID.mk (covers.eq_of_length (sameLength peer inTree other member))
    rw [equal] at member
    exact outside member

/-- The root cell 1 with the superpeers 11 and 12, which run no services, and an empty cell
2 below it. -/
def idlePair : CellTree :=
  [⟨[11]⟩, ⟨[12]⟩].foldl (fun tree pid => (tree.addPeer (.announced P3PeerInfo.SUPERPEER pid ⟨[1]⟩
      none none none none)).1)
    ((CellTree.new defaults ⟨[1]⟩).createSiblingAt defaults [] ⟨[2]⟩).1

theorem repInv_idlePair : RepInv idlePair :=
  (((RepInv.new defaults ⟨[1]⟩).createSiblingAt defaults [] ⟨[2]⟩).addPeer _).addPeer _

/-- A filter with an identifier that has no key data finds nobody. -/
theorem not_getPoL_finds : ¬∀ (t : CellTree) (filter : List UUID), PointerInv t →
    Searches t filter := by
  intro all
  rcases all idlePair [⟨[]⟩] repInv_idlePair.pointerInv none with ⟨least, answered, -, searched, -⟩
  rw [getPoL_of_empty repInv_idlePair.pointerInv rfl] at answered
  have found : least.peer = some (.announced P3PeerInfo.SUPERPEER ⟨[12]⟩ ⟨[1]⟩ none none none none) := by
    rw [← searched]
    decide
  rw [← Except.ok.inj answered] at found
  cases found

/-- Of two idle superpeers the other one is found when the last is filtered, and none when the
filter has an identifier without key data. -/
theorem getPoL_finds_idlePair :
    Searches idlePair [⟨[12]⟩] ∧ ¬Searches idlePair [⟨[12]⟩, ⟨[]⟩] := by
  constructor
  · rw [getPoL_finds_iff repInv_idlePair.pointerInv]
    exact unmasked_of_length_eq (by decide)
  · rw [getPoL_finds_iff repInv_idlePair.pointerInv]
    intro unmasked
    have eleven : idlePair.leastLoaded [⟨[12]⟩, ⟨[]⟩] =
        some (.announced P3PeerInfo.SUPERPEER ⟨[11]⟩ ⟨[1]⟩ none none none none) := by
      decide
    exact unmasked.kept _ eleven ⟨[]⟩ (by decide) (by decide)

end CellTree

end Stheno.Superpeer
