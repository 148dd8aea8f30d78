import Stheno.Tree.Slotted

/-!
# Preorder search in slotted trees

`findPath` returns the position of the first node in preorder whose label
satisfies a test.  When a key occurs at most once among the labels, a position
is determined by the key of its node, so the search for that key answers with
the one position that carries it.
-/

namespace Stheno.Tree.SlotTree

universe u v

variable {α : Type u} {κ : Type v}

mutual

/-- The position of the first node in preorder whose label passes `test`. -/
def findPath (test : α → Bool) : SlotTree α → Option Path
  | .node a slots => if test a then some [] else findPathInSlots test 0 slots

/-- The search through an array of slots whose first entry has number `i`. -/
def findPathInSlots (test : α → Bool) (i : Nat) :
    List (Option (SlotTree α)) → Option Path
  | [] => none
  | none :: slots => findPathInSlots test (i + 1) slots
  | some c :: slots =>
      match findPath test c with
      | some path => some (i :: path)
      | none => findPathInSlots test (i + 1) slots

end

theorem findPath_node (test : α → Bool) (a : α) (slots : List (Option (SlotTree α))) :
    (node a slots).findPath test =
      if test a then some [] else findPathInSlots test 0 slots := by
  simp [findPath]

theorem findPath_of_label {t : SlotTree α} {test : α → Bool} (passes : test t.label) :
    t.findPath test = some [] := by
  rw [← node_label_slots t, findPath_node, if_pos passes]

private theorem findPathInSlots_eq_some {test : α → Bool}
    {slots : List (Option (SlotTree α))} {i : Nat} {path : Path}
    (found : findPathInSlots test i slots = some path) :
    ∃ j c rest, slots[j]? = some (some c) ∧ path = (i + j) :: rest ∧
      c.findPath test = some rest := by
  induction slots generalizing i with
  | nil => simp [findPathInSlots] at found
  | cons slot slots ih =>
      have later : findPathInSlots test (i + 1) slots = some path →
          ∃ j c rest, (slot :: slots)[j]? = some (some c) ∧ path = (i + j) :: rest ∧
            c.findPath test = some rest := by
        intro inTail
        obtain ⟨j, c, rest, held, equal, below⟩ := ih inTail
        exact ⟨j + 1, c, rest, by simpa using held, by rw [equal]; congr 1; omega, below⟩
      cases slot with
      | none =>
          rw [findPathInSlots] at found
          exact later found
      | some c =>
          rw [findPathInSlots] at found
          cases below : c.findPath test with
          | some rest =>
              rw [below] at found
              exact ⟨0, c, rest, by simp, by simpa using found.symm, below⟩
          | none =>
              rw [below] at found
              exact later found

/-- The search answers with a position whose node passes the test. -/
theorem findPath_eq_some {test : α → Bool} {t : SlotTree α} {path : Path}
    (found : t.findPath test = some path) :
    ∃ n, t.at? path = some n ∧ test n.label = true := by
  induction t generalizing path with
  | node a slots ih =>
      rw [findPath_node] at found
      by_cases passes : test a = true
      · rw [if_pos passes, Option.some.injEq] at found
        exact ⟨node a slots, by rw [← found, at?_nil], passes⟩
      · rw [if_neg passes] at found
        obtain ⟨j, c, rest, held, equal, below⟩ := findPathInSlots_eq_some found
        have atSlot : (node a slots).child j = some c := child_eq_some_iff.mpr held
        obtain ⟨n, atRest, nPasses⟩ := ih c (List.mem_of_getElem? held) below
        refine ⟨n, ?_, nPasses⟩
        rw [equal, Nat.zero_add, at?_cons, atSlot, Option.bind_some, atRest]

/-- The nodes above the position do not pass the test. -/
theorem findPath_above {test : α → Bool} {t n : SlotTree α} {above rest : Path} {i : Nat}
    (found : t.findPath test = some (above ++ i :: rest)) (atAbove : t.at? above = some n) :
    test n.label = false := by
  have rootFails : ∀ {t : SlotTree α} {j : Nat} {later : Path},
      t.findPath test = some (j :: later) → test t.label = false := by
    intro t j later found
    rw [Bool.eq_false_iff]
    intro passes
    cases (findPath_of_label passes).symm.trans found
  induction above generalizing t with
  | nil =>
      rw [at?_nil, Option.some.injEq] at atAbove
      exact atAbove ▸ rootFails found
  | cons j above ih =>
      have fails := rootFails found
      rw [← node_label_slots t, findPath_node, if_neg (by simp [fails])] at found
      obtain ⟨k, c, below, held, equal, inChild⟩ := findPathInSlots_eq_some found
      obtain ⟨same, later⟩ := List.cons.inj equal
      rw [Nat.zero_add] at same
      rw [at?_cons, same, child_eq_some_iff.mpr held, Option.bind_some] at atAbove
      exact ih (inChild.trans (congrArg some later.symm)) atAbove

private theorem findPathInSlots_eq_none_iff {test : α → Bool}
    {slots : List (Option (SlotTree α))} {i : Nat} :
    findPathInSlots test i slots = none ↔ ∀ c, some c ∈ slots → c.findPath test = none := by
  induction slots generalizing i with
  | nil => simp [findPathInSlots]
  | cons slot slots ih =>
      cases slot with
      | none => simp [findPathInSlots, ih]
      | some c =>
          rw [findPathInSlots]
          cases below : c.findPath test with
          | some rest => simp [below]
          | none => simp [below, ih]

/-- The search fails exactly when no label passes the test. -/
theorem findPath_eq_none_iff {test : α → Bool} {t : SlotTree α} :
    t.findPath test = none ↔ ∀ a ∈ t.labels, test a = false := by
  induction t with
  | node a slots ih =>
      have inSlots : (∀ b ∈ labelsOfSlots slots, test b = false) ↔
          ∀ c, some c ∈ slots → c.findPath test = none := by
        constructor
        · intro failing c member
          refine (ih c member).mpr fun b below => failing b ?_
          rw [labelsOfSlots, nodesOfSlots_eq_flatMap, List.mem_map]
          obtain ⟨n, inNodes, rfl⟩ := mem_labels_iff.mp below
          exact ⟨n, List.mem_flatMap.mpr ⟨some c, member, by simpa using inNodes⟩, rfl⟩
        · intro failing b below
          rw [labelsOfSlots, nodesOfSlots_eq_flatMap, List.mem_map] at below
          obtain ⟨n, inNodes, rfl⟩ := below
          obtain ⟨slot, member, inSlot⟩ := List.mem_flatMap.mp inNodes
          cases slot with
          | none => simp at inSlot
          | some c =>
              exact (ih c member).mp (failing c member) _
                (mem_labels_iff.mpr ⟨n, by simpa using inSlot, rfl⟩)
      rw [findPath_node, labels_node, List.forall_mem_cons, inSlots]
      by_cases passes : test a = true
      · simp [passes]
      · rw [if_neg passes, findPathInSlots_eq_none_iff]
        simp [Bool.eq_false_iff.mpr passes]

theorem exists_findPath_of_mem (test : α → Bool) {t : SlotTree α} {a : α}
    (member : a ∈ t.labels) (passes : test a = true) :
    ∃ path, t.findPath test = some path := by
  cases found : t.findPath test with
  | some path => exact ⟨path, rfl⟩
  | none =>
      have fails := findPath_eq_none_iff.mp found a member
      rw [passes] at fails
      cases fails

/-! ## Keys that occur once -/

private theorem disjoint_of_slot_ne {key : α → κ} {t c d : SlotTree α} {i j : Nat}
    (unique : (t.labels.map key).Nodup) (heldC : t.child i = some c)
    (heldD : t.child j = some d) (below : i < j) {a b : α} (inC : a ∈ c.labels)
    (inD : b ∈ d.labels) : key a ≠ key b := by
  obtain ⟨boundI, entryI⟩ := List.getElem?_eq_some_iff.mp (child_eq_some_iff.mp heldC)
  obtain ⟨boundJ, entryJ⟩ := List.getElem?_eq_some_iff.mp (child_eq_some_iff.mp heldD)
  have inPrefix : some c ∈ t.slots.take j := by
    rw [List.mem_iff_getElem?]
    exact ⟨i, by rw [List.getElem?_take_of_lt below, child_eq_some_iff.mp heldC]⟩
  have split : t.slots = t.slots.take j ++ some d :: t.slots.drop (j + 1) := by
    rw [← entryJ, List.getElem_cons_drop, List.take_append_drop]
  have aBefore : a ∈ labelsOfSlots (t.slots.take j) := by
    rw [labelsOfSlots, nodesOfSlots_eq_flatMap, List.mem_map]
    obtain ⟨n, inNodes, rfl⟩ := mem_labels_iff.mp inC
    exact ⟨n, List.mem_flatMap.mpr ⟨some c, inPrefix, by simpa using inNodes⟩, rfl⟩
  rw [labels_eq, split, labelsOfSlots_append, labelsOfSlots_cons_some, List.map_cons,
    List.nodup_cons, List.map_append, List.map_append, List.nodup_append] at unique
  obtain ⟨_, _, _, apart⟩ := unique
  exact apart (key a) (List.mem_map_of_mem aBefore) (key b)
    (List.mem_append_left _ (List.mem_map_of_mem inD))

private theorem nodup_child {key : α → κ} {t c : SlotTree α} {i : Nat}
    (unique : (t.labels.map key).Nodup) (held : t.child i = some c) :
    (c.labels.map key).Nodup := by
  have found : t.at? [i] = some c := by
    rw [at?_cons, held, Option.bind_some, at?_nil]
  obtain ⟨before, after, whole, _⟩ := exists_labels_split found
  rw [whole, List.map_append, List.map_append] at unique
  exact ((List.nodup_append.mp (List.nodup_append.mp unique).1).2).1

/-- With keys that occur once, the key of a node determines its position. -/
theorem path_eq_of_key_eq {key : α → κ} {t n m : SlotTree α} {first second : Path}
    (unique : (t.labels.map key).Nodup) (foundN : t.at? first = some n)
    (foundM : t.at? second = some m) (equal : key n.label = key m.label) :
    first = second := by
  have rootApart : ∀ {t d x : SlotTree α} {j : Nat}, (t.labels.map key).Nodup →
      t.child j = some d → x ∈ d.nodes → key t.label ≠ key x.label := by
    intro t d x j unique held below same
    rw [labels_eq, List.map_cons, List.nodup_cons] at unique
    apply unique.1
    rw [same, labelsOfSlots, nodesOfSlots_eq_flatMap]
    refine List.mem_map_of_mem (List.mem_map_of_mem ?_)
    exact List.mem_flatMap.mpr ⟨some d, mem_slots_of_child held, by simpa using below⟩
  induction first generalizing t second with
  | nil =>
      rw [at?_nil, Option.some.injEq] at foundN
      cases second with
      | nil => rfl
      | cons j second =>
          rw [at?_cons] at foundM
          obtain ⟨d, held, foundM⟩ := Option.bind_eq_some_iff.mp foundM
          exact absurd (foundN ▸ equal) (rootApart unique held (mem_nodes_of_at? foundM))
  | cons i first ih =>
      rw [at?_cons] at foundN
      obtain ⟨c, heldC, foundN⟩ := Option.bind_eq_some_iff.mp foundN
      cases second with
      | nil =>
          rw [at?_nil, Option.some.injEq] at foundM
          exact absurd (foundM ▸ equal.symm) (rootApart unique heldC (mem_nodes_of_at? foundN))
      | cons j second =>
          rw [at?_cons] at foundM
          obtain ⟨d, heldD, foundM⟩ := Option.bind_eq_some_iff.mp foundM
          have inC := mem_labels_iff.mpr ⟨n, mem_nodes_of_at? foundN, rfl⟩
          have inD := mem_labels_iff.mpr ⟨m, mem_nodes_of_at? foundM, rfl⟩
          rcases Nat.lt_trichotomy i j with below | same | above
          · exact absurd equal (disjoint_of_slot_ne unique heldC heldD below inC inD)
          · subst same
            have sameChild : c = d := Option.some.inj (heldC.symm.trans heldD)
            subst sameChild
            rw [ih (nodup_child unique heldC) foundN foundM]
          · exact absurd equal.symm (disjoint_of_slot_ne unique heldD heldC above inD inC)

/-- The search for a key that occurs once answers with the position of its node. -/
theorem findPath_key [DecidableEq κ] {key : α → κ} {t n : SlotTree α} {path : Path}
    (unique : (t.labels.map key).Nodup) (found : t.at? path = some n) :
    t.findPath (fun a => decide (key a = key n.label)) = some path := by
  obtain ⟨other, foundOther⟩ := exists_findPath_of_mem
    (fun a => decide (key a = key n.label))
    (mem_labels_iff.mpr ⟨n, mem_nodes_of_at? found, rfl⟩) (by simp)
  obtain ⟨m, atOther, passes⟩ := findPath_eq_some foundOther
  rw [foundOther, path_eq_of_key_eq unique atOther found (of_decide_eq_true passes)]

end Stheno.Tree.SlotTree
