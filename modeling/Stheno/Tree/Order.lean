import Stheno.Tree.Search

/-!
# The first position with a property

A search of a slotted tree prefers the positions at some distances from its root to those
at others and, at one distance, the position furthest to the left.  The lemmas follow a
loop over the slots of a node that keeps the best answer of the children it has seen.
-/

namespace Stheno.Tree.SlotTree

universe u

variable {α : Type u}

/-- Positions in the order of the slots that lead to them, a node before those below it. -/
def LeftOf (first second : Path) : Prop :=
  List.Lex (· < ·) first second

theorem leftOf_cons_iff {i j : Nat} {first second : Path} :
    LeftOf (i :: first) (j :: second) ↔ i < j ∨ i = j ∧ LeftOf first second :=
  List.cons_lex_cons_iff

theorem not_leftOf_nil (path : Path) : ¬LeftOf path [] := by
  rintro ⟨⟩

/-! ## Positions of nodes that pass a test -/

/-- The node at a position passes a test. -/
def Passes (test : SlotTree α → Prop) (t : SlotTree α) (path : Path) : Prop :=
  ∃ n, t.at? path = some n ∧ test n

section Passes

variable {test : SlotTree α → Prop} {t c : SlotTree α} {i : Nat} {path : Path}

theorem passes_nil_iff : Passes test t [] ↔ test t := by
  constructor
  · rintro ⟨n, found, passes⟩
    rw [at?_nil, Option.some.injEq] at found
    exact found ▸ passes
  · intro passes
    exact ⟨t, at?_nil t, passes⟩

theorem passes_cons_iff (held : t.child i = some c) : Passes test t (i :: path) ↔ Passes test c path := by
  rw [Passes, Passes, at?_cons, held, Option.bind_some]

theorem exists_child_of_passes (passes : Passes test t (i :: path)) : ∃ c, t.child i = some c := by
  rcases passes with ⟨n, found, -⟩
  rw [at?_cons] at found
  rcases Option.bind_eq_some_iff.mp found with ⟨c, held, -⟩
  exact ⟨c, held⟩

/-- The same for the positions through the slots before `i`. -/
def PassesBefore (test : SlotTree α → Prop) (t : SlotTree α) (i : Nat) (path : Path) : Prop :=
  ∃ j rest, path = j :: rest ∧ j < i ∧ Passes test t path

theorem not_passesBefore_zero : ¬PassesBefore test t 0 path := by
  rintro ⟨j, rest, -, impossible, -⟩
  exact Nat.not_lt_zero j impossible

theorem passesBefore_succ_iff : PassesBefore test t (i + 1) path ↔
    PassesBefore test t i path ∨ ∃ rest, path = i :: rest ∧ Passes test t path := by
  constructor
  · rintro ⟨j, rest, equal, before, passes⟩
    rcases Nat.lt_or_eq_of_le (Nat.le_of_lt_succ before) with earlier | rfl
    · exact Or.inl ⟨j, rest, equal, earlier, passes⟩
    · exact Or.inr ⟨rest, equal, passes⟩
  · rintro (⟨j, rest, equal, before, passes⟩ | ⟨rest, equal, passes⟩)
    · exact ⟨j, rest, equal, Nat.lt_succ_of_lt before, passes⟩
    · exact ⟨i, rest, equal, Nat.lt_succ_self i, passes⟩

theorem passes_iff : Passes test t path ↔
    (path = [] ∧ test t) ∨ PassesBefore test t t.slots.length path := by
  constructor
  · intro passes
    cases path with
    | nil => exact Or.inl ⟨rfl, passes_nil_iff.mp passes⟩
    | cons j rest =>
        rcases exists_child_of_passes passes with ⟨c, held⟩
        have bound := (List.getElem?_eq_some_iff.mp (child_eq_some_iff.mp held)).1
        exact Or.inr ⟨j, rest, rfl, bound, passes⟩
  · rintro (⟨rfl, passes⟩ | ⟨j, rest, -, -, passes⟩)
    · exact passes_nil_iff.mpr passes
    · exact passes

end Passes

/-! ## The first position -/

/-- An order of distances in which a search may prefer them. -/
structure Preference (ahead : Nat → Nat → Prop) : Prop where
  trans : ∀ {a b c}, ahead a b → ahead b c → ahead a c
  succ : ∀ {a b}, ahead a b → ahead (a + 1) (b + 1)

theorem preference_lt : Preference (· < ·) :=
  ⟨Nat.lt_trans, Nat.succ_lt_succ⟩

theorem preference_gt : Preference (· > ·) :=
  ⟨fun first second => Nat.lt_trans second first, Nat.succ_lt_succ⟩

/-- A position with a property, no other one at a distance that is preferred, and none at
the same distance to the left. -/
structure IsFirst (ahead : Nat → Nat → Prop) (holds : Path → Prop) (path : Path) : Prop where
  here : holds path
  first : ∀ other, holds other →
    ahead path.length other.length ∨ path.length = other.length ∧ ¬LeftOf other path

/-- The answer of a search below a node at a depth: a position with its depth. -/
def Answers (ahead : Nat → Nat → Prop) (holds : Path → Prop) (depth : Int) :
    Option (Path × Int) → Prop
  | none => ∀ path, ¬holds path
  | some found => found.2 = depth + found.1.length ∧ IsFirst ahead holds found.1

variable {ahead : Nat → Nat → Prop} {holds keeps : Path → Prop} {test : SlotTree α → Prop}
  {t c : SlotTree α} {i : Nat} {depth : Int}

theorem Answers.congr {answer : Option (Path × Int)} (answers : Answers ahead holds depth answer)
    (same : ∀ path, holds path ↔ keeps path) : Answers ahead keeps depth answer := by
  have equal : holds = keeps := funext fun path => propext (same path)
  exact equal ▸ answers

/-- The loop passes a slot below which nothing passes the test. -/
theorem Answers.skip {cur : Option (Path × Int)}
    (answers : Answers ahead (PassesBefore test t i) depth cur)
    (nothing : ∀ rest, ¬Passes test t (i :: rest)) :
    Answers ahead (PassesBefore test t (i + 1)) depth cur := by
  apply answers.congr
  intro path
  rw [passesBefore_succ_iff, or_iff_left]
  rintro ⟨rest, rfl, passes⟩
  exact nothing rest passes

theorem nothing_of_empty (empty : t.child i = none) (rest : Path) : ¬Passes test t (i :: rest) := by
  intro passes
  rcases exists_child_of_passes passes with ⟨c, held⟩
  cases empty.symm.trans held

theorem nothing_of_none (held : t.child i = some c)
    (below : Answers ahead (Passes test c) (depth + 1) none) (rest : Path) :
    ¬Passes test t (i :: rest) :=
  fun passes => below rest ((passes_cons_iff held).mp passes)

/-- The loop keeps its answer, which is preferred to that of the child or as good. -/
theorem Answers.keep (preference : Preference ahead) {cur ret : Path × Int}
    (answers : Answers ahead (PassesBefore test t i) depth (some cur)) (held : t.child i = some c)
    (below : Answers ahead (Passes test c) (depth + 1) (some ret))
    (kept : ahead cur.1.length (ret.1.length + 1) ∨ cur.1.length = ret.1.length + 1) :
    Answers ahead (PassesBefore test t (i + 1)) depth (some cur) := by
  rcases answers with ⟨depthCur, holdsCur, firstCur⟩
  refine ⟨depthCur, passesBefore_succ_iff.mpr (Or.inl holdsCur), ?_⟩
  intro other passes
  rcases passesBefore_succ_iff.mp passes with before | ⟨rest, rfl, through⟩
  · exact firstCur other before
  · have passesRest := (passes_cons_iff held).mp through
    have notLeft : ¬LeftOf (i :: rest) cur.1 := by
      rcases holdsCur with ⟨j, restCur, equal, before, -⟩
      rw [equal, leftOf_cons_iff]
      rintro (less | ⟨same, -⟩)
      · exact Nat.lt_asymm before less
      · exact Nat.ne_of_gt before same
    rw [List.length_cons]
    rcases below.2.first rest passesRest with further | ⟨level, -⟩
    · rcases kept with preferred | equal
      · exact Or.inl (preference.trans preferred (preference.succ further))
      · exact Or.inl (equal ▸ preference.succ further)
    · rcases kept with preferred | equal
      · exact Or.inl (level ▸ preferred)
      · exact Or.inr ⟨level ▸ equal, notLeft⟩

/-- The loop takes the answer of the child, which is preferred to what it had. -/
theorem Answers.take (preference : Preference ahead) {cur : Option (Path × Int)}
    {ret : Path × Int} (answers : Answers ahead (PassesBefore test t i) depth cur)
    (held : t.child i = some c) (below : Answers ahead (Passes test c) (depth + 1) (some ret))
    (taken : ∀ old, cur = some old → ahead (ret.1.length + 1) old.1.length) :
    Answers ahead (PassesBefore test t (i + 1)) depth (some (i :: ret.1, ret.2)) := by
  rcases below with ⟨depthRet, passesRet, firstRet⟩
  refine ⟨?_, passesBefore_succ_iff.mpr (Or.inr ⟨ret.1, rfl, (passes_cons_iff held).mpr passesRet⟩), ?_⟩
  · rw [List.length_cons, Int.natCast_succ, depthRet]
    omega
  · intro other passes
    rcases passesBefore_succ_iff.mp passes with before | ⟨rest, rfl, through⟩
    · cases cur with
      | none => exact absurd before (answers other)
      | some old =>
          have preferred := taken old rfl
          rcases answers.2.first other before with further | ⟨level, -⟩
          · exact Or.inl (preference.trans preferred further)
          · exact Or.inl (level ▸ preferred)
    · rcases firstRet rest ((passes_cons_iff held).mp through) with further | ⟨level, notLeft⟩
      · exact Or.inl (preference.succ further)
      · refine Or.inr ⟨congrArg Nat.succ level, ?_⟩
        intro left
        rcases leftOf_cons_iff.mp left with less | ⟨-, left⟩
        · exact Nat.lt_irrefl i less
        · exact notLeft left

/-! ## The first position in preorder -/

/-- One round of a loop over the slots. -/
theorem getElem?_of_drop {β : Type*} {slots rest : List β} {slot : β} {i : Nat}
    (split : slots.drop i = slot :: rest) : slots[i]? = some slot ∧ slots.drop (i + 1) = rest := by
  constructor
  · rw [← List.head?_drop, split, List.head?_cons]
  · rw [← List.tail_drop, split, List.tail_cons]

/-- The loop of the preorder search from slot `i` on, with nothing to the left of it. -/
theorem findPathInSlots_leftmost {test : α → Bool} {t : SlotTree α}
    (each : ∀ i c, t.child i = some c → ∀ path other, c.findPath test = some path →
      Passes (fun n => test n.label = true) c other → ¬LeftOf other path)
    {rest : List (Option (SlotTree α))} {i : Nat} (split : t.slots.drop i = rest)
    (nothing : ∀ other, ¬PassesBefore (fun n => test n.label = true) t i other) {path : Path}
    (found : findPathInSlots test i rest = some path) {j : Nat} {other : Path}
    (passes : Passes (fun n => test n.label = true) t (j :: other)) :
    ¬LeftOf (j :: other) path := by
  induction rest generalizing i with
  | nil => cases found
  | cons slot rest inductionHypothesis =>
      rcases getElem?_of_drop split with ⟨here, next⟩
      cases slot with
      | none =>
          rw [findPathInSlots] at found
          apply inductionHypothesis next _ found
          intro path before
          rcases passesBefore_succ_iff.mp before with earlier | ⟨below, rfl, through⟩
          · exact nothing path earlier
          · apply nothing_of_empty _ below through
            rw [child, here]
            rfl
      | some c =>
          have held : t.child i = some c := child_eq_some_iff.mpr here
          rw [findPathInSlots] at found
          cases below : c.findPath test with
          | none =>
              rw [below] at found
              apply inductionHypothesis next _ found
              intro path before
              rcases passesBefore_succ_iff.mp before with earlier | ⟨rest, rfl, through⟩
              · exact nothing path earlier
              · rcases (passes_cons_iff held).mp through with ⟨n, atRest, passes⟩
                have member := mem_labels_iff.mpr ⟨n, mem_nodes_of_at? atRest, rfl⟩
                rw [findPath_eq_none_iff.mp below n.label member] at passes
                cases passes
          | some inChild =>
              rw [below] at found
              obtain rfl := Option.some.inj found
              rw [leftOf_cons_iff]
              rintro (less | ⟨rfl, left⟩)
              · exact nothing _ ⟨j, other, rfl, less, passes⟩
              · exact each j c held inChild other below ((passes_cons_iff held).mp passes) left

/-- The preorder search answers with the leftmost position that passes the test. -/
theorem findPath_leftmost {test : α → Bool} {t : SlotTree α} {path other : Path}
    (found : t.findPath test = some path)
    (passes : Passes (fun n => test n.label = true) t other) : ¬LeftOf other path := by
  induction t using SlotTree.induction generalizing path other with
  | node a slots inductionHypothesis =>
      rw [findPath_node] at found
      by_cases here : test a = true
      · rw [if_pos here] at found
        obtain rfl := Option.some.inj found
        exact not_leftOf_nil other
      · rw [if_neg here] at found
        cases other with
        | nil => exact absurd (passes_nil_iff.mp passes) here
        | cons j other =>
            apply @findPathInSlots_leftmost α test (.node a slots) _ slots 0 rfl _ path found j other passes
            · intro i c held path other found passes
              exact inductionHypothesis c (mem_slots_of_child held) found passes
            · exact fun other => not_passesBefore_zero

end Stheno.Tree.SlotTree
