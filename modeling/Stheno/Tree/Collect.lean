import Stheno.Tree.Edges

/-!
# What the labels of a tree hold

Each label may hold a list of things, and `collect` concatenates these lists in
preorder.  The lemmas say what an update of one position adds to the collection
or takes from it.
-/

namespace Stheno.Tree.SlotTree

universe u v

variable {α : Type u} {β : Type v}

/-- Everything that the labels of a tree hold. -/
def collect (g : α → List β) (t : SlotTree α) : List β :=
  t.labels.flatMap g

theorem mem_collect_iff {g : α → List β} {t : SlotTree α} {b : β} :
    b ∈ t.collect g ↔ ∃ path n, t.at? path = some n ∧ b ∈ g n.label := by
  rw [collect, List.mem_flatMap]
  constructor
  · rintro ⟨a, member, held⟩
    rcases mem_labels_iff.mp member with ⟨n, inNodes, rfl⟩
    rcases exists_at?_of_mem_nodes inNodes with ⟨path, found⟩
    exact ⟨path, n, found, held⟩
  · rintro ⟨path, n, found, held⟩
    exact ⟨n.label, mem_labels_iff.mpr ⟨n, mem_nodes_of_at? found, rfl⟩, held⟩

/-- A tree with a new child in an empty slot. -/
theorem collect_fillAt_perm (g : α → List β) {t n c : SlotTree α} {path : Path} {i : Nat}
    (found : t.at? path = some n) (free : n.slots[i]? = some none) :
    ((t.modifyAt (fun n => n.setSlot i (some c)) path).collect g).Perm
      (c.collect g ++ t.collect g) := by
  have filled := (labels_fillAt_perm (c := c) found free).flatMap_right g
  rwa [List.flatMap_append] at filled

/-- A tree with an emptied slot. -/
theorem collect_clearAt_perm (g : α → List β) {t n c : SlotTree α} {path : Path} {i : Nat}
    (found : t.at? path = some n) (held : n.child i = some c) :
    (t.collect g).Perm
      (c.collect g ++ (t.modifyAt (fun n => n.setSlot i none) path).collect g) := by
  have cleared := (labels_clearAt_perm found held).flatMap_right g
  rwa [List.flatMap_append] at cleared

/-- A tree with one new label. -/
theorem collect_relabelAt (g : α → List β) {t n : SlotTree α} {path : Path}
    (found : t.at? path = some n) :
    ∃ before after, t.collect g = before ++ g n.label ++ after ∧
      ∀ f : α → α, (t.modifyAt (mapLabel f) path).collect g = before ++ g (f n.label) ++ after := by
  rcases exists_labels_relabelAt found with ⟨before, after, whole, updated⟩
  refine ⟨before.flatMap g, after.flatMap g, ?_, ?_⟩
  · rw [collect, whole, List.flatMap_append, List.flatMap_cons, List.append_assoc]
  · intro f
    rw [collect, updated, List.flatMap_append, List.flatMap_cons, List.append_assoc]

/-- A label that holds one thing more. -/
theorem collect_relabelAt_cons_perm (g : α → List β) {t n : SlotTree α} {path : Path} {f : α → α}
    {b : β} (found : t.at? path = some n) (more : (g (f n.label)).Perm (b :: g n.label)) :
    ((t.modifyAt (mapLabel f) path).collect g).Perm (b :: t.collect g) := by
  rcases collect_relabelAt g found with ⟨before, after, whole, updated⟩
  rw [updated, whole]
  calc
    List.Perm (before ++ g (f n.label) ++ after) (before ++ (b :: g n.label) ++ after) :=
      (more.append_left before).append_right after
    List.Perm _ (b :: (before ++ g n.label ++ after)) := by
      simp

/-- A label that holds one thing less. -/
theorem collect_relabelAt_perm_cons (g : α → List β) {t n : SlotTree α} {path : Path} {f : α → α}
    {b : β} (found : t.at? path = some n) (less : (g n.label).Perm (b :: g (f n.label))) :
    (t.collect g).Perm (b :: (t.modifyAt (mapLabel f) path).collect g) := by
  rcases collect_relabelAt g found with ⟨before, after, whole, updated⟩
  rw [updated, whole]
  calc
    List.Perm (before ++ g n.label ++ after) (before ++ (b :: g (f n.label)) ++ after) :=
      (less.append_left before).append_right after
    List.Perm _ (b :: (before ++ g (f n.label) ++ after)) := by
      simp

end Stheno.Tree.SlotTree
