import Mathlib.Data.List.Nodup

/-!
# Tables with unique keys

A finite map as the list of its entries in iteration order, carrying the fact
that no key occurs twice.  `bind` refuses a key that is taken, so a table is
rebuilt from its own entries by binding them one after another.
-/

namespace Stheno

universe u v

/-- A finite map with its entries in iteration order. -/
structure Table (κ : Type u) (β : Type v) where
  entries : List (κ × β)
  unique : (entries.map Prod.fst).Nodup

namespace Table

variable {κ : Type u} {β : Type v}

@[ext]
theorem ext {first second : Table κ β} (equal : first.entries = second.entries) :
    first = second := by
  cases first
  cases second
  cases equal
  rfl

instance [DecidableEq κ] [DecidableEq β] : DecidableEq (Table κ β) := fun first second =>
  decidable_of_iff (first.entries = second.entries) ⟨ext, fun equal => equal ▸ rfl⟩

/-- The table without entries. -/
def empty : Table κ β :=
  ⟨[], List.nodup_nil⟩

/-- The number of entries. -/
def size (table : Table κ β) : Nat :=
  table.entries.length

variable [DecidableEq κ]

/-- The value stored under a key. -/
def find (table : Table κ β) (key : κ) : Option β :=
  (table.entries.find? fun entry => entry.1 = key).map Prod.snd

/-- Add an entry, unless the key is taken. -/
def bind (table : Table κ β) (key : κ) (value : β) : Table κ β :=
  if taken : key ∈ table.entries.map Prod.fst then
    table
  else
    { entries := table.entries ++ [(key, value)]
      unique := by
        rw [List.map_append, List.map_singleton, List.nodup_append]
        refine ⟨table.unique, List.nodup_singleton _, ?_⟩
        intro other member last isLast equal
        rw [equal, List.mem_singleton.mp isLast] at member
        exact taken member }

/-- Drop the entry under a key. -/
def unbind (table : Table κ β) (key : κ) : Table κ β where
  entries := table.entries.filter fun entry => entry.1 ≠ key
  unique := table.unique.sublist (List.filter_sublist.map _)

theorem find_unbind (table : Table κ β) (key other : κ) :
    (table.unbind key).find other = if other = key then none else table.find other := by
  rw [find, find, unbind, List.find?_filter]
  simp only [decide_eq_true_eq]
  by_cases same : other = key
  · have never : ∀ entry ∈ table.entries, ¬decide (entry.1 ≠ key ∧ entry.1 = other) = true := by
      intro entry _
      simp [same]
    rw [if_pos same, List.find?_eq_none.mpr never, Option.map_none]
  · have alike : (fun entry : κ × β => decide (entry.1 ≠ key ∧ entry.1 = other)) =
        fun entry => decide (entry.1 = other) := by
      funext entry
      by_cases here : entry.1 = other
      · simp [here, same]
      · simp [here]
    rw [if_neg same, alike]

theorem bind_of_fresh {table : Table κ β} {key : κ} (value : β)
    (fresh : key ∉ table.entries.map Prod.fst) :
    (table.bind key value).entries = table.entries ++ [(key, value)] := by
  rw [bind, dif_neg fresh]

theorem find_eq_none_iff {table : Table κ β} {key : κ} :
    table.find key = none ↔ key ∉ table.entries.map Prod.fst := by
  rw [find, Option.map_eq_none_iff, List.find?_eq_none, List.mem_map]
  constructor
  · rintro absent ⟨entry, member, same⟩
    exact absent entry member (decide_eq_true same)
  · intro absent entry member same
    exact absent ⟨entry, member, of_decide_eq_true same⟩

theorem find_eq_some_iff {table : Table κ β} {key : κ} {value : β} :
    table.find key = some value ↔ (key, value) ∈ table.entries := by
  constructor
  · intro found
    rcases Option.map_eq_some_iff.mp found with ⟨entry, listed, rfl⟩
    have hit := List.find?_some listed
    rw [← of_decide_eq_true hit]
    exact List.mem_of_find?_eq_some listed
  · intro member
    cases found : table.find key with
    | none => exact absurd (List.mem_map_of_mem member) (find_eq_none_iff.mp found)
    | some other =>
        rcases Option.map_eq_some_iff.mp found with ⟨entry, listed, rfl⟩
        have hit := List.find?_some listed
        have own : entry.1 = key := of_decide_eq_true hit
        have same := List.inj_on_of_nodup_map table.unique (List.mem_of_find?_eq_some listed) member own
        rw [same]

/-- What is found after a new key is bound. -/
theorem find_bind_of_fresh {table : Table κ β} {key : κ} (fresh : table.find key = none)
    (value : β) (other : κ) :
    (table.bind key value).find other = if other = key then some value else table.find other := by
  rw [find, bind_of_fresh value (find_eq_none_iff.mp fresh), List.find?_append, List.find?_singleton]
  by_cases here : other = key
  · subst here
    rw [find, Option.map_eq_none_iff] at fresh
    rw [fresh, if_pos rfl, if_pos (decide_eq_true rfl)]
    rfl
  · have apart : ¬decide (key = other) = true := fun same => here (of_decide_eq_true same).symm
    rw [if_neg here, if_neg apart, Option.or_none, find]

theorem bind_of_taken {table : Table κ β} {key : κ} (taken : (table.find key).isSome = true)
    (value : β) : table.bind key value = table := by
  rcases Option.isSome_iff_exists.mp taken with ⟨held, found⟩
  exact dif_pos (List.mem_map_of_mem (find_eq_some_iff.mp found))

/-- A key that is taken keeps its value. -/
theorem find_bind (table : Table κ β) (key : κ) (value : β) (other : κ) :
    (table.bind key value).find other =
      if other = key then some ((table.find key).getD value) else table.find other := by
  cases found : table.find key with
  | none => exact find_bind_of_fresh found value other
  | some held =>
      have taken : (table.find key).isSome = true := Option.isSome_iff_exists.mpr ⟨held, found⟩
      rw [bind_of_taken taken]
      split
      · rename_i here
        rw [here, found, Option.getD_some]
      · rfl

theorem bind_eq_self_iff {table : Table κ β} {key : κ} {value : β} :
    table.bind key value = table ↔ (table.find key).isSome = true := by
  constructor
  · intro same
    have found := table.find_bind key value key
    rw [same, if_pos rfl] at found
    rw [found]
    rfl
  · intro taken
    exact bind_of_taken taken value

/-- What is found after a value has moved from one key to another. -/
theorem find_bind_unbind {table : Table κ β} {old new : κ} (free : table.find new = none)
    (value : β) (other : κ) :
    ((table.unbind old).bind new value).find other =
      if other = new then some value else if other = old then none else table.find other := by
  have fresh : (table.unbind old).find new = none := by
    rw [find_unbind, free, ite_self]
  rw [find_bind_of_fresh fresh, find_unbind]

theorem mem_entries_of_mem_bind {table : Table κ β} {key : κ} {value : β} {entry : κ × β}
    (member : entry ∈ (table.bind key value).entries) :
    entry ∈ table.entries ∨ entry = (key, value) := by
  rw [bind] at member
  split at member
  · exact Or.inl member
  · rcases List.mem_append.mp member with before | last
    · exact Or.inl before
    · exact Or.inr (List.mem_singleton.mp last)

/-- Put another value under a key, in the place of the value that it has. -/
def replace (table : Table κ β) (key : κ) (value : β) : Table κ β where
  entries := table.entries.map fun entry => if entry.1 = key then (key, value) else entry
  unique := by
    have keys : (table.entries.map fun entry => if entry.1 = key then (key, value) else entry).map
        Prod.fst = table.entries.map Prod.fst := by
      rw [List.map_map]
      apply List.map_congr_left
      intro entry _
      rw [Function.comp_apply]
      split
      · rename_i same
        exact same.symm
      · rfl
    rw [keys]
    exact table.unique

/-- What is found after a value is replaced. -/
theorem find_replace (table : Table κ β) (key : κ) (value : β) (other : κ) :
    (table.replace key value).find other =
      if other = key then (table.find key).map fun _ => value else table.find other := by
  have asked : ∀ entry : κ × β, decide ((if entry.1 = key then (key, value) else entry).1 = other) =
      decide (entry.1 = other) := by
    intro entry
    by_cases here : entry.1 = key
    · rw [if_pos here, here]
    · rw [if_neg here]
  have searched : (table.replace key value).find other =
      (table.entries.find? fun entry => entry.1 = other).map fun entry =>
        (if entry.1 = key then (key, value) else entry).2 := by
    rw [find, replace, List.find?_map, Option.map_map]
    simp only [Function.comp_def, asked]
  rw [searched]
  by_cases here : other = key
  · subst here
    rw [if_pos rfl, find, Option.map_map]
    apply Option.map_congr
    intro entry found
    have hit := List.find?_some found
    rw [if_pos (of_decide_eq_true hit), Function.comp_apply]
  · rw [if_neg here, find]
    apply Option.map_congr
    intro entry found
    have hit := List.find?_some found
    have same : entry.1 = other := of_decide_eq_true hit
    rw [if_neg (same.trans_ne here)]

/-- A value that is replaced by itself. -/
theorem replace_self {table : Table κ β} {key : κ} {value : β}
    (found : table.find key = some value) : table.replace key value = table := by
  apply ext
  rw [replace]
  conv_rhs => rw [← List.map_id table.entries]
  apply List.map_congr_left
  intro entry member
  split
  · rename_i here
    have same := find_eq_some_iff.mpr member
    rw [here, found] at same
    rw [Option.some.inj same, ← here, id]
  · rfl

theorem unbind_of_fresh {table : Table κ β} {key : κ} (fresh : table.find key = none) :
    table.unbind key = table := by
  apply ext
  rw [unbind, List.filter_eq_self]
  intro entry member
  have apart : entry.1 ≠ key := by
    rintro rfl
    exact find_eq_none_iff.mp fresh (List.mem_map_of_mem member)
  exact decide_eq_true apart

/-- A new entry is dropped again. -/
theorem unbind_bind_of_fresh {table : Table κ β} {key : κ} (fresh : table.find key = none)
    (value : β) : (table.bind key value).unbind key = table := by
  apply ext
  have kept : table.entries.filter (fun entry => entry.1 ≠ key) = table.entries :=
    congrArg Table.entries (unbind_of_fresh fresh)
  change (table.bind key value).entries.filter (fun entry => entry.1 ≠ key) = table.entries
  rw [bind_of_fresh value (find_eq_none_iff.mp fresh), List.filter_append, kept]
  simp

theorem replace_replace (table : Table κ β) (key : κ) (first second : β) :
    (table.replace key first).replace key second = table.replace key second := by
  apply ext
  change (table.entries.map fun entry => if entry.1 = key then (key, first) else entry).map
    (fun entry => if entry.1 = key then (key, second) else entry) =
      table.entries.map fun entry => if entry.1 = key then (key, second) else entry
  rw [List.map_map]
  apply List.map_congr_left
  intro entry _
  rw [Function.comp_apply]
  by_cases here : entry.1 = key
  · rw [if_pos here, if_pos here, if_pos rfl]
  · rw [if_neg here, if_neg here]

theorem unbind_replace (table : Table κ β) (key : κ) (value : β) :
    (table.replace key value).unbind key = table.unbind key := by
  apply ext
  change (table.entries.map fun entry => if entry.1 = key then (key, value) else entry).filter
    (fun entry => entry.1 ≠ key) = table.entries.filter fun entry => entry.1 ≠ key
  induction table.entries with
  | nil => rfl
  | cons entry rest inductionHypothesis =>
      rw [List.map_cons, List.filter_cons, List.filter_cons, inductionHypothesis]
      by_cases here : entry.1 = key
      · simp [here]
      · simp [here]

section Keyed

/-! Values that are stored under their own keys stay so. -/

variable {table : Table κ β} {own : β → κ} {key : κ} {value : β}

omit [DecidableEq κ] in
theorem keyed_empty : ∀ entry ∈ (empty : Table κ β).entries, own entry.2 = entry.1 := by
  intro entry impossible
  cases impossible

theorem keyed_bind (keyed : ∀ entry ∈ table.entries, own entry.2 = entry.1)
    (same : own value = key) : ∀ entry ∈ (table.bind key value).entries, own entry.2 = entry.1 := by
  intro entry member
  rcases mem_entries_of_mem_bind member with before | rfl
  · exact keyed entry before
  · exact same

theorem keyed_unbind (keyed : ∀ entry ∈ table.entries, own entry.2 = entry.1) (key : κ) :
    ∀ entry ∈ (table.unbind key).entries, own entry.2 = entry.1 := by
  intro entry member
  exact keyed entry (List.mem_of_mem_filter member)

theorem keyed_replace (keyed : ∀ entry ∈ table.entries, own entry.2 = entry.1)
    (same : own value = key) :
    ∀ entry ∈ (table.replace key value).entries, own entry.2 = entry.1 := by
  intro entry member
  rcases List.mem_map.mp member with ⟨before, held, rfl⟩
  split
  · exact same
  · exact keyed before held

end Keyed

/-- Bind a list of values, each under its own key. -/
def bindAll (key : β → κ) (table : Table κ β) (values : List β) : Table κ β :=
  values.foldl (fun table value => table.bind (key value) value) table

/-- Values bound under their own keys are stored under their own keys. -/
theorem keyed_bindAll (key : β → κ) (table : Table κ β) (values : List β)
    (keyed : ∀ entry ∈ table.entries, key entry.2 = entry.1) :
    ∀ entry ∈ (table.bindAll key values).entries, key entry.2 = entry.1 := by
  induction values generalizing table with
  | nil => exact keyed
  | cons value values ih =>
      apply ih
      intro entry member
      rcases mem_entries_of_mem_bind member with before | rfl
      · exact keyed entry before
      · rfl

/-- The values whose key none before them has. -/
def firsts (key : β → κ) : List β → List β
  | [] => []
  | value :: rest => value :: (firsts key rest).filter fun other => key other ≠ key value

/-- Of the values under one key the first is bound. -/
theorem entries_bindAll (key : β → κ) (table : Table κ β) (values : List β) :
    (table.bindAll key values).entries =
      table.entries ++ ((firsts key values).filter fun value =>
        key value ∉ table.entries.map Prod.fst).map fun value => (key value, value) := by
  induction values generalizing table with
  | nil => simp [bindAll, firsts]
  | cons value values ih =>
      change ((table.bind (key value) value).bindAll key values).entries = _
      rw [ih, firsts, List.filter_cons, List.filter_filter]
      by_cases taken : key value ∈ table.entries.map Prod.fst
      · have kept : table.bind (key value) value = table := dif_pos taken
        have alike : ∀ other ∈ firsts key values,
            (decide (key other ∉ table.entries.map Prod.fst)) =
              (decide (key other ∉ table.entries.map Prod.fst) && decide (key other ≠ key value)) := by
          intro other _
          by_cases same : key other = key value
          · simp [same, taken]
          · simp [same]
        rw [kept, if_neg (by simpa using taken), List.filter_congr alike]
      · rw [bind_of_fresh value taken, if_pos (decide_eq_true taken), List.append_assoc,
          List.map_cons, List.singleton_append]
        congr 3
        apply List.filter_congr
        intro other _
        rw [List.map_append, List.map_singleton, Bool.eq_iff_iff]
        simp [not_or]

theorem entries_bindAll_empty (key : β → κ) (values : List β) :
    (empty.bindAll key values).entries = (firsts key values).map fun value => (key value, value) := by
  rw [entries_bindAll, List.filter_eq_self.mpr]
  · rfl
  · intro value _
    simp [empty]

theorem bindAll_entries (key : β → κ) (table : Table κ β) (values : List β)
    (fresh : (table.entries.map Prod.fst ++ values.map key).Nodup) :
    (table.bindAll key values).entries =
      table.entries ++ values.map fun value => (key value, value) := by
  induction values generalizing table with
  | nil => simp [bindAll]
  | cons value values ih =>
      have notTaken : key value ∉ table.entries.map Prod.fst := by
        intro taken
        rw [List.map_cons, List.nodup_append] at fresh
        exact fresh.2.2 _ taken _ List.mem_cons_self rfl
      have bound := bind_of_fresh value notTaken
      change ((table.bind (key value) value).bindAll key values).entries = _
      rw [ih, bound]
      · simp
      · rw [bound]
        simpa using fresh

/-- Binding the values of a table again, each under the key it is stored
under, gives the table back. -/
theorem bindAll_values (key : β → κ) (table : Table κ β)
    (keyed : ∀ entry ∈ table.entries, key entry.2 = entry.1) :
    empty.bindAll key (table.entries.map Prod.snd) = table := by
  have keys : (table.entries.map Prod.snd).map key = table.entries.map Prod.fst := by
    rw [List.map_map]
    exact List.map_congr_left keyed
  apply ext
  rw [bindAll_entries]
  · rw [List.map_map]
    change [] ++ _ = _
    rw [List.nil_append]
    conv_rhs => rw [← List.map_id table.entries]
    apply List.map_congr_left
    intro entry member
    simp [keyed entry member]
  · rw [keys]
    simpa [empty] using table.unique

end Table

end Stheno
