/-!
# Faults of the C++ runtime

A function that follows a null pointer, leaves an array or uses freed memory has
no defined result.  The model stops there and names what went wrong.
-/

namespace Stheno

/-- What makes an execution undefined. -/
inductive Fault where
  /-- A null pointer is dereferenced. -/
  | nullDereference
  /-- An array is read or written outside its bounds. -/
  | outOfBounds
  /-- A node that was deleted is still linked from the tree. -/
  | freedNode
  /-- An object is read after it was deleted. -/
  | useAfterFree
  /-- An array of a negative size is requested from `new[]`. -/
  | badArrayLength
  /-- An object is used as one of a class that it does not belong to. -/
  | badCast
  /-- A `SerializationException` of the kind `NOT_INITIALIZED`: an identifier without key data is
  written. -/
  | notInitialized
  /-- An exception leaves a function whose callers do not handle it. -/
  | uncaughtException
  /-- Not a fault of the program: the recursion budget of a model function is spent. -/
  | outOfFuel
  deriving DecidableEq, Repr

/-- A result, or the fault that prevents it. -/
abbrev Result := Except Fault

namespace Result

variable {α β : Type}

/-- A sequence of two steps succeeds where both do. -/
theorem bind_eq_ok {first : Result α} {next : α → Result β} {b : β} :
    (first >>= next) = .ok b ↔ ∃ a, first = .ok a ∧ next a = .ok b := by
  cases first with
  | error fault => simp [bind, Except.bind]
  | ok a => simp [bind, Except.bind]

theorem map_eq_ok {f : α → β} {first : Result α} {b : β} :
    first.map f = .ok b ↔ ∃ a, first = .ok a ∧ f a = b := by
  cases first with
  | error fault => simp [Except.map]
  | ok a => simp [Except.map]

/-- Whether a computation succeeds with a good result can be found by running it. -/
instance decidableExistsOk {result : Result α} {good : α → Prop} [DecidablePred good] :
    Decidable (∃ a, result = .ok a ∧ good a) :=
  match result with
  | .ok a => decidable_of_iff (good a) (by
      constructor
      · intro holds
        exact ⟨a, rfl, holds⟩
      · rintro ⟨b, equal, holds⟩
        cases equal
        exact holds)
  | .error _ => isFalse (by
      rintro ⟨b, impossible, -⟩
      cases impossible)

/-- A loop over a list succeeds where each round does. -/
theorem exists_mapM {f : α → Result β} {good : β → Prop} {list : List α}
    (each : ∀ a ∈ list, ∃ b, f a = .ok b ∧ good b) :
    ∃ out, list.mapM f = .ok out ∧ ∀ b ∈ out, good b := by
  induction list with
  | nil => exact ⟨[], rfl, fun b impossible => by cases impossible⟩
  | cons a list ih =>
      rcases each a List.mem_cons_self with ⟨b, here, holds⟩
      rcases ih fun a member => each a (List.mem_cons_of_mem _ member) with ⟨out, rest, all⟩
      refine ⟨b :: out, ?_, List.forall_mem_cons.mpr ⟨holds, all⟩⟩
      rw [List.mapM_cons, here, rest]
      rfl

/-- What the rounds of a loop give has what each round gives it. -/
theorem forall_of_mapM {f : α → Result β} (good : β → Prop) {list : List α} {out : List β}
    (each : ∀ a b, f a = .ok b → good b) (ran : list.mapM f = .ok out) : ∀ b ∈ out, good b := by
  induction list generalizing out with
  | nil =>
      cases ran
      exact fun b impossible => nomatch impossible
  | cons a list ih =>
      rw [List.mapM_cons] at ran
      rcases bind_eq_ok.mp ran with ⟨b, here, ran⟩
      rcases bind_eq_ok.mp ran with ⟨rest, there, ran⟩
      cases ran
      exact List.forall_mem_cons.mpr ⟨each a b here, ih there⟩

/-- A loop whose rounds succeed under a condition succeeds where all of them do. -/
theorem mapM_eq_ok {f : α → Result β} {ready : α → Prop} {value : α → β}
    (each : ∀ a b, f a = .ok b ↔ ready a ∧ b = value a) {list : List α} {out : List β} :
    list.mapM f = .ok out ↔ (∀ a ∈ list, ready a) ∧ out = list.map value := by
  induction list generalizing out with
  | nil =>
      constructor
      · rintro ⟨⟩
        exact ⟨by simp, rfl⟩
      · rintro ⟨-, rfl⟩
        rfl
  | cons a list ih =>
      simp only [List.mapM_cons, bind_eq_ok, each, ih, List.forall_mem_cons]
      constructor
      · rintro ⟨_, ⟨here, rfl⟩, _, ⟨rest, rfl⟩, done⟩
        cases done
        exact ⟨⟨here, rest⟩, rfl⟩
      · rintro ⟨⟨here, rest⟩, rfl⟩
        exact ⟨_, ⟨here, rfl⟩, _, ⟨rest, rfl⟩, rfl⟩

/-- A loop whose rounds succeed is the fold over their values. -/
theorem foldlM_eq_ok {f : β → α → Result β} {value : β → α → β} {list : List α}
    (each : ∀ a ∈ list, ∀ b, f b a = .ok (value b a)) (b : β) :
    list.foldlM f b = .ok (list.foldl value b) := by
  induction list generalizing b with
  | nil => rfl
  | cons a list ih =>
      rcases List.forall_mem_cons.mp each with ⟨here, rest⟩
      rw [List.foldlM_cons, here]
      exact ih rest _

/-- Every round of a loop that succeeds has succeeded. -/
theorem exists_of_foldlM {f : β → α → Result β} {list : List α} {b out : β}
    (ran : list.foldlM f b = .ok out) : ∀ a ∈ list, ∃ before after, f before a = .ok after := by
  induction list generalizing b with
  | nil => simp
  | cons a list ih =>
      rw [List.foldlM_cons] at ran
      rcases bind_eq_ok.mp ran with ⟨next, here, rest⟩
      exact List.forall_mem_cons.mpr ⟨⟨b, next, here⟩, ih rest⟩

end Result

end Stheno
