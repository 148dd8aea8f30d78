import Stheno.Wire.Stream

/-!
# Layouts

The body of a message is a list of members.  A member is written as it is, through a
pointer that is followed, behind a flag that says whether it is there, or as one of two
behind a flag that says which.  A layout that is written and read the same gives back
every value whose pointers can be followed.
-/

namespace Stheno.Wire

/-- How the values of each kind are written, as fields of type `φ`, and read. -/
structure Coding (φ κ : Type) where
  encode : φ → List UInt8
  flag : Bool → φ
  encode_flag : ∀ flagged, encode (flag flagged) = writeBoolean flagged
  Value : κ → Type
  write : (kind : κ) → Value kind → Result (List φ)
  read : (kind : κ) → Reader (Value kind)
  /-- The value that a reader makes of what was written. -/
  copy : (kind : κ) → Value kind → Value kind
  /-- Every pointer that is followed leads somewhere. -/
  Complete : (kind : κ) → Value kind → Prop
  exists_write_iff : ∀ kind value, (∃ body, write kind value = .ok body) ↔ Complete kind value
  reads : ∀ kind value body, write kind value = .ok body →
    (body.flatMap encode).length < 2 ^ 32 →
      Reads (read kind) (body.flatMap encode) (copy kind value)

inductive Member (κ : Type) where
  | plain (kind : κ)
  /-- A pointer, and what becomes of it when it is null. -/
  | pointer (fault : Fault) (kind : κ)
  | optional (kind : κ)
  | either (left right : κ)
  deriving DecidableEq

abbrev Layout (κ : Type) := List (Member κ)

namespace Coding

variable {φ κ : Type} (coding : Coding φ κ)

/-! ## One member -/

def MemberValue : Member κ → Type
  | .plain kind => coding.Value kind
  | .pointer _ kind => Option (coding.Value kind)
  | .optional kind => Option (coding.Value kind)
  | .either left right => coding.Value left ⊕ Option (coding.Value right)

/-- A value behind a flag. -/
def writeFlagged (flagged : Bool) (kind : κ) (value : coding.Value kind) : Result (List φ) := do
  let body ← coding.write kind value
  pure (coding.flag flagged :: body)

def writeMember : (member : Member κ) → coding.MemberValue member → Result (List φ)
  | .plain kind, value => coding.write kind value
  | .pointer _ kind, some value => coding.write kind value
  | .pointer fault _, none => .error fault
  | .optional kind, some value => coding.writeFlagged true kind value
  | .optional _, none => .ok [coding.flag false]
  | .either left _, .inl value => coding.writeFlagged true left value
  | .either _ right, .inr (some value) => coding.writeFlagged false right value
  | .either _ _, .inr none => .error .nullDereference

def readMember : (member : Member κ) → Reader (coding.MemberValue member)
  | .plain kind => coding.read kind
  | .pointer _ kind => do
      let value ← coding.read kind
      pure (some value)
  | .optional kind => do
      let flagged ← readBoolean
      if flagged then
        let value ← coding.read kind
        pure (some value)
      else
        pure none
  | .either left right => do
      let flagged ← readBoolean
      if flagged then
        let value ← coding.read left
        pure (.inl value)
      else
        let value ← coding.read right
        pure (.inr (some value))

def copyMember : (member : Member κ) → coding.MemberValue member → coding.MemberValue member
  | .plain kind, value => coding.copy kind value
  | .pointer _ kind, value => value.map (coding.copy kind)
  | .optional kind, value => value.map (coding.copy kind)
  | .either left right, value => value.map (coding.copy left) (Option.map (coding.copy right))

/-- Only what stands behind a flag may be missing. -/
def CompleteMember : (member : Member κ) → coding.MemberValue member → Prop
  | .plain kind, value => coding.Complete kind value
  | .pointer _ kind, some value => coding.Complete kind value
  | .pointer _ _, none => False
  | .optional kind, some value => coding.Complete kind value
  | .optional _, none => True
  | .either left _, .inl value => coding.Complete left value
  | .either _ right, .inr (some value) => coding.Complete right value
  | .either _ _, .inr none => False

variable {coding}

theorem writeFlagged_ok {flagged : Bool} {kind : κ} {value : coding.Value kind} {body : List φ} :
    coding.writeFlagged flagged kind value = .ok body ↔
      ∃ rest, coding.write kind value = .ok rest ∧ body = coding.flag flagged :: rest := by
  rw [writeFlagged, Result.bind_eq_ok]
  constructor
  · rintro ⟨rest, written, ⟨⟩⟩
    exact ⟨rest, written, rfl⟩
  · rintro ⟨rest, written, rfl⟩
    exact ⟨rest, written, rfl⟩

theorem exists_writeFlagged_iff {flagged : Bool} {kind : κ} {value : coding.Value kind} :
    (∃ body, coding.writeFlagged flagged kind value = .ok body) ↔ coding.Complete kind value := by
  rw [← coding.exists_write_iff]
  constructor
  · rintro ⟨body, written⟩
    rcases writeFlagged_ok.mp written with ⟨rest, written, -⟩
    exact ⟨rest, written⟩
  · rintro ⟨rest, written⟩
    exact ⟨_, writeFlagged_ok.mpr ⟨rest, written, rfl⟩⟩

theorem exists_writeMember_iff (member : Member κ) (value : coding.MemberValue member) :
    (∃ body, coding.writeMember member value = .ok body) ↔ coding.CompleteMember member value := by
  cases member with
  | plain kind => exact coding.exists_write_iff kind value
  | pointer fault kind =>
      cases value with
      | none => simp [writeMember, CompleteMember]
      | some held => exact coding.exists_write_iff kind held
  | optional kind =>
      cases value with
      | none => simp [writeMember, CompleteMember]
      | some held => exact exists_writeFlagged_iff
  | either left right =>
      rcases value with held | _ | held
      · exact exists_writeFlagged_iff
      · simp [writeMember, CompleteMember]
      · exact exists_writeFlagged_iff

/-- What stands behind a flag is read once the flag is. -/
theorem reads_writeFlagged {α : Type} {flagged : Bool} {kind : κ} {value : coding.Value kind}
    {body : List φ} {next : Bool → Reader α} (made : coding.Value kind → α)
    (written : coding.writeFlagged flagged kind value = .ok body)
    (fits : (body.flatMap coding.encode).length < 2 ^ 32)
    (reader : next flagged = coding.read kind >>= fun read => pure (made read)) :
    Reads (readBoolean >>= next) (body.flatMap coding.encode) (made (coding.copy kind value)) := by
  rcases writeFlagged_ok.mp written with ⟨rest, behind, rfl⟩
  rw [List.flatMap_cons, coding.encode_flag] at fits ⊢
  rw [List.length_append] at fits
  apply (reads_boolean flagged).bind
  rw [reader]
  exact (coding.reads kind value rest behind (by omega)).bind_pure made

theorem reads_writeMember {member : Member κ} {value : coding.MemberValue member} {body : List φ}
    (written : coding.writeMember member value = .ok body)
    (fits : (body.flatMap coding.encode).length < 2 ^ 32) :
    Reads (coding.readMember member) (body.flatMap coding.encode)
      (coding.copyMember member value) := by
  cases member with
  | plain kind => exact coding.reads kind value body written fits
  | pointer fault kind =>
      cases value with
      | none => cases written
      | some held => exact (coding.reads kind held body written fits).bind_pure some
  | optional kind =>
      cases value with
      | none =>
          cases written
          rw [List.flatMap_singleton, coding.encode_flag, ← List.append_nil (writeBoolean false)]
          exact (reads_boolean false).bind (.pure none)
      | some held => exact reads_writeFlagged some written fits rfl
  | either left right =>
      rcases value with held | _ | held
      · exact reads_writeFlagged Sum.inl written fits rfl
      · cases written
      · exact reads_writeFlagged (fun read => Sum.inr (some read)) written fits rfl

/-! ## All members -/

variable (coding)

def Values : Layout κ → Type
  | [] => Unit
  | member :: rest => coding.MemberValue member × Values rest

def serialize : (layout : Layout κ) → coding.Values layout → Result (List φ)
  | [], _ => .ok []
  | member :: rest, values => do
      let first ← coding.writeMember member values.1
      let later ← serialize rest values.2
      pure (first ++ later)

def deserialize : (layout : Layout κ) → Reader (coding.Values layout)
  | [] => pure ()
  | member :: rest => do
      let value ← coding.readMember member
      let values ← deserialize rest
      pure (value, values)

def copies : (layout : Layout κ) → coding.Values layout → coding.Values layout
  | [], _ => ()
  | member :: rest, values => (coding.copyMember member values.1, copies rest values.2)

/-- Every member can be written. -/
def AllComplete : (layout : Layout κ) → coding.Values layout → Prop
  | [], _ => True
  | member :: rest, values => coding.CompleteMember member values.1 ∧ AllComplete rest values.2

variable {coding}

theorem serialize_cons_ok {member : Member κ} {rest : Layout κ}
    {values : coding.Values (member :: rest)} {body : List φ} :
    coding.serialize (member :: rest) values = .ok body ↔
      ∃ first later, coding.writeMember member values.1 = .ok first ∧
        coding.serialize rest values.2 = .ok later ∧ body = first ++ later := by
  rw [serialize]
  simp only [Result.bind_eq_ok]
  constructor
  · rintro ⟨first, here, later, there, ⟨⟩⟩
    exact ⟨first, later, here, there, rfl⟩
  · rintro ⟨first, later, here, there, rfl⟩
    exact ⟨first, here, later, there, rfl⟩

/-- A body is written exactly where every member can be. -/
theorem exists_serialize_iff (layout : Layout κ) (values : coding.Values layout) :
    (∃ body, coding.serialize layout values = .ok body) ↔ coding.AllComplete layout values := by
  induction layout with
  | nil => exact iff_of_true ⟨[], rfl⟩ trivial
  | cons member rest inductionHypothesis =>
      rw [AllComplete, ← exists_writeMember_iff, ← inductionHypothesis]
      constructor
      · rintro ⟨body, written⟩
        rcases serialize_cons_ok.mp written with ⟨first, later, here, there, -⟩
        exact ⟨⟨first, here⟩, later, there⟩
      · rintro ⟨⟨first, here⟩, later, there⟩
        exact ⟨_, serialize_cons_ok.mpr ⟨first, later, here, there, rfl⟩⟩

/-- The members are read one after the other as they were written. -/
theorem reads_serialize {layout : Layout κ} {values : coding.Values layout} {body : List φ}
    (written : coding.serialize layout values = .ok body)
    (fits : (body.flatMap coding.encode).length < 2 ^ 32) :
    Reads (coding.deserialize layout) (body.flatMap coding.encode)
      (coding.copies layout values) := by
  induction layout generalizing body with
  | nil =>
      cases written
      exact .pure ()
  | cons member rest inductionHypothesis =>
      rcases serialize_cons_ok.mp written with ⟨first, later, here, there, rfl⟩
      rw [List.flatMap_append] at fits ⊢
      rw [List.length_append] at fits
      have readsFirst := reads_writeMember here (by omega)
      have readsLater := inductionHypothesis there (by omega)
      exact readsFirst.bind (readsLater.bind_pure fun values => (_, values))

end Coding

/-! ## Lists -/

section Lists

variable {φ α : Type} {encode : φ → List UInt8} {write : α → Result (List φ)} {reader : Reader α}
  {copy : α → α}

/-- A list is written exactly where each of its elements can be. -/
theorem exists_mapM_iff (list : List α) : (∃ bodies, list.mapM write = .ok bodies) ↔
    ∀ a ∈ list, ∃ body, write a = .ok body := by
  induction list with
  | nil => exact iff_of_true ⟨[], rfl⟩ (by rintro a ⟨⟩)
  | cons a rest inductionHypothesis =>
      rw [List.forall_mem_cons, ← inductionHypothesis]
      simp only [List.mapM_cons, Result.bind_eq_ok]
      constructor
      · rintro ⟨_, body, here, bodies, there, ⟨⟩⟩
        exact ⟨⟨body, here⟩, bodies, there⟩
      · rintro ⟨⟨body, here⟩, bodies, there⟩
        exact ⟨_, body, here, bodies, there, rfl⟩

/-- The elements are read one after the other, and there are no more of them than octets. -/
theorem reads_mapM {list : List α} {bodies : List (List φ)}
    (reads : ∀ a body, write a = .ok body → (body.flatMap encode).length < 2 ^ 32 →
      Reads reader (body.flatMap encode) (copy a))
    (some : ∀ a body, write a = .ok body → 0 < (body.flatMap encode).length)
    (written : list.mapM write = .ok bodies)
    (fits : (bodies.flatten.flatMap encode).length < 2 ^ 32) :
    list.length ≤ (bodies.flatten.flatMap encode).length ∧
      Reads (readTimes reader list.length) (bodies.flatten.flatMap encode) (list.map copy) := by
  induction list generalizing bodies with
  | nil =>
      cases written
      exact ⟨Nat.le_refl 0, .pure []⟩
  | cons a rest inductionHypothesis =>
      rw [List.mapM_cons, Result.bind_eq_ok] at written
      rcases written with ⟨body, here, written⟩
      rcases Result.bind_eq_ok.mp written with ⟨later, there, ⟨⟩⟩
      rw [List.flatten_cons, List.flatMap_append] at fits ⊢
      rw [List.length_append] at fits ⊢
      rcases inductionHypothesis there (by omega) with ⟨shorter, readsRest⟩
      have positive := some a body here
      constructor
      · rw [List.length_cons]
        omega
      · exact (reads a body here (by omega)).bind (readsRest.bind_pure fun rest => copy a :: rest)

end Lists

end Stheno.Wire
