import Mathlib.Data.List.Nodup
import Stheno.Events.Actions

/-!
# Completed events

`isStateFinal` is commented out in `stateChanged_i`, so nothing in an event keeps a
later call from setting another final state.  A completed event stays completed where its
callers respect the check themselves.
-/

namespace Stheno.Events

variable {LISTENER RESULT : Type}

/-! ## Runs -/

/-- The states before, between and after the calls, and the notices of all calls. -/
structure Record (LISTENER : Type) where
  states : List Int
  notices : List (Notice LISTENER)
  deriving DecidableEq

namespace EventObject

/-- The calls are made in order, up to a fault. -/
def record (this : EventObject LISTENER RESULT) : List (Call LISTENER RESULT) → Record LISTENER
  | [] => { states := [this.core.state], notices := [] }
  | call :: calls =>
      let effect := this.step call
      match effect.fault with
      | some _ =>
          { states := [this.core.state, effect.object.core.state], notices := effect.notices }
      | none =>
          let later := record effect.object calls
          { states := this.core.state :: later.states, notices := effect.notices ++ later.notices }

end EventObject

/-- Any two final states are the same, and no listener is told a final state twice. -/
structure StaysCompleted (record : Record LISTENER) : Prop where
  same : ∀ s ∈ record.states, ∀ t ∈ record.states, isFinal s → isFinal t → s = t
  once : (told record.notices).Nodup

/-! ## Calls that meet the check -/

namespace Event

/-- The listeners that the event has had while it was final. -/
def hadFinal (had : List LISTENER) (this : Event LISTENER) : List LISTENER :=
  if this.isStateFinal then had ++ this.listener.toList else had

/-- A call that comes to `stateChanged_i`, where `isStateFinal` is commented out, finds the event
not final; a listener that is given to a final event is one that it has not had while it was
final. -/
structure Respects (had : List LISTENER) (this : Event LISTENER) (action : Action LISTENER) :
    Prop where
  check : ∀ newState, action = .change newState → this.isStateFinal = false
  fresh : ∀ listener, action = .listen (some listener) → this.isStateFinal = true →
    listener ∉ this.hadFinal had

/-- A call that comes to `stateChanged_i` with a final event brings a final state, and one that
brings the same state again finds a listener. -/
def Shows (this : Event LISTENER) (action : Action LISTENER) : Prop :=
  ∀ newState, action = .change newState → this.isStateFinal = true →
    isFinal newState = true ∧ (newState = this.state → this.listener.isSome = true)

theorem mem_hadFinal_of_mem {had : List LISTENER} {this : Event LISTENER} {listener : LISTENER}
    (member : listener ∈ had) : listener ∈ this.hadFinal had := by
  rw [hadFinal]
  split
  · exact List.mem_append_left _ member
  · exact member

theorem mem_hadFinal_of_listener {had : List LISTENER} {this : Event LISTENER}
    {listener : LISTENER} (final : this.isStateFinal = true)
    (attached : this.listener = some listener) : listener ∈ this.hadFinal had := by
  rw [hadFinal, if_pos final]
  exact List.mem_append_right _ (Option.mem_toList.mpr attached)

theorem mem_or_of_mem_hadFinal {had : List LISTENER} {this : Event LISTENER} {listener : LISTENER}
    (member : listener ∈ this.hadFinal had) :
    listener ∈ had ∨ this.isStateFinal = true ∧ this.listener = some listener := by
  rw [hadFinal] at member
  split at member
  · rename_i final
    rcases List.mem_append.mp member with known | attached
    · exact Or.inl known
    · exact Or.inr ⟨final, Option.mem_toList.mp attached⟩
  · exact Or.inl member

/-- Who is told a final state is attached to a final event then. -/
theorem attached_of_tells {this : Event LISTENER} {action : Action LISTENER} {listener : LISTENER}
    (now : this.tells action = some listener) :
    (this.act action).isStateFinal = true ∧ (this.act action).listener = some listener := by
  cases action with
  | keep => cases now
  | change newState =>
      rw [tells] at now
      split at now
      · rename_i final
        exact ⟨final, now⟩
      · cases now
  | listen other =>
      rw [tells] at now
      split at now
      · rename_i final
        exact ⟨final, now⟩
      · cases now

/-- A new state or listener is told where the event is final then. -/
theorem tells_change {this : Event LISTENER} {newState : Int} (final : isFinal newState = true) :
    this.tells (.change newState) = this.listener :=
  if_pos final

theorem tells_listen {this : Event LISTENER} {listener : Option LISTENER}
    (final : this.isStateFinal = true) : this.tells (.listen listener) = listener :=
  if_pos final

end Event

/-- Every call up to a fault has the property where it is made. -/
def Throughout (property : List LISTENER → Event LISTENER → Action LISTENER → Prop)
    (had : List LISTENER) (this : EventObject LISTENER RESULT) :
    List (Call LISTENER RESULT) → Prop
  | [] => True
  | call :: calls =>
      property had this.core (this.action call) ∧
        ((this.step call).fault = none →
          Throughout property (this.core.hadFinal had) (this.step call).object calls)

/-- No two final states among these differ. -/
def Uniform (states : List Int) : Prop :=
  ∀ s ∈ states, ∀ t ∈ states, isFinal s → isFinal t → s = t

/-- A state in front of others changes nothing if it is not final or the first of them. -/
theorem Uniform.cons {state next : Int} {states : List Int} (uniform : Uniform (next :: states))
    (same : isFinal state → state = next) : Uniform (state :: next :: states) := by
  intro s s_mem t t_mem sFinal tFinal
  rcases List.mem_cons.mp s_mem with rfl | s_later
  · rcases List.mem_cons.mp t_mem with rfl | t_later
    · rfl
    · rw [same sFinal]
      exact uniform next List.mem_cons_self t t_later (same sFinal ▸ sFinal) tFinal
  · rcases List.mem_cons.mp t_mem with rfl | t_later
    · rw [same tFinal]
      exact uniform s s_later next List.mem_cons_self sFinal (same tFinal ▸ tFinal)
    · exact uniform s s_later t t_later sFinal tFinal

theorem Uniform.tail {state : Int} {states : List Int} (uniform : Uniform (state :: states)) :
    Uniform states := by
  intro s s_mem t t_mem
  exact uniform s (List.mem_cons_of_mem _ s_mem) t (List.mem_cons_of_mem _ t_mem)

theorem told_append (notices later : List (Notice LISTENER)) :
    told (notices ++ later) = told notices ++ told later := by
  rw [told, List.filter_append, List.map_append]
  rfl

namespace EventObject

/-- The calls that are still made: none after a fault. -/
def remaining (effect : Effect LISTENER (EventObject LISTENER RESULT))
    (calls : List (Call LISTENER RESULT)) : List (Call LISTENER RESULT) :=
  match effect.fault with
  | some _ => []
  | none => calls

theorem record_cons (this : EventObject LISTENER RESULT) (call : Call LISTENER RESULT)
    (calls : List (Call LISTENER RESULT)) :
    this.record (call :: calls) =
      { states := this.core.state ::
          ((this.step call).object.record (remaining (this.step call) calls)).states
        notices := (this.step call).notices ++
          ((this.step call).object.record (remaining (this.step call) calls)).notices } := by
  unfold remaining
  cases fault : (this.step call).fault with
  | none =>
      simp only [record, fault]
  | some _ =>
      simp only [record, fault, List.append_nil]

theorem throughout_cons
    {property : List LISTENER → Event LISTENER → Action LISTENER → Prop} {had : List LISTENER}
    {this : EventObject LISTENER RESULT} {call : Call LISTENER RESULT}
    {calls : List (Call LISTENER RESULT)} :
    Throughout property had this (call :: calls) ↔
      property had this.core (this.action call) ∧
        Throughout property (this.core.hadFinal had) (this.step call).object
          (remaining (this.step call) calls) := by
  unfold remaining
  cases fault : (this.step call).fault with
  | none => simp only [Throughout, fault, forall_const]
  | some _ => simp only [Throughout, fault, reduceCtorEq, false_implies, and_true]

theorem record_states (this : EventObject LISTENER RESULT) (calls : List (Call LISTENER RESULT)) :
    ∃ states, (this.record calls).states = this.core.state :: states := by
  cases calls with
  | nil => exact ⟨[], rfl⟩
  | cons call calls =>
      rw [record_cons]
      exact ⟨_, rfl⟩

/-! ## They are enough -/

/-- What is left of a run that has had these listeners while it was final. -/
structure Completed (had : List LISTENER) (this : Event LISTENER) (record : Record LISTENER) :
    Prop extends StaysCompleted record where
  fresh : this.isStateFinal = true → ∀ listener ∈ told record.notices, listener ∉ this.hadFinal had

theorem completed_nil (had : List LISTENER) (this : EventObject LISTENER RESULT) :
    Completed had this.core (this.record []) := by
  constructor
  · constructor
    · intro s s_mem t t_mem _ _
      rw [List.mem_singleton.mp s_mem, List.mem_singleton.mp t_mem]
    · exact List.nodup_nil
  · rintro - listener ⟨⟩

/-- A listener that is told now is not told again. -/
theorem nodup_told_cons {now : Option LISTENER} {later : List LISTENER} (once : later.Nodup)
    (fresh : ∀ listener ∈ now, listener ∉ later) : (now.toList ++ later).Nodup := by
  cases now with
  | none => exact once
  | some listener => exact List.nodup_cons.mpr ⟨fresh listener rfl, once⟩

/-- One call that respects the check, by what it does to the event. -/
theorem completed_cons {had : List LISTENER} {this : Event LISTENER} {action : Action LISTENER}
    {later : Record LISTENER} {states : List Int} {notices : List (Notice LISTENER)}
    (respects : this.Respects had action)
    (first : later.states = (this.act action).state :: states)
    (tells : told notices = (this.tells action).toList)
    (completed : Completed (this.hadFinal had) (this.act action) later) :
    Completed had this
      { states := this.state :: later.states, notices := notices ++ later.notices } := by
  have same := completed.same
  rw [first] at same
  -- a listener that is told now is attached to a final event afterwards
  have known : ∀ listener ∈ this.tells action, listener ∉ told later.notices := by
    intro listener now again
    rcases Event.attached_of_tells now with ⟨final, attached⟩
    exact completed.fresh final listener again (Event.mem_hadFinal_of_listener final attached)
  have kept : this.isStateFinal = true → (this.act action).state = this.state := by
    intro final
    cases action with
    | keep => rfl
    | change newState =>
        have unfinished := respects.check newState rfl
        rw [final] at unfinished
        cases unfinished
    | listen other => rfl
  refine ⟨⟨?_, ?_⟩, ?_⟩
  · rw [first]
    apply Uniform.cons same
    intro final
    exact (kept final).symm
  · rw [told_append, tells]
    exact nodup_told_cons completed.once known
  · intro final listener member
    rw [told_append, tells] at member
    rcases List.mem_append.mp member with now | again
    · cases action with
      | keep => cases now
      | change newState =>
          have unfinished := respects.check newState rfl
          rw [final] at unfinished
          cases unfinished
      | listen other =>
          rw [Event.tells_listen final, Option.mem_toList] at now
          exact respects.fresh listener (congrArg Action.listen now) final
    · have finalAfter : (this.act action).isStateFinal = true := by
        rw [Event.isStateFinal, kept final]
        exact final
      intro had_mem
      exact completed.fresh finalAfter listener again (Event.mem_hadFinal_of_mem had_mem)

/-- Induction on the calls; the listeners that were told are among those that the event has had
while it was final. -/
theorem completed_of_respects (calls : List (Call LISTENER RESULT)) (had : List LISTENER)
    (this : EventObject LISTENER RESULT) (respects : Throughout (fun had this => this.Respects had)
      had this calls) : Completed had this.core (this.record calls) := by
  induction calls generalizing had this with
  | nil => exact completed_nil had this
  | cons call calls inductionHypothesis =>
      rcases throughout_cons.mp respects with ⟨here, rest⟩
      have acts := this.acts_step call
      rcases record_states (this.step call).object (remaining (this.step call) calls)
        with ⟨states, first⟩
      have later : Completed (this.core.hadFinal had) (this.step call).object.core
          ((this.step call).object.record (remaining (this.step call) calls)) := by
        unfold remaining at rest ⊢
        cases fault : (this.step call).fault with
        | none =>
            rw [fault] at rest
            exact inductionHypothesis _ _ rest
        | some _ => exact completed_nil _ _
      rw [acts.core] at first later
      rw [record_cons]
      exact completed_cons here first acts.told later

/-! ## They are needed -/

/-- One call after which the run stays completed respects the check, if it shows where it does
not. -/
theorem respects_of_completed {had past : List LISTENER} {this : Event LISTENER}
    {action : Action LISTENER} {states : List Int} {told : List LISTENER}
    (shows : this.Shows action) (known : ∀ listener ∈ this.hadFinal had, listener ∈ past)
    (uniform : Uniform (this.state :: (this.act action).state :: states))
    (once : (past ++ ((this.tells action).toList ++ told)).Nodup) :
    this.Respects had action := by
  have untold : ∀ listener ∈ this.tells action, listener ∉ past := by
    intro listener now member
    exact (List.nodup_append.mp once).2.2 listener member listener
      (List.mem_append_left _ (Option.mem_toList.mpr now)) rfl
  constructor
  · rintro newState rfl
    rw [← Bool.not_eq_true]
    intro final
    rcases shows newState rfl final with ⟨finalAfter, attached⟩
    have same : newState = this.state :=
      uniform newState (List.mem_cons_of_mem _ List.mem_cons_self) this.state List.mem_cons_self
        finalAfter final
    rcases Option.isSome_iff_exists.mp (attached same) with ⟨listener, listener_eq⟩
    have now := (Event.tells_change finalAfter).trans listener_eq
    exact untold listener now (known listener (Event.mem_hadFinal_of_listener final listener_eq))
  · rintro listener rfl final member
    exact untold listener (Event.tells_listen final) (known listener member)

/-- The listeners of a final event were told. -/
theorem known_act {had past : List LISTENER} {this : Event LISTENER} {action : Action LISTENER}
    (known : ∀ listener ∈ this.hadFinal had, listener ∈ past) :
    ∀ listener ∈ (this.act action).hadFinal (this.hadFinal had),
      listener ∈ past ++ (this.tells action).toList := by
  intro listener member
  rcases Event.mem_or_of_mem_hadFinal member with before | ⟨final, attached⟩
  · exact List.mem_append_left _ (known listener before)
  · cases action with
    | keep =>
        exact List.mem_append_left _
          (known listener (Event.mem_hadFinal_of_listener final attached))
    | change newState =>
        apply List.mem_append_right
        have now : this.tells (.change newState) = some listener :=
          (Event.tells_change final).trans attached
        exact Option.mem_toList.mpr now
    | listen other =>
        apply List.mem_append_right
        have now : this.tells (.listen other) = some listener :=
          (Event.tells_listen final).trans attached
        exact Option.mem_toList.mpr now

/-- Induction on the calls; `past` are the listeners told so far. -/
theorem throughout_of_completed (calls : List (Call LISTENER RESULT)) (had past : List LISTENER)
    (this : EventObject LISTENER RESULT)
    (known : ∀ listener ∈ this.core.hadFinal had, listener ∈ past)
    (shows : Throughout (fun _ this => this.Shows) had this calls)
    (uniform : Uniform (this.record calls).states)
    (once : (past ++ told (this.record calls).notices).Nodup) :
    Throughout (fun had this => this.Respects had) had this calls := by
  induction calls generalizing had past this with
  | nil => trivial
  | cons call calls inductionHypothesis =>
      rcases throughout_cons.mp shows with ⟨here, rest⟩
      have acts := this.acts_step call
      rcases record_states (this.step call).object (remaining (this.step call) calls)
        with ⟨states, first⟩
      rw [record_cons] at uniform once
      have uniformAfter := uniform.tail
      rw [told_append, acts.told] at once
      have onceAfter := once
      rw [← List.append_assoc] at onceAfter
      have knownAfter := @known_act _ _ _ _ (this.action call) known
      rw [← acts.core] at knownAfter
      rw [throughout_cons]
      constructor
      · rw [first, acts.core] at uniform
        exact respects_of_completed here known uniform once
      · unfold remaining at rest uniformAfter onceAfter ⊢
        cases fault : (this.step call).fault with
        | none =>
            rw [fault] at rest uniformAfter onceAfter
            exact inductionHypothesis _ _ _ knownAfter rest uniformAfter onceAfter
        | some _ => trivial

/-- An event whose callers all respect the check stays completed; and where no call resets a
completed event, or repeats its state with nobody to tell, only such callers keep it. -/
theorem staysCompleted_of_respects (this : EventObject LISTENER RESULT)
    (calls : List (Call LISTENER RESULT)) :
    (Throughout (fun had this => this.Respects had) [] this calls →
        StaysCompleted (this.record calls)) ∧
      (this.core.isStateFinal = false → Throughout (fun _ this => this.Shows) [] this calls →
        StaysCompleted (this.record calls) →
          Throughout (fun had this => this.Respects had) [] this calls) := by
  constructor
  · intro respects
    exact (completed_of_respects calls [] this respects).toStaysCompleted
  · intro unfinished shows completed
    apply throughout_of_completed calls [] [] this _ shows completed.same completed.once
    intro listener member
    rw [Event.hadFinal, unfinished, if_neg Bool.false_ne_true] at member
    exact member

/-- A request with a listener gets its reply while a thread waits; another listener is set
later, and a late reply finds the list of results detached. -/
theorem staysCompleted_of_respects_reply :
    StaysCompleted ((EventObject.future .request
      { state := ES_IDLE, listener := some 1, result := some [], expectedSize := 1, waiting := 0 } :
        EventObject Nat Nat).record
      [.waitFuture, .stateChanged SS_ACTIVE, .setFuture 7, .awake false,
        .setListener (some 2), .setFuture 8, .removeListener]) := by
  apply (staysCompleted_of_respects _ _).1
  have keeps : ∀ (had : List Nat) (this : Event Nat), this.Respects had .keep := by
    intro had this
    constructor
    · rintro newState ⟨⟩
    · rintro listener ⟨⟩
  have changes : ∀ (had : List Nat) (this : Event Nat) (newState : Int),
      this.isStateFinal = false → this.Respects had (.change newState) := by
    intro had this newState unfinished
    constructor
    · rintro other -
      exact unfinished
    · rintro listener ⟨⟩
  refine ⟨keeps _ _, fun _ => ⟨changes _ _ _ rfl, fun _ => ⟨changes _ _ _ rfl, fun _ =>
    ⟨keeps _ _, fun _ => ⟨⟨?_, ?_⟩, fun _ => ⟨keeps _ _, fun _ => ⟨⟨?_, ?_⟩, ?_⟩⟩⟩⟩⟩⟩⟩
  · rintro newState ⟨⟩
  · rintro listener ⟨⟩ -
    decide
  · rintro newState ⟨⟩
  · rintro listener ⟨⟩
  · intro _
    trivial

/-- A reply completes the request before its waiter, whose time-out has expired, has the
lock again: the state becomes a time-out, and the listener is told a second time. -/
theorem exists_completed_changed :
    ∃ (this : EventObject Nat Nat) (calls : List (Call Nat Nat)),
      ¬StaysCompleted (this.record calls) := by
  exists .future .request
    { state := ES_IDLE, listener := some 1, result := some [], expectedSize := 1, waiting := 0 },
    [.waitFuture, .setFuture 7, .awake true]
  intro completed
  have same := completed.same ES_SUCCESS (by decide) ES_TIMEOUT (by decide) rfl rfl
  cases same

end EventObject

end Stheno.Events
