import Mathlib.Data.List.Infix
import Mathlib.Logic.Function.Iterate
import Stheno.Events.Gathering

/-!
# The count of a group

The count is right as long as every request is visited once and becomes final once while
the group listens to it.  Then the group is successful when all requests are final and not
before, and the thread that waits is released.
-/

namespace Stheno.Events.Gathering

variable {LISTENER REQUEST : Type}

/-! ## What every event keeps -/

/-- The requests that `open` has visited are final, or the group listens to them. -/
structure Lists (this : Gathering LISTENER REQUEST) (members visited : List REQUEST) : Prop where
  list : this.group.result = some members
  once : members.Nodup
  expected : this.group.expectedSize = members.length
  split : members = visited ++ this.unvisited
  either : ∀ request ∈ visited,
    this.isRequestFinal request = true ∨ this.listens request = true
  listening : ∀ request, this.listens request = true → request ∈ visited
  idle : members = [] → this.group.waiting = 0

/-- The final ones among these are counted. -/
structure Counts (this : Gathering LISTENER REQUEST) (members visited : List REQUEST) : Prop
    extends this.Lists members visited where
  finished : this.group.finishedRequests = visited.countP this.isRequestFinal
  released : this.group.opened = true → this.opening = none → this.allFinal = true →
    this.group.waiting = 0 ∨ this.group.isStateFinal = true

structure Sound (this : Gathering LISTENER REQUEST) : Prop where
  success : this.hasty = false
  running : this.fault = none
  opening : ∀ visit, this.opening = some visit →
    this.group.opened = true ∧ visit.rest ≠ [] ∧ this.group.result.isSome = true
  here : ∀ members, this.group.result = some members → ∃ visited, this.Counts members visited
  away : this.group.result = none → ∀ request, this.listens request = false

theorem members_eq {this : Gathering LISTENER REQUEST} {members : List REQUEST}
    (list : this.group.result = some members) : this.members = members := by
  rw [Gathering.members, list]
  rfl

section Counting

variable {this : Gathering LISTENER REQUEST} {members visited : List REQUEST}

/-- When `open` has returned, it has visited all requests. -/
theorem Lists.eq_visited (lists : this.Lists members visited) (opened : this.group.opened = true)
    (closed : this.opening = none) : members = visited := by
  rw [lists.split, unvisited, if_pos opened, closed]
  exact List.append_nil visited

theorem Lists.seen (lists : this.Lists members visited) {request : REQUEST}
    (member : request ∈ visited) : request ∈ this.members ∧ request ∉ this.unvisited := by
  have once := lists.once
  rw [lists.split, List.nodup_append] at once
  constructor
  · rw [members_eq lists.list, lists.split]
    exact List.mem_append_left _ member
  · intro later
    exact once.2.2 request member request later rfl

/-- The next request that `open` visits. -/
theorem Lists.split_of_opening (lists : this.Lists members visited)
    (opened : this.group.opened = true) {request : REQUEST} {rest : List REQUEST} {checked : Bool}
    (opening : this.opening = some ⟨request :: rest, checked⟩) :
    members = (visited ++ [request]) ++ rest := by
  have parts := lists.split
  rw [unvisited, if_pos opened, opening] at parts
  rw [parts, List.append_assoc]
  rfl

/-- All requests are final when as many of them as were added are. -/
theorem Lists.allFinal_of_countP (lists : this.Lists members visited)
    (complete : members.length = visited.countP this.isRequestFinal) : this.allFinal = true := by
  have most : visited.countP this.isRequestFinal ≤ visited.length := List.countP_le_length
  have parts : members.length = visited.length + this.unvisited.length := by
    rw [← List.length_append, ← lists.split]
  have none_left : this.unvisited = [] := List.length_eq_zero_iff.mp (by omega)
  have every : visited.countP this.isRequestFinal = visited.length := by omega
  rw [allFinal, members_eq lists.list, lists.split, none_left, List.append_nil, List.all_eq_true]
  exact List.countP_eq_length.mp every

theorem Lists.countP_of_allFinal (lists : this.Lists members visited)
    (opened : this.group.opened = true) (closed : this.opening = none)
    (allFinal : this.allFinal = true) : members.length = visited.countP this.isRequestFinal := by
  rw [← lists.eq_visited opened closed]
  rw [Gathering.allFinal, members_eq lists.list, List.all_eq_true] at allFinal
  exact (List.countP_eq_length.mpr allFinal).symm

theorem Sound.completes [DecidableEq REQUEST] (sound : this.Sound) : this.Completes where
  success := sound.success
  running := sound.running
  counted opened closed members list := by
    rcases sound.here members list with ⟨visited, counts⟩
    rw [counts.finished, ← counts.eq_visited opened closed, counts.once.dedup,
      List.countP_eq_length_filter]
  released opened closed here allFinal := by
    rcases Option.isSome_iff_exists.mp here with ⟨members, list⟩
    rcases sound.here members list with ⟨visited, counts⟩
    exact counts.released opened closed allFinal

end Counting

theorem sound_created (listener : Option LISTENER) (states : REQUEST → Int) :
    (created listener states).Sound where
  success := rfl
  running := rfl
  opening visit impossible := by cases impossible
  here members list := by
    cases list
    refine ⟨[], ⟨rfl, List.nodup_nil, rfl, rfl, ?_, ?_, fun _ => rfl⟩, rfl, ?_⟩
    · intro request impossible
      cases impossible
    · intro request impossible
      cases impossible
    · intro impossible
      cases impossible
  away impossible := by cases impossible

/-! ## A notice -/

/-- The group after it was told of a request. -/
def told (group : RequestGroup LISTENER REQUEST) (final : Bool) : RequestGroup LISTENER REQUEST :=
  let finishedRequests := group.finishedRequests + final.toNat
  { group with
    finishedRequests
    state := if group.expectedSize = finishedRequests then ES_SUCCESS else group.state }

theorem onEvent_eq (group : RequestGroup LISTENER REQUEST) (final : Bool) :
    (group.onEvent final).object = told group final ∧ (group.onEvent final).fault = none := by
  unfold RequestGroup.onEvent told RequestGroup.isAllEventFinal
  cases final with
  | false =>
      by_cases complete : group.expectedSize = group.finishedRequests
      · simp [complete, RequestGroup.stateChanged_i, EventFuture.stateChanged_i,
          Events.Event.stateChanged_i, Effect.map]
      · simp [complete, Effect.keep]
  | true =>
      by_cases complete : group.expectedSize = group.finishedRequests + 1
      · simp [complete, RequestGroup.stateChanged_i, EventFuture.stateChanged_i,
          Events.Event.stateChanged_i, Effect.map]
      · simp [complete, Effect.keep]

/-- A call that keeps the state of the group is not hasty. -/
theorem absorb_of_same {this : Gathering LISTENER REQUEST}
    {effect : Effect LISTENER (RequestGroup LISTENER REQUEST)}
    (state : effect.object.state = this.group.state) (running : effect.fault = none) :
    this.absorb effect = { this with group := effect.object } := by
  rw [absorb, state, running, Option.or_none, bne, Bool.and_not_self, Bool.false_and, Bool.or_false]

/-- The parts of a gathering that a notice leaves alone. -/
structure SameBut (this after : Gathering LISTENER REQUEST) : Prop where
  success : after.hasty = this.hasty
  running : after.fault = this.fault
  opening : after.opening = this.opening
  opened : after.group.opened = this.group.opened
  result : after.group.result = this.group.result
  request : after.request = this.request

section Notices

variable {this : Gathering LISTENER REQUEST} {members visited : List REQUEST}

theorem Lists.congr {after : Gathering LISTENER REQUEST} (lists : this.Lists members visited)
    (same : this.SameBut after) (expected : after.group.expectedSize = this.group.expectedSize)
    (waiting : after.group.waiting = this.group.waiting) : after.Lists members visited := by
  have unvisited : after.unvisited = this.unvisited := by
    rw [Gathering.unvisited, Gathering.unvisited, same.opened, same.opening, Gathering.members,
      Gathering.members, same.result]
  constructor
  · rw [same.result]
    exact lists.list
  · exact lists.once
  · rw [expected]
    exact lists.expected
  · rw [unvisited]
    exact lists.split
  · unfold isRequestFinal listens
    rw [same.request]
    exact lists.either
  · unfold listens
    rw [same.request]
    exact lists.listening
  · rw [waiting]
    exact lists.idle

/-- A notice of a final state completes the count. -/
theorem Lists.absorb_onEvent (lists : this.Lists members visited) {final : Bool}
    (counted : this.group.finishedRequests + final.toNat = visited.countP this.isRequestFinal) :
    this.SameBut (this.absorb (this.group.onEvent final)) ∧
      (this.absorb (this.group.onEvent final)).Counts members visited := by
  rcases onEvent_eq this.group final with ⟨object, fault⟩
  have complete_iff : this.group.expectedSize = this.group.finishedRequests + final.toNat ↔
      members.length = visited.countP this.isRequestFinal := by
    rw [counted, lists.expected]
  have same : this.SameBut (this.absorb (this.group.onEvent final)) := by
    refine ⟨?_, ?_, rfl, ?_, ?_, rfl⟩
    · rw [absorb, object, told]
      by_cases complete : members.length = visited.countP this.isRequestFinal
      · simp [lists.allFinal_of_countP complete]
      · simp [complete_iff, complete]
    · rw [absorb, fault]
      exact Option.or_none
    · rw [absorb, object]
      rfl
    · rw [absorb, object]
      rfl
  have group : (this.absorb (this.group.onEvent final)).group = told this.group final := object
  have listsAfter : (this.absorb (this.group.onEvent final)).Lists members visited := by
    apply lists.congr same
    · rw [group]
      rfl
    · rw [group]
      rfl
  refine ⟨same, listsAfter, ?_, ?_⟩
  · rw [group]
    exact counted
  · intro opened closed allFinal
    right
    have complete := listsAfter.countP_of_allFinal opened closed allFinal
    rw [group, told, Event.isStateFinal]
    dsimp only
    rw [if_pos (complete_iff.mpr complete)]
    rfl

/-- Before `open` no request was visited. -/
theorem Lists.visited_eq_nil (lists : this.Lists members visited)
    (fresh : this.group.opened = false) : visited = [] := by
  have parts := lists.split
  rw [unvisited, fresh, if_neg Bool.false_ne_true, members_eq lists.list] at parts
  exact List.self_eq_append_left.mp parts

/-- Nothing else is left to check after a notice. -/
theorem SameBut.sound {after : Gathering LISTENER REQUEST} (same : this.SameBut after)
    (counts : after.Counts members visited) (success : this.hasty = false)
    (running : this.fault = none)
    (opening : ∀ visit, this.opening = some visit →
      this.group.opened = true ∧ visit.rest ≠ [] ∧ this.group.result.isSome = true) :
    after.Sound where
  success := same.success.trans success
  running := same.running.trans running
  opening := by
    rw [same.opening, same.opened, same.result]
    exact opening
  here other list := by
    obtain rfl := Option.some.inj (counts.list.symm.trans list)
    exact ⟨visited, counts⟩
  away impossible := absurd (counts.list.symm.trans impossible) (Option.some_ne_none members)

end Notices

/-! ## The calls -/

theorem rest_visiting (rest : List REQUEST) : ((visiting rest).map Visit.rest).getD [] = rest := by
  cases rest with
  | nil => rfl
  | cons request rest => rfl

theorem visiting_eq_none {rest : List REQUEST} (closed : visiting rest = none) : rest = [] := by
  cases rest with
  | nil => rfl
  | cons request rest => cases closed

theorem rest_of_visiting {rest : List REQUEST} {visit : Visit REQUEST}
    (opening : visiting rest = some visit) : visit.rest ≠ [] := by
  cases rest with
  | nil => cases opening
  | cons request rest =>
      cases opening
      exact List.cons_ne_nil request rest

/-- Of requests that are listed once, one changes that was not counted. -/
theorem countP_of_changed {p q : REQUEST → Bool} {requests : List REQUEST} {request : REQUEST}
    [DecidableEq REQUEST] (once : requests.Nodup) (listed : request ∈ requests)
    (others : ∀ other, other ≠ request → q other = p other) (before : p request = false) :
    requests.countP q = requests.countP p + (q request).toNat := by
  have first := List.perm_cons_erase listed
  have rest : (requests.erase request).countP q = (requests.erase request).countP p := by
    apply List.countP_congr
    intro other member
    rw [others other ((once.mem_erase_iff).mp member).1]
  rw [first.countP_eq, first.countP_eq, List.countP_cons, List.countP_cons, rest, before]
  cases q request with
  | false => rfl
  | true => rfl

section Calls

variable {this : Gathering LISTENER REQUEST}

theorem sound_addRequest (sound : this.Sound) {request : REQUEST}
    (allows : this.Allows (.addRequest request)) : (this.addRequest request).Sound := by
  cases list : this.group.result with
  | none =>
      have kept : this.group.addRequest request = .keep this.group := by
        rw [RequestGroup.addRequest, list]
      rw [addRequest, kept, absorb_of_same rfl rfl]
      exact sound
  | some members =>
      rcases sound.here members list with ⟨visited, counts⟩
      have allowed := allows (by rw [list]; rfl)
      rw [members_eq list] at allowed
      obtain rfl := counts.visited_eq_nil allowed.1
      have pushed : this.group.addRequest request =
          .keep { this.group with
            result := some (members ++ [request])
            expectedSize := this.group.expectedSize + 1 } := by
        rw [RequestGroup.addRequest, list]
      have added : this.addRequest request =
          { this with
            group := { this.group with
              result := some (members ++ [request])
              expectedSize := this.group.expectedSize + 1 } } := by
        rw [addRequest, pushed, absorb_of_same rfl rfl]
        rfl
      rw [added]
      refine ⟨sound.success, sound.running, ?_, ?_, ?_⟩
      · intro visit begun
        exact ⟨(sound.opening visit begun).1, (sound.opening visit begun).2.1, rfl⟩
      · intro after listAfter
        cases listAfter
        refine ⟨[], ⟨rfl, ?_, ?_, ?_, ?_, counts.listening, ?_⟩, counts.finished, ?_⟩
        · exact counts.once.append (List.nodup_singleton request)
            (List.disjoint_singleton.mpr allowed.2)
        · rw [List.length_append, List.length_singleton, ← counts.expected]
        · rw [unvisited, if_neg]
          · rfl
          · rw [allowed.1]
            exact Bool.false_ne_true
        · exact counts.either
        · intro impossible
          cases (List.append_eq_nil_iff.mp impossible).2
        · intro opened
          rw [allowed.1] at opened
          cases opened
      · intro impossible
        cases impossible

theorem sound_open (sound : this.Sound) (allows : this.Allows .open_) : this.open_.Sound := by
  cases opened : this.group.opened with
  | true =>
      rw [open_, opened]
      exact sound
  | false =>
      rcases allows with already | here
      · rw [opened] at already
        cases already
      · rcases Option.isSome_iff_exists.mp here with ⟨members, list⟩
        rcases sound.here members list with ⟨visited, counts⟩
        obtain rfl := counts.visited_eq_nil opened
        have begun : this.open_ =
            { this with
              group := { this.group with opened := true }
              opening := visiting members } := by
          simp [open_, opened, list]
        rw [begun]
        refine ⟨sound.success, sound.running, ?_, ?_, ?_⟩
        · intro visit opening
          exact ⟨rfl, rest_of_visiting opening, here⟩
        · intro other listAfter
          obtain rfl := Option.some.inj (list.symm.trans listAfter)
          refine ⟨[], ⟨list, counts.once, counts.expected, ?_, counts.either, counts.listening,
            counts.idle⟩, counts.finished, ?_⟩
          · rw [unvisited, if_pos rfl]
            exact (rest_visiting members).symm
          · intro _ empty _
            exact Or.inl (counts.idle (visiting_eq_none empty))
        · intro impossible
          exact absurd (list.symm.trans impossible) (Option.some_ne_none members)

/-- A request that is final and is found so by `open` is counted. -/
theorem sound_check (sound : this.Sound) (allows : this.Allows .visit) {request : REQUEST}
    {rest : List REQUEST} (opening : this.opening = some ⟨request :: rest, false⟩)
    (final : this.isRequestFinal request = true) :
    Sound { this with
      group := { this.group with finishedRequests := this.group.finishedRequests + 1 }
      opening := visiting rest } := by
  rcases sound.opening _ opening with ⟨opened, -, here⟩
  refine ⟨sound.success, sound.running, ?_, ?_, sound.away⟩
  · intro visit begun
    exact ⟨opened, rest_of_visiting begun, here⟩
  · intro members list
    rcases sound.here members list with ⟨visited, counts⟩
    have split := counts.split_of_opening opened opening
    refine ⟨visited ++ [request], ⟨list, counts.once, counts.expected, ?_, ?_, ?_, counts.idle⟩,
      ?_, ?_⟩
    · rw [unvisited, if_pos opened, rest_visiting]
      exact split
    · intro other member
      rcases List.mem_append.mp member with earlier | last
      · exact counts.either other earlier
      · rw [List.mem_singleton.mp last]
        exact Or.inl final
    · intro other listens
      exact List.mem_append_left _ (counts.listening other listens)
    · change _ = (visited ++ [request]).countP this.isRequestFinal
      rw [List.countP_append, List.countP_singleton, if_pos final, ← counts.finished]
    · intro _ empty allFinal
      left
      rw [visiting_eq_none empty] at opening
      apply allows _ allFinal
      rw [opening]
      rfl

/-- A request that is not final will be listened to. -/
theorem sound_recheck (sound : this.Sound) {request : REQUEST} {rest : List REQUEST}
    (opening : this.opening = some ⟨request :: rest, false⟩) :
    Sound { this with opening := some ⟨request :: rest, true⟩ } := by
  rcases sound.opening _ opening with ⟨opened, nonempty, here⟩
  refine ⟨sound.success, sound.running, ?_, ?_, sound.away⟩
  · intro visit begun
    cases begun
    exact ⟨opened, nonempty, here⟩
  · intro members list
    rcases sound.here members list with ⟨visited, counts⟩
    refine ⟨visited, ⟨list, counts.once, counts.expected, ?_, counts.either, counts.listening,
      counts.idle⟩, counts.finished, ?_⟩
    · rw [unvisited, if_pos opened, counts.split_of_opening opened opening, List.append_assoc]
      rfl
    · intro _ impossible
      cases impossible

end Calls

section Requests

variable [DecidableEq REQUEST] {this : Gathering LISTENER REQUEST}

theorem isRequestFinal_withRequest (request other : REQUEST) (event : Events.Event Unit) :
    (this.withRequest request event).isRequestFinal other =
      if other = request then event.isStateFinal else this.isRequestFinal other := by
  change (Function.update this.request request event other).isStateFinal = _
  rw [Function.update_apply, isRequestFinal, apply_ite Events.Event.isStateFinal]

theorem listens_withRequest (request other : REQUEST) (event : Events.Event Unit) :
    (this.withRequest request event).listens other =
      if other = request then event.listener.isSome else this.listens other := by
  change (Function.update this.request request event other).listener.isSome = _
  rw [Function.update_apply, listens, apply_ite Events.Event.listener, apply_ite Option.isSome]

/-- The listeners stay where a request keeps its own. -/
theorem listens_withRequest_of_same {request : REQUEST} {event : Events.Event Unit}
    (same : event.listener.isSome = this.listens request) :
    (this.withRequest request event).listens = this.listens := by
  funext other
  rw [listens_withRequest]
  split
  · rename_i here
    rw [here, same]
  · rfl

/-- A request that the group listens to changes, and the group is told of it. -/
theorem change_of_listening {request : REQUEST} {listener : Unit} (newState : Int)
    (set : (this.request request).listener = some listener) :
    this.change request newState =
      let next := this.withRequest request { state := newState, listener := some listener }
      next.absorb (next.group.onEvent (next.isRequestFinal request)) := by
  rw [change, onRequest, Events.Event.stateChanged, Events.Event.stateChanged_i]
  simp only [Events.Event.fireEventChange, set, notify, List.foldl_cons, List.foldl_nil]

theorem change_of_silent {request : REQUEST} (newState : Int)
    (unset : (this.request request).listener = none) :
    this.change request newState =
      this.withRequest request { state := newState, listener := none } := by
  rw [change, onRequest, Events.Event.stateChanged, Events.Event.stateChanged_i]
  simp only [Events.Event.fireEventChange, unset, notify, List.foldl_nil]

/-- A request that the group listens to changes, and the group is told. -/
theorem sound_change_listening (sound : this.Sound) {request : REQUEST} {newState : Int}
    (allows : this.Allows (.change request newState))
    (listening : this.listens request = true) : (this.change request newState).Sound := by
  rcases Option.isSome_iff_exists.mp listening with ⟨listener, set⟩
  have here : ∃ members, this.group.result = some members := by
    cases list : this.group.result with
    | none => exact absurd listening (by rw [sound.away list request]; exact Bool.false_ne_true)
    | some members => exact ⟨members, rfl⟩
  rcases here with ⟨members, list⟩
  rcases sound.here members list with ⟨visited, counts⟩
  have seen := counts.listening request listening
  have before : this.isRequestFinal request = false := by
    rw [← Bool.not_eq_true]
    intro final
    have place := counts.seen seen
    rw [(allows place.1 place.2 final).2] at listening
    cases listening
  let next := this.withRequest request { state := newState, listener := some listener }
  have listens : next.listens = this.listens := listens_withRequest_of_same listening.symm
  have finals : ∀ other, other ≠ request → next.isRequestFinal other = this.isRequestFinal other := by
    intro other apart
    rw [isRequestFinal_withRequest, if_neg apart]
  have lists : next.Lists members visited := by
    refine ⟨list, counts.once, counts.expected, counts.split, ?_, ?_, counts.idle⟩
    · intro other member
      rw [listens]
      by_cases same : other = request
      · rw [same]
        exact Or.inr listening
      · rw [finals other same]
        exact counts.either other member
    · rw [listens]
      exact counts.listening
  have counted : next.group.finishedRequests + (next.isRequestFinal request).toNat =
      visited.countP next.isRequestFinal := by
    have once : visited.Nodup := (List.nodup_append.mp (counts.split ▸ counts.once)).1
    rw [countP_of_changed once seen finals before, ← counts.finished]
    rfl
  rw [change_of_listening newState set]
  rcases lists.absorb_onEvent counted with ⟨same, countsAfter⟩
  exact same.sound countsAfter sound.success sound.running sound.opening

/-- A request that the group does not listen to changes. -/
theorem sound_change_silent (sound : this.Sound) {request : REQUEST} {newState : Int}
    (allows : this.Allows (.change request newState)) (silent : this.listens request = false) :
    (this.change request newState).Sound := by
  have unset : (this.request request).listener = none :=
    Option.isNone_iff_eq_none.mp (Option.isSome_eq_false_iff.mp silent)
  let next := this.withRequest request { state := newState, listener := none }
  have listens : next.listens = this.listens := listens_withRequest_of_same silent.symm
  rw [change_of_silent newState unset]
  refine ⟨sound.success, sound.running, sound.opening, ?_, ?_⟩
  · intro members list
    rcases sound.here members list with ⟨visited, counts⟩
    -- a visited request that changes was final before `open`, and is final still
    have kept : ∀ other ∈ visited, next.isRequestFinal other = this.isRequestFinal other := by
      intro other member
      rw [isRequestFinal_withRequest]
      split
      · rename_i same
        subst same
        have final : this.isRequestFinal other = true := by
          rcases counts.either other member with final | heard
          · exact final
          · rw [silent] at heard
            cases heard
        have place := counts.seen member
        rw [final]
        exact (allows place.1 place.2 final).1
      · rfl
    refine ⟨visited, ⟨list, counts.once, counts.expected, counts.split, ?_, ?_, counts.idle⟩, ?_, ?_⟩
    · intro other member
      rw [listens, kept other member]
      exact counts.either other member
    · rw [listens]
      exact counts.listening
    · change this.group.finishedRequests = _
      rw [counts.finished]
      apply List.countP_congr
      intro other member
      rw [kept other member]
    · intro opened closed allFinal
      apply counts.released opened closed
      rw [Gathering.allFinal, members_eq counts.list, counts.toLists.eq_visited opened closed,
        List.all_eq_true]
      rw [Gathering.allFinal, @members_eq _ _ next _ list,
        counts.toLists.eq_visited opened closed, List.all_eq_true] at allFinal
      intro other member
      rw [← kept other member]
      exact allFinal other member
  · rw [listens]
    exact sound.away

/-- The group listens to the request, whose state is what it was. -/
def heard (this : Gathering LISTENER REQUEST) (request : REQUEST) : Gathering LISTENER REQUEST :=
  this.withRequest request { state := (this.request request).state, listener := some () }

/-- The group is told of a final request that it becomes the listener of. -/
theorem onRequest_setListener {request : REQUEST} :
    this.onRequest request ((this.request request).setListener (some ())) =
      if this.isRequestFinal request = true then
        (this.heard request).absorb
          ((this.heard request).group.onEvent ((this.heard request).isRequestFinal request))
      else
        this.heard request := by
  rw [onRequest, Events.Event.setListener]
  cases final : isFinal (this.request request).state with
  | true =>
      simp only [Events.Event.fireEventChange, Events.Event.isStateFinal, final, if_true, notify,
        List.foldl_cons, List.foldl_nil, isRequestFinal, heard]
  | false =>
      simp only [Events.Event.isStateFinal, final, Bool.false_eq_true, if_false, notify,
        List.foldl_nil, isRequestFinal, heard]

theorem isRequestFinal_heard (request : REQUEST) :
    (this.heard request).isRequestFinal = this.isRequestFinal := by
  funext other
  rw [heard, isRequestFinal_withRequest]
  split
  · rename_i same
    rw [same]
    rfl
  · rfl

theorem listens_heard (request other : REQUEST) :
    (this.heard request).listens other = (decide (other = request) || this.listens other) := by
  rw [heard, listens_withRequest]
  by_cases same : other = request
  · simp [same]
  · simp [same]

section Listen

variable {members visited rest : List REQUEST} {request : REQUEST}

/-- The request that the group listens to is visited. -/
theorem Lists.heard (lists : this.Lists members visited) (opened : this.group.opened = true)
    (opening : this.opening = some ⟨request :: rest, true⟩) :
    (Gathering.heard { this with opening := visiting rest } request).Lists members
      (visited ++ [request]) := by
  refine ⟨lists.list, lists.once, lists.expected, ?_, ?_, ?_, lists.idle⟩
  · have left :
        (Gathering.heard { this with opening := visiting rest } request).unvisited = rest :=
      (if_pos opened).trans (rest_visiting rest)
    rw [left]
    exact lists.split_of_opening opened opening
  · intro other member
    rw [isRequestFinal_heard, listens_heard, Bool.or_eq_true, decide_eq_true_eq]
    rcases List.mem_append.mp member with earlier | last
    · rcases lists.either other earlier with final | heard
      · exact Or.inl final
      · exact Or.inr (Or.inr heard)
    · exact Or.inr (Or.inl (List.mem_singleton.mp last))
  · intro other heard
    rw [listens_heard, Bool.or_eq_true, decide_eq_true_eq] at heard
    rcases heard with same | earlier
    · rw [same]
      exact List.mem_append_right _ (List.mem_singleton.mpr rfl)
    · exact List.mem_append_left _ (lists.listening other earlier)

/-- The group becomes the listener of a request, which may have become final meanwhile. -/
theorem sound_listen (sound : this.Sound)
    (opening : this.opening = some ⟨request :: rest, true⟩) :
    (Gathering.onRequest { this with opening := visiting rest } request
      ((this.request request).setListener (some ()))).Sound := by
  rcases sound.opening _ opening with ⟨opened, -, here⟩
  rcases Option.isSome_iff_exists.mp here with ⟨members, list⟩
  rcases sound.here members list with ⟨visited, counts⟩
  let next := Gathering.heard { this with opening := visiting rest } request
  have finals : next.isRequestFinal = this.isRequestFinal := isRequestFinal_heard request
  have opens : ∀ visit, next.opening = some visit →
      next.group.opened = true ∧ visit.rest ≠ [] ∧ next.group.result.isSome = true :=
    fun visit begun => ⟨opened, rest_of_visiting begun, here⟩
  have lists : next.Lists members (visited ++ [request]) := counts.toLists.heard opened opening
  cases final : this.isRequestFinal request with
  | true =>
      have told : Gathering.onRequest { this with opening := visiting rest } request
          ((this.request request).setListener (some ())) =
            next.absorb (next.group.onEvent (next.isRequestFinal request)) :=
        onRequest_setListener.trans (if_pos final)
      have counted : next.group.finishedRequests + (next.isRequestFinal request).toNat =
          (visited ++ [request]).countP next.isRequestFinal := by
        rw [finals, List.countP_append, List.countP_singleton, if_pos final, final,
          ← counts.finished]
        rfl
      rw [told]
      rcases lists.absorb_onEvent counted with ⟨same, countsAfter⟩
      exact same.sound countsAfter sound.success sound.running opens
  | false =>
      have silent : Gathering.onRequest { this with opening := visiting rest } request
          ((this.request request).setListener (some ())) = next :=
        onRequest_setListener.trans (if_neg (Bool.not_eq_true _ ▸ final))
      rw [silent]
      refine ⟨sound.success, sound.running, opens, ?_, ?_⟩
      · intro other same
        obtain rfl := Option.some.inj (list.symm.trans same)
        refine ⟨visited ++ [request], lists, ?_, ?_⟩
        · rw [finals, List.countP_append, List.countP_singleton, final, if_neg Bool.false_ne_true,
            Nat.add_zero]
          exact counts.finished
        · intro _ _ every
          have listed : request ∈ members := by
            rw [counts.split_of_opening opened opening]
            exact List.mem_append_left _ (List.mem_append_right _ (List.mem_singleton.mpr rfl))
          rw [Gathering.allFinal, members_eq lists.list, List.all_eq_true, finals] at every
          exact absurd (every request listed) (by rw [final]; exact Bool.false_ne_true)
      · intro impossible
        exact absurd (list.symm.trans impossible) (Option.some_ne_none members)

end Listen

theorem sound_visit (sound : this.Sound) (allows : this.Allows .visit) : this.visit.Sound := by
  cases opening : this.opening with
  | none =>
      rw [visit, opening]
      exact sound
  | some current =>
      rcases current with ⟨rest, checked⟩
      have nonempty := (sound.opening _ opening).2.1
      cases rest with
      | nil => exact absurd rfl nonempty
      | cons request rest =>
          cases checked with
          | true =>
              simp only [visit, opening]
              exact sound_listen sound opening
          | false =>
              cases final : this.isRequestFinal request with
              | true =>
                  simp only [visit, opening, final, if_true]
                  exact sound_check sound allows opening final
              | false =>
                  simp only [visit, opening, final, Bool.false_eq_true, if_false]
                  exact sound_recheck sound opening

/-- When nothing changes meanwhile, `open` counts the requests that are final. -/
theorem exists_visits {rest : List REQUEST} (opening : this.opening = visiting rest) :
    ∃ count, (visit^[count] this).opening = none ∧
      (visit^[count] this).group = { this.group with
        finishedRequests := this.group.finishedRequests + rest.countP this.isRequestFinal } := by
  induction rest generalizing this with
  | nil => exact ⟨0, opening, rfl⟩
  | cons request rest inductionHypothesis =>
      have current : this.opening = some ⟨request :: rest, false⟩ := opening
      cases final : this.isRequestFinal request with
      | true =>
          let next : Gathering LISTENER REQUEST :=
            { this with
              group := { this.group with finishedRequests := this.group.finishedRequests + 1 }
              opening := visiting rest }
          have visited : this.visit = next := by
            simp only [visit, current, final, if_true, next]
          have opens : next.opening = visiting rest := rfl
          rcases inductionHypothesis opens with ⟨count, closed, group⟩
          refine ⟨count + 1, ?_⟩
          rw [Function.iterate_succ_apply, visited, group, List.countP_cons_of_pos final,
            Nat.add_comm _ 1, ← Nat.add_assoc]
          exact ⟨closed, rfl⟩
      | false =>
          let next : Gathering LISTENER REQUEST :=
            Gathering.heard { this with opening := visiting rest } request
          have visited : this.visit.visit = next := by
            simp only [visit, current, final, Bool.false_eq_true, if_false]
            exact onRequest_setListener.trans (if_neg (Bool.not_eq_true _ ▸ final))
          have opens : next.opening = visiting rest := rfl
          have finals : next.isRequestFinal = this.isRequestFinal := isRequestFinal_heard request
          rcases inductionHypothesis opens with ⟨count, closed, group⟩
          refine ⟨count + 2, ?_⟩
          rw [Function.iterate_succ_apply, Function.iterate_succ_apply, visited, group, finals,
            List.countP_cons_of_neg (by rw [final]; exact Bool.false_ne_true)]
          exact ⟨closed, rfl⟩

/-- Then its visits do to the group what `open` does in one step. -/
theorem exists_visits_eq_open {members : List REQUEST} (unopened : this.group.opened = false)
    (list : this.group.result = some members) :
    ∃ count, (visit^[count] this.open_).opening = none ∧
      (visit^[count] this.open_).group =
        (this.group.open_ (members.countP this.isRequestFinal)).object := by
  let next : Gathering LISTENER REQUEST :=
    { this with group := { this.group with opened := true }, opening := visiting members }
  have begun : this.open_ = next := by
    simp [open_, unopened, list, next]
  have opens : next.opening = visiting members := rfl
  rcases exists_visits opens with ⟨count, closed, group⟩
  refine ⟨count, ?_⟩
  rw [begun, group, RequestGroup.open_, unopened, if_neg Bool.false_ne_true, list]
  exact ⟨closed, rfl⟩

/-- The group gives its list away, and its requests are closed. -/
theorem sound_giveAway (sound : this.Sound) (closed : this.opening = none)
    {effect : Effect LISTENER (RequestGroup LISTENER REQUEST)} {members : List REQUEST}
    (list : this.group.result = some members) (gone : effect.object.result = none)
    (running : effect.fault = none)
    (calm : effect.object.state = ES_SUCCESS →
      this.group.state = ES_SUCCESS ∨ this.allFinal = true) :
    ((this.absorb effect).closeAll this.members).Sound := by
  rcases sound.here members list with ⟨visited, counts⟩
  refine ⟨?_, ?_, ?_, ?_, ?_⟩
  · change (this.hasty || _) = false
    rw [sound.success, Bool.false_or]
    by_cases success : effect.object.state = ES_SUCCESS
    · rcases calm success with already | every
      · simp [already]
      · simp [every]
    · simp [success]
  · change this.fault.or effect.fault = none
    rw [sound.running, running]
    rfl
  · intro visit begun
    cases closed.symm.trans begun
  · intro other impossible
    cases gone.symm.trans impossible
  · intro _ request
    have gone' : (this.absorb effect).group.result.isNone = true := by
      change effect.object.result.isNone = true
      rw [gone]
      rfl
    by_cases listed : request ∈ this.members
    · rw [listens, closeAll]
      dsimp only
      rw [if_pos ⟨listed, gone'⟩]
      rfl
    · rw [listens, closeAll]
      dsimp only
      rw [if_neg (fun both => listed both.1)]
      change this.listens request = false
      rw [← Bool.not_eq_true]
      intro heard
      exact listed (counts.seen (counts.listening request heard)).1

/-- Nothing is closed while the list is kept. -/
theorem closeAll_of_kept (this : Gathering LISTENER REQUEST) (requests : List REQUEST)
    (gone : this.group.result = none → requests = []) : this.closeAll requests = this := by
  have stays : (fun request => if request ∈ requests ∧ this.group.result.isNone then
      (this.request request).removeListener.object.cancel.object
      else this.request request) = this.request := by
    funext request
    rw [if_neg]
    rintro ⟨listed, away⟩
    rw [gone (Option.isNone_iff_eq_none.mp away)] at listed
    cases listed
  rw [closeAll, stays]

omit [DecidableEq REQUEST] in
theorem detach_of_some {group : RequestGroup LISTENER REQUEST} {members : List REQUEST}
    (list : group.result = some members) :
    group.detach = .keep { group with toEventFuture := group.toEventFuture.detach } := by
  rw [RequestGroup.detach, list]

theorem sound_waitFuture (sound : this.Sound) (allows : this.Allows .waitFuture)
    (closed : this.opening = none) : this.waitFuture.Sound := by
  rcases Option.isSome_iff_exists.mp allows with ⟨members, list⟩
  rcases sound.here members list with ⟨visited, counts⟩
  have complete_iff : this.group.isAllEventFinal = true ↔
      members.length = visited.countP this.isRequestFinal := by
    rw [RequestGroup.isAllEventFinal, counts.expected, counts.finished, beq_iff_eq]
  rw [waitFuture]
  by_cases complete : this.group.isAllEventFinal = true
  · rw [RequestGroup.waitFuture, if_pos complete, RequestGroup.thenDetach]
    have listed : (this.group.stateChanged_i ES_SUCCESS).object.result = some members := list
    rw [detach_of_some listed]
    exact sound_giveAway sound closed list rfl rfl fun _ =>
      Or.inr (counts.allFinal_of_countP (complete_iff.mp complete))
  · by_cases final : this.group.isStateFinal = true
    · rw [RequestGroup.waitFuture, if_neg complete, if_pos final, detach_of_some list]
      exact sound_giveAway sound closed list rfl rfl Or.inl
    · rw [RequestGroup.waitFuture, if_neg complete, if_neg final, absorb_of_same rfl rfl]
      let waits : Gathering LISTENER REQUEST :=
        { this with group := { this.group with waiting := this.group.waiting + 1 } }
      have stays : waits.closeAll this.members = waits :=
        closeAll_of_kept waits this.members fun gone =>
          absurd (list.symm.trans gone) (Option.some_ne_none members)
      change (waits.closeAll this.members).Sound
      rw [stays]
      refine ⟨sound.success, sound.running, sound.opening, ?_, sound.away⟩
      intro other same
      obtain rfl := Option.some.inj (list.symm.trans same)
      refine ⟨visited, ⟨list, counts.once, counts.expected, counts.split, counts.either,
        counts.listening, ?_⟩, counts.finished, ?_⟩
      · rintro rfl
        apply absurd _ complete
        rw [complete_iff, (List.append_eq_nil_iff.mp counts.split.symm).1]
        rfl
      · intro opened empty every
        exact absurd (complete_iff.mpr (counts.countP_of_allFinal opened empty every)) complete

theorem sound_awake (sound : this.Sound) {timedOut : Bool} (allows : this.Allows (.awake timedOut))
    (closed : this.opening = none) : (this.awake timedOut).Sound := by
  have kept : this.group.awake timedOut = .keep this.group → (this.awake timedOut).Sound := by
    intro stays
    rw [awake, stays, absorb_of_same rfl rfl, closeAll_of_kept]
    · exact sound
    · intro gone
      have away : this.group.result = none := gone
      rw [members, away]
      rfl
  rcases allows with nobody | here
  · apply kept
    rw [RequestGroup.awake, if_pos nobody]
  · rcases Option.isSome_iff_exists.mp here with ⟨members, list⟩
    by_cases nobody : this.group.waiting = 0
    · apply kept
      rw [RequestGroup.awake, if_pos nobody]
    · cases timedOut with
      | true =>
          let returned := { this.group with waiting := this.group.waiting - 1 }
          have listed : (returned.stateChanged_i ES_TIMEOUT).object.result = some members := list
          rw [awake, RequestGroup.awake, if_neg nobody, if_pos rfl, RequestGroup.thenDetach,
            detach_of_some listed]
          have other : ES_TIMEOUT ≠ ES_SUCCESS := by decide
          exact sound_giveAway sound closed list rfl rfl fun impossible => absurd impossible other
      | false =>
          by_cases final : this.group.isStateFinal = true
          · let returned := { this.group with waiting := this.group.waiting - 1 }
            have listed : returned.result = some members := list
            rw [awake, RequestGroup.awake, if_neg nobody, if_neg Bool.false_ne_true, if_pos final,
              detach_of_some listed]
            exact sound_giveAway sound closed list rfl rfl Or.inl
          · apply kept
            rw [RequestGroup.awake, if_neg nobody, if_neg Bool.false_ne_true, if_neg final]

/-- An event that meets its condition keeps all of this. -/
theorem sound_step (sound : this.Sound) {event : Event REQUEST} (fits : this.Fits event) :
    (this.step event).Sound := by
  rw [step]
  by_cases blocked : this.blocks event = true
  · rw [blocked, Bool.true_or, if_pos rfl]
    exact sound
  · rw [Bool.not_eq_true] at blocked
    rw [blocked, sound.running, Bool.false_or, Option.isSome_none, if_neg Bool.false_ne_true]
    have allows := fits blocked
    have free : this.opening.isSome = false → this.opening = none := fun unset =>
      Option.isNone_iff_eq_none.mp (Option.isSome_eq_false_iff.mp unset)
    cases event with
    | addRequest request => exact sound_addRequest sound allows
    | open_ => exact sound_open sound allows
    | visit => exact sound_visit sound allows
    | change request newState =>
        cases listening : this.listens request with
        | true => exact sound_change_listening sound allows listening
        | false => exact sound_change_silent sound allows listening
    | waitFuture => exact sound_waitFuture sound allows (free blocked)
    | awake timedOut => exact sound_awake sound allows (free blocked)

theorem sound_run (sound : this.Sound) {events before : List (Event REQUEST)}
    (fits : this.FitsAll events) (first : before <+: events) : (this.run before).Sound := by
  induction events generalizing this before with
  | nil =>
      rw [List.prefix_nil.mp first]
      exact sound
  | cons event rest inductionHypothesis =>
      cases before with
      | nil => exact sound
      | cons other before =>
          rcases List.cons_prefix_cons.mp first with ⟨rfl, shorter⟩
          exact inductionHypothesis (sound_step sound fits.1) fits.2 shorter

end Requests

/-- In every state of a run whose events meet their conditions, the group counts its final
requests, became successful only when all were final, and lets no thread wait after that. -/
theorem completes_through_run [DecidableEq REQUEST] (listener : Option LISTENER)
    (states : REQUEST → Int) (events : List (Event REQUEST))
    (fits : (created listener states).FitsAll events) :
    ∀ before, before <+: events → ((created listener states).run before).Completes :=
  fun _ first => (sound_run (sound_created listener states) fits first).completes

/-- The first of three requests completes before `open`, the second one between its check and
the listener that it gets there, and the third one, after it became active, while a thread
waits. -/
theorem completes_through_three_requests :
    ((created (none : Option Unit) fun _ : Nat => ES_IDLE).run
      [.addRequest 1, .addRequest 2, .change 1 ES_SUCCESS, .addRequest 3, .open_, .visit, .visit,
        .change 2 ES_ERROR, .visit, .visit, .visit, .change 3 SS_ACTIVE, .waitFuture,
        .awake false, .change 3 ES_SUCCESS, .awake false]).Completes := by
  apply completes_through_run none (fun _ => ES_IDLE) _ _ _ (List.prefix_refl _)
  refine ⟨?_, ?_, ?_, ?_, ?_, ?_, ?_, ?_, ?_, ?_, ?_, ?_, ?_, ?_, ?_, ?_, trivial⟩
  · exact fun _ _ => ⟨rfl, by decide⟩
  · exact fun _ _ => ⟨rfl, by decide⟩
  · exact fun _ _ visited => absurd (by decide) visited
  · exact fun _ _ => ⟨rfl, by decide⟩
  · exact fun _ => Or.inr rfl
  · exact fun _ _ _ => rfl
  · exact fun _ _ _ => rfl
  · exact fun _ _ visited => absurd (by decide) visited
  · exact fun _ _ _ => rfl
  · exact fun _ _ _ => rfl
  · exact fun _ _ _ => rfl
  · exact fun _ _ _ final => absurd final (by decide)
  · exact fun _ => rfl
  · exact fun _ => Or.inr rfl
  · exact fun _ _ _ final => absurd final (by decide)
  · exact fun _ => Or.inr rfl

/-- One of two requests completes and is cancelled: it is counted twice, and the group is
successful while the other one is idle. -/
theorem completes_fails_twice_final :
    ∃ events, ¬((created (none : Option Unit) fun _ : Bool => ES_IDLE).run events).Completes := by
  refine ⟨[.addRequest false, .addRequest true, .open_, .visit, .visit, .visit, .visit,
    .change false ES_SUCCESS, .change false ES_CANCEL], ?_⟩
  intro completes
  exact absurd completes.success (by decide)

end Stheno.Events.Gathering
