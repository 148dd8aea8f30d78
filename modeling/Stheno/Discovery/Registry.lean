import Mathlib.Logic.Function.Basic
import Stheno.Run
import Stheno.Table

/-!
# The registry of the providers

`Discovery` keeps the registered providers in a table under their provider identifiers.
An addition under an identifier that is taken is refused.
-/

namespace Stheno.Discovery

/-- A provider object, by its address, and the identifier that its class provides. -/
structure DiscoveryProvider where
  address : Nat
  getProviderID : UInt32
  deriving DecidableEq

/-- The identifier is kept as an `int`. -/
structure DiscoveryProviderInfo where
  provider : DiscoveryProvider
  providerID : Int32
  deriving DecidableEq

/-- The part of `Discovery` that keeps the providers. -/
structure ProviderRegistry where
  eventProvider : Table UInt32 DiscoveryProviderInfo

namespace ProviderRegistry

def new : ProviderRegistry :=
  ⟨.empty⟩

variable (this : ProviderRegistry) (provider : DiscoveryProvider)

def findProvider (providerID : UInt32) : Option DiscoveryProviderInfo :=
  this.eventProvider.find providerID

/-- Whoever is registered under the identifier is unbound. -/
def removeDiscoveryProvider : ProviderRegistry × Bool :=
  (⟨this.eventProvider.unbind provider.getProviderID⟩, true)

/-- A refusal removes what is registered under the identifier. -/
def addDiscoveryProvider : ProviderRegistry × Bool :=
  match this.findProvider provider.getProviderID with
  | none =>
      (⟨this.eventProvider.bind provider.getProviderID
        ⟨provider, provider.getProviderID.toInt32⟩⟩, true)
  | some _ => ((this.removeDiscoveryProvider provider).1, false)

variable {this provider}

/-- An addition succeeds exactly where the identifier is free. -/
theorem addDiscoveryProvider_iff : (this.addDiscoveryProvider provider).2 = true ↔
    this.findProvider provider.getProviderID = none := by
  rw [addDiscoveryProvider]
  cases this.findProvider provider.getProviderID with
  | none => simp
  | some info => simp

theorem findProvider_remove (providerID : UInt32) :
    (this.removeDiscoveryProvider provider).1.findProvider providerID =
      if providerID = provider.getProviderID then none else this.findProvider providerID :=
  Table.find_unbind this.eventProvider provider.getProviderID providerID

theorem findProvider_add (free : this.findProvider provider.getProviderID = none)
    (providerID : UInt32) :
    (this.addDiscoveryProvider provider).1.findProvider providerID =
      if providerID = provider.getProviderID then
        some ⟨provider, provider.getProviderID.toInt32⟩
      else
        this.findProvider providerID := by
  rw [addDiscoveryProvider, free]
  exact Table.find_bind_of_fresh free _ providerID

theorem addDiscoveryProvider_of_taken {info : DiscoveryProviderInfo}
    (taken : this.findProvider provider.getProviderID = some info) :
    this.addDiscoveryProvider provider = ((this.removeDiscoveryProvider provider).1, false) := by
  rw [addDiscoveryProvider, taken]

/-- A removal under an identifier that nobody has changes nothing. -/
theorem removeDiscoveryProvider_of_free (free : this.findProvider provider.getProviderID = none) :
    (this.removeDiscoveryProvider provider).1 = this := by
  cases this with
  | mk eventProvider =>
      exact congrArg ProviderRegistry.mk (Table.unbind_of_fresh free)

end ProviderRegistry

/-! ## Histories of calls -/

inductive ProviderCall where
  | add (provider : DiscoveryProvider)
  | remove (provider : DiscoveryProvider)

/-- The registry, with the provider whose addition under an identifier last succeeded and
which was not removed since. -/
structure Registered where
  registry : ProviderRegistry
  current : UInt32 → Option DiscoveryProvider

namespace Registered

def new : Registered where
  registry := .new
  current := fun _ => none

def step (this : Registered) : ProviderCall → Registered
  | .add provider =>
      { registry := (this.registry.addDiscoveryProvider provider).1
        current :=
          if (this.registry.addDiscoveryProvider provider).2 then
            Function.update this.current provider.getProviderID (some provider)
          else
            this.current }
  | .remove provider =>
      { registry := (this.registry.removeDiscoveryProvider provider).1
        current :=
          if this.current provider.getProviderID = some provider then
            Function.update this.current provider.getProviderID none
          else
            this.current }

def run (this : Registered) (calls : List ProviderCall) : Registered :=
  calls.foldl step this

/-- The registry answers with the current providers. -/
def Answers (this : Registered) : Prop :=
  ∀ providerID, (this.registry.findProvider providerID).map DiscoveryProviderInfo.provider =
    this.current providerID

/-- A refused addition, or the removal of a provider that is not registered. -/
def Idle (this : Registered) : ProviderCall → Prop
  | .add provider => (this.registry.addDiscoveryProvider provider).2 = false
  | .remove provider => this.current provider.getProviderID ≠ some provider

/-- Every state of the history answers, and an idle call leaves the table as it is. -/
structure Reliable (calls : List ProviderCall) : Prop where
  answers : ∀ before, before <+: calls → (new.run before).Answers
  idle : ∀ before call, before ++ [call] <+: calls → (new.run before).Idle call →
    (new.run (before ++ [call])).registry = (new.run before).registry

/-- An addition finds its identifier free; a removal names the registered provider or an
identifier that is free. -/
def Fits (this : Registered) : ProviderCall → Prop
  | .add provider => this.registry.findProvider provider.getProviderID = none
  | .remove provider => ∀ info ∈ this.registry.findProvider provider.getProviderID,
      info.provider = provider

/-- Every call fits where it is made. -/
def FitsAll (this : Registered) : List ProviderCall → Prop
  | [] => True
  | call :: rest => this.Fits call ∧ (this.step call).FitsAll rest

variable {this : Registered} {call : ProviderCall}

theorem current_eq_none_iff (answers : this.Answers) (providerID : UInt32) :
    this.current providerID = none ↔ this.registry.findProvider providerID = none := by
  rw [← answers providerID, Option.map_eq_none_iff]

/-- What is current after an addition that succeeds. -/
theorem current_add {provider : DiscoveryProvider}
    (free : this.registry.findProvider provider.getProviderID = none) (providerID : UInt32) :
    (this.step (.add provider)).current providerID =
      if providerID = provider.getProviderID then some provider else this.current providerID := by
  have taken := ProviderRegistry.addDiscoveryProvider_iff.mpr free
  simp only [step, if_pos taken, Function.update_apply]

theorem current_remove (provider : DiscoveryProvider) (providerID : UInt32) :
    (this.step (.remove provider)).current providerID =
      if providerID = provider.getProviderID ∧ this.current providerID = some provider then
        none
      else
        this.current providerID := by
  rw [step]
  by_cases here : providerID = provider.getProviderID
  · subst here
    split
    · rename_i same
      simp [same]
    · rename_i foreign
      simp [foreign]
  · split
    · simp [here]
    · simp [here]

theorem answers_add_iff (answers : this.Answers) (provider : DiscoveryProvider) :
    (this.step (.add provider)).Answers ↔ this.Fits (.add provider) := by
  cases searched : this.registry.findProvider provider.getProviderID with
  | none =>
      apply iff_of_true _ searched
      intro providerID
      rw [current_add searched]
      change ((this.registry.addDiscoveryProvider provider).1.findProvider providerID).map _ = _
      rw [ProviderRegistry.findProvider_add searched]
      split
      · rfl
      · exact answers providerID
  | some info =>
      apply iff_of_false
      · intro after
        -- The refusal has dropped the provider that is registered.
        have found := after provider.getProviderID
        have held := answers provider.getProviderID
        rw [step, ProviderRegistry.addDiscoveryProvider_of_taken searched,
          ProviderRegistry.findProvider_remove, if_pos rfl] at found
        rw [searched] at held
        exact absurd (held.trans found.symm) (by simp)
      · intro free
        rw [Fits, searched] at free
        cases free

theorem answers_remove_iff (answers : this.Answers) (provider : DiscoveryProvider) :
    (this.step (.remove provider)).Answers ↔ this.Fits (.remove provider) := by
  have held := answers provider.getProviderID
  constructor
  · intro after info found
    have dropped := after provider.getProviderID
    rw [current_remove] at dropped
    change ((this.registry.removeDiscoveryProvider provider).1.findProvider _).map _ = _ at dropped
    rw [ProviderRegistry.findProvider_remove, if_pos rfl] at dropped
    rw [Option.mem_def.mp found] at held
    by_contra other
    have foreign : this.current provider.getProviderID ≠ some provider := by
      rw [← held]
      exact fun same => other (Option.some.inj same)
    rw [if_neg fun both => foreign both.2] at dropped
    exact absurd (held.trans dropped.symm) (by simp)
  · intro fits providerID
    rw [current_remove]
    change ((this.registry.removeDiscoveryProvider provider).1.findProvider _).map _ = _
    rw [ProviderRegistry.findProvider_remove]
    by_cases here : providerID = provider.getProviderID
    · subst here
      rw [if_pos rfl, Option.map_none]
      cases searched : this.registry.findProvider provider.getProviderID with
      | none =>
          have free := (current_eq_none_iff answers _).mpr searched
          rw [free, ite_self]
      | some info =>
          rw [searched, Option.map_some, fits info (Option.mem_def.mpr searched)] at held
          rw [if_pos ⟨rfl, held.symm⟩]
    · rw [if_neg here, if_neg fun both => here both.1]
      exact answers providerID

/-- One call keeps the answers right exactly where it fits. -/
theorem answers_step_iff (answers : this.Answers) :
    (this.step call).Answers ↔ this.Fits call := by
  cases call with
  | add provider => exact answers_add_iff answers provider
  | remove provider => exact answers_remove_iff answers provider

/-- A call that fits and is idle names an identifier that is free. -/
theorem registry_step_of_idle (answers : this.Answers) (fits : this.Fits call)
    (idle : this.Idle call) : (this.step call).registry = this.registry := by
  cases call with
  | add provider =>
      have taken := ProviderRegistry.addDiscoveryProvider_iff.mpr fits
      rw [Idle, taken] at idle
      cases idle
  | remove provider =>
      apply ProviderRegistry.removeDiscoveryProvider_of_free
      rw [Option.eq_none_iff_forall_not_mem]
      intro info found
      apply idle
      rw [← answers, Option.mem_def.mp found, Option.map_some, fits info found]

theorem answers_new : new.Answers :=
  fun _ => rfl

theorem runs : Runs (fun this call => .ok (step this call)) (fun this calls => .ok (run this calls))
    Fits FitsAll :=
  Runs.of_total (fun _ => trivial) fun _ _ _ => Iff.rfl

/-- All states answer exactly where all calls fit. -/
theorem answers_iff_fitsAll (calls : List ProviderCall) :
    (∀ before, before <+: calls → (new.run before).Answers) ↔ new.FitsAll calls := by
  rw [← runs.always_iff (fun _ _ => trivial) _ trivial answers_new]
  · exact forall_reached_iff.symm
  · intro state event after _ answers stepped
    cases stepped
    exact answers_step_iff answers

theorem fits_of_fitsAll {before : List ProviderCall} (fits : this.FitsAll (before ++ [call])) :
    (this.run before).Fits call := by
  induction before generalizing this with
  | nil => exact fits.1
  | cons first before inductionHypothesis => exact inductionHypothesis fits.2

theorem reliable_iff (calls : List ProviderCall) : Reliable calls ↔ new.FitsAll calls := by
  constructor
  · intro reliable
    exact (answers_iff_fitsAll calls).mp reliable.answers
  · intro fits
    have answers := (answers_iff_fitsAll calls).mpr fits
    constructor
    · exact answers
    · intro before call first idle
      have always : ∀ shorter, shorter <+: before ++ [call] → (new.run shorter).Answers :=
        fun shorter within => answers shorter (within.trans first)
      have here := fits_of_fitsAll ((answers_iff_fitsAll (before ++ [call])).mp always)
      rw [run, List.foldl_append]
      exact registry_step_of_idle (always before (List.prefix_append _ _)) here idle

/-- A second provider with the same identifier is refused, and the first is gone. -/
theorem not_reliable_refused : ¬ Reliable [.add ⟨1, 7⟩, .add ⟨2, 7⟩] := by
  intro reliable
  exact absurd (reliable.answers _ (List.prefix_refl _) 7) (by decide)

end Registered

end Stheno.Discovery
