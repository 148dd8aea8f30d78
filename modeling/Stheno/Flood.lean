import Mathlib.Data.List.Infix
import Mathlib.Logic.Function.Basic
import Mathlib.Logic.Relation

/-!
# Flooding over channels in order

Every node of a network passes the messages that it handles on to its successors,
over channels that keep their order.  Along a link the messages that the near end
has handled are those that the far end has handled, followed by those under way.
Once nothing is under way all nodes behind a source have handled what it has sent.
-/

namespace Stheno

universe u v

/-- What the nodes have handled, and what is under way between them. -/
structure Flood (ι : Type u) (μ : Type v) where
  handled : ι → List μ
  channel : ι → ι → List μ

namespace Flood

variable {ι : Type u} {μ : Type v}

/-- Nothing is under way. -/
def Quiet (this : Flood ι μ) : Prop :=
  ∀ src dst, this.channel src dst = []

/-- What is under way is on a link. -/
def OnlyAlong (this : Flood ι μ) (link : ι → ι → Prop) : Prop :=
  ∀ src dst, ¬link src dst → this.channel src dst = []

/-- A link holds what its near end has handled and its far end has not. -/
def InOrder (this : Flood ι μ) (link : ι → ι → Prop) : Prop :=
  ∀ src dst, link src dst → this.handled src = this.handled dst ++ this.channel src dst

/-- Once nothing is under way, all nodes behind a node have handled the same. -/
theorem InOrder.handled_eq {this : Flood ι μ} {link : ι → ι → Prop} (inOrder : this.InOrder link)
    (quiet : this.Quiet) {src dst : ι}
    (behind : Relation.ReflTransGen link src dst) : this.handled dst = this.handled src := by
  induction behind with
  | refl => rfl
  | @tail middle last _ linked inductionHypothesis =>
      have edge := inOrder middle last linked
      rw [quiet middle last, List.append_nil] at edge
      rw [← edge, inductionHypothesis]

variable [DecidableEq ι]

/-- A node handles a message and passes it on. -/
def handle (this : Flood ι μ) (node : ι) (successors : List ι) (message : μ) : Flood ι μ where
  handled := Function.update this.handled node (this.handled node ++ [message])
  channel src dst :=
    if src = node ∧ dst ∈ successors then this.channel src dst ++ [message]
    else this.channel src dst

/-- The oldest message leaves a channel. -/
def receive (this : Flood ι μ) (node dst : ι) : Flood ι μ where
  handled := this.handled
  channel src other :=
    if src = node ∧ other = dst then (this.channel src other).tail else this.channel src other

@[simp]
theorem handled_handle_self (this : Flood ι μ) (node : ι) (successors : List ι) (message : μ) :
    (this.handle node successors message).handled node = this.handled node ++ [message] :=
  Function.update_self ..

theorem handled_handle_of_ne (this : Flood ι μ) {node other : ι} (apart : other ≠ node)
    (successors : List ι) (message : μ) :
    (this.handle node successors message).handled other = this.handled other :=
  Function.update_of_ne apart ..

@[simp]
theorem handled_receive (this : Flood ι μ) (node dst : ι) :
    (this.receive node dst).handled = this.handled :=
  rfl

variable {this : Flood ι μ} {link : ι → ι → Prop}

theorem OnlyAlong.handle (only : this.OnlyAlong link) {node : ι} {successors : List ι}
    (links : ∀ dst ∈ successors, link node dst) (message : μ) :
    (this.handle node successors message).OnlyAlong link := by
  intro src dst unlinked
  rw [Flood.handle]
  dsimp only
  rw [if_neg, only src dst unlinked]
  rintro ⟨rfl, member⟩
  exact unlinked (links dst member)

theorem OnlyAlong.receive (only : this.OnlyAlong link) (node dst : ι) :
    (this.receive node dst).OnlyAlong link := by
  intro src other unlinked
  simp only [Flood.receive, only src other unlinked, List.tail_nil, ite_self]

/-- A source, which nothing links to, may handle a message at any time. -/
theorem InOrder.handle (inOrder : this.InOrder link) {node : ι} {successors : List ι}
    (source : ∀ src, ¬link src node) (all : ∀ dst, link node dst → dst ∈ successors) (message : μ) :
    (this.handle node successors message).InOrder link := by
  intro src dst linked
  have other : dst ≠ node := by
    rintro rfl
    exact source src linked
  have before := inOrder src dst linked
  rw [Flood.handle]
  dsimp only
  rw [Function.update_of_ne other]
  by_cases here : src = node
  · rw [here, Function.update_self, if_pos ⟨rfl, all dst (here ▸ linked)⟩, ← List.append_assoc,
      ← here, before]
  · rw [Function.update_of_ne here, if_neg fun both => here both.1, before]

/-- A channel that is no link may lose a message. -/
theorem InOrder.receive (inOrder : this.InOrder link) {node dst : ι} (unlinked : ¬link node dst) :
    (this.receive node dst).InOrder link := by
  intro src other linked
  have before := inOrder src other linked
  simp only [Flood.receive]
  rw [if_neg, before]
  rintro ⟨rfl, rfl⟩
  exact unlinked linked

/-- The far end of a link handles the oldest message and passes it on. -/
theorem InOrder.forward (inOrder : this.InOrder link) {src node : ι} {successors : List ι}
    {message : μ} {rest : List μ} (waiting : this.channel src node = message :: rest)
    (linked : link src node) (single : ∀ other, link other node → other = src)
    (loopless : ¬link node node) (all : ∀ dst, link node dst → dst ∈ successors) :
    ((this.receive src node).handle node successors message).InOrder link := by
  intro near far linkedHere
  have before := inOrder near far linkedHere
  rw [Flood.handle, Flood.receive]
  dsimp only
  by_cases farHere : far = node
  · cases farHere
    rw [single near linkedHere] at before ⊢
    have apart : src ≠ node := by
      rintro rfl
      exact loopless linked
    rw [Function.update_of_ne apart, Function.update_self, if_neg fun both => apart both.1,
      if_pos ⟨rfl, rfl⟩, before, waiting, List.tail_cons, List.append_assoc]
    rfl
  · rw [Function.update_of_ne farHere]
    by_cases nearHere : near = node
    · cases nearHere
      rw [Function.update_self, if_pos ⟨rfl, all far linkedHere⟩, if_neg fun both => farHere both.2,
        ← List.append_assoc, before]
    · rw [Function.update_of_ne nearHere, if_neg fun both => nearHere both.1,
        if_neg fun both => farHere both.2, before]

end Flood

end Stheno
