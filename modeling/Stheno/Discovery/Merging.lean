import Mathlib.Data.List.Nodup
import Stheno.Discovery.Classes

/-!
# Merging the answers about a service

A client that asks several peers for the instances of a service adds the list of every
reply to one reply of its own.  The instances are told apart by the handles of their
identifiers, and every decoded instance brings an identifier object of its own.
-/

namespace Stheno.Discovery

open Peer

/-- A decoded instance and the address of the identifier object that it holds. -/
structure ServiceInstanceInfoPtr where
  address : Nat
  info : ServiceInstanceInfo
  deriving DecidableEq

/-- The identifier itself. -/
def ServiceInstanceInfoPtr.iid (this : ServiceInstanceInfoPtr) : UUID :=
  this.info.iid

namespace ServiceQueryReply

/-- `getIID` hands out handles, so the objects that they hold are compared. -/
def isInstanceInList (list : List ServiceInstanceInfoPtr) (info : ServiceInstanceInfoPtr) : Bool :=
  list.any fun other => other.address = info.address

def add (list instanceList : List ServiceInstanceInfoPtr) : List ServiceInstanceInfoPtr :=
  instanceList.foldl
    (fun list info => if isInstanceInList list info then list else list ++ [info]) list

theorem isInstanceInList_iff {list : List ServiceInstanceInfoPtr} {info : ServiceInstanceInfoPtr} :
    isInstanceInList list info = true ↔ info.address ∈ list.map ServiceInstanceInfoPtr.address := by
  simp [isInstanceInList]

theorem add_append (list first second : List ServiceInstanceInfoPtr) :
    add list (first ++ second) = add (add list first) second :=
  List.foldl_append

/-- No identifier object comes into the list twice. -/
theorem nodup_add {list : List ServiceInstanceInfoPtr}
    (distinct : (list.map ServiceInstanceInfoPtr.address).Nodup)
    (instanceList : List ServiceInstanceInfoPtr) :
    ((add list instanceList).map ServiceInstanceInfoPtr.address).Nodup := by
  induction instanceList generalizing list with
  | nil => exact distinct
  | cons info instanceList inductionHypothesis =>
      rw [add, List.foldl_cons]
      split
      · exact inductionHypothesis distinct
      · rename_i absent
        rw [isInstanceInList_iff] at absent
        apply inductionHypothesis
        rw [List.map_append, List.map_singleton]
        exact List.Nodup.append distinct (List.nodup_singleton _)
          (List.disjoint_singleton.mpr absent)

/-- Among instances with identifier objects of their own none is taken for another. -/
theorem mem_add {decoded list instanceList : List ServiceInstanceInfoPtr}
    (separate : (decoded.map ServiceInstanceInfoPtr.address).Nodup) (held : list ⊆ decoded)
    (given : instanceList ⊆ decoded) (info : ServiceInstanceInfoPtr) :
    info ∈ add list instanceList ↔ info ∈ list ∨ info ∈ instanceList := by
  induction instanceList generalizing list with
  | nil => simp [add]
  | cons first instanceList inductionHypothesis =>
      rcases List.cons_subset.mp given with ⟨here, later⟩
      rw [add, List.foldl_cons, List.mem_cons]
      split
      · rename_i present
        rcases List.mem_map.mp (isInstanceInList_iff.mp present) with ⟨other, member, same⟩
        have equal : other = first :=
          List.inj_on_of_nodup_map separate (held member) here same
        subst equal
        rw [← add, inductionHypothesis held later]
        constructor
        · rintro (before | after)
          · exact Or.inl before
          · exact Or.inr (Or.inr after)
        · rintro (before | rfl | after)
          · exact Or.inl before
          · exact Or.inl member
          · exact Or.inr after
      · have extended : list ++ [first] ⊆ decoded :=
          List.append_subset.mpr ⟨held, List.cons_subset.mpr ⟨here, List.nil_subset _⟩⟩
        rw [← add, inductionHypothesis extended later, List.mem_append, List.mem_singleton, or_assoc]

end ServiceQueryReply

/-- The instances of several replies; each was decoded for itself, with an identifier
object of its own. -/
structure DecodedReplies where
  replies : List (List ServiceInstanceInfoPtr)
  separate : (replies.flatten.map ServiceInstanceInfoPtr.address).Nodup

namespace DecodedReplies

/-- Decode the instances of one reply; the identifiers lie from an address on. -/
def decodeReply (next : Nat) (list : List ServiceInstanceInfo) : List ServiceInstanceInfoPtr :=
  (list.zipIdx next).map fun entry => ⟨entry.2, entry.1⟩

def decodeReplies (next : Nat) : List (List ServiceInstanceInfo) → List (List ServiceInstanceInfoPtr)
  | [] => []
  | list :: rest => decodeReply next list :: decodeReplies (next + list.length) rest

theorem address_decodeReply (next : Nat) (list : List ServiceInstanceInfo) :
    (decodeReply next list).map ServiceInstanceInfoPtr.address = List.range' next list.length := by
  rw [decodeReply, List.map_map, ← List.zipIdx_map_snd next list]
  rfl

theorem address_decodeReplies (next : Nat) (lists : List (List ServiceInstanceInfo)) :
    (decodeReplies next lists).flatten.map ServiceInstanceInfoPtr.address =
      List.range' next lists.flatten.length := by
  induction lists generalizing next with
  | nil => rfl
  | cons list rest inductionHypothesis =>
      rw [decodeReplies, List.flatten_cons, List.map_append, address_decodeReply,
        inductionHypothesis, List.flatten_cons, List.length_append, ← List.range'_append_1]

/-- Decode one reply after the other. -/
def decode (lists : List (List ServiceInstanceInfo)) : DecodedReplies where
  replies := decodeReplies 0 lists
  separate := by
    rw [address_decodeReplies]
    exact List.nodup_range'

variable (this : DecodedReplies) (order : List (Fin this.replies.length))

/-- All the instances that are added where the replies are taken in an order. -/
def added : List ServiceInstanceInfoPtr :=
  order.flatMap this.replies.get

/-- The list of the client's reply after the additions. -/
def merged : List ServiceInstanceInfoPtr :=
  order.foldl (fun list reply => ServiceQueryReply.add list (this.replies.get reply)) []

theorem merged_eq_add : this.merged order = ServiceQueryReply.add [] (this.added order) := by
  have general : ∀ list, order.foldl
      (fun list reply => ServiceQueryReply.add list (this.replies.get reply)) list =
        ServiceQueryReply.add list (this.added order) := by
    induction order with
    | nil => exact fun list => rfl
    | cons reply order inductionHypothesis =>
        intro list
        rw [List.foldl_cons, inductionHypothesis, ← ServiceQueryReply.add_append]
        rfl
  exact general []

theorem added_subset : this.added order ⊆ this.replies.flatten := by
  intro info member
  rcases List.mem_flatMap.mp member with ⟨reply, -, held⟩
  exact List.mem_flatten_of_mem (List.get_mem this.replies reply) held

/-- The list holds what was added. -/
theorem mem_merged (info : ServiceInstanceInfoPtr) :
    info ∈ this.merged order ↔ info ∈ this.added order := by
  rw [merged_eq_add, ServiceQueryReply.mem_add this.separate (List.nil_subset _)
    (this.added_subset order)]
  simp

theorem nodup_merged : (this.merged order).Nodup := by
  rw [merged_eq_add]
  have none : (([] : List ServiceInstanceInfoPtr).map ServiceInstanceInfoPtr.address).Nodup :=
    List.nodup_nil
  exact List.Nodup.of_map _ (ServiceQueryReply.nodup_add none _)

/-- The identifiers in the list, as values. -/
def identifiers : List UUID :=
  (this.merged order).map ServiceInstanceInfoPtr.iid

theorem mem_identifiers (iid : UUID) :
    iid ∈ this.identifiers order ↔ ∃ info ∈ this.added order, info.iid = iid := by
  rw [identifiers, List.mem_map]
  constructor
  · rintro ⟨info, member, same⟩
    exact ⟨info, (this.mem_merged order info).mp member, same⟩
  · rintro ⟨info, member, same⟩
    exact ⟨info, (this.mem_merged order info).mpr member, same⟩

/-- The additions give the union of the replies: every identifier once, and the same
identifiers wherever the same replies are added, however often and in whatever order. -/
structure MergesAsUnion : Prop where
  once : ∀ info ∈ this.added order, (this.identifiers order).count info.iid = 1
  given : ∀ iid ∈ this.identifiers order, ∃ info ∈ this.added order, info.iid = iid
  independent : ∀ other : List (Fin this.replies.length), (∀ reply, reply ∈ other ↔ reply ∈ order) →
    ∀ iid, iid ∈ this.identifiers other ↔ iid ∈ this.identifiers order

/-- The identifiers never depend on the order or on an addition that is repeated. -/
theorem mem_identifiers_of_same {this : DecodedReplies} {order other : List (Fin this.replies.length)}
    (same : ∀ reply, reply ∈ other ↔ reply ∈ order) (iid : UUID) :
    iid ∈ this.identifiers other ↔ iid ∈ this.identifiers order := by
  simp only [mem_identifiers, added, List.mem_flatMap, same]

/-- Every identifier is in the list once exactly where no two of the added instances
have the same one. -/
theorem nodup_identifiers_iff : (this.identifiers order).Nodup ↔
    ∀ first ∈ this.added order, ∀ second ∈ this.added order,
      first.iid = second.iid → first = second := by
  constructor
  · intro distinct first firstAdded second secondAdded same
    exact List.inj_on_of_nodup_map distinct ((this.mem_merged order first).mpr firstAdded)
      ((this.mem_merged order second).mpr secondAdded) same
  · intro apart
    apply List.Nodup.map_on _ (this.nodup_merged order)
    intro first firstHeld second secondHeld same
    exact apart first ((this.mem_merged order first).mp firstHeld) second
      ((this.mem_merged order second).mp secondHeld) same

theorem mergesAsUnion_iff_distinct : this.MergesAsUnion order ↔
    ∀ first ∈ this.added order, ∀ second ∈ this.added order,
      first.iid = second.iid → first = second := by
  rw [← nodup_identifiers_iff]
  constructor
  · intro union
    rw [List.nodup_iff_count_le_one]
    intro iid
    by_cases member : iid ∈ this.identifiers order
    · rcases union.given iid member with ⟨info, given, rfl⟩
      exact (union.once info given).le
    · rw [List.count_eq_zero_of_not_mem member]
      exact Nat.zero_le 1
  · intro distinct
    constructor
    · intro info given
      apply List.count_eq_one_of_mem distinct
      exact (this.mem_identifiers order info.iid).mpr ⟨info, given, rfl⟩
    · intro iid
      exact (this.mem_identifiers order iid).mp
    · intro other same
      exact mem_identifiers_of_same same

/-- Two peers answer with the same instance. -/
theorem not_mergesAsUnion_overlapping :
    ¬ (decode [[⟨⟨[1]⟩, ⟨[7]⟩, none⟩], [⟨⟨[1]⟩, ⟨[7]⟩, none⟩]]).MergesAsUnion (List.finRange _) := by
  intro union
  exact absurd (union.once ⟨0, ⟨[1]⟩, ⟨[7]⟩, none⟩ (by decide)) (by decide)

end DecodedReplies

end Stheno.Discovery
