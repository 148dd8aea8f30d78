import Stheno.Discovery.Routing

/-!
# The same result at any distance

A reply that comes down the chain is the one that the root's provider has for the query as it
arrives.  The root itself reads the query as it was handed to it.
-/

namespace Stheno.Discovery

open Stheno.Tree Wire Peer Superpeer

namespace SuperPeerDiscovery

open P3GeneralProvider

/-! ## The same result at any distance -/

/-- Two replies are the same object or have the same provider, type, exception and
members, as their octets show. -/
def SameReply (reply other : AnyReply) : Prop :=
  reply = other ∨ ∃ octets, reply.serialize = .ok octets ∧ other.serialize = .ok octets

/-- A null pointer is only the same as a null pointer. -/
def SameResult : Option AnyReply → Option AnyReply → Prop
  | none, none => True
  | some reply, some other => SameReply reply other
  | _, _ => False

/-- The caller at the end of the chain gets what it would get at the root, and every
packet on the way was answered once. -/
def RoutedAlike (mesh : Option P3Mesh) (hops : List Hop) (query : AnyQuery) : Prop :=
  ∃ atRoot atPeer, executeQuery mesh [] query = .ok atRoot ∧
    executeQuery mesh hops query = .ok atPeer ∧
    SameResult atRoot.reply atPeer.reply ∧ AnsweredOnce hops atPeer.handled

/-- The class for which the mesh answers a query, with the mesh. -/
def served (mesh : Option P3Mesh) (query : AnyQuery) : Option (P3Mesh × QueryClass) :=
  mesh.bind fun mesh => (servedClass query.getProvider query.getType).map (Prod.mk mesh)

/-- The mesh has an answer with a given body for the members in some octets. -/
def Holds (mesh : P3Mesh) (c : QueryClass) (octets body : List UInt8) : Prop :=
  ∃ fields, find mesh c octets = .ok (some fields) ∧
    c.replyClass.specialization.serializeQuerySpecialization fields = .ok body

/-- The reply of a class. -/
def answerOf (c : QueryClass) (fields : c.replyClass.Fields) : AnyReply :=
  .typed c.replyClass (c.replyClass.new none fields)

theorem executeLocalQuery_of_served {mesh : Option P3Mesh} {m : P3Mesh} {c : QueryClass}
    {query : AnyQuery} (known : served mesh query = some (m, c)) :
    executeLocalQuery mesh query =
      (find m c query.direct).map fun answer => ⟨answer.map (answerOf c), true, []⟩ := by
  rcases Option.bind_eq_some_iff.mp known with ⟨m', rfl, isClass⟩
  rcases Option.map_eq_some_iff.mp isClass with ⟨c', isServed, equal⟩
  cases equal
  have registered : query.getProvider = GENERALPROVIDER_TYPE := by
    rw [servedClass] at isServed
    split at isServed
    · rename_i both
      exact both.1
    · cases isServed
  rw [executeLocalQuery, if_pos registered, executeQuery_of_served isServed, AnyQuery.direct]
  cases find m c (query.base.querySpecializationBlob.getD []) with
  | error fault => rfl
  | ok answer => rfl

theorem executeLocalQuery_of_unserved {mesh : Option P3Mesh} {query : AnyQuery}
    (unknown : served mesh query = none) :
    executeLocalQuery mesh query = .ok ⟨none, false, []⟩ := by
  rw [executeLocalQuery]
  split
  · have unserved : mesh = none ∨ servedClass query.getProvider query.getType = none := by
      rcases Option.bind_eq_none_iff.mp unknown with absent
      cases mesh with
      | none => exact Or.inl rfl
      | some m => exact Or.inr (Option.map_eq_none_iff.mp (absent m rfl))
    rcases executeQuery_of_unserved unserved with thrown | null
    · rw [thrown]
      rfl
    · rw [null]
      rfl
  · rfl

/-- The mesh has an answer for the query that arrives, and the same for the members
that the provider reads when the query is handed to it directly. -/
def AnsweredAlike (mesh : Option P3Mesh) (query : AnyQuery) : Prop :=
  cut query.body ≠ [] ∧ ∃ m c answer, served mesh query = some (m, c) ∧
    Holds m c query.direct (cut answer) ∧ Holds m c (cut query.body) answer

/-- The mesh has no object for what the provider reads when the query is handed to it. -/
def NoneAtRoot (mesh : Option P3Mesh) (query : AnyQuery) : Prop :=
  ∀ m c, served mesh query = some (m, c) → find m c query.direct = .ok none

/-- The mesh can be asked without a fault. -/
def RunsAtRoot (mesh : Option P3Mesh) (query : AnyQuery) : Prop :=
  ∀ m c, served mesh query = some (m, c) → ∃ answer, find m c query.direct = .ok answer

theorem passOn_answer (query : DiscoveryQuery Unit) {c : QueryClass}
    {fields : c.replyClass.Fields} {body : List UInt8} (deleted : Bool) (handled : List Handled)
    (written : c.replyClass.specialization.serializeQuerySpecialization fields = .ok body) :
    passOn query (.ok ⟨some (answerOf c fields), deleted, handled⟩) =
      .ok ⟨c.replyClass.provider, c.replyClass.type, blobOf (cut body), none, ()⟩ := by
  rcases DiscoveryQueryReply.deserialize_packet c.replyClass.provider c.replyClass.type body with
    ⟨rest, decoded⟩
  change ((answerOf c fields).serialize >>= _) = _
  rw [answerOf, AnyReply.serialize_new written]
  change (DiscoveryQueryReply.deserialize _ >>= _) = _
  rw [decoded]
  rfl

/-- Only an answer of the root gets passed on when the query was deleted there. -/
theorem passOn_eq_ok {query : DiscoveryQuery Unit} {c : QueryClass}
    {answer : Result (Option c.replyClass.Fields)} {handled : List Handled}
    {received : DiscoveryQueryReply Unit}
    (passed : passOn query (answer.map fun fields => ⟨fields.map (answerOf c), true, handled⟩) =
      .ok received) :
    ∃ fields body, answer = .ok (some fields) ∧
      c.replyClass.specialization.serializeQuerySpecialization fields = .ok body ∧
      received = ⟨c.replyClass.provider, c.replyClass.type, blobOf (cut body), none, ()⟩ := by
  cases answer with
  | error fault => cases passed
  | ok found =>
      cases found with
      | none => cases passed
      | some fields =>
          rcases Result.bind_eq_ok.mp passed with ⟨executed, equal, sent⟩
          cases equal
          rcases Result.bind_eq_ok.mp sent with ⟨reply, equal, sent⟩
          cases equal
          rcases Result.bind_eq_ok.mp sent with ⟨octets, serialized, -⟩
          rcases Result.bind_eq_ok.mp serialized with ⟨body, written, -⟩
          have answered := passOn_answer query true handled written
          refine ⟨fields, body, rfl, written, ?_⟩
          exact Except.ok.inj (passed.symm.trans answered)

/-- A reply that was passed on is the answer to the query that arrived, up to the size
field of its body. -/
theorem same_received_iff {c : QueryClass} {fields : c.replyClass.Fields} {body : List UInt8} :
    SameReply (answerOf c fields)
        (.plain ⟨c.replyClass.provider, c.replyClass.type, blobOf (cut body), none, ()⟩) ↔
      c.replyClass.specialization.serializeQuerySpecialization fields = .ok (cut body) := by
  have received := DiscoveryQueryReply.serializePlain_blobOf c.replyClass.provider
    c.replyClass.type (cut body)
  constructor
  · rintro (impossible | ⟨octets, written, same⟩)
    · cases impossible
    · change DiscoveryQueryReply.serializePlain _ = _ at same
      rw [received] at same
      cases same
      rcases Result.bind_eq_ok.mp written with ⟨own, held, equal⟩
      have packets : DiscoveryQueryReply.packet c.replyClass.provider c.replyClass.type own =
          DiscoveryQueryReply.packet c.replyClass.provider c.replyClass.type (cut body) := by
        have ownPacket : (answerOf c fields).serialize =
            .ok (DiscoveryQueryReply.packet c.replyClass.provider c.replyClass.type own) :=
          AnyReply.serialize_new held
        rw [ownPacket] at written
        exact Except.ok.inj written
      rw [DiscoveryQueryReply.packet_injective packets] at held
      exact held
  · intro held
    exact Or.inr ⟨_, AnyReply.serialize_new held, received⟩

/-- A reply with an exception is not one that the provider gives. -/
theorem not_same_exception {c : QueryClass} {fields : c.replyClass.Fields}
    {received : DiscoveryQueryReply Unit} (raised : received.ex ≠ none) :
    ¬ SameReply (answerOf c fields) (.plain received) := by
  rintro (impossible | ⟨octets, written, same⟩)
  · cases impossible
  · rcases Result.bind_eq_ok.mp written with ⟨own, held, -⟩
    have packet : (answerOf c fields).serialize =
        .ok (DiscoveryQueryReply.packet c.replyClass.provider c.replyClass.type own) :=
      AnyReply.serialize_new held
    rcases DiscoveryQueryReply.deserialize_packet c.replyClass.provider c.replyClass.type own with
      ⟨left, decoded⟩
    have isException : (AnyReply.plain received).base.ex ≠ none := raised
    rw [AnyReply.serialize_of_exception isException, ← written, packet, Except.ok.injEq] at same
    rw [← same, (DiscoveryQueryReply.reads_exception _ _).run] at decoded
    have differ := congrArg DiscoveryQueryReply.ex (Prod.mk.inj (Except.ok.inj decoded)).1
    cases differ

theorem routedAlike_nil_iff {mesh : Option P3Mesh} {query : AnyQuery} :
    RoutedAlike mesh [] query ↔ RunsAtRoot mesh query := by
  constructor
  · rintro ⟨atRoot, atPeer, ran, -⟩ m c known
    change executeLocalQuery mesh query = .ok atRoot at ran
    rw [executeLocalQuery_of_served known] at ran
    rcases Result.map_eq_ok.mp ran with ⟨answer, found, -⟩
    exact ⟨answer, found⟩
  · intro runs
    have ran : ∃ out, executeQuery mesh [] query = .ok out := by
      change ∃ out, executeLocalQuery mesh query = .ok out
      cases known : served mesh query with
      | none => exact ⟨_, executeLocalQuery_of_unserved known⟩
      | some found =>
          rcases runs found.1 found.2 known with ⟨answer, answered⟩
          rw [executeLocalQuery_of_served known, answered]
          exact ⟨_, rfl⟩
    rcases ran with ⟨out, ran⟩
    refine ⟨out, out, ran, ran, ?_, answeredOnce_executeQuery ran⟩
    cases out.reply with
    | none => exact trivial
    | some reply => exact Or.inl rfl

/-- Where nothing comes back the root must have no answer either. -/
theorem routedAlike_iff_of_fails {mesh : Option P3Mesh} {hop : Hop} {upstream : List Hop}
    {query : AnyQuery} (fails : Fails query hop) :
    RoutedAlike mesh (hop :: upstream) query ↔ NoneAtRoot mesh query := by
  have ran := executeQuery_of_fails fails mesh upstream
  constructor
  · rintro ⟨atRoot, atPeer, ranAtRoot, ranAtPeer, same, -⟩ m c known
    rw [ran] at ranAtPeer
    cases ranAtPeer
    change executeLocalQuery mesh query = .ok atRoot at ranAtRoot
    rw [executeLocalQuery_of_served known] at ranAtRoot
    rcases Result.map_eq_ok.mp ranAtRoot with ⟨answer, found, equal⟩
    cases equal
    cases answer with
    | none => exact found
    | some direct => exact same.elim
  · intro null
    have ranAtRoot : ∃ deleted, executeLocalQuery mesh query = .ok ⟨none, deleted, []⟩ := by
      cases known : served mesh query with
      | none => exact ⟨false, executeLocalQuery_of_unserved known⟩
      | some found =>
          rcases found with ⟨m, c⟩
          refine ⟨true, ?_⟩
          rw [executeLocalQuery_of_served known, null m c known]
          rfl
    rcases ranAtRoot with ⟨deleted, ranAtRoot⟩
    exact ⟨_, _, ranAtRoot, ran, trivial, answeredOnce_executeQuery ran⟩

/-- A reply that comes down a chain is the one of the root only if the whole chain answers. -/
theorem answers_of_routedAlike {mesh : Option P3Mesh} {hop : Hop} {upstream : List Hop}
    {query : AnyQuery} (answers : hop.answers = true)
    (alike : RoutedAlike mesh (hop :: upstream) query) :
    ∀ next ∈ hop :: upstream, next.answers = true := by
  rcases alike with ⟨atRoot, atPeer, ranAtRoot, ranAtPeer, same, -⟩
  by_cases whole : ∀ next ∈ upstream, next.answers = true
  · exact List.forall_mem_cons.mpr ⟨answers, whole⟩
  · have broken : ∃ next ∈ upstream, next.answers = false := by
      simpa using whole
    rcases exception_of_broken answers broken ranAtPeer with ⟨received, replied, raised⟩
    rw [replied] at same
    change executeLocalQuery mesh query = .ok atRoot at ranAtRoot
    cases known : served mesh query with
    | none =>
        rw [executeLocalQuery_of_unserved known] at ranAtRoot
        cases ranAtRoot
        exact same.elim
    | some found =>
        rw [executeLocalQuery_of_served known] at ranAtRoot
        rcases Result.map_eq_ok.mp ranAtRoot with ⟨answer, -, equal⟩
        cases equal
        cases answer with
        | none => exact same.elim
        | some fields => exact absurd same (not_same_exception raised)

theorem routedAlike_iff_of_answers {mesh : Option P3Mesh} {hop : Hop} {upstream : List Hop}
    {query : AnyQuery} (answers : ∀ next ∈ hop :: upstream, next.answers = true) :
    RoutedAlike mesh (hop :: upstream) query ↔ AnsweredAlike mesh query := by
  -- the query as the root receives it
  let arrived : DiscoveryQuery Unit :=
    ⟨query.getProvider, query.getType, some (cut query.body), ()⟩
  constructor
  · rintro ⟨atRoot, atPeer, ranAtRoot, ranAtPeer, same, -⟩
    by_cases empty : cut query.body = []
    · exact absurd ranAtPeer (executeQuery_cons_of_empty (answers hop List.mem_cons_self) empty)
    · have reply := reply_executeQuery mesh answers query empty
      rw [ranAtPeer] at reply
      rcases Result.map_eq_ok.mp reply.symm with ⟨received, passed, equal⟩
      rw [← equal] at same
      change executeLocalQuery mesh query = .ok atRoot at ranAtRoot
      cases known : served mesh query with
      | none =>
          rw [executeLocalQuery_of_unserved known] at ranAtRoot
          cases ranAtRoot
          exact same.elim
      | some found =>
          rcases found with ⟨m, c⟩
          rw [executeLocalQuery_of_served known] at ranAtRoot
          rcases Result.map_eq_ok.mp ranAtRoot with ⟨answer, foundDirect, equal⟩
          cases equal
          have knownArrived : served mesh (.plain arrived) = some (m, c) := known
          rw [executeLocalQuery_of_served knownArrived] at passed
          rcases passOn_eq_ok passed with ⟨fields, body, found, written, rfl⟩
          cases answer with
          | none => exact same.elim
          | some direct =>
              exact ⟨empty, m, c, body, known,
                ⟨direct, foundDirect, same_received_iff.mp same⟩, ⟨fields, found, written⟩⟩
  · rintro ⟨carried, m, c, answer, known, ⟨direct, foundDirect, writtenDirect⟩,
      ⟨fields, found, written⟩⟩
    have knownArrived : served mesh (.plain arrived) = some (m, c) := known
    have reply := reply_executeQuery mesh answers query carried
    have foundArrived : find m c (AnyQuery.plain arrived).direct = .ok (some fields) := found
    rw [executeLocalQuery_of_served knownArrived, foundArrived] at reply
    change _ = (passOn arrived (.ok ⟨some (answerOf c fields), true, []⟩)).map _ at reply
    rw [passOn_answer arrived true [] written] at reply
    rcases Result.map_eq_ok.mp reply with ⟨out, ran, replied⟩
    refine ⟨⟨some (answerOf c direct), true, []⟩, out, ?_, ran, ?_, answeredOnce_executeQuery ran⟩
    · change executeLocalQuery mesh query = _
      rw [executeLocalQuery_of_served known, foundDirect]
      rfl
    · rw [replied]
      exact same_received_iff.mpr writtenDirect

/-- At the root a query only has to run.  Below it either the superpeer gets nothing back and
the root has no answer, or the whole chain answers and the mesh has an answer for what
arrives, which is the one for what the root would read. -/
theorem routedAlike_iff (mesh : Option P3Mesh) (hops : List Hop) (query : AnyQuery) :
    RoutedAlike mesh hops query ↔
      hops = [] ∧ RunsAtRoot mesh query ∨
      (∃ hop, hops.head? = some hop ∧ Fails query hop) ∧ NoneAtRoot mesh query ∨
      hops ≠ [] ∧ (∀ hop ∈ hops, hop.answers = true) ∧ AnsweredAlike mesh query := by
  cases hops with
  | nil => simp [routedAlike_nil_iff]
  | cons hop upstream =>
      have shape : (hop :: upstream = [] ∧ RunsAtRoot mesh query ∨
          (∃ first, (hop :: upstream).head? = some first ∧ Fails query first) ∧
            NoneAtRoot mesh query ∨
          hop :: upstream ≠ [] ∧ (∀ next ∈ hop :: upstream, next.answers = true) ∧
            AnsweredAlike mesh query) ↔
          Fails query hop ∧ NoneAtRoot mesh query ∨
          (∀ next ∈ hop :: upstream, next.answers = true) ∧ AnsweredAlike mesh query := by
        simp
      rw [shape]
      constructor
      · intro alike
        cases here : hop.answers with
        | false =>
            rcases alike with ⟨atRoot, atPeer, ranAtRoot, ranAtPeer, same, once⟩
            have fails := fails_of_executeQuery here ranAtPeer
            exact Or.inl ⟨fails, (routedAlike_iff_of_fails fails).mp
              ⟨atRoot, atPeer, ranAtRoot, ranAtPeer, same, once⟩⟩
        | true =>
            have answers := answers_of_routedAlike here alike
            exact Or.inr ⟨answers, (routedAlike_iff_of_answers answers).mp alike⟩
      · rintro (⟨fails, null⟩ | ⟨answers, answered⟩)
        · exact (routedAlike_iff_of_fails fails).mpr null
        · exact (routedAlike_iff_of_answers answers).mpr answered

/-- A plain query is read the same at the root and at a distance. -/
theorem answeredAlike_plain_iff {mesh : Option P3Mesh} {provider type : UInt32}
    {blob : List UInt8} (fits : blob.length < 2 ^ 32) :
    AnsweredAlike mesh (.plain ⟨provider, type, some blob, ()⟩) ↔
      blob ≠ [] ∧ ∃ m c answer, served mesh (.plain ⟨provider, type, some blob, ()⟩) = some (m, c) ∧
        Holds m c blob answer ∧ answer.length < 2 ^ 32 := by
  have whole : cut (AnyQuery.plain ⟨provider, type, some blob, ()⟩).body = blob :=
    cut_eq_iff.mpr fits
  have direct : (AnyQuery.plain ⟨provider, type, some blob, ()⟩).direct = blob := rfl
  rw [AnsweredAlike, whole, direct]
  apply and_congr_right
  intro _
  constructor
  · rintro ⟨m, c, answer, known, ⟨fields, found, short⟩, ⟨fields', found', long⟩⟩
    have sameFields : fields = fields' := Option.some.inj (Except.ok.inj (found.symm.trans found'))
    subst sameFields
    have uncut : cut answer = answer := Except.ok.inj (short.symm.trans long)
    exact ⟨m, c, answer, known, ⟨fields, found', long⟩, cut_eq_iff.mp uncut⟩
  · rintro ⟨m, c, answer, known, held, short⟩
    refine ⟨m, c, answer, known, ?_, held⟩
    rwa [cut_eq_iff.mpr short]

/-- No query without members gets past its first handler. -/
theorem not_answeredAlike_getSensors (mesh : Option P3Mesh) :
    ¬ AnsweredAlike mesh (.typed .getSensorsQuery ()) := by
  rintro ⟨carried, -⟩
  exact carried rfl

/-- A mesh that knows one peer. -/
def knowsOnePeer : P3Mesh where
  isRootFID := true
  cellTree := ((CellTree.new defaults ⟨[2]⟩).addPeer
    (.announced P3PeerInfo.SUPERPEER_COORD ⟨[1]⟩ ⟨[2]⟩ none none none none)).1
  audioSensors := []
  videoSensors := []
  eventSensors := []
  actuatorSensors := []
  runtime := ⟨true, Table.empty⟩
  runtimeUUID := ⟨[1]⟩
  fid := ⟨[2]⟩
  randomPeer := 0
  randomByLevel _ := 0

/-- A superpeer that is connected to the root. -/
def connected : Hop where
  runtimeUUID := ⟨[5]⟩
  fid := ⟨[6]⟩
  generated := by decide
  discoverySAPInfo := some (SAPInfo.empty.addEndpoint ⟨1, .empty, 7, ⟨0, 0⟩⟩)
  connection := .replies

/-- One hop below the root the peer is found.  At the root itself the query has no blob, so the
tree is searched with an identifier that has no data, and the comparison follows its null base.
Where the provider has no branch, the null pointer of the root is a reply one hop below it. -/
theorem exists_hop_changes_result :
    executeQuery (some knowsOnePeer) [] (.typed .findPeerQuery ⟨[1]⟩) = .error .nullDereference ∧
      (executeQuery (some knowsOnePeer) [connected] (.typed .findPeerQuery ⟨[1]⟩)).map
        (fun out => out.reply.isSome) = .ok true ∧
      ¬ RoutedAlike (some knowsOnePeer) [connected] (.typed .findPeerQuery ⟨[1]⟩) ∧
      (executeQuery (some knowsOnePeer) [] (.plain ⟨GENERALPROVIDER_TYPE, 0, some [0], ()⟩)).map
        (fun out => out.reply.isSome) = .ok false ∧
      (executeQuery (some knowsOnePeer) [connected]
        (.plain ⟨GENERALPROVIDER_TYPE, 0, some [0], ()⟩)).map
        (fun out => out.reply.isSome) = .ok true := by
  refine ⟨rfl, rfl, ?_, rfl, rfl⟩
  rintro ⟨atRoot, -, ran, -⟩
  cases ran

end SuperPeerDiscovery

end Stheno.Discovery
