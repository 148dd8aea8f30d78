import Stheno.Discovery.Provider

/-!
# Routing queries to the root

A superpeer with a parent sends a query upstream and waits for the reply; one
without a parent asks its own provider.  The parent answers with one packet, where
an exception stands for a null pointer.  What keeps a superpeer from its parent
comes back as a null pointer, too.
-/

namespace Stheno.Discovery

open Wire Peer

structure P3DiscoveryQueryPacket where
  packetID : UInt32
  uuid : UUID
  fid : UUID
  qos : QoSEndpoint
  query : DiscoveryQuery Unit

/-- The reply is kept as its octets. -/
structure P3DiscoveryQueryReplyPacket where
  packetID : UInt32
  replyPacketID : UInt32
  uuid : UUID
  fid : UUID
  queryReply : List UInt8

/-- A query packet and the packets that its handler sent back. -/
structure Handled where
  packet : P3DiscoveryQueryPacket
  replies : List P3DiscoveryQueryReplyPacket

/-- The result of `executeQuery`, whether the query was deleted on the way to it, and
the packets that were handled. -/
structure Executed where
  reply : Option AnyReply
  deleted : Bool
  handled : List Handled

/-- What becomes of the connection to the parent: it is not made, it ends or brings a packet of
another type before the parent has handled the query, or it brings the reply. -/
inductive Connection where
  | failed
  | ended
  | wrongType
  | replies
  deriving DecidableEq

/-- A superpeer below the root, with the access point that it knows for its parent.  Its own
identifiers were generated. -/
structure Hop where
  runtimeUUID : UUID
  fid : UUID
  generated : runtimeUUID.Initialized ∧ fid.Initialized
  discoverySAPInfo : Option SAPInfo
  connection : Connection

/-- The parent handles the query and its reply comes back. -/
def Hop.answers (this : Hop) : Bool :=
  match SAPInfo.getFirstEndpoint this.discoverySAPInfo with
  | .ok _ => this.connection = .replies
  | .error _ => false

namespace Executed

/-- The null pointer of a superpeer that sent nothing or got nothing back. -/
def null : Executed where
  reply := none
  deleted := false
  handled := []

end Executed

namespace SuperPeerDiscovery

/-- The only provider of a superpeer is the general one. -/
def executeLocalQuery (mesh : Option P3Mesh) (query : AnyQuery) : Result Executed :=
  if query.getProvider = GENERALPROVIDER_TYPE then do
    match ← P3GeneralProvider.executeQuery mesh query with
    | .thrown => pure { reply := none, deleted := false, handled := [] }
    | .returned reply deleted => pure { reply, deleted, handled := [] }
  else
    pure { reply := none, deleted := false, handled := [] }

/-- A reply with an exception in the place of a null pointer. -/
def noReply (query : DiscoveryQuery Unit) : DiscoveryQueryReply Unit where
  provider := query.provider
  type := query.type
  querySpecializationBlob := none
  ex := some .noReplyAvailable
  fields := ()

/-- The reply that is sent for what a query came to.  The exception names the
provider and the type of the query, which must still be there. -/
def replyTo (query : DiscoveryQuery Unit) (executed : Executed) : Result AnyReply :=
  match executed.reply with
  | some reply => pure reply
  | none =>
      if executed.deleted then
        .error .useAfterFree
      else
        pure (.plain (noReply query))

/-- The length of the blob is logged before anything else is done, so there has to be
one. -/
def handleQueryPacket (execute : AnyQuery → Result Executed) (packet : P3DiscoveryQueryPacket) :
    Result (Handled × List Handled) := do
  let _ ← deref packet.query.querySpecializationBlob
  let executed ← execute (.plain packet.query)
  let reply ← replyTo packet.query executed
  let queryReply ← reply.serialize
  let replyPacket : P3DiscoveryQueryReplyPacket :=
    { packetID := 0, replyPacketID := packet.packetID, uuid := packet.uuid, fid := packet.fid,
      queryReply }
  pure ({ packet, replies := [replyPacket] }, executed.handled)

/-- The exchange over a connection that was made, which starts with writing the query.  The first
packet that comes back is taken. -/
def sendQuery (execute : AnyQuery → Result Executed) (hop : Hop) (qos : QoSEndpoint)
    (query : AnyQuery) : Result Executed := do
  let octets ← query.serialize
  if hop.connection = .replies then do
    let (received, _) ← DiscoveryQuery.deserialize ⟨octets, true⟩
    let (handled, further) ← handleQueryPacket execute
      { packetID := 0, uuid := hop.runtimeUUID, fid := hop.fid, qos, query := received }
    match handled.replies with
    | [] => pure { reply := none, deleted := false, handled := handled :: further }
    | packet :: _ => do
        let (reply, _) ← DiscoveryQueryReply.deserialize ⟨packet.queryReply, true⟩
        pure { reply := some (.plain reply), deleted := false, handled := handled :: further }
  else
    pure Executed.null

/-- `executeQuery` at a superpeer from which `hops` lead to the root. -/
def executeQuery (mesh : Option P3Mesh) : List Hop → AnyQuery → Result Executed
  | [], query => executeLocalQuery mesh query
  | hop :: upstream, query =>
      match hop.discoverySAPInfo with
      | none => pure Executed.null
      | some discoverySAPInfo => do
          let endpoint ← SAPInfo.getFirstEndpoint (some discoverySAPInfo)
          if hop.connection = .failed then
            pure Executed.null
          else
            sendQuery (fun query => executeQuery mesh upstream query) hop endpoint.qos query

end SuperPeerDiscovery

/-! ## Bodies of queries and replies -/

namespace AnyQuery

/-- The octets behind the metadata. -/
def body : AnyQuery → List UInt8
  | typed c fields => (c.specialization.serializeQuerySpecialization fields).toOption.getD []
  | plain query => query.querySpecializationBlob.getD []

theorem cut_body_typed {c : QueryClass} {fields : c.Fields} {octets : List UInt8}
    (written : c.specialization.serializeQuerySpecialization fields = .ok octets)
    (fits : octets.length < 2 ^ 32) : cut (typed c fields).body = octets := by
  rw [body, written]
  exact cut_eq_iff.mpr fits

/-- What a provider reads when it is asked directly. -/
def direct (this : AnyQuery) : List UInt8 :=
  this.base.querySpecializationBlob.getD []

/-- The query can be written. -/
def Initialized : AnyQuery → Prop
  | typed c fields => c.Initialized fields
  | plain _ => True

theorem serialize_eq_ok {this : AnyQuery} {octets : List UInt8} :
    this.serialize = .ok octets ↔ this.Initialized ∧
      octets = DiscoveryQuery.packet this.getProvider this.getType this.body := by
  cases this with
  | typed c fields =>
      constructor
      · intro sent
        rcases Result.bind_eq_ok.mp sent with ⟨own, held, -⟩
        have written : c.specialization.serializeQuerySpecialization fields = .ok own := held
        have whole : (typed c fields).body = own := by
          rw [body, written]
          rfl
        refine ⟨QueryClass.initialized_of_written written, ?_⟩
        rw [whole]
        exact Except.ok.inj (sent.symm.trans (DiscoveryQuery.serialize_new written))
      · rintro ⟨ready, rfl⟩
        rcases QueryClass.exists_body ready with ⟨own, written, -⟩
        have whole : (typed c fields).body = own := by
          rw [body, written]
          rfl
        rw [whole]
        exact DiscoveryQuery.serialize_new written
  | plain query =>
      rcases query with ⟨provider, type, blob, ⟨⟩⟩
      rw [DiscoveryQuery.packet, ← List.append_assoc]
      cases blob with
      | none =>
          constructor
          · rintro ⟨⟩
            exact ⟨trivial, rfl⟩
          · rintro ⟨-, rfl⟩
            rfl
      | some blob =>
          constructor
          · rintro ⟨⟩
            exact ⟨trivial, rfl⟩
          · rintro ⟨-, rfl⟩
            rfl

/-- A query with a body can be written. -/
theorem initialized_of_body {this : AnyQuery} (carried : this.body ≠ []) : this.Initialized := by
  cases this with
  | typed c fields =>
      rw [body] at carried
      cases written : c.specialization.serializeQuerySpecialization fields with
      | error fault =>
          rw [written] at carried
          exact absurd rfl carried
      | ok own => exact QueryClass.initialized_of_written written
  | plain query => trivial

end AnyQuery

namespace AnyReply

/-- The part of the base class. -/
def base : AnyReply → DiscoveryQueryReply Unit
  | typed _ reply => { reply with fields := () }
  | plain reply => reply

def body : AnyReply → Result (List UInt8)
  | typed c reply => c.specialization.serializeQuerySpecialization reply.fields
  | plain reply => pure (reply.querySpecializationBlob.getD [])

theorem serialize_eq (this : AnyReply) : this.serialize = this.base.serializeBody this.body := by
  cases this with
  | typed c reply => rfl
  | plain reply => rfl

/-- The packet of a reply has a body or an exception. -/
theorem serialize_cases {this : AnyReply} {octets : List UInt8} (written : this.serialize = .ok octets) :
    (∃ body, this.body = .ok body ∧
      octets = DiscoveryQueryReply.packet this.base.provider this.base.type body) ∨
    octets = DiscoveryQueryReply.exceptionPacket this.base.provider this.base.type := by
  rw [serialize_eq, DiscoveryQueryReply.serializeBody] at written
  cases raised : this.base.ex with
  | some ex =>
      rw [raised] at written
      cases written
      exact Or.inr rfl
  | none =>
      rw [raised] at written
      rcases Result.bind_eq_ok.mp written with ⟨body, held, packet⟩
      cases packet
      refine Or.inl ⟨body, held, ?_⟩
      rw [DiscoveryQueryReply.packet, ← List.append_assoc]
      rfl

/-- A reply with an exception is written without its members. -/
theorem serialize_of_exception {this : AnyReply} (raised : this.base.ex ≠ none) :
    this.serialize = .ok (DiscoveryQueryReply.exceptionPacket this.base.provider this.base.type) := by
  rw [serialize_eq, DiscoveryQueryReply.serializeBody]
  cases held : this.base.ex with
  | none => exact absurd held raised
  | some ex => rfl

theorem serialize_new {c : ReplyClass} {fields : c.Fields} {body : List UInt8}
    (written : c.specialization.serializeQuerySpecialization fields = .ok body) :
    (typed c (c.new none fields)).serialize =
      .ok (DiscoveryQueryReply.packet c.provider c.type body) := by
  change (c.specialization.serializeQuerySpecialization fields >>= fun octets =>
    pure (_ ++ (_ ++ writeSized octets))) = _
  rw [written, DiscoveryQueryReply.packet, ← List.append_assoc]
  rfl

end AnyReply

/-! ## One hop -/

namespace SuperPeerDiscovery

open P3GeneralProvider

/-- The packet with which a superpeer answers for what its own `executeQuery` came to,
as the one below receives it. -/
def passOn (query : DiscoveryQuery Unit) (executed : Result Executed) :
    Result (DiscoveryQueryReply Unit) := do
  let executed ← executed
  let reply ← replyTo query executed
  let octets ← reply.serialize
  let (received, _) ← DiscoveryQueryReply.deserialize ⟨octets, true⟩
  pure received

/-- What was received once is received unchanged ever after. -/
theorem receive_received {reply : AnyReply} {octets : List UInt8}
    {received : DiscoveryQueryReply Unit} {rest : InputStream}
    (written : reply.serialize = .ok octets)
    (decoded : DiscoveryQueryReply.deserialize ⟨octets, true⟩ = .ok (received, rest)) :
    ∃ again rest', (AnyReply.plain received).serialize = .ok again ∧
      DiscoveryQueryReply.deserialize ⟨again, true⟩ = .ok (received, rest') := by
  rcases AnyReply.serialize_cases written with ⟨body, -, rfl⟩ | rfl
  · rcases DiscoveryQueryReply.deserialize_packet reply.base.provider reply.base.type body with
      ⟨left, cutBody⟩
    rw [cutBody] at decoded
    cases decoded
    exact ⟨_, ⟨[], true⟩, DiscoveryQueryReply.serializePlain_blobOf _ _ _,
      (DiscoveryQueryReply.reads _ _ (length_cut_lt body)).run⟩
  · rw [(DiscoveryQueryReply.reads_exception _ _).run] at decoded
    cases decoded
    exact ⟨_, _, rfl, (DiscoveryQueryReply.reads_exception _ _).run⟩

theorem Hop.answers_iff {hop : Hop} : hop.answers = true ↔
    ∃ sap endpoint, hop.discoverySAPInfo = some sap ∧
      SAPInfo.getFirstEndpoint (some sap) = .ok endpoint ∧ hop.connection = .replies := by
  rw [Hop.answers]
  cases known : hop.discoverySAPInfo with
  | none => simp [SAPInfo.getFirstEndpoint]
  | some sap =>
      cases has : SAPInfo.getFirstEndpoint (some sap) with
      | error fault => simp [has]
      | ok endpoint => simp [has]

/-- A superpeer whose parent answers sends the query. -/
theorem executeQuery_of_answers {hop : Hop} (answers : hop.answers = true) (mesh : Option P3Mesh)
    (upstream : List Hop) (query : AnyQuery) : ∃ qos, executeQuery mesh (hop :: upstream) query =
      sendQuery (fun query => executeQuery mesh upstream query) hop qos query := by
  rcases Hop.answers_iff.mp answers with ⟨sap, endpoint, known, first, replies⟩
  have made : hop.connection ≠ .failed := by
    rw [replies]
    decide
  refine ⟨endpoint.qos, ?_⟩
  rw [executeQuery, known]
  dsimp only
  rw [first]
  exact if_neg made

/-- The reply of a hop and what the superpeers above it make of the query. -/
theorem reply_executeQuery_cons (mesh : Option P3Mesh) {hop : Hop} (answers : hop.answers = true)
    (upstream : List Hop) (query : AnyQuery) (carried : cut query.body ≠ []) :
    (executeQuery mesh (hop :: upstream) query).map Executed.reply =
      (passOn ⟨query.getProvider, query.getType, some (cut query.body), ()⟩
        (executeQuery mesh upstream
          (.plain ⟨query.getProvider, query.getType, some (cut query.body), ()⟩))).map
        fun received => some (.plain received) := by
  rcases DiscoveryQuery.deserialize_packet query.getProvider query.getType query.body with
    ⟨rest, decoded⟩
  rw [blobOf, if_neg carried] at decoded
  have ready : query.Initialized := by
    apply AnyQuery.initialized_of_body
    intro empty
    rw [empty] at carried
    exact carried rfl
  rcases executeQuery_of_answers answers mesh upstream query with ⟨qos, sent⟩
  rcases Hop.answers_iff.mp answers with ⟨-, -, -, -, replies⟩
  rw [sent, sendQuery, AnyQuery.serialize_eq_ok.mpr ⟨ready, rfl⟩]
  simp only [replies, if_true]
  change Except.map _ (DiscoveryQuery.deserialize _ >>= _) = _
  rw [decoded]
  change Except.map _ (handleQueryPacket _ _ >>= _) = _
  rw [handleQueryPacket, passOn]
  cases executeQuery mesh upstream
      (.plain ⟨query.getProvider, query.getType, some (cut query.body), ()⟩) with
  | error fault => rfl
  | ok executed =>
      change Except.map _ (((replyTo _ executed >>= _) : Result _) >>= _) =
        Except.map _ (replyTo _ executed >>= _)
      cases replyTo ⟨query.getProvider, query.getType, some (cut query.body), ()⟩ executed with
      | error fault => rfl
      | ok reply =>
          change Except.map _ (((reply.serialize >>= _) : Result _) >>= _) =
            Except.map _ (reply.serialize >>= _)
          cases reply.serialize with
          | error fault => rfl
          | ok octets =>
              change Except.map _ (DiscoveryQueryReply.deserialize ⟨octets, true⟩ >>= _) =
                Except.map _ (DiscoveryQueryReply.deserialize ⟨octets, true⟩ >>= _)
              cases DiscoveryQueryReply.deserialize ⟨octets, true⟩ with
              | error fault => rfl
              | ok received => rfl

/-- A reply that came from above is passed on as it is. -/
theorem passOn_passOn (query : DiscoveryQuery Unit) (executed next : Result Executed)
    (above : next.map Executed.reply =
      (passOn query executed).map fun received => some (.plain received)) :
    passOn query next = passOn query executed := by
  cases first : passOn query executed with
  | error fault =>
      rw [first] at above
      cases next with
      | error other =>
          cases above
          rfl
      | ok out => cases above
  | ok received =>
      rw [first] at above
      rcases Result.map_eq_ok.mp above with ⟨out, rfl, replied⟩
      rcases Result.bind_eq_ok.mp first with ⟨executed, -, first⟩
      rcases Result.bind_eq_ok.mp first with ⟨reply, -, first⟩
      rcases Result.bind_eq_ok.mp first with ⟨octets, written, first⟩
      rcases Result.bind_eq_ok.mp first with ⟨⟨same, rest⟩, decoded, equal⟩
      cases equal
      rcases receive_received written decoded with ⟨again, rest', sent, readAgain⟩
      change (replyTo query out >>= _) = _
      rw [replyTo, replied]
      change ((AnyReply.plain received).serialize >>= _) = _
      rw [sent]
      change (DiscoveryQueryReply.deserialize ⟨again, true⟩ >>= _) = _
      rw [readAgain]
      rfl

/-- However long the chain, the reply is what the root makes of the query that arrives,
passed on once.  The induction is on the chain, for every query with the same body. -/
theorem reply_executeQuery (mesh : Option P3Mesh) {hop : Hop} {upstream : List Hop}
    (answers : ∀ next ∈ hop :: upstream, next.answers = true) (query : AnyQuery)
    (carried : cut query.body ≠ []) :
    (executeQuery mesh (hop :: upstream) query).map Executed.reply =
      (passOn ⟨query.getProvider, query.getType, some (cut query.body), ()⟩
        (executeLocalQuery mesh
          (.plain ⟨query.getProvider, query.getType, some (cut query.body), ()⟩))).map
        fun received => some (.plain received) := by
  induction upstream generalizing hop query with
  | nil => exact reply_executeQuery_cons mesh (answers hop List.mem_cons_self) [] query carried
  | cons next upstream inductionHypothesis =>
      rcases List.forall_mem_cons.mp answers with ⟨first, above⟩
      rw [reply_executeQuery_cons mesh first (next :: upstream) query carried]
      have sameBody : cut (AnyQuery.plain
          ⟨query.getProvider, query.getType, some (cut query.body), ()⟩).body = cut query.body :=
        cut_eq_iff.mpr (length_cut_lt query.body)
      have fromAbove := inductionHypothesis above
        (.plain ⟨query.getProvider, query.getType, some (cut query.body), ()⟩) (by
          rw [sameBody]
          exact carried)
      rw [sameBody] at fromAbove
      congr 1
      exact passOn_passOn _ _ _ fromAbove

/-- A query without a body stops its first handler. -/
theorem executeQuery_cons_of_empty {mesh : Option P3Mesh} {hop : Hop} (answers : hop.answers = true)
    {upstream : List Hop} {query : AnyQuery} {out : Executed} (empty : cut query.body = []) :
    executeQuery mesh (hop :: upstream) query ≠ .ok out := by
  intro executed
  rcases DiscoveryQuery.deserialize_packet query.getProvider query.getType query.body with
    ⟨rest, decoded⟩
  rw [blobOf, if_pos empty] at decoded
  rcases executeQuery_of_answers answers mesh upstream query with ⟨qos, sent⟩
  rcases Hop.answers_iff.mp answers with ⟨-, -, -, -, replies⟩
  rw [sent, sendQuery] at executed
  simp only [replies, if_true] at executed
  rcases Result.bind_eq_ok.mp executed with ⟨octets, written, executed⟩
  rw [(AnyQuery.serialize_eq_ok.mp written).2, decoded] at executed
  cases executed

/-! ## A superpeer without its parent -/

/-- Nothing comes back, and the superpeer says so by a null pointer. -/
inductive Fails (query : AnyQuery) (hop : Hop) : Prop where
  | noSAP (unknown : hop.discoverySAPInfo = none)
  | refused (endpoint : ∃ first, SAPInfo.getFirstEndpoint hop.discoverySAPInfo = .ok first)
      (failed : hop.connection = .failed)
  | unanswered (endpoint : ∃ first, SAPInfo.getFirstEndpoint hop.discoverySAPInfo = .ok first)
      (broken : hop.connection = .ended ∨ hop.connection = .wrongType) (ready : query.Initialized)

theorem executeQuery_of_fails {query : AnyQuery} {hop : Hop} (fails : Fails query hop)
    (mesh : Option P3Mesh) (upstream : List Hop) :
    executeQuery mesh (hop :: upstream) query = .ok Executed.null := by
  rw [executeQuery]
  cases fails with
  | noSAP unknown =>
      rw [unknown]
      rfl
  | refused endpoint failed =>
      rcases endpoint with ⟨first, has⟩
      cases known : hop.discoverySAPInfo with
      | none => rfl
      | some sap =>
          rw [known] at has
          simp only [has, failed, if_true]
          rfl
  | unanswered endpoint broken ready =>
      rcases endpoint with ⟨first, has⟩
      cases known : hop.discoverySAPInfo with
      | none => rfl
      | some sap =>
          rw [known] at has
          have open_ : hop.connection ≠ .failed ∧ hop.connection ≠ .replies := by
            rcases broken with ended | wrongType
            · rw [ended]
              decide
            · rw [wrongType]
              decide
          simp only [has, sendQuery, AnyQuery.serialize_eq_ok.mpr ⟨ready, rfl⟩, if_neg open_.1,
            if_neg open_.2, bind, Except.bind]
          rfl

/-- A superpeer that returns without the reply of its parent returns a null pointer. -/
theorem fails_of_executeQuery {mesh : Option P3Mesh} {hop : Hop} {upstream : List Hop}
    {query : AnyQuery} {out : Executed} (cutOff : hop.answers = false)
    (executed : executeQuery mesh (hop :: upstream) query = .ok out) : Fails query hop := by
  rw [executeQuery] at executed
  cases known : hop.discoverySAPInfo with
  | none => exact .noSAP known
  | some sap =>
      rw [known] at executed
      rcases Result.bind_eq_ok.mp executed with ⟨first, has, executed⟩
      have endpoint : ∃ first, SAPInfo.getFirstEndpoint hop.discoverySAPInfo = .ok first := by
        rw [known]
        exact ⟨first, has⟩
      rw [Hop.answers, known, has] at cutOff
      cases state : hop.connection with
      | failed => exact .refused endpoint state
      | replies =>
          rw [state] at cutOff
          cases cutOff
      | ended =>
          rw [state] at executed
          rcases Result.bind_eq_ok.mp executed with ⟨octets, written, -⟩
          exact .unanswered endpoint (Or.inl state) (AnyQuery.serialize_eq_ok.mp written).1
      | wrongType =>
          rw [state] at executed
          rcases Result.bind_eq_ok.mp executed with ⟨octets, written, -⟩
          exact .unanswered endpoint (Or.inr state) (AnyQuery.serialize_eq_ok.mp written).1

/-- An exception stays one. -/
theorem raised_of_passOn {query : DiscoveryQuery Unit} {executed : Executed}
    {received : DiscoveryQueryReply Unit}
    (raised : ∀ reply, executed.reply = some reply → reply.base.ex ≠ none)
    (passed : passOn query (.ok executed) = .ok received) : received.ex ≠ none := by
  rcases Result.bind_eq_ok.mp passed with ⟨same, equal, passed⟩
  cases equal
  rcases Result.bind_eq_ok.mp passed with ⟨reply, replied, passed⟩
  rcases Result.bind_eq_ok.mp passed with ⟨octets, written, passed⟩
  rcases Result.bind_eq_ok.mp passed with ⟨⟨decoded, rest⟩, read, equal⟩
  cases equal
  have exception : reply.base.ex ≠ none := by
    rw [replyTo] at replied
    cases held : executed.reply with
    | some own =>
        rw [held] at replied
        cases replied
        exact raised reply held
    | none =>
        rw [held] at replied
        dsimp only at replied
        split at replied
        · cases replied
        · cases replied
          rintro ⟨⟩
  rw [AnyReply.serialize_of_exception exception] at written
  cases written
  rw [(DiscoveryQueryReply.reads_exception _ _).run] at read
  cases read
  rintro ⟨⟩

/-- Where the chain is broken further up, a reply with an exception comes down.  The induction
is on the chain above the first hop. -/
theorem exception_of_broken {mesh : Option P3Mesh} {hop : Hop} {upstream : List Hop}
    {query : AnyQuery} {out : Executed} (answers : hop.answers = true)
    (broken : ∃ next ∈ upstream, next.answers = false)
    (executed : executeQuery mesh (hop :: upstream) query = .ok out) :
    ∃ received : DiscoveryQueryReply Unit, out.reply = some (.plain received) ∧
      received.ex ≠ none := by
  induction upstream generalizing hop query out with
  | nil =>
      rcases broken with ⟨next, impossible, -⟩
      cases impossible
  | cons next upstream inductionHypothesis =>
      have carried : cut query.body ≠ [] := fun empty =>
        executeQuery_cons_of_empty answers empty executed
      have reply := reply_executeQuery_cons mesh answers (next :: upstream) query carried
      rw [executed] at reply
      rcases Result.map_eq_ok.mp reply.symm with ⟨received, passed, equal⟩
      refine ⟨received, equal.symm, ?_⟩
      rcases Result.bind_eq_ok.mp passed with ⟨above, ranAbove, -⟩
      rw [ranAbove] at passed
      apply raised_of_passOn _ passed
      intro last replied
      cases here : next.answers with
      | true =>
          have further : ∃ other ∈ upstream, other.answers = false := by
            rcases broken with ⟨other, member, silent⟩
            rcases List.mem_cons.mp member with rfl | member
            · rw [here] at silent
              cases silent
            · exact ⟨other, member, silent⟩
          rcases inductionHypothesis here further ranAbove with ⟨earlier, held, exception⟩
          rw [held] at replied
          cases replied
          exact exception
      | false =>
          rw [executeQuery_of_fails (fails_of_executeQuery here ranAbove) mesh upstream] at ranAbove
          cases ranAbove
          cases replied

/-! ## One reply for every packet -/

/-- Every superpeer that the query reached handled one packet and sent one reply to it. -/
def AnsweredOnce (hops : List Hop) (handled : List Handled) : Prop :=
  handled.length = (hops.takeWhile Hop.answers).length ∧ ∀ h ∈ handled, h.replies.length = 1

theorem handled_executeLocalQuery {mesh : Option P3Mesh} {query : AnyQuery} {out : Executed}
    (executed : executeLocalQuery mesh query = .ok out) : out.handled = [] := by
  rw [executeLocalQuery] at executed
  split at executed
  · rcases Result.bind_eq_ok.mp executed with ⟨outcome, -, equal⟩
    cases outcome with
    | thrown =>
        cases equal
        rfl
    | returned reply deleted =>
        cases equal
        rfl
  · cases executed
    rfl

theorem answeredOnce_executeQuery {mesh : Option P3Mesh} {hops : List Hop} {query : AnyQuery}
    {out : Executed} (executed : executeQuery mesh hops query = .ok out) :
    AnsweredOnce hops out.handled := by
  induction hops generalizing query out with
  | nil =>
      rw [handled_executeLocalQuery executed]
      exact ⟨rfl, fun h impossible => by cases impossible⟩
  | cons hop upstream inductionHypothesis =>
      cases here : hop.answers with
      | false =>
          rw [executeQuery_of_fails (fails_of_executeQuery here executed) mesh upstream] at executed
          cases executed
          refine ⟨?_, fun h impossible => by cases impossible⟩
          rw [List.takeWhile_cons, here]
          rfl
      | true =>
          rcases executeQuery_of_answers here mesh upstream query with ⟨qos, sent⟩
          rcases Hop.answers_iff.mp here with ⟨-, -, -, -, replies⟩
          rw [sent, sendQuery] at executed
          simp only [replies, if_true] at executed
          rcases Result.bind_eq_ok.mp executed with ⟨octets, -, executed⟩
          rcases Result.bind_eq_ok.mp executed with ⟨⟨received, rest⟩, -, executed⟩
          rcases Result.bind_eq_ok.mp executed with ⟨⟨handled, further⟩, answered, executed⟩
          rw [handleQueryPacket] at answered
          rcases Result.bind_eq_ok.mp answered with ⟨blob, -, answered⟩
          rcases Result.bind_eq_ok.mp answered with ⟨above, ranAbove, answered⟩
          rcases Result.bind_eq_ok.mp answered with ⟨reply, -, answered⟩
          rcases Result.bind_eq_ok.mp answered with ⟨queryReply, -, equal⟩
          cases equal
          rcases Result.bind_eq_ok.mp executed with ⟨⟨reply', rest'⟩, -, equal⟩
          cases equal
          rcases inductionHypothesis ranAbove with ⟨length, once⟩
          refine ⟨?_, List.forall_mem_cons.mpr ⟨rfl, once⟩⟩
          rw [List.takeWhile_cons, here]
          exact congrArg (· + 1) length

end SuperPeerDiscovery

end Stheno.Discovery
