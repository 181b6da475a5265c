import EdgeOffloading.Discovery.Rejection
import EdgeOffloading.System.ComponentQueries

/-!
# Requests and replies between the OM and the Discovery Service

The keepalive thread and the query thread of the OM share one socket, on which the service answers one request after the
other.

* `parseQueryResponse_listReply`: the OM reads back the list that the service sends;
* `Paired`: every thread gets the reply to its own last request, so the MECs are those of a reply to a query for MECs
  and the failure counter is raised by missing replies and errors only;
* `paired_along`: it holds all along a run in which requests do not overlap and replies come in one piece;
* `exists_not_paired_of_overlap`: from a state with two requests under way a run leads to a wrong pair.
-/

namespace EdgeOffloading

open Discovery

/-! ## The replies of the service -/

def QueryType.componentType : QueryType → Discovery.ComponentType
  | .mec => .mec
  | .vehicle => .vehicle

/-- The components of one type, as the service finds them. -/
def listed (registry : ComponentRegistry) (type : QueryType) : List ComponentInfo :=
  registry.getAllComponents.filter fun component => component.componentType = type.componentType

def keepaliveReply : Message :=
  .keepaliveResponse { response := "OK", nextIntervalMs := 5000, humanReadableMessage := "Keepalive acknowledged." }

def listReply (registry : ComponentRegistry) (type : QueryType) : Message :=
  .componentList {
    componentCount := UInt32.ofNat (listed registry type).length
    componentDataList := (listed registry type).map DiscoveryService.formatComponent
    humanReadableMessage := "Component query successful" }

/-- What the service sends when it has read a request, if it sends anything. -/
def DiscoveryRequest.reply (request : DiscoveryRequest) (service : DiscoveryService) (env : ServiceEnv)
    (clientId : Nat) : Option Message :=
  ((service.onDataReceived env clientId request.text.toList).sent.drop service.sent.length).head?.map Prod.snd

/-- The reply to a request by a service with this registry. -/
def DiscoveryRequest.expected (registry : ComponentRegistry) : DiscoveryRequest → Message
  | .ping => keepaliveReply
  | .query type => listReply registry type

theorem DiscoveryRequest.eq_expected_of_reply {request : DiscoveryRequest} {service : DiscoveryService}
    {env : ServiceEnv} {clientId : Nat} {m : Message} (h : request.reply service env clientId = some m) :
    m = request.expected service.registry := by
  have hdrop : ∀ (sent : List (Nat × Message)) (p : Nat × Message),
      ((sent ++ [p]).drop sent.length).head?.map Prod.snd = some p.2 := fun sent p => by simp
  cases request with
  | ping =>
      have hdecode : decodeMessage (String.ofList DiscoveryRequest.ping.text.toList) =
          .ok (.keepalivePing ⟨"1.1", "OK", "Keepalive from OM"⟩) := by decide +kernel
      unfold reply DiscoveryService.onDataReceived at h
      rw [hdecode] at h
      dsimp only [DiscoveryService.handleKeepalive] at h
      split at h
      · simp at h
      · split_ifs at h
        · rw [DiscoveryService.sendResponse, hdrop] at h
          exact (Option.some.inj h).symm
        · simp at h
  | query type =>
      have hdecode : decodeMessage (String.ofList (DiscoveryRequest.query type).text.toList) =
          .ok (.componentQuery ⟨type.letter, "Query for " ++ type.letter ++ " components from OM"⟩) := by
        cases type <;> decide +kernel
      have hletter : ¬(type.letter = "ALL" ∨ type.letter = "") := by cases type <;> decide +kernel
      have htype : stringToComponentType type.letter = type.componentType := by cases type <;> rfl
      unfold reply DiscoveryService.onDataReceived at h
      rw [hdecode] at h
      dsimp only [DiscoveryService.handleComponentQuery] at h
      rw [if_neg hletter, htype, DiscoveryService.sendResponse, hdrop] at h
      exact (Option.some.inj h).symm

/-! ## The OM reads the replies -/

section ListReply

variable (registry : ComponentRegistry) (type : QueryType)

theorem listReply_eq : listReply registry type = componentsReply (listed registry type) := rfl

/-- **The OM reads back the list that the service sends**, if the service can count it. -/
theorem parseQueryResponse_listReply (hlen : (listed registry type).length < 2 ^ 32) :
    parseQueryResponse (pyStrip (encodeMessage (listReply registry type)).toList) =
      (listed registry type).map Discovery.ComponentInfo.asDiscovered := by
  rw [listReply_eq, pyStrip_componentsReply, parseQueryResponse_componentsReply hlen]

theorem length_listed_lt {n : Nat} (h : (encodeMessage (listReply registry type)).toList.length ≤ n) :
    (listed registry type).length ≤ n := by
  rw [listReply_eq] at h
  exact length_le_of_componentsReply h

end ListReply

theorem DiscoveryRequest.expected_ne_nil (r : DiscoveryRequest) (registry : ComponentRegistry) :
    (encodeMessage (r.expected registry)).toList ≠ [] := by
  cases r with
  | ping =>
      show (encodeMessage keepaliveReply).toList ≠ []
      decide +kernel
  | query type =>
      obtain ⟨mid, hline⟩ := componentsReply_ends (listed registry type)
      show (encodeMessage (componentsReply (listed registry type))).toList ≠ []
      rw [hline]
      exact List.cons_ne_nil _ _

/-- The ids of the components that a reply lists. -/
def listedIds (registry : ComponentRegistry) (type : QueryType) : Finset String :=
  ((listed registry type).map Discovery.ComponentInfo.omId).toFinset

theorem idsOf_listed (registry : ComponentRegistry) (type : QueryType) :
    DiscoveryClient.idsOf type ((listed registry type).map Discovery.ComponentInfo.asDiscovered) =
      listedIds registry type := by
  have hletter : componentTypeToString type.componentType = type.letter := by cases type <;> rfl
  have hall : ((listed registry type).map Discovery.ComponentInfo.asDiscovered).filter
      (fun component => component.componentType = type.letter) =
        (listed registry type).map Discovery.ComponentInfo.asDiscovered := by
    apply List.filter_eq_self.mpr
    intro d hd
    obtain ⟨c, hc, rfl⟩ := List.mem_map.mp hd
    have htype := of_decide_eq_true (List.mem_filter.mp hc).2
    simp only [Discovery.ComponentInfo.asDiscovered, htype, hletter, decide_true]
  unfold DiscoveryClient.idsOf listedIds
  rw [hall, List.map_map]
  rfl

/-! ## The connection -/

/-- A reply of the service, with the registry it was made from. -/
structure DiscoveryAnswer where
  number : Nat
  request : DiscoveryRequest
  registry : ComponentRegistry
  text : List Char

/-- A `recv` that returned bytes: the last request of its thread, and each byte with the request that it answers. -/
structure DiscoveryRead where
  number : Nat
  request : DiscoveryRequest
  chunk : List (Nat × Char)
  deriving DecidableEq, Repr

/-- Why the failure counter of the keepalive thread was raised. -/
inductive FailureCause where
  | sendFailed
  | noReply
  | receiveFailed
  /-- Something was received and was no answer to a keepalive. -/
  | unexpected
  deriving DecidableEq, Repr

/-- How a `recv` of a thread ends: with at most `more` bytes after the first, or without bytes. -/
inductive RecvOutcome where
  | bytes (more : Nat)
  | timeout
  | closed
  | failed
  deriving DecidableEq, Repr

/-- The client, the connection and their history. The requests are numbered. -/
structure DiscoveryLink where
  client : DiscoveryClient := {}
  sent : Nat := 0
  /-- The last request of each thread. -/
  keepaliveRequest : Nat := 0
  queryRequest : Nat := 0
  unanswered : List (Nat × DiscoveryRequest) := []
  /-- What has been answered and not read: each byte with the request that it answers. -/
  stream : List (Nat × Char) := []
  answers : List DiscoveryAnswer := []
  reads : List DiscoveryRead := []
  raises : List FailureCause := []

namespace DiscoveryLink

variable (l : DiscoveryLink)

/-- The argument of `recv`. -/
def recvSize : Nat := 2048

/-- What a thread gets from `_receive_message`, and the bytes it takes; `none` while it waits. -/
def receive : RecvOutcome → Option (DiscoveryReceive × List (Nat × Char))
  | .bytes more =>
    if l.client.connected = false then some (.failed, [])
    else if l.stream = [] then none
    else
      let chunk := l.stream.take (min (more + 1) recvSize)
      some (.data (chunk.map Prod.snd), chunk)
  | .timeout => if l.client.connected = true ∧ l.stream ≠ [] then none else some (.timeout, [])
  | .closed => if l.client.connected = true ∧ l.stream ≠ [] then none else some (.closed, [])
  | .failed => some (.failed, [])

/-- The cause of a failure after this result. -/
def causeOf : DiscoveryReceive → FailureCause
  | .data _ => .unexpected
  | .timeout => .noReply
  | .closed => .noReply
  | .failed => .receiveFailed

/-- The client after a step of the keepalive thread; a raised counter is recorded with its cause. -/
def withClient (c : DiscoveryClient) (cause : FailureCause) : DiscoveryLink :=
  { l with
    client := c
    raises := if l.client.consecutiveFailures < c.consecutiveFailures then l.raises ++ [cause] else l.raises }

/-- A request goes out. -/
def request (r : DiscoveryRequest) : DiscoveryLink :=
  { l with sent := l.sent + 1, unanswered := l.unanswered ++ [(l.sent, r)] }

/-- Bytes are taken off the socket for a thread with this last request. -/
def take (number : Nat) (r : DiscoveryRequest) (chunk : List (Nat × Char)) : DiscoveryLink :=
  { l with
    stream := l.stream.drop chunk.length
    reads := if chunk = [] then l.reads else l.reads ++ [⟨number, r, chunk⟩] }

inductive Event where
  | keepaliveSend (success : Bool)
  | keepaliveReceive (outcome : RecvOutcome)
  | querySend (success : Bool)
  | queryReceive (outcome : RecvOutcome)
  /-- The service, in this state, answers the oldest request. -/
  | answer (service : DiscoveryService) (env : ServiceEnv) (clientId : Nat)
  | disconnect
  | shutdown

def step (l : DiscoveryLink) : Event → DiscoveryLink
  | .keepaliveSend success =>
    let result := l.client.keepaliveSend success
    let l := l.withClient result.1 .sendFailed
    if result.2 then { l.request .ping with keepaliveRequest := l.sent } else l
  | .keepaliveReceive outcome =>
    if l.client.keepalive = .receiving then
      match l.receive outcome with
      | none => l
      | some (result, chunk) =>
        (l.withClient (l.client.keepaliveReceive result) (causeOf result)).take l.keepaliveRequest .ping chunk
    else l
  | .querySend success =>
    let result := l.client.querySend success
    let l := { l with client := result.1 }
    match result.2, result.1.query with
    | true, .receiving type => { l.request (.query type) with queryRequest := l.sent }
    | _, _ => l
  | .queryReceive outcome =>
    match l.client.query with
    | .receiving type =>
      match l.receive outcome with
      | none => l
      | some (result, chunk) =>
        { l with client := l.client.queryReceive result }.take l.queryRequest (.query type) chunk
    | _ => l
  | .answer service env clientId =>
    match l.unanswered with
    | [] => l
    | (number, r) :: rest =>
      match r.reply service env clientId with
      | none => { l with unanswered := rest }
      | some m =>
        let text := (encodeMessage m).toList
        { l with
          unanswered := rest
          stream := l.stream ++ text.map fun c => (number, c)
          answers := l.answers ++ [⟨number, r, service.registry, text⟩] }
  | .disconnect => { l with client := l.client.disconnect }
  | .shutdown => { l with client := { l.client with shutdownEvent := true } }

/-! ## The property and the condition -/

/-- Every thread gets the reply to its own last request, and what follows from it. -/
structure Paired (l : DiscoveryLink) : Prop where
  own : ∀ r ∈ l.reads, (∃ a ∈ l.answers, a.number = r.number ∧ a.request = r.request ∧ r.chunk.map Prod.snd = a.text) ∧
    ∀ p ∈ r.chunk, p.1 = r.number
  /-- The MECs are those of a reply to a query for MECs, once there has been one. -/
  mecs : (∀ r ∈ l.reads, r.request ≠ .query .mec) ∧ l.client.discoveredMecs = ∅ ∨
    ∃ a ∈ l.answers, a.request = .query .mec ∧ l.client.discoveredMecs = listedIds a.registry .mec
  counter : FailureCause.unexpected ∉ l.raises

/-- Nothing of an earlier request is still to come or to be read. -/
def Quiet (l : DiscoveryLink) : Prop := l.unanswered = [] ∧ l.stream = []

/-- A thread sends when the other one does not wait for a reply and nothing of an earlier request is outstanding, and a
`recv` that returns bytes returns all that is there. -/
def Exclusive (l : DiscoveryLink) : Event → Prop
  | .keepaliveSend success => (l.client.keepaliveSend success).2 = true →
      (∀ type, l.client.query ≠ .receiving type) ∧ Quiet l
  | .querySend success => (l.client.querySend success).2 = true → l.client.keepalive ≠ .receiving ∧ Quiet l
  | .keepaliveReceive (.bytes more) => l.client.keepalive = .receiving → l.stream.length ≤ min (more + 1) recvSize
  | .queryReceive (.bytes more) =>
      (∃ type, l.client.query = .receiving type) → l.stream.length ≤ min (more + 1) recvSize
  | _ => True

/-! ## One step -/

/-- A thread that waits for a reply waits for the one to the request `n`. -/
def Awaited (l : DiscoveryLink) (n : Nat) (r : DiscoveryRequest) : Prop :=
  (l.client.keepalive = .receiving → n = l.keepaliveRequest ∧ r = .ping) ∧
    ∀ type, l.client.query = .receiving type → n = l.queryRequest ∧ r = .query type

/-- The request that is under way, without its reply or with all of it. -/
def Outstanding (l : DiscoveryLink) (n : Nat) (r : DiscoveryRequest) : Prop :=
  l.unanswered = [(n, r)] ∧ l.stream = [] ∨
    l.unanswered = [] ∧ ∃ a ∈ l.answers, a.number = n ∧ a.request = r ∧ l.stream = a.text.map fun c => (n, c)

/-- The invariant: one request at most is under way. -/
structure Orderly (l : DiscoveryLink) : Prop where
  paired : Paired l
  genuine : ∀ a ∈ l.answers, a.text = (encodeMessage (a.request.expected a.registry)).toList
  one : l.client.keepalive = .receiving → ∀ type, l.client.query ≠ .receiving type
  underWay : Quiet l ∨ ∃ n r, Awaited l n r ∧ Outstanding l n r

/-- A step that neither sends nor reads, and raises the counter for no reply that came. -/
structure Silent (l l' : DiscoveryLink) : Prop where
  client : l.client.Settles l'.client
  keepaliveRequest : l'.keepaliveRequest = l.keepaliveRequest
  queryRequest : l'.queryRequest = l.queryRequest
  unanswered : l'.unanswered = l.unanswered
  stream : l'.stream = l.stream
  answers : l'.answers = l.answers
  reads : l'.reads = l.reads
  raises : FailureCause.unexpected ∉ l.raises → FailureCause.unexpected ∉ l'.raises

theorem Orderly.silent {l l' : DiscoveryLink} (h : Orderly l) (hs : Silent l l') : Orderly l' := by
  refine ⟨⟨?_, ?_, hs.raises h.paired.counter⟩, ?_, ?_, ?_⟩
  · rw [hs.reads, hs.answers]
    exact h.paired.own
  · rw [hs.reads, hs.answers, hs.client.mecs]
    exact h.paired.mecs
  · rw [hs.answers]
    exact h.genuine
  · intro hk type hq
    exact h.one (hs.client.keepalive hk) type (hs.client.query type hq)
  · unfold Quiet Awaited Outstanding
    rw [hs.unanswered, hs.stream, hs.answers, hs.keepaliveRequest, hs.queryRequest]
    rcases h.underWay with hquiet | ⟨n, r, hawait, hout⟩
    · exact Or.inl hquiet
    · refine Or.inr ⟨n, r, ⟨fun hk => hawait.1 (hs.client.keepalive hk), fun type hq => ?_⟩, hout⟩
      exact hawait.2 type (hs.client.query type hq)

theorem silent_withClient {c : DiscoveryClient} (hc : l.client.Settles c) {cause : FailureCause}
    (hcause : cause ≠ .unexpected) : Silent l (l.withClient c cause) := by
  refine ⟨hc, rfl, rfl, rfl, rfl, rfl, rfl, fun hnot => ?_⟩
  unfold withClient
  dsimp only
  split_ifs
  · rw [List.mem_append, List.mem_singleton]
    exact not_or.mpr ⟨hnot, fun h => hcause h.symm⟩
  · exact hnot

theorem take_nil (number : Nat) (r : DiscoveryRequest) : l.take number r [] = l := rfl

theorem receive_cases {l : DiscoveryLink} {outcome : RecvOutcome} {result : DiscoveryReceive}
    {chunk : List (Nat × Char)} (h : Orderly l)
    (hall : ∀ more, outcome = .bytes more → l.stream.length ≤ min (more + 1) recvSize)
    (hr : l.receive outcome = some (result, chunk)) :
    ((∀ bytes, result ≠ .data bytes) ∧ chunk = []) ∨
    (l.client.connected = true ∧ chunk = l.stream ∧ result = .data (l.stream.map Prod.snd) ∧ l.unanswered = [] ∧
      ∃ n r a, Awaited l n r ∧ a ∈ l.answers ∧ a.number = n ∧ a.request = r ∧
        (l.stream = a.text.map fun c => (n, c)) ∧
        l.stream.map Prod.snd = (encodeMessage (r.expected a.registry)).toList ∧
        (encodeMessage (r.expected a.registry)).toList.length ≤ recvSize) := by
  cases outcome with
  | bytes more =>
      simp only [receive] at hr
      split_ifs at hr with hconn hempty
      · obtain ⟨rfl, rfl⟩ := Prod.mk.inj (Option.some.inj hr)
        exact Or.inl ⟨by simp, rfl⟩
      · obtain ⟨rfl, rfl⟩ := Prod.mk.inj (Option.some.inj hr)
        have hlen := hall more rfl
        have htake : l.stream.take (min (more + 1) recvSize) = l.stream := List.take_of_length_le hlen
        rw [htake]
        rcases h.underWay with ⟨-, hquiet⟩ | ⟨n, r, hawait, ⟨-, hnone⟩ | ⟨hun, a, ha, hn, hreq, hstream⟩⟩
        · exact absurd hquiet hempty
        · exact absurd hnone hempty
        · have htext : l.stream.map Prod.snd = (encodeMessage (r.expected a.registry)).toList := by
            rw [← hreq, ← h.genuine a ha, hstream, List.map_map]
            exact List.map_id _
          refine Or.inr ⟨by simpa using hconn, rfl, rfl, hun, n, r, a, hawait, ha, hn, hreq, hstream, htext, ?_⟩
          rw [← htext, List.length_map]
          omega
  | timeout =>
      simp only [receive] at hr
      split_ifs at hr
      obtain ⟨rfl, rfl⟩ := Prod.mk.inj (Option.some.inj hr)
      exact Or.inl ⟨by simp, rfl⟩
  | closed =>
      simp only [receive] at hr
      split_ifs at hr
      obtain ⟨rfl, rfl⟩ := Prod.mk.inj (Option.some.inj hr)
      exact Or.inl ⟨by simp, rfl⟩
  | failed =>
      obtain ⟨rfl, rfl⟩ := Prod.mk.inj (Option.some.inj hr)
      exact Or.inl ⟨by simp, rfl⟩

theorem causeOf_of_no_data {result : DiscoveryReceive} (h : ∀ bytes, result ≠ .data bytes) :
    causeOf result ≠ .unexpected := by
  cases result with
  | data bytes => exact absurd rfl (h bytes)
  | timeout => simp [causeOf]
  | closed => simp [causeOf]
  | failed => simp [causeOf]

theorem Orderly.read {l : DiscoveryLink} (h : Orderly l) {n : Nat} {r : DiscoveryRequest} {a : DiscoveryAnswer}
    {c : DiscoveryClient} (ha : a ∈ l.answers) (hn : a.number = n) (hreq : a.request = r)
    (hstream : l.stream = a.text.map fun c => (n, c)) (hun : l.unanswered = [])
    (hk : c.keepalive = .receiving → l.client.keepalive = .receiving)
    (hq : ∀ type, c.query = .receiving type → l.client.query = .receiving type)
    (hmecs : r ≠ .query .mec ∧ c.discoveredMecs = l.client.discoveredMecs ∨
      r = .query .mec ∧ c.discoveredMecs = listedIds a.registry .mec) :
    Orderly ({ l with client := c }.take n r l.stream) := by
  have htext : l.stream.map Prod.snd = a.text := by
    rw [hstream, List.map_map]
    exact List.map_id _
  have hnew : ∀ x ∈ ({ l with client := c }.take n r l.stream).reads, x ∈ l.reads ∨ x = ⟨n, r, l.stream⟩ := by
    intro x hx
    unfold take at hx
    dsimp only at hx
    split_ifs at hx
    · exact Or.inl hx
    · rcases List.mem_append.mp hx with hx | hx
      · exact Or.inl hx
      · exact Or.inr (List.mem_singleton.mp hx)
  refine ⟨⟨fun x hx => ?_, ?_, h.paired.counter⟩, h.genuine, fun hk' type hq' => ?_, Or.inl ⟨hun, List.drop_length⟩⟩
  · rcases hnew x hx with hx | rfl
    · exact h.paired.own x hx
    · refine ⟨⟨a, ha, hn, hreq, htext⟩, fun p hp => ?_⟩
      rw [hstream] at hp
      obtain ⟨ch, -, rfl⟩ := List.mem_map.mp hp
      rfl
  · rcases hmecs with ⟨hother, hsame⟩ | ⟨hmec, hids⟩
    · rcases h.paired.mecs with ⟨hreads, hempty⟩ | ⟨b, hb, hb', hset⟩
      · refine Or.inl ⟨fun x hx => ?_, hsame.trans hempty⟩
        rcases hnew x hx with hx | rfl
        · exact hreads x hx
        · exact hother
      · exact Or.inr ⟨b, hb, hb', hsame.trans hset⟩
    · exact Or.inr ⟨a, ha, hreq.trans hmec, hids⟩
  · exact h.one (hk hk') type (hq type hq')

theorem orderly_keepaliveSend {l : DiscoveryLink} (h : Orderly l) {success : Bool}
    (hex : Exclusive l (.keepaliveSend success)) : Orderly (l.step (.keepaliveSend success)) := by
  simp only [step]
  cases hout : (l.client.keepaliveSend success).2 with
  | false =>
      simp only [Bool.false_eq_true, if_false]
      exact h.silent (l.silent_withClient (l.client.settles_keepaliveSend hout) (by simp))
  | true =>
      obtain ⟨-, hclient⟩ := l.client.keepaliveSend_true hout
      obtain ⟨hother, hun, hstream⟩ := hex hout
      simp only [if_true, hclient, withClient, request, lt_irrefl, if_false]
      refine ⟨⟨h.paired.own, h.paired.mecs, h.paired.counter⟩, h.genuine, fun _ type hq => hother type hq,
        Or.inr ⟨l.sent, .ping, ⟨fun _ => ⟨rfl, rfl⟩, fun type hq => absurd hq (hother type)⟩, Or.inl ⟨?_, hstream⟩⟩⟩
      dsimp only
      rw [hun]
      rfl

theorem orderly_querySend {l : DiscoveryLink} (h : Orderly l) {success : Bool}
    (hex : Exclusive l (.querySend success)) : Orderly (l.step (.querySend success)) := by
  simp only [step]
  cases hout : (l.client.querySend success).2 with
  | false => exact h.silent ⟨l.client.settles_querySend hout, rfl, rfl, rfl, rfl, rfl, rfl, id⟩
  | true =>
      obtain ⟨type, -, hclient⟩ := l.client.querySend_true hout
      obtain ⟨hother, hun, hstream⟩ := hex hout
      simp only [hclient, request]
      refine ⟨⟨h.paired.own, h.paired.mecs, h.paired.counter⟩, h.genuine, fun hk => absurd hk hother,
        Or.inr ⟨l.sent, .query type, ⟨fun hk => absurd hk hother, fun type' hq => ?_⟩, Or.inl ⟨?_, hstream⟩⟩⟩
      · obtain rfl := QueryPoint.receiving.inj hq
        exact ⟨rfl, rfl⟩
      · dsimp only
        rw [hun]
        rfl

theorem isKeepaliveAnswer_keepaliveReply :
    DiscoveryClient.isKeepaliveAnswer (pyStrip (encodeMessage keepaliveReply).toList) = true := by decide +kernel

theorem orderly_keepaliveReceive {l : DiscoveryLink} (h : Orderly l) {outcome : RecvOutcome}
    (hex : Exclusive l (.keepaliveReceive outcome)) : Orderly (l.step (.keepaliveReceive outcome)) := by
  simp only [step]
  split_ifs with hk
  · cases hr : l.receive outcome with
    | none => exact h
    | some p =>
        obtain ⟨result, chunk⟩ := p
        dsimp only
        have hall : ∀ more, outcome = .bytes more → l.stream.length ≤ min (more + 1) recvSize := by
          rintro more rfl
          exact hex hk
        rcases receive_cases h hall hr with
          ⟨hno, rfl⟩ | ⟨hconn, rfl, rfl, hun, n, r, a, hawait, ha, hn, hreq, hstream, htext, -⟩
        · rw [take_nil, l.client.keepaliveReceive_of_no_data hk hno]
          exact h.silent (l.silent_withClient l.client.settles_keepaliveFailed (causeOf_of_no_data hno))
        · obtain ⟨rfl, rfl⟩ := hawait.1 hk
          have htext : l.stream.map Prod.snd = (encodeMessage keepaliveReply).toList := htext
          have hne : (encodeMessage keepaliveReply).toList ≠ [] := DiscoveryRequest.ping.expected_ne_nil a.registry
          rw [htext, l.client.keepaliveReceive_of_answer hk hconn hne isKeepaliveAnswer_keepaliveReply]
          unfold withClient
          simp only [Nat.not_lt_zero, if_false]
          refine h.read ha hn hreq hstream hun (fun hk' => absurd hk' (by simp)) (fun _ => id) (Or.inl ⟨?_, rfl⟩)
          simp
  · exact h

theorem orderly_queryReceive {l : DiscoveryLink} (h : Orderly l) {outcome : RecvOutcome}
    (hex : Exclusive l (.queryReceive outcome)) : Orderly (l.step (.queryReceive outcome)) := by
  simp only [step]
  cases hq : l.client.query with
  | sending type => exact h
  | stopped => exact h
  | receiving type =>
      cases hr : l.receive outcome with
      | none => exact h
      | some p =>
          obtain ⟨result, chunk⟩ := p
          dsimp only
          have hall : ∀ more, outcome = .bytes more → l.stream.length ≤ min (more + 1) recvSize := by
            rintro more rfl
            exact hex ⟨type, hq⟩
          rcases receive_cases h hall hr with
            ⟨hno, rfl⟩ | ⟨hconn, rfl, rfl, hun, n, r, a, hawait, ha, hn, hreq, hstream, htext, hlen⟩
          · rw [take_nil, l.client.queryReceive_of_no_data hq hno]
            exact h.silent ⟨l.client.settles_nextQuery type, rfl, rfl, rfl, rfl, rfl, rfl, id⟩
          · obtain ⟨rfl, rfl⟩ := hawait.2 type hq
            have htext : l.stream.map Prod.snd = (encodeMessage (listReply a.registry type)).toList := htext
            have hne : (encodeMessage (listReply a.registry type)).toList ≠ [] :=
              (DiscoveryRequest.query type).expected_ne_nil a.registry
            have hstrip : pyStrip (encodeMessage (listReply a.registry type)).toList ≠ [] := by
              rw [listReply_eq, pyStrip_componentsReply]
              exact hne
            have hcount : (listed a.registry type).length < 2 ^ 32 := by
              have hle := length_listed_lt a.registry type hlen
              unfold recvSize at hle
              omega
            rw [htext, l.client.queryReceive_of_data hq hconn hne hstrip,
              parseQueryResponse_listReply a.registry type hcount]
            refine h.read ha hn hreq hstream hun ?_ ?_ ?_
            · cases type <;> exact id
            · intro type' hq'
              cases type <;> exact absurd hq' (by simp [DiscoveryClient.nextQuery, DiscoveryClient.updateComponents])
            · cases type with
              | mec => exact Or.inr ⟨rfl, idsOf_listed a.registry .mec⟩
              | vehicle => exact Or.inl ⟨by simp, rfl⟩

theorem orderly_answer {l : DiscoveryLink} (h : Orderly l) (service : DiscoveryService) (env : ServiceEnv)
    (clientId : Nat) : Orderly (l.step (.answer service env clientId)) := by
  simp only [step]
  cases hun : l.unanswered with
  | nil => exact h
  | cons p rest =>
      obtain ⟨number, r⟩ := p
      dsimp only
      obtain ⟨hawait, hrest, hstream⟩ : Awaited l number r ∧ rest = [] ∧ l.stream = [] := by
        rcases h.underWay with ⟨hquiet, -⟩ | ⟨n, r', hawait, ⟨hout, hstream⟩ | ⟨hout, -⟩⟩
        · rw [hun] at hquiet
          cases hquiet
        · rw [hun] at hout
          obtain ⟨hp, hrest⟩ := List.cons.inj hout
          obtain ⟨rfl, rfl⟩ := Prod.mk.inj hp
          exact ⟨hawait, hrest, hstream⟩
        · rw [hun] at hout
          cases hout
      subst hrest
      cases hreply : r.reply service env clientId with
      | none => exact ⟨⟨h.paired.own, h.paired.mecs, h.paired.counter⟩, h.genuine, h.one, Or.inl ⟨rfl, hstream⟩⟩
      | some m =>
          have hm := DiscoveryRequest.eq_expected_of_reply hreply
          subst hm
          have hold : ∀ a ∈ l.answers, a ∈ l.answers ++
              [⟨number, r, service.registry, (encodeMessage (r.expected service.registry)).toList⟩] :=
            fun a ha => List.mem_append_left _ ha
          refine ⟨⟨fun x hx => ?_, ?_, h.paired.counter⟩, fun a ha => ?_, h.one,
            Or.inr ⟨number, r, hawait, Or.inr ⟨rfl, ?_⟩⟩⟩
          · obtain ⟨⟨a, ha, hrest⟩, htags⟩ := h.paired.own x hx
            exact ⟨⟨a, hold a ha, hrest⟩, htags⟩
          · rcases h.paired.mecs with hnone | ⟨a, ha, hrest⟩
            · exact Or.inl hnone
            · exact Or.inr ⟨a, hold a ha, hrest⟩
          · rcases List.mem_append.mp ha with ha | ha
            · exact h.genuine a ha
            · obtain rfl := List.mem_singleton.mp ha
              rfl
          · refine ⟨_, List.mem_append_right _ List.mem_cons_self, rfl, rfl, ?_⟩
            dsimp only
            rw [hstream]
            rfl

theorem orderly_step (l : DiscoveryLink) (e : Event) (h : Orderly l) (hex : Exclusive l e) : Orderly (l.step e) := by
  cases e with
  | keepaliveSend success => exact orderly_keepaliveSend h hex
  | keepaliveReceive outcome => exact orderly_keepaliveReceive h hex
  | querySend success => exact orderly_querySend h hex
  | queryReceive outcome => exact orderly_queryReceive h hex
  | answer service env clientId => exact orderly_answer h service env clientId
  | disconnect => exact h.silent ⟨⟨id, fun _ => id, rfl⟩, rfl, rfl, rfl, rfl, rfl, rfl, id⟩
  | shutdown => exact h.silent ⟨⟨id, fun _ => id, rfl⟩, rfl, rfl, rfl, rfl, rfl, rfl, id⟩

theorem orderly_init : Orderly {} :=
  ⟨⟨fun r hr => absurd hr List.not_mem_nil, Or.inl ⟨fun r hr => absurd hr List.not_mem_nil, rfl⟩, List.not_mem_nil⟩,
    fun a ha => absurd ha List.not_mem_nil, fun h => absurd h (by decide), Or.inl ⟨rfl, rfl⟩⟩

/-- **Every thread gets the reply to its own request** in a run in which requests do not overlap and replies come in one
piece. -/
theorem paired_along (es : List Event) (hex : Run.Along step Exclusive {} es) :
    ∀ pre, pre <+: es → Paired (Run.run step {} pre) := by
  intro pre hpre
  exact (Run.run_invariant_on_the_way step orderly_step orderly_init hex pre hpre).paired

/-! ## Requests that overlap -/

/-- A service with an OM, a Bridge and the MEC 10.1. -/
def withMec : DiscoveryService :=
  (DiscoveryService.withOmAndBridge.onClientConnected 3 ⟨10, 0, 0, 3⟩).handleRegistration { now := 0 } 3
    (DiscoveryService.sampleRequest .mec 10 1 "6000" "mec")

theorem reply_withMec (r : DiscoveryRequest) : r.reply withMec { now := 1 } 1 = some (r.expected withMec.registry) := by
  cases r with
  | ping => decide +kernel
  | query type => cases type <;> decide +kernel

theorem exists_not_paired_of_overlap {l : DiscoveryLink} {type : QueryType} {n : Nat} {r : DiscoveryRequest}
    {rest : List (Nat × DiscoveryRequest)} (hk : l.client.keepalive = .receiving)
    (hq : l.client.query = .receiving type) (hconn : l.client.connected = true)
    (hne : l.keepaliveRequest ≠ l.queryRequest) (hun : l.unanswered = (n, r) :: rest) (hstream : l.stream = []) :
    ∃ es, ¬ Paired (Run.run step l es) := by
  obtain ⟨ch, text, htext⟩ := List.exists_cons_of_ne_nil (r.expected_ne_nil withMec.registry)
  -- the service answers the oldest request
  have hanswer : l.step (.answer withMec { now := 1 } 1) =
      { l with
        unanswered := rest
        stream := (ch :: text).map fun c => (n, c)
        answers := l.answers ++ [⟨n, r, withMec.registry, ch :: text⟩] } := by
    simp only [step, hun, reply_withMec, htext, hstream, List.nil_append]
  by_cases hmine : n = l.keepaliveRequest
  · -- and the query thread reads the first byte of the reply to the ping
    refine ⟨[.answer withMec { now := 1 } 1, .queryReceive (.bytes 0)], fun hpaired => hne ?_⟩
    rw [Run.run_cons, hanswer, Run.run_cons, Run.run_nil] at hpaired
    have hread : (⟨l.queryRequest, .query type, [(n, ch)]⟩ : DiscoveryRead) ∈ (step
        { l with
          unanswered := rest
          stream := (ch :: text).map fun c => (n, c)
          answers := l.answers ++ [⟨n, r, withMec.registry, ch :: text⟩] } (.queryReceive (.bytes 0))).reads := by
      simp [step, hq, receive, hconn, take, recvSize]
    have htag := (hpaired.own _ hread).2 (n, ch) List.mem_cons_self
    exact hmine.symm.trans htag
  · refine ⟨[.answer withMec { now := 1 } 1, .keepaliveReceive (.bytes 0)], fun hpaired => hmine ?_⟩
    rw [Run.run_cons, hanswer, Run.run_cons, Run.run_nil] at hpaired
    have hread : (⟨l.keepaliveRequest, .ping, [(n, ch)]⟩ : DiscoveryRead) ∈ (step
        { l with
          unanswered := rest
          stream := (ch :: text).map fun c => (n, c)
          answers := l.answers ++ [⟨n, r, withMec.registry, ch :: text⟩] } (.keepaliveReceive (.bytes 0))).reads := by
      simp [step, hk, receive, hconn, take, withClient, recvSize]
    exact (hpaired.own _ hread).2 (n, ch) List.mem_cons_self

/-- The query for MECs, then a keepalive. -/
def oneAfterTheOther : List Event :=
  [.querySend true, .answer withMec { now := 1 } 1, .queryReceive (.bytes 2047), .keepaliveSend true,
    .answer withMec { now := 1 } 1, .keepaliveReceive (.bytes 2047)]

/-- The MECs and the vehicles have been asked for; then the next query for MECs meets a keepalive. -/
def overlapping : List Event :=
  [.querySend true, .answer withMec { now := 1 } 1, .queryReceive (.bytes 2047), .querySend true,
    .answer withMec { now := 1 } 1, .queryReceive (.bytes 2047), .keepaliveSend true, .querySend true,
    .answer withMec { now := 1 } 1, .queryReceive (.bytes 2047), .answer withMec { now := 1 } 1,
    .keepaliveReceive (.bytes 2047)]

instance : Fintype QueryType where
  elems := {.mec, .vehicle}
  complete
    | .mec => Finset.mem_insert_self _ _
    | .vehicle => Finset.mem_insert_of_mem (Finset.mem_singleton_self _)

instance (l : DiscoveryLink) : Decidable (Quiet l) := inferInstanceAs (Decidable (_ ∧ _))

instance (l : DiscoveryLink) : (e : Event) → Decidable (Exclusive l e)
  | .keepaliveSend _ => inferInstanceAs (Decidable (_ → (∀ _, _ ≠ _) ∧ Quiet l))
  | .querySend _ => inferInstanceAs (Decidable (_ → _ ≠ _ ∧ Quiet l))
  | .keepaliveReceive (.bytes _) => inferInstanceAs (Decidable (_ → _ ≤ _))
  | .queryReceive (.bytes _) => inferInstanceAs (Decidable ((∃ _, _ = _) → _ ≤ _))
  | .keepaliveReceive .timeout | .keepaliveReceive .closed | .keepaliveReceive .failed
  | .queryReceive .timeout | .queryReceive .closed | .queryReceive .failed
  | .answer .. | .disconnect | .shutdown => inferInstanceAs (Decidable True)

theorem paired_oneAfterTheOther :
    (Run.run step {} oneAfterTheOther).client.discoveredMecs = {"10:1"} ∧
      Paired (Run.run step {} oneAfterTheOther) := by
  refine ⟨by decide +kernel, paired_along oneAfterTheOther ?_ _ List.prefix_rfl⟩
  simp only [oneAfterTheOther, Run.along_cons, Run.along_nil]
  decide +kernel

/-- The query thread has taken the answer to the keepalive, and lost its MECs; the keepalive thread has taken the list
and counted a failure. -/
theorem overlapping_not_paired :
    (Run.run step {} (overlapping.take 8)).client.discoveredMecs = {"10:1"} ∧
      (Run.run step {} overlapping).client.discoveredMecs = ∅ ∧ listedIds withMec.registry .mec = {"10:1"} ∧
      (Run.run step {} overlapping).raises = [.unexpected] ∧ ¬ Paired (Run.run step {} overlapping) := by
  have hruns : (Run.run step {} (overlapping.take 8)).client.discoveredMecs = {"10:1"} ∧
      (Run.run step {} overlapping).client.discoveredMecs = ∅ ∧ listedIds withMec.registry .mec = {"10:1"} ∧
      (Run.run step {} overlapping).raises = [.unexpected] := by decide +kernel
  obtain ⟨hbefore, hafter, hlisted, hraises⟩ := hruns
  refine ⟨hbefore, hafter, hlisted, hraises, fun h => h.counter ?_⟩
  rw [hraises]
  exact List.mem_cons_self

end DiscoveryLink

end EdgeOffloading
