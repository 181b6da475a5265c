import EdgeOffloading.Bridge.Keepalive
import EdgeOffloading.Bridge.Routes
import EdgeOffloading.Cpp.Parse
import EdgeOffloading.Protocol.Shape

/-!
# What the receive threads of the Bridge make of a document

Any JSON document may arrive on a control connection or from the OM. A conversion that does not fit its value throws,
and so does the parser at a number that no double holds: on a control connection the exception ends the thread of the
connection, in the thread of the OM it ends the process.

* `ReadsMessage`, `ReadsOmMessage`: every field that is read converts;
* `WritesSession`, `WritesApproval`: the document changes a session or the table;
* `deliver`: a document is parsed before it is handled;
* `survives_iff`: a document neither ends its thread nor changes anything if it is not of the documented shape, exactly
  if it is parsed, every field that is read converts, and it writes nothing if it is not of the documented shape.
-/

namespace EdgeOffloading.Bridge

variable {b : Bridge} {t : ClientId} {conn : MGWCPConnection} {code : Int} {payload : Json}

/-! ## Fields that are read -/

/-- What the constructor of `TransportHandler` takes. -/
def ValidEndpoint (host : String) (port : Int) : Prop := host ≠ "" ∧ 0 < port ∧ port ≤ 65535

/-- The fields that the handler of a code reads in a payload. -/
structure ReadsPayload (b : Bridge) (conn : MGWCPConnection) (c : String) (code : Int) (payload : Json) : Prop where
  dpInfo : code = 103 → conn.state = .connecting → payload.contains "dp_host" = true →
    payload.contains "dp_port" = true →
      ∃ host port, (payload.get "dp_host").asString = some host ∧ (payload.get "dp_port").asInt = some port ∧
        (b.transportHandlers c = none → ValidEndpoint (if host = "0.0.0.0" then conn.clientIp else host) port)
  request : code = 100 → conn.state = .operational → payload.contains "request_id" = true →
    payload.contains "task_id" = true → payload.contains "task_name" = true →
      (payload.get "request_id").asString ≠ none ∧ (payload.get "task_id").asUInt32 ≠ none ∧
        (payload.get "task_name").asString ≠ none
  session : code = 101 ∨ code = 102 → payload.contains "request_id" = true → (payload.get "request_id").asString ≠ none

/-- The fields that are read of a message on a connection. -/
def ReadsMessage (b : Bridge) (conn : MGWCPConnection) (message : Json) : Prop :=
  validateMessageStructure message = true →
    ∃ code seqNum, (message.get "message_code").asInt = some code ∧ message.valueInt "sequence_number" 0 = some seqNum ∧
      (code = 900 → (message.get "payload").contains "ack_sequence_number" = true →
        ((message.get "payload").get "ack_sequence_number").asUInt64 ≠ none) ∧
      (code ≠ 900 → ∃ c, (message.get "component_id").asString = some c ∧
        (conn.acceptsComponentId c = true → ReadsPayload b conn c code (message.get "payload")))

theorem readsMessage_iff (message : Json) :
    ReadsMessage b conn message ↔
      match conn.receive message with
      | .ignored => True
      | .thrown => False
      | .ack payload => payload.contains "ack_sequence_number" = true →
          (payload.get "ack_sequence_number").asUInt64 ≠ none
      | .accepted c _ code payload => ReadsPayload b conn c code payload := by
  unfold ReadsMessage MGWCPConnection.receive
  cases hstructure : validateMessageStructure message with
  | false => simp
  | true =>
      cases hcode : (message.get "message_code").asInt with
      | none => simp
      | some code =>
          cases hseq : message.valueInt "sequence_number" 0 with
          | none => simp
          | some seqNum =>
              by_cases hack : code = 900
              · simp [hack]
              · cases hc : (message.get "component_id").asString with
                | none => simp [hack]
                | some c => cases haccepts : conn.acceptsComponentId c <;> simp [hack, haccepts]

/-! ## The thread of a connection -/

/-- The connection of `t` is there, and its thread runs on exactly if `P`. -/
def RunsOnIff (t : ClientId) (conn : MGWCPConnection) (b' : Bridge) (P : Prop) : Prop :=
  ∃ conn', b'.mgwcpConnections t = some conn' ∧ conn'.running = conn.running ∧ (conn'.threadAlive = true ↔ P)

theorem runsOnIff_putConnection (conn' : MGWCPConnection) (hrunning : conn'.running = conn.running) {P : Prop}
    (hP : conn'.threadAlive = true ↔ P) : RunsOnIff t conn (b.putConnection t conn') P :=
  ⟨conn', (putConnection_apply t t conn').trans (if_pos rfl), hrunning, hP⟩

/-- The thread has ended. -/
theorem runsOnIff_endThread {P : Prop} (hP : ¬ P) : RunsOnIff t conn (b.endThread t conn) P :=
  runsOnIff_putConnection _ rfl (iff_of_false Bool.false_ne_true hP)

theorem runsOnIff_same {b' : Bridge} (hconn : b'.mgwcpConnections t = some conn) (halive : conn.threadAlive = true)
    {P : Prop} (hP : P) : RunsOnIff t conn b' P :=
  ⟨conn, hconn, rfl, iff_of_true halive hP⟩

theorem create_ne_none_iff (c host : String) (port : Int) (q : QueueId) (hc : c ≠ "") :
    TransportHandler.create c host port q default ≠ none ↔ ValidEndpoint host port := by
  unfold TransportHandler.create ValidEndpoint
  rw [if_neg hc]
  split_ifs with hhost hport
  · simp [hhost]
  · refine iff_of_false (not_not.mpr rfl) fun h => ?_
    omega
  · refine iff_of_true (Option.some_ne_none _) ⟨hhost, ?_, ?_⟩ <;> omega

theorem handleDpInfo_runsOn (hconn : b.mgwcpConnections t = some conn) (halive : conn.threadAlive = true)
    (hid : conn.componentId ≠ "") (payload : Json) (env : Env) :
    RunsOnIff t conn (b.handleDpInfo t conn payload env).1 (ReadsPayload b conn conn.componentId 103 payload) := by
  have hreads : (conn.state = .connecting → payload.contains "dp_host" = true → payload.contains "dp_port" = true →
      ∃ host port, (payload.get "dp_host").asString = some host ∧ (payload.get "dp_port").asInt = some port ∧
        (b.transportHandlers conn.componentId = none →
          ValidEndpoint (if host = "0.0.0.0" then conn.clientIp else host) port)) ↔
        ReadsPayload b conn conn.componentId 103 payload :=
    ⟨fun h => ⟨fun _ => h, fun h => absurd h (by decide), fun h => absurd h (by decide)⟩, fun h => h.dpInfo rfl⟩
  rw [← hreads]
  unfold handleDpInfo
  by_cases hstate : conn.state = .connecting
  · rw [if_neg (not_not.mpr hstate)]
    by_cases hcontains : payload.contains "dp_host" = true ∧ payload.contains "dp_port" = true
    · rw [if_neg (by simp [hcontains])]
      cases hhost : (payload.get "dp_host").asString with
      | none => exact runsOnIff_endThread fun h => by simpa using h hstate hcontains.1 hcontains.2
      | some host =>
          cases hport : (payload.get "dp_port").asInt with
          | none => exact runsOnIff_endThread fun h => by simpa using h hstate hcontains.1 hcontains.2
          | some port =>
              dsimp only
              unfold establishMgwcpDataPlaneConnection createTransportHandlerForMgwdp
              cases hh : b.transportHandlers conn.componentId with
              | some handler =>
                  refine runsOnIff_putConnection _ rfl (iff_of_true halive fun _ _ _ => ⟨host, port, rfl, rfl, ?_⟩)
                  exact fun h => by cases h
              | none =>
                  have hvalid := create_ne_none_iff conn.componentId (if host = "0.0.0.0" then conn.clientIp else host)
                    port b.nextQueue hid
                  cases hcreate : TransportHandler.create conn.componentId
                      (if host = "0.0.0.0" then conn.clientIp else host) port b.nextQueue default with
                  | none =>
                      refine runsOnIff_putConnection _ rfl (iff_of_false Bool.false_ne_true fun h => ?_)
                      obtain ⟨host', port', hhost', hport', hvalid'⟩ := h hstate hcontains.1 hcontains.2
                      cases hhost'
                      cases hport'
                      exact hvalid.mpr (hvalid' rfl) hcreate
                  | some handler =>
                      refine runsOnIff_putConnection _ rfl (iff_of_true halive fun _ _ _ => ⟨host, port, rfl, rfl, ?_⟩)
                      exact fun _ => hvalid.mp (by rw [hcreate]; exact Option.some_ne_none _)
    · rw [if_pos (by simpa [or_iff_not_imp_left] using hcontains)]
      exact runsOnIff_same hconn halive fun _ h₁ h₂ => absurd ⟨h₁, h₂⟩ hcontains
  · rw [if_pos hstate]
    exact runsOnIff_same hconn halive fun h => absurd h hstate

theorem handleOffloadRequest_runsOn (hconn : b.mgwcpConnections t = some conn) (halive : conn.threadAlive = true)
    (payload : Json) (env : Env) :
    RunsOnIff t conn (b.handleOffloadRequest t conn payload env).1
      (ReadsPayload b conn conn.componentId 100 payload) := by
  have hreads : (conn.state = .operational → payload.contains "request_id" = true →
      payload.contains "task_id" = true → payload.contains "task_name" = true →
        (payload.get "request_id").asString ≠ none ∧ (payload.get "task_id").asUInt32 ≠ none ∧
          (payload.get "task_name").asString ≠ none) ↔ ReadsPayload b conn conn.componentId 100 payload :=
    ⟨fun h => ⟨fun h => absurd h (by decide), fun _ => h, fun h => absurd h (by decide)⟩, fun h => h.request rfl⟩
  rw [← hreads]
  unfold handleOffloadRequest
  by_cases hstate : conn.state = .operational
  · rw [if_neg (not_not.mpr hstate)]
    by_cases hcontains : payload.contains "request_id" = true ∧ payload.contains "task_id" = true ∧
        payload.contains "task_name" = true
    · obtain ⟨hid, htask, hname⟩ := hcontains
      rw [if_neg (by simp [hid, htask, hname])]
      split
      · rename_i requestId taskId taskName hrequestId htaskId htaskName
        obtain ⟨omConnected, outputs, h⟩ := b.forwardMessageToOm_request conn.componentId payload env hrequestId htaskId
          htaskName (by simp [hid, htask, hname])
        rw [h]
        refine runsOnIff_same hconn halive fun _ _ _ _ => ?_
        rw [hrequestId, htaskId, htaskName]
        exact ⟨Option.some_ne_none _, Option.some_ne_none _, Option.some_ne_none _⟩
      · rename_i hnone
        refine runsOnIff_endThread fun h => ?_
        obtain ⟨h₁, h₂, h₃⟩ := h hstate hid htask hname
        obtain ⟨requestId, h₁⟩ := Option.ne_none_iff_exists'.mp h₁
        obtain ⟨taskId, h₂⟩ := Option.ne_none_iff_exists'.mp h₂
        obtain ⟨taskName, h₃⟩ := Option.ne_none_iff_exists'.mp h₃
        exact hnone requestId taskId taskName h₁ h₂ h₃
    · rw [if_pos (by simpa [or_iff_not_imp_left] using hcontains)]
      exact runsOnIff_same hconn halive fun _ h₁ h₂ h₃ => absurd ⟨h₁, h₂, h₃⟩ hcontains
  · rw [if_pos hstate]
    exact runsOnIff_same hconn halive fun h => absurd h hstate

theorem readsPayload_session (hcode : code = 101 ∨ code = 102) :
    ReadsPayload b conn conn.componentId code payload ↔
      (payload.contains "request_id" = true → (payload.get "request_id").asString ≠ none) :=
  ⟨fun h => h.session hcode,
    fun h => ⟨fun h => absurd h (by omega), fun h => absurd h (by omega), fun _ => h⟩⟩

theorem handleSessionKeepalive_runsOn (hconn : b.mgwcpConnections t = some conn) (halive : conn.threadAlive = true)
    (payload : Json) (env : Env) :
    RunsOnIff t conn (b.handleSessionKeepalive t conn payload env).1
      (ReadsPayload b conn conn.componentId 101 payload) := by
  rw [readsPayload_session (Or.inl rfl)]
  unfold handleSessionKeepalive
  split_ifs with hcontains
  · exact runsOnIff_same hconn halive fun h => by simp [h] at hcontains
  · have hcontains : payload.contains "request_id" = true := by simpa using hcontains
    cases hid : (payload.get "request_id").asString with
    | none => exact runsOnIff_endThread fun h => h hcontains rfl
    | some requestId =>
        obtain ⟨omConnected, outputs, h⟩ :=
          { b with sessionManager := b.sessionManager.updateKeepalive requestId env.now }.forwardMessageToOm_forward
            conn.componentId 101 "SESSION_KEEPALIVE" payload env (by decide)
        dsimp only
        rw [h]
        exact runsOnIff_same hconn halive fun _ => Option.some_ne_none _

theorem handleSessionTerminateRequest_runsOn (hconn : b.mgwcpConnections t = some conn)
    (halive : conn.threadAlive = true) (payload : Json) (env : Env) :
    RunsOnIff t conn (b.handleSessionTerminateRequest t conn payload env).1
      (ReadsPayload b conn conn.componentId 102 payload) := by
  rw [readsPayload_session (Or.inr rfl)]
  unfold handleSessionTerminateRequest
  split_ifs with hcontains
  · exact runsOnIff_same hconn halive fun h => by simp [h] at hcontains
  · have hcontains : payload.contains "request_id" = true := by simpa using hcontains
    cases hid : (payload.get "request_id").asString with
    | none => exact runsOnIff_endThread fun h => h hcontains rfl
    | some requestId =>
        obtain ⟨omConnected, outputs, h⟩ := b.forwardMessageToOm_forward conn.componentId 102
          "SESSION_TERMINATE_REQUEST" payload env (by decide)
        dsimp only
        rw [h]
        exact runsOnIff_same hconn halive fun _ => Option.some_ne_none _

theorem dispatch_runsOn (hconn : b.mgwcpConnections t = some conn) (halive : conn.threadAlive = true)
    (hid : conn.componentId ≠ "") (code : Int) (payload : Json) (env : Env) :
    RunsOnIff t conn (b.dispatch t conn code payload env).1 (ReadsPayload b conn conn.componentId code payload) := by
  unfold dispatch
  split_ifs with h103 h100 h101 h102
  · rw [h103]
    exact handleDpInfo_runsOn hconn halive hid payload env
  · rw [h100]
    exact handleOffloadRequest_runsOn hconn halive payload env
  · rw [h101]
    exact handleSessionKeepalive_runsOn hconn halive payload env
  · rw [h102]
    exact handleSessionTerminateRequest_runsOn hconn halive payload env
  · refine runsOnIff_same hconn halive ⟨fun h => absurd h h103, fun h => absurd h h100, fun h => ?_⟩
    exact absurd h (not_or.mpr ⟨h101, h102⟩)

theorem receiving_alive (hrecv : b.receiving t = some conn) : conn.running = true ∧ conn.threadAlive = true := by
  unfold receiving at hrecv
  split_ifs at hrecv
  exact Bool.and_eq_true_iff.mp (Option.filter_eq_some_iff.mp hrecv).2

/-- Binding the id of a message changes nothing that its handler reads. -/
theorem readsPayload_identified (c : String) :
    ReadsPayload (b.identified t conn c) { conn with componentId := c } c code payload ↔
      ReadsPayload b conn c code payload := by
  have hhandlers : (b.identified t conn c).transportHandlers = b.transportHandlers := by
    unfold identified
    split_ifs <;> rfl
  constructor
  · rintro ⟨hdp, hrequest, hsession⟩
    rw [hhandlers] at hdp
    exact ⟨hdp, hrequest, hsession⟩
  · rintro ⟨hdp, hrequest, hsession⟩
    refine ⟨?_, hrequest, hsession⟩
    rw [hhandlers]
    exact hdp

theorem handleReceivedMessage_runsOn (hrecv : b.receiving t = some conn) (message : Json) (env : Env) :
    RunsOnIff t conn (b.handleReceivedMessage t conn message env).1 (ReadsMessage b conn message) := by
  have hconn := (receiving_eq_some hrecv).2
  have halive := (receiving_alive hrecv).2
  rw [readsMessage_iff]
  unfold handleReceivedMessage
  cases hr : conn.receive message with
  | ignored => exact runsOnIff_same hconn halive trivial
  | thrown => exact runsOnIff_endThread id
  | ack payload =>
      show RunsOnIff t conn (b.handleAck t conn payload) _
      unfold handleAck ReliableSender.handleAck
      split_ifs with hcontains
      · exact runsOnIff_same hconn halive fun h => by simp [h] at hcontains
      · have hcontains : payload.contains "ack_sequence_number" = true := by simpa using hcontains
        cases hnum : (payload.get "ack_sequence_number").asUInt64 with
        | none => exact runsOnIff_endThread fun h => h hcontains hnum
        | some n => exact runsOnIff_same hconn halive fun _ => by rw [hnum]; exact Option.some_ne_none n
  | accepted c seqNum code payload =>
      have haccepts := MGWCPConnection.receive_accepted hr
      have hc : c ≠ "" := by
        rcases MGWCPConnection.acceptsComponentId_iff.mp haccepts with ⟨-, hvalid⟩ | ⟨hne, rfl⟩
        · exact isValidComponentId.ne_empty hvalid
        · exact hne
      obtain ⟨conn', hconn', hrunning, hiff⟩ :=
        dispatch_runsOn (identified_apply hconn haccepts) halive hc code payload env
      exact ⟨conn', hconn', hrunning, hiff.trans (readsPayload_identified c)⟩

/-- **The thread of a connection survives a message** exactly if every field that is read converts. -/
theorem receiving_iff_reads (hwf : WellFormed b) (hlive : b.terminated = false) (hrecv : b.receiving t = some conn)
    (message : Json) (env : Env) :
    ((b.step env (.message t message)).1.receiving t).isSome = true ↔ ReadsMessage b conn message := by
  obtain ⟨conn', hconn', hrunning, hiff⟩ := handleReceivedMessage_runsOn hrecv message env
  rw [← step_message hlive hrecv message env] at hconn'
  have hclient := ((hwf.step env (.message t message)).connected t).mpr ⟨conn', hconn'⟩
  rw [← hiff]
  unfold receiving
  rw [if_pos hclient, hconn', Option.isSome_filter]
  simp [hrunning, (receiving_alive hrecv).1]

/-! ## The sessions -/

/-- The handler of a code creates a session or moves its keepalive. -/
def WritesSession (b : Bridge) (env : Env) (conn : MGWCPConnection) (code : Int) (payload : Json) : Prop :=
  code = 100 ∧ conn.state = .operational ∧
      (∃ requestId taskId taskName, (payload.get "request_id").asString = some requestId ∧
        (payload.get "task_id").asUInt32 = some taskId ∧ (payload.get "task_name").asString = some taskName ∧
          b.sessionManager.getSession requestId = none ∧ b.globalConfig.getTaskConfig taskId ≠ none) ∨
    code = 101 ∧ ∃ requestId s, (payload.get "request_id").asString = some requestId ∧
      b.sessionManager.getSession requestId = some s ∧ s.lastKeepalive ≠ env.now

/-- Setting one entry changes nothing exactly if it was that before. -/
theorem sessions_eq_iff_of_lookup {m m' : SessionManager} {r : String} {o : Option ActiveSession}
    (h : ∀ r', m'.getSession r' = if r' = r then o else m.getSession r') : m' = m ↔ m.getSession r = o := by
  constructor
  · rintro rfl
    exact (h r).trans (if_pos rfl)
  · intro ho
    apply SessionManager.ext_getSession
    intro r'
    rw [h]
    split_ifs with hr
    · rw [hr, ho]
    · rfl

theorem eq_map_iff {o : Option ActiveSession} {f : ActiveSession → ActiveSession} :
    o = o.map f ↔ ∀ s, o = some s → f s = s := by
  cases o with
  | none => simp
  | some s => simp [eq_comm]

theorem createSession_eq_self_iff (m : SessionManager) (r c : String) (taskId : Nat) (taskName : String)
    (g : GlobalConfig) (now : Nat) :
    (m.createSession r c taskId taskName g now).1 = m ↔ m.getSession r ≠ none ∨ g.getTaskConfig taskId = none := by
  rcases m.createSession_cases r c taskId taskName g now with ⟨hsame, hwhy⟩ | ⟨task, hr, htask, hnew⟩
  · exact iff_of_true hsame hwhy
  · rw [sessions_eq_iff_of_lookup hnew, hr]
    simp [htask]

theorem updateKeepalive_eq_self_iff (m : SessionManager) (r : String) (now : Nat) :
    m.updateKeepalive r now = m ↔ ∀ s, m.getSession r = some s → s.lastKeepalive = now := by
  unfold SessionManager.updateKeepalive
  rw [sessions_eq_iff_of_lookup fun r' => m.getSession_modify r r' _, eq_map_iff]
  refine forall₂_congr fun s _ => ?_
  constructor
  · intro h
    exact (congrArg ActiveSession.lastKeepalive h).symm
  · rintro rfl
    rfl

theorem sessions_handleDpInfo (t : ClientId) (conn : MGWCPConnection) (payload : Json) (env : Env) :
    (b.handleDpInfo t conn payload env).1.sessionManager = b.sessionManager := by
  have heffect := b.handleDpInfo_effect t conn payload env
  generalize (b.handleDpInfo t conn payload env).1 = b' at heffect ⊢
  cases heffect with
  | none => rfl
  | ended dpHost dpPort => rfl
  | confirmed dpHost dpPort b₁ senders hcode hstate hb₁ =>
      rcases createTransportHandlerForMgwdp_cases hb₁ with ⟨heq, -⟩ | ⟨handler, -, -, heq⟩
      · cases heq
        rfl
      · cases heq
        rfl
  | requested r taskId taskName omConnected hcode => exact absurd hcode (by decide)
  | keptAlive r omConnected hcode => exact absurd hcode (by decide)
  | forwarded omConnected hcode => rfl

theorem sessions_handleOffloadRequest_iff (t : ClientId) (conn : MGWCPConnection) (payload : Json) (env : Env) :
    (b.handleOffloadRequest t conn payload env).1.sessionManager = b.sessionManager ↔
      ¬ WritesSession b env conn 100 payload := by
  have hwrites : WritesSession b env conn 100 payload ↔ conn.state = .operational ∧
      ∃ requestId taskId taskName, (payload.get "request_id").asString = some requestId ∧
        (payload.get "task_id").asUInt32 = some taskId ∧ (payload.get "task_name").asString = some taskName ∧
          b.sessionManager.getSession requestId = none ∧ b.globalConfig.getTaskConfig taskId ≠ none := by
    simp [WritesSession]
  rw [hwrites]
  unfold handleOffloadRequest
  by_cases hstate : conn.state = .operational
  · rw [if_neg (not_not.mpr hstate)]
    split
    · rename_i hcontains
      refine iff_of_true rfl ?_
      rintro ⟨-, requestId, taskId, taskName, hid, htask, hname, -⟩
      have hboth := And.intro (Json.contains_of_asString hid) (Json.contains_of_asUInt32 htask)
      simp [hboth, Json.contains_of_asString hname] at hcontains
    · split
      · rename_i requestId taskId taskName hid htask hname
        obtain ⟨omConnected, outputs, h⟩ := b.forwardMessageToOm_request conn.componentId payload env hid htask hname
          (by simp [Json.contains_of_asString hid, Json.contains_of_asUInt32 htask, Json.contains_of_asString hname])
        rw [h]
        refine (createSession_eq_self_iff _ _ _ _ _ _ _).trans ?_
        constructor
        · rintro hor ⟨-, requestId', taskId', taskName', hid', htask', -, hfree, hknown⟩
          cases hid.symm.trans hid'
          cases htask.symm.trans htask'
          exact hor.elim (fun h => h hfree) hknown
        · intro hnot
          by_contra hor
          rw [not_or, not_not] at hor
          exact hnot ⟨hstate, requestId, taskId, taskName, hid, htask, hname, hor⟩
      · rename_i hnone
        refine iff_of_true rfl ?_
        rintro ⟨-, requestId, taskId, taskName, hid, htask, hname, -⟩
        exact hnone requestId taskId taskName hid htask hname
  · rw [if_pos hstate]
    exact iff_of_true rfl fun h => hstate h.1

theorem sessions_handleSessionKeepalive_iff (t : ClientId) (conn : MGWCPConnection) (payload : Json) (env : Env) :
    (b.handleSessionKeepalive t conn payload env).1.sessionManager = b.sessionManager ↔
      ¬ WritesSession b env conn 101 payload := by
  have hwrites : WritesSession b env conn 101 payload ↔
      ∃ requestId s, (payload.get "request_id").asString = some requestId ∧
        b.sessionManager.getSession requestId = some s ∧ s.lastKeepalive ≠ env.now := by
    simp [WritesSession]
  rw [hwrites]
  unfold handleSessionKeepalive
  split_ifs with hcontains
  · refine iff_of_true rfl ?_
    rintro ⟨requestId, s, hid, -⟩
    simp [Json.contains_of_asString hid] at hcontains
  · cases hid : (payload.get "request_id").asString with
    | none =>
        refine iff_of_true rfl ?_
        rintro ⟨requestId, s, hid', -⟩
        cases hid'
    | some requestId =>
        obtain ⟨omConnected, outputs, h⟩ :=
          { b with sessionManager := b.sessionManager.updateKeepalive requestId env.now }.forwardMessageToOm_forward
            conn.componentId 101 "SESSION_KEEPALIVE" payload env (by decide)
        dsimp only
        rw [h]
        refine (updateKeepalive_eq_self_iff _ _ _).trans ?_
        constructor
        · rintro hall ⟨requestId', s, hid', hs, hne⟩
          cases hid'
          exact hne (hall s hs)
        · intro hnot s hs
          by_contra hne
          exact hnot ⟨requestId, s, rfl, hs, hne⟩

theorem sessions_handleSessionTerminateRequest (t : ClientId) (conn : MGWCPConnection) (payload : Json) (env : Env) :
    (b.handleSessionTerminateRequest t conn payload env).1.sessionManager = b.sessionManager := by
  unfold handleSessionTerminateRequest
  split_ifs
  · rfl
  · cases (payload.get "request_id").asString with
    | none => rfl
    | some requestId =>
        obtain ⟨omConnected, outputs, h⟩ := b.forwardMessageToOm_forward conn.componentId 102
          "SESSION_TERMINATE_REQUEST" payload env (by decide)
        dsimp only
        rw [h]
        rfl

theorem dispatch_sessions_eq_iff (t : ClientId) (conn : MGWCPConnection) (code : Int) (payload : Json) (env : Env) :
    (b.dispatch t conn code payload env).1.sessionManager = b.sessionManager ↔
      ¬ WritesSession b env conn code payload := by
  unfold dispatch
  split_ifs with h103 h100 h101 h102
  · refine iff_of_true (sessions_handleDpInfo t conn payload env) ?_
    unfold WritesSession
    omega
  · rw [h100]
    exact sessions_handleOffloadRequest_iff t conn payload env
  · rw [h101]
    exact sessions_handleSessionKeepalive_iff t conn payload env
  · refine iff_of_true (sessions_handleSessionTerminateRequest t conn payload env) ?_
    unfold WritesSession
    omega
  · refine iff_of_true rfl ?_
    unfold WritesSession
    omega

/-- A message is acted upon and writes to the sessions. -/
def WritesMessage (b : Bridge) (env : Env) (conn : MGWCPConnection) (message : Json) : Prop :=
  validateMessageStructure message = true ∧ message.valueInt "sequence_number" 0 ≠ none ∧
    ∃ code c, (message.get "message_code").asInt = some code ∧ code ≠ 900 ∧
      (message.get "component_id").asString = some c ∧ conn.acceptsComponentId c = true ∧
        WritesSession b env conn code (message.get "payload")

theorem writesMessage_iff (env : Env) (message : Json) :
    WritesMessage b env conn message ↔
      match conn.receive message with
      | .accepted _ _ code payload => WritesSession b env conn code payload
      | _ => False := by
  constructor
  · rintro ⟨hstructure, hseq, code, c, hcode, hack, hid, haccepts, hwrites⟩
    obtain ⟨n, hseq⟩ := Option.ne_none_iff_exists'.mp hseq
    rw [MGWCPConnection.receive_eq_accepted_iff.mpr ⟨hstructure, hcode, hack, ⟨n, hseq, rfl⟩, hid, haccepts, rfl⟩]
    exact hwrites
  · intro h
    cases hr : conn.receive message with
    | accepted c seqNum code payload =>
        rw [hr] at h
        obtain ⟨hstructure, hcode, hack, ⟨n, hseq, -⟩, hid, haccepts, rfl⟩ :=
          MGWCPConnection.receive_eq_accepted_iff.mp hr
        exact ⟨hstructure, by rw [hseq]; exact Option.some_ne_none n, code, c, hcode, hack, hid, haccepts, h⟩
    | _ =>
        rw [hr] at h
        exact h.elim

/-- **A message on a connection leaves the sessions as they are** exactly if it does not write to them, and always the
table. -/
theorem unchanged_message_iff (hlive : b.terminated = false) (hrecv : b.receiving t = some conn) (message : Json)
    (env : Env) :
    (b.step env (.message t message)).1.sessionManager = b.sessionManager ∧
        (b.step env (.message t message)).1.routingTable = b.routingTable ↔
      ¬ WritesMessage b env conn message := by
  have htable := (step_effect (b := b) env (.message t message)).routingTable_eq fun m h => by cases h
  rw [and_iff_left htable, step_message hlive hrecv, writesMessage_iff]
  cases hr : conn.receive message with
  | accepted c seqNum code payload =>
      have hsame : (b.identified t conn c).sessionManager = b.sessionManager ∧
          (WritesSession (b.identified t conn c) env { conn with componentId := c } code payload ↔
            WritesSession b env conn code payload) := by
        unfold identified
        split_ifs <;> exact ⟨rfl, Iff.rfl⟩
      rw [handleReceivedMessage_accepted hr env]
      show ((b.identified t conn c).dispatch _ _ _ _ _).1.sessionManager = _ ↔ ¬ WritesSession b env conn code payload
      rw [← hsame.1, dispatch_sessions_eq_iff, hsame.2]
  | ack payload =>
      rw [handleReceivedMessage, hr]
      refine iff_of_true ?_ id
      show (b.handleAck t conn payload).sessionManager = _
      unfold handleAck
      split <;> rfl
  | _ =>
      rw [handleReceivedMessage, hr]
      exact iff_of_true rfl id

/-! ## The thread of the OM -/

/-- The fields that are read of a message of the OM. -/
def ReadsOmMessage (message : Json) : Prop :=
  message.contains "message_code" = true → message.contains "payload" = true →
    ∃ code, (message.get "message_code").asInt = some code ∧
      (code = 201 → (message.get "payload").contains "request_id" = true → requestIdOf (message.get "payload") ≠ none →
        (message.get "payload").valueString "reason_description" "No reason provided" ≠ none)

/-- An approval assigns a session to another MEC, or finds the handler of its MEC and something to install. -/
def WritesApproval (b : Bridge) (payload : Json) (s : ActiveSession) : Prop :=
  (assigned payload s).assignedMecId ≠ s.assignedMecId ∨
    b.transportHandlers (assigned payload s).assignedMecId ≠ none ∧
      (s.routingRulesCreated = false ∨ s.inputMessageTypes ≠ [] ∨ s.outputMessageTypes ≠ [])

/-- A message of the OM finds the session that it names, and writes to it. -/
def WritesOmMessage (b : Bridge) (message : Json) : Prop :=
  ∃ requestId s, requestIdOf (message.get "payload") = some requestId ∧
    b.sessionManager.getSession requestId = some s ∧
      ((message.get "message_code").asInt = some 200 ∧ WritesApproval b (message.get "payload") s ∨
        (message.get "message_code").asInt = some 201 ∧
          (message.get "payload").valueString "reason_description" "No reason provided" ≠ none)

theorem terminated_handleSessionApproved (omResponse : Json) (env : Env) :
    (b.handleSessionApproved omResponse env).1.terminated = b.terminated := by
  unfold handleSessionApproved
  dsimp only
  split
  · rfl
  · cases requestIdOf (omResponse.get "payload") with
    | none => rfl
    | some requestId =>
        dsimp only
        split <;> rfl

/-- **The process survives a message of the OM** exactly if every field that is read converts. -/
theorem terminated_iff_reads (hlive : b.terminated = false) (hom : b.omConnected = true) (message : Json) (env : Env) :
    (b.step env (.omMessage message)).1.terminated = false ↔ ReadsOmMessage message := by
  rw [step_omMessage, if_pos ⟨hlive, hom⟩]
  unfold handleOmMessage ReadsOmMessage
  by_cases hcontains : message.contains "message_code" = true ∧ message.contains "payload" = true
  · rw [if_neg (by simp [hcontains])]
    cases hcode : (message.get "message_code").asInt with
    | none => simp [hcontains]
    | some code =>
        dsimp only
        split_ifs with h200 h201
        · refine iff_of_true ?_ fun _ _ => ⟨code, rfl, fun h => by omega⟩
          rw [terminated_handleSessionApproved, hlive]
        · rw [handleSessionDenied_eq]
          by_cases hid : (message.get "payload").contains "request_id" = true
          · rw [if_neg (by simp [hcontains, hid])]
            cases hr : requestIdOf (message.get "payload") with
            | none => exact iff_of_true hlive fun _ _ => ⟨code, rfl, fun _ _ h => absurd rfl h⟩
            | some requestId =>
                cases hreason : (message.get "payload").valueString "reason_description" "No reason provided" with
                | none =>
                    refine iff_of_false (by simp) fun h => ?_
                    obtain ⟨code', hcode', hreads⟩ := h hcontains.1 hcontains.2
                    cases hcode'
                    exact hreads h201 hid (Option.some_ne_none _) rfl
                | some reason =>
                    exact iff_of_true hlive fun _ _ => ⟨code, rfl, fun _ _ _ => Option.some_ne_none _⟩
          · rw [if_pos (by simp [hid])]
            exact iff_of_true hlive fun _ _ => ⟨code, rfl, fun _ h => absurd h hid⟩
        · exact iff_of_true hlive fun _ _ => ⟨code, rfl, fun h => absurd h h201⟩
  · rw [if_pos (by simpa [or_iff_not_imp_left] using hcontains)]
    exact iff_of_true hlive fun h₁ h₂ => absurd ⟨h₁, h₂⟩ hcontains

theorem addRoutes_eq_self_iff (table : RoutingTable) (routes : List (RoutingKey × QueueId)) :
    table.addRoutes routes = table ↔ routes = [] := by
  constructor
  · intro hsame
    by_contra hne
    obtain ⟨⟨k, q⟩, hmem⟩ := List.exists_mem_of_ne_nil routes hne
    have hkey := (Multimap.pushAll_apply_eq_iff table.actualMap routes k).mp
      (congrFun (congrArg RoutingTable.actualMap hsame) k)
    exact hkey (List.mem_map_of_mem hmem)
  · rintro rfl
    rfl

theorem assignMec_eq_self_iff (m : SessionManager) (r : String) (payload : Json) :
    assignMec m r payload = m ↔ ∀ s, m.getSession r = some s → assigned payload s = s := by
  rw [sessions_eq_iff_of_lookup fun r' => getSession_assignMec m r r' payload, eq_map_iff]

theorem assigned_eq_self_iff (payload : Json) (s : ActiveSession) :
    assigned payload s = s ↔ (assigned payload s).assignedMecId = s.assignedMecId := by
  constructor
  · exact congrArg ActiveSession.assignedMecId
  · intro h
    unfold assigned at h ⊢
    dsimp only at h
    rw [h]

theorem routesOf_eq_nil_iff (hwf : WellFormed b) {s : ActiveSession} {vhc mec : TransportHandler}
    (hvhc : b.transportHandlers s.mgwcpComponentId = some vhc) (hmec : b.transportHandlers s.assignedMecId = some mec) :
    routesOf b.transportHandlers s = [] ↔ s.inputMessageTypes = [] ∧ s.outputMessageTypes = [] := by
  obtain ⟨g, i, hparts⟩ := isValidComponentId.parts (hwf.handlerValid _ _ hvhc)
  obtain ⟨g', i', hmparts⟩ := isValidComponentId.parts (hwf.handlerValid _ _ hmec)
  unfold routesOf
  rw [hparts, hmparts, hvhc, hmec]
  simp only [List.append_eq_nil_iff, List.map_eq_nil_iff]

/-- Assigning a session and flagging it changes nothing exactly if it has been assigned so and flagged before. -/
theorem flagged_eq_self_iff (m : SessionManager) (r : String) (payload : Json) {s : ActiveSession}
    (hs : m.getSession r = some s) :
    (assignMec m r payload).setRoutingRulesCreated r true = m ↔
      (assigned payload s).assignedMecId = s.assignedMecId ∧ s.routingRulesCreated = true := by
  have hlookup (r' : String) : ((assignMec m r payload).setRoutingRulesCreated r true).getSession r' =
      if r' = r then some { assigned payload s with routingRulesCreated := true } else m.getSession r' := by
    refine ((assignMec m r payload).getSession_modify r r' _).trans ?_
    rw [getSession_assignMec, getSession_assignMec, if_pos rfl, hs]
    split_ifs <;> rfl
  rw [sessions_eq_iff_of_lookup hlookup, hs, Option.some.injEq]
  constructor
  · intro h
    exact ⟨(congrArg ActiveSession.assignedMecId h).symm, congrArg ActiveSession.routingRulesCreated h⟩
  · rintro ⟨hmec, hflag⟩
    rw [(assigned_eq_self_iff payload s).mpr hmec, ← hflag]

/-- **An approval leaves the sessions and the table as they are** exactly if it writes to no session. -/
theorem approveSession_eq_iff (hwf : WellFormed b) (r : String) (payload : Json) :
    b.approveSession r payload = (b.sessionManager, b.routingTable) ↔
      ∀ s, b.sessionManager.getSession r = some s → ¬ WritesApproval b payload s := by
  rcases hwf.approveSession_cases r payload with ⟨heq, hnone⟩ | ⟨s', vhc, mec, hs', hvhc, hmec, heq⟩
  · rw [heq, Prod.mk.injEq, and_iff_left rfl, assignMec_eq_self_iff]
    refine forall₂_congr fun s hs => ?_
    have hhandler : b.transportHandlers (assigned payload s).assignedMecId = none := by
      refine hnone (assigned payload s) ?_
      rw [getSession_assignMec, if_pos rfl, hs]
      rfl
    rw [assigned_eq_self_iff, WritesApproval, hhandler]
    simp
  · rw [getSession_assignMec, if_pos rfl] at hs'
    obtain ⟨s, hs, rfl⟩ := Option.map_eq_some_iff.mp hs'
    rw [heq, Prod.mk.injEq, flagged_eq_self_iff _ _ _ hs, addRoutes_eq_self_iff, routesOf_eq_nil_iff hwf hvhc hmec]
    have hwrites : WritesApproval b payload s ↔ (assigned payload s).assignedMecId ≠ s.assignedMecId ∨
        (s.routingRulesCreated = false ∨ s.inputMessageTypes ≠ [] ∨ s.outputMessageTypes ≠ []) := by
      rw [WritesApproval, hmec, and_iff_right (Option.some_ne_none mec)]
    have hall : (∀ s', b.sessionManager.getSession r = some s' → ¬ WritesApproval b payload s') ↔
        ¬ WritesApproval b payload s := by
      rw [hs]
      exact ⟨fun h => h s rfl, fun h s' hs' => by cases hs'; exact h⟩
    rw [hall, hwrites, not_or, not_or, not_or, not_not, not_not, not_not, Bool.not_eq_false]
    exact and_assoc

theorem removeSession_eq_self_iff (m : SessionManager) (r : String) :
    m.removeSession r = m ↔ m.getSession r = none :=
  sessions_eq_iff_of_lookup fun r' => m.getSession_removeSession r r'

/-- A message of the OM without a request id that can be read changes neither sessions nor table. -/
theorem unchanged_of_unreadable {message : Json} (h : approvalOf message = none) (env : Env) :
    (b.handleOmMessage message env).1.sessionManager = b.sessionManager ∧
      (b.handleOmMessage message env).1.routingTable = b.routingTable := by
  have hhandlers : b.handleSessionApproved message env = (b, []) ∧ b.handleSessionDenied message env = (b, []) := by
    rw [handleSessionDenied_eq]
    unfold handleSessionApproved
    dsimp only
    by_cases hshape : (!message.contains "payload" || !(message.get "payload").contains "request_id") = true
    · rw [if_pos hshape, if_pos hshape]
      exact ⟨rfl, rfl⟩
    · rw [approvalOf, if_neg hshape] at h
      rw [if_neg hshape, if_neg hshape, Option.map_eq_none_iff.mp h]
      exact ⟨rfl, rfl⟩
  unfold handleOmMessage
  split
  · exact ⟨rfl, rfl⟩
  · cases (message.get "message_code").asInt with
    | none => exact ⟨rfl, rfl⟩
    | some code =>
        dsimp only
        rw [hhandlers.1, hhandlers.2]
        split_ifs <;> exact ⟨rfl, rfl⟩

/-- **A message of the OM leaves the sessions and the table as they are** exactly if it writes to no session. -/
theorem unchanged_omMessage_iff (hwf : WellFormed b) (hlive : b.terminated = false) (hom : b.omConnected = true)
    (message : Json) (env : Env) :
    (b.step env (.omMessage message)).1.sessionManager = b.sessionManager ∧
        (b.step env (.omMessage message)).1.routingTable = b.routingTable ↔
      ¬ WritesOmMessage b message := by
  rw [step_omMessage, if_pos ⟨hlive, hom⟩]
  cases hread : approvalOf message with
  | none =>
      refine iff_of_true (unchanged_of_unreadable hread env) ?_
      rintro ⟨requestId, s, hid, -⟩
      cases hread.symm.trans (approvalOf_eq_some.mpr ⟨hid, rfl⟩)
  | some p =>
      obtain ⟨r, payload⟩ := p
      obtain ⟨hr, rfl⟩ := approvalOf_eq_some.mp hread
      have hshape : ¬(!message.contains "payload" || !(message.get "payload").contains "request_id") = true := by
        unfold approvalOf at hread
        split_ifs at hread with hshape
        exact hshape
      have hwrites : WritesOmMessage b message ↔ ∃ s, b.sessionManager.getSession r = some s ∧
          ((message.get "message_code").asInt = some 200 ∧ WritesApproval b (message.get "payload") s ∨
            (message.get "message_code").asInt = some 201 ∧
              (message.get "payload").valueString "reason_description" "No reason provided" ≠ none) := by
        simp only [WritesOmMessage, hr, Option.some.injEq, exists_and_left, exists_eq_left']
      rw [hwrites]
      unfold handleOmMessage
      cases hcode : (message.get "message_code").asInt with
      | none =>
          refine iff_of_true ?_ (by simp)
          split_ifs <;> exact ⟨rfl, rfl⟩
      | some code =>
          rw [Json.contains_of_asInt hcode, if_neg (by simp at hshape ⊢; exact hshape.1)]
          dsimp only
          split_ifs with h200 h201
          · obtain ⟨hsessions, htable, -⟩ := b.handleSessionApproved_state hread env
            rw [hsessions, htable, ← Prod.mk.injEq, Prod.mk.eta, approveSession_eq_iff hwf, h200]
            simp
          · rw [handleSessionDenied_eq, if_neg hshape, hr, h201]
            cases hreason : (message.get "payload").valueString "reason_description" "No reason provided" with
            | none => exact iff_of_true ⟨rfl, rfl⟩ (by simp)
            | some reason =>
                show b.sessionManager.removeSession r = b.sessionManager ∧ b.routingTable = b.routingTable ↔ _
                rw [and_iff_left rfl, removeSession_eq_self_iff]
                simp [Option.eq_none_iff_forall_ne_some]
          · refine iff_of_true ⟨rfl, rfl⟩ ?_
            simp [h200, h201]

/-! ## Both threads -/

/-- A step on a document as it arrives. The threads catch a `parse_error`, which no JSON document is; an `out_of_range`
leaves the loop of a connection and the thread of the OM. -/
def deliver (b : Bridge) (input : Env × Event) : Bridge :=
  match input.2 with
  | .message t message =>
    match message.parsed with
    | some document => next b (input.1, .message t document)
    | none => next b (input.1, .receiveError t)
  | .omMessage message =>
    match message.parsed with
    | some document => next b (input.1, .omMessage document)
    | none => if b.omConnected then { b with terminated := true } else b
  | e => next b (input.1, e)

theorem deliver_message {message document : Json} (h : message.parsed = some document) (env : Env) :
    deliver b (env, .message t message) = (b.step env (.message t document)).1 := by
  unfold deliver
  dsimp only
  rw [h]
  rfl

theorem deliver_omMessage {message document : Json} (h : message.parsed = some document) (env : Env) :
    deliver b (env, .omMessage message) = (b.step env (.omMessage document)).1 := by
  unfold deliver
  dsimp only
  rw [h]
  rfl

theorem deliver_message_none {message : Json} (h : message.parsed = none) (hlive : b.terminated = false)
    (hrecv : b.receiving t = some conn) (env : Env) : deliver b (env, .message t message) = b.endThread t conn := by
  unfold deliver next step
  dsimp only
  rw [h, if_neg (by rw [hlive]; exact Bool.false_ne_true)]
  dsimp only
  rw [hrecv]

theorem deliver_omMessage_none {message : Json} (h : message.parsed = none) (hom : b.omConnected = true) (env : Env) :
    deliver b (env, .omMessage message) = { b with terminated := true } := by
  unfold deliver
  dsimp only
  rw [h]
  exact if_pos hom

theorem WellFormed.deliver (hwf : WellFormed b) (input : Env × Event) : WellFormed (deliver b input) := by
  obtain ⟨env, e⟩ := input
  unfold Bridge.deliver
  split
  · split <;> exact hwf.step _ _
  · split
    · exact hwf.step _ _
    · split_ifs
      · have hidle : b.Effect env e { b with terminated := true } := .idle e b.senders b.omConnected true
        exact hwf.effect hidle
      · exact hwf
  · exact hwf.step _ _

theorem wellFormed_deliver_run (g : GlobalConfig) (inputs : List (Env × Event)) :
    WellFormed (Run.run deliver (init g) inputs) :=
  Run.run_invariant_of_step deliver (fun _ input h => h.deliver input) inputs _ (wellFormed_init g)

/-- A document that arrives does not end the thread that gets it, and one that is not of the documented shape changes
neither the sessions nor the table. -/
def Survives (b : Bridge) (input : Env × Event) : Prop :=
  match input.2 with
  | .message t message => b.terminated = false → (b.receiving t).isSome = true →
      ((deliver b input).receiving t).isSome = true ∧
        (Protocol.documented message = false →
          (deliver b input).sessionManager = b.sessionManager ∧ (deliver b input).routingTable = b.routingTable)
  | .omMessage message => b.terminated = false → b.omConnected = true →
      (deliver b input).terminated = false ∧
        (Protocol.documented message = false →
          (deliver b input).sessionManager = b.sessionManager ∧ (deliver b input).routingTable = b.routingTable)
  | _ => True

/-- Every number of the document is in range, every field that is read of it converts, and it writes nothing if it is
not of the documented shape. -/
def Digestible (b : Bridge) (input : Env × Event) : Prop :=
  match input.2 with
  | .message t message => b.terminated = false → ∀ conn, b.receiving t = some conn →
      ∃ document, message.parsed = some document ∧ ReadsMessage b conn document ∧
        (Protocol.documented message = false → ¬ WritesMessage b input.1 conn document)
  | .omMessage message => b.terminated = false → b.omConnected = true →
      ∃ document, message.parsed = some document ∧ ReadsOmMessage document ∧
        (Protocol.documented message = false → ¬ WritesOmMessage b document)
  | _ => True

theorem not_receiving_endThread : ((b.endThread t conn).receiving t).isSome = false := by
  unfold receiving
  split_ifs
  · rw [endThread, putConnection_apply, if_pos rfl, Option.isSome_filter]
    simp
  · rfl

/-- **One delivery.** -/
theorem survives_iff (hwf : WellFormed b) (input : Env × Event) : Survives b input ↔ Digestible b input := by
  obtain ⟨env, e⟩ := input
  cases e with
  | message t message =>
      refine forall_congr' fun hlive => ?_
      cases hrecv : b.receiving t with
      | none => simp
      | some conn =>
          have hforall {P : MGWCPConnection → Prop} : (∀ conn', some conn = some conn' → P conn') ↔ P conn :=
            ⟨fun h => h conn rfl, fun h conn' heq => by cases heq; exact h⟩
          rw [hforall, Option.isSome_some, forall_prop_of_true rfl]
          cases hparsed : message.parsed with
          | none =>
              rw [deliver_message_none hparsed hlive hrecv, not_receiving_endThread]
              simp
          | some document =>
              rw [deliver_message hparsed]
              simp only [Option.some.injEq, exists_eq_left']
              exact and_congr (receiving_iff_reads hwf hlive hrecv document env)
                (imp_congr_right fun _ => unchanged_message_iff hlive hrecv document env)
  | omMessage message =>
      refine forall₂_congr fun hlive hom => ?_
      cases hparsed : message.parsed with
      | none =>
          rw [deliver_omMessage_none hparsed hom]
          simp
      | some document =>
          rw [deliver_omMessage hparsed]
          simp only [Option.some.injEq, exists_eq_left']
          exact and_congr (terminated_iff_reads hlive hom document env)
            (imp_congr_right fun _ => unchanged_omMessage_iff hwf hlive hom document env)
  | _ => exact Iff.rfl

end EdgeOffloading.Bridge
