import EdgeOffloading.Bridge.ControlPlane
import EdgeOffloading.Lib.Run

/-!
# Steps and runs of the Bridge

`Bridge.step` takes one event: a gateway connects, sends a message or disconnects, the OM answers, a data-plane worker
moves, a timer fires. Nothing happens once the process has terminated. A disconnect is carried to the end that
`handle_mgwcp_disconnection` does not reach (`Bridge/Reentry`), so that these runs go further than those of the process.

* `Effect`: everything a step can do to the state, with the guards under which it does it;
* `step_effect`: every step is an `Effect`, so that an invariant is proved by cases on it.
-/

namespace EdgeOffloading

inductive Event where
  | connect (t : ClientId) (clientIp : String)
  | message (t : ClientId) (message : Json)
  /-- `receive_from` fails: the connection thread ends, the connection stays. -/
  | receiveError (t : ClientId)
  | timeouts (t : ClientId)
  | disconnect (t : ClientId)
  | omMessage (message : Json)
  | omLost
  | maintenance
  | worker (componentId : String) (event : TransportHandler.WorkerEvent)

namespace Bridge

variable (b : Bridge)

/-- `MAX_MGWCP_CONNECTIONS`. -/
def maxMgwcpConnections : Nat := 50

/-- The connection of `t` if its thread is in the receive loop. -/
def receiving (t : ClientId) : Option MGWCPConnection :=
  if t ∈ b.serverClients then (b.mgwcpConnections t).filter fun conn => conn.running && conn.threadAlive else none

/-- `check_for_timeouts` of connection `t`. -/
def checkForTimeouts (t : ClientId) (env : Env) : Bridge × List Output :=
  let checked := (b.senders t).checkForTimeouts env.now
  ({ b with senders := Function.update b.senders t checked.1 },
    checked.2.map fun message => .sendTo t message (env.sendOk t message && decide (t ∈ b.serverClients)))

def step (env : Env) (e : Event) : Bridge × List Output :=
  if b.terminated then (b, [])
  else
    match e with
    | .connect t clientIp =>
      if t ∈ b.serverClients ∨ maxMgwcpConnections ≤ b.serverClients.length then (b, [])
      else ({ b with serverClients := t :: b.serverClients }.handleNewMgwcpConnection t clientIp, [])
    | .message t message =>
      match b.receiving t with
      | none => (b, [])
      | some conn => b.handleReceivedMessage t conn message env
    | .receiveError t =>
      match b.receiving t with
      | none => (b, [])
      | some conn => (b.endThread t conn, [])
    | .timeouts t =>
      match b.receiving t with
      | none => (b, [])
      | some _ => b.checkForTimeouts t env
    | .disconnect t =>
      if t ∈ b.serverClients then
        ({ b.closeMgwcpConnection t with serverClients := b.serverClients.filter (· ≠ t) }, [])
      else (b, [])
    | .omMessage message => if b.omConnected then b.handleOmMessage message env else (b, [])
    | .omLost => ({ b with omConnected := false }, [])
    | .maintenance => (b.checkSessionTimeouts, [])
    | .worker componentId event =>
      match b.transportHandlers componentId with
      | none => (b, [])
      | some handler =>
        let moved := handler.worker b.routingTable event
        ({ b with transportHandlers := Function.update b.transportHandlers componentId (some moved.1) },
          moved.2.map .routed)

/-- The state after one input of a run. -/
def next (b : Bridge) (input : Env × Event) : Bridge := (b.step input.1 input.2).1

/-- Some run leads from the initial state of some configuration to the state. -/
def Reachable (b : Bridge) : Prop := ∃ globalConfig inputs, b = Run.run next (init globalConfig) inputs

/-! ## What a step can do -/

/-- The state in which an accepted message is dispatched. -/
def identified (t : ClientId) (conn : MGWCPConnection) (componentId : String) : Bridge :=
  if conn.componentId = "" then b.identify t conn componentId else b

/-- What the dispatch of a message with this code and payload can do. -/
inductive DispatchEffect (t : ClientId) (conn : MGWCPConnection) (env : Env) (code : Int) (payload : Json) :
    Bridge → Prop
  | none : DispatchEffect t conn env code payload b
  | ended (dpHost : String) (dpPort : Int) :
      DispatchEffect t conn env code payload
        (b.putConnection t { conn with dpHost := dpHost, dpPort := dpPort, threadAlive := false })
  | confirmed (dpHost : String) (dpPort : Int) (b' : Bridge) (senders : ClientId → ReliableSender) (hcode : code = 103)
      (hstate : conn.state = .connecting)
      (hb' : b.createTransportHandlerForMgwdp conn.componentId dpHost dpPort = some (b', true)) :
      DispatchEffect t conn env code payload
        { b'.putConnection t { conn with dpHost := dpHost, dpPort := dpPort, state := .operational } with
          senders := senders }
  | requested (requestId : String) (taskId : Nat) (taskName : String) (omConnected : Bool) (hcode : code = 100)
      (hstate : conn.state = .operational) (hid : (payload.get "request_id").asString = some requestId)
      (htask : (payload.get "task_id").asUInt32 = some taskId) :
      DispatchEffect t conn env code payload
        { b with
          sessionManager :=
            (b.sessionManager.createSession requestId conn.componentId taskId taskName b.globalConfig env.now).1
          omConnected := omConnected }
  | keptAlive (requestId : String) (omConnected : Bool) (hcode : code = 101)
      (hid : (payload.get "request_id").asString = some requestId) :
      DispatchEffect t conn env code payload
        { b with sessionManager := b.sessionManager.updateKeepalive requestId env.now, omConnected := omConnected }
  | forwarded (omConnected : Bool) (hcode : code = 102) :
      DispatchEffect t conn env code payload { b with omConnected := omConnected }

/-- What a step on an event can do. -/
inductive Effect (env : Env) : Event → Bridge → Prop
  | idle (e : Event) (senders : ClientId → ReliableSender) (omConnected terminated : Bool) :
      Effect env e { b with senders := senders, omConnected := omConnected, terminated := terminated }
  | connected (t : ClientId) (clientIp : String) (ht : t ∉ b.serverClients) :
      Effect env (.connect t clientIp)
        ({ b with serverClients := t :: b.serverClients }.handleNewMgwcpConnection t clientIp)
  | threadEnded (e : Event) (t : ClientId) (conn : MGWCPConnection) (ht : t ∈ b.serverClients)
      (hconn : b.mgwcpConnections t = some conn) : Effect env e (b.endThread t conn)
  | accepted (t : ClientId) (message : Json) (conn : MGWCPConnection) (componentId : String) (seqNum : Nat) (code : Int)
      (payload : Json) (b' : Bridge) (hrecv : b.receiving t = some conn)
      (hmsg : conn.receive message = .accepted componentId seqNum code payload)
      (hb' : (b.identified t conn componentId).DispatchEffect t { conn with componentId := componentId } env code
        payload b') : Effect env (.message t message) b'
  | disconnected (t : ClientId) (ht : t ∈ b.serverClients) :
      Effect env (.disconnect t)
        { b.closeMgwcpConnection t with serverClients := b.serverClients.filter (· ≠ t) }
  | approved (message : Json) (requestId : String) (senders : ClientId → ReliableSender) (hlive : b.terminated = false)
      (hom : b.omConnected = true) (hcode : (message.get "message_code").asInt = some 200)
      (hid : requestIdOf (message.get "payload") = some requestId) :
      Effect env (.omMessage message)
        { b with
          sessionManager := (b.approveSession requestId (message.get "payload")).1
          routingTable := (b.approveSession requestId (message.get "payload")).2
          senders := senders }
  | denied (message : Json) (requestId : String) (hlive : b.terminated = false) (hom : b.omConnected = true)
      (hcode : (message.get "message_code").asInt = some 201)
      (hid : requestIdOf (message.get "payload") = some requestId) :
      Effect env (.omMessage message) { b with sessionManager := b.sessionManager.removeSession requestId }
  | worked (componentId : String) (event : TransportHandler.WorkerEvent) (handler : TransportHandler)
      (hh : b.transportHandlers componentId = some handler) :
      Effect env (.worker componentId event)
        { b with
          transportHandlers := Function.update b.transportHandlers componentId
            (some (handler.worker b.routingTable event).1) }

variable {b}

theorem createTransportHandlerForMgwdp_cases {c host : String} {port : Int} {r : Bridge × Bool}
    (h : b.createTransportHandlerForMgwdp c host port = some r) :
    r = (b, true) ∧ (∃ handler, b.transportHandlers c = some handler) ∨
      ∃ handler, b.transportHandlers c = none ∧ TransportHandler.create c host port b.nextQueue default = some handler ∧
        r = ({ b with transportHandlers := Function.update b.transportHandlers c (some handler.start),
                      nextQueue := b.nextQueue + 1 }, true) := by
  unfold createTransportHandlerForMgwdp at h
  cases hc : b.transportHandlers c with
  | some handler =>
      rw [hc] at h
      exact Or.inl ⟨(Option.some.inj h).symm, handler, rfl⟩
  | none =>
      rw [hc] at h
      obtain ⟨handler, hcreate, rfl⟩ := Option.map_eq_some_iff.mp h
      exact Or.inr ⟨handler, rfl, hcreate, rfl⟩

theorem handleDpInfo_effect (t : ClientId) (conn : MGWCPConnection) (payload : Json) (env : Env) :
    b.DispatchEffect t conn env 103 payload (b.handleDpInfo t conn payload env).1 := by
  unfold handleDpInfo
  by_cases hstate : conn.state = .connecting
  · rw [if_neg (not_not.mpr hstate)]
    split
    · exact .none
    · split
      · rename_i requestedHost dpPort _ _
        dsimp only
        unfold establishMgwcpDataPlaneConnection
        split
        · exact .ended _ _
        · exact .confirmed _ _ _ _ rfl hstate (by assumption)
        · rename_i b' hb'
          rcases createTransportHandlerForMgwdp_cases hb' with ⟨h, -⟩ | ⟨_, -, -, h⟩
          · cases h
          · cases h
      · exact .ended conn.dpHost conn.dpPort
  · rw [if_pos hstate]
    exact .none

/-- Only the OM connection can change when a message that is no request is forwarded. -/
theorem forwardMessageToOm_forward (c : String) (code : Int) (type : String) (payload : Json) (env : Env)
    (hcode : code ≠ 100) :
    ∃ omConnected outputs, b.forwardMessageToOm c (forwardMessage c code type payload) env =
      some ({ b with omConnected := omConnected }, outputs) := by
  have h : ((forwardMessage c code type payload).get "message_code").eqInt 100 = false := by
    simp [forwardMessage, Json.get, Json.find, Json.eqInt, List.lookup, hcode]
  unfold forwardMessageToOm
  simp [h]

theorem forwardMessageToOm_request (c : String) (payload : Json) (env : Env) {requestId taskName : String}
    {taskId : Nat} (hid : (payload.get "request_id").asString = some requestId)
    (htask : (payload.get "task_id").asUInt32 = some taskId)
    (hname : (payload.get "task_name").asString = some taskName)
    (hc : payload.contains "request_id" && payload.contains "task_id" && payload.contains "task_name") :
    ∃ omConnected outputs,
      b.forwardMessageToOm c (forwardMessage c 100 "OFFLOAD_REQUEST" payload) env =
        some ({ b with
          sessionManager := (b.sessionManager.createSession requestId c taskId taskName b.globalConfig env.now).1
          omConnected := omConnected }, outputs) := by
  have hcode : ((forwardMessage c 100 "OFFLOAD_REQUEST" payload).get "message_code").eqInt 100 = true := by
    simp [forwardMessage, Json.get, Json.find, Json.eqInt, List.lookup]
  have hcont : (forwardMessage c 100 "OFFLOAD_REQUEST" payload).contains "message_code" = true := rfl
  have hpay : (forwardMessage c 100 "OFFLOAD_REQUEST" payload).get "payload" = payload := rfl
  unfold forwardMessageToOm
  simp [hcode, hcont, hpay, hc, hid, htask, hname]

theorem handleOffloadRequest_effect (t : ClientId) (conn : MGWCPConnection) (payload : Json) (env : Env) :
    b.DispatchEffect t conn env 100 payload (b.handleOffloadRequest t conn payload env).1 := by
  unfold handleOffloadRequest
  by_cases hstate : conn.state = .operational
  · rw [if_neg (not_not.mpr hstate)]
    split
    · exact .none
    · rename_i hcont
      split
      · rename_i requestId taskId taskName hid htask hname
        obtain ⟨omConnected, outputs, h⟩ := b.forwardMessageToOm_request conn.componentId payload env hid htask hname
          (by simpa [and_assoc] using hcont)
        rw [h]
        exact .requested requestId taskId taskName omConnected rfl hstate hid htask
      · exact .ended conn.dpHost conn.dpPort
  · rw [if_pos hstate]
    exact .none

theorem handleSessionKeepalive_effect (t : ClientId) (conn : MGWCPConnection) (payload : Json) (env : Env) :
    b.DispatchEffect t conn env 101 payload (b.handleSessionKeepalive t conn payload env).1 := by
  unfold handleSessionKeepalive
  split
  · exact .none
  · split
    · exact .ended conn.dpHost conn.dpPort
    · rename_i requestId hid
      obtain ⟨omConnected, outputs, h⟩ :=
        { b with sessionManager := b.sessionManager.updateKeepalive requestId env.now }.forwardMessageToOm_forward
          conn.componentId 101 "SESSION_KEEPALIVE" payload env (by decide)
      dsimp only
      rw [h]
      exact .keptAlive requestId omConnected rfl hid

theorem handleSessionTerminateRequest_effect (t : ClientId) (conn : MGWCPConnection) (payload : Json) (env : Env) :
    b.DispatchEffect t conn env 102 payload (b.handleSessionTerminateRequest t conn payload env).1 := by
  unfold handleSessionTerminateRequest
  split
  · exact .none
  · split
    · exact .ended conn.dpHost conn.dpPort
    · obtain ⟨omConnected, outputs, h⟩ := b.forwardMessageToOm_forward conn.componentId 102
        "SESSION_TERMINATE_REQUEST" payload env (by decide)
      rw [h]
      exact .forwarded omConnected rfl

theorem dispatch_effect (t : ClientId) (conn : MGWCPConnection) (code : Int) (payload : Json) (env : Env) :
    b.DispatchEffect t conn env code payload (b.dispatch t conn code payload env).1 := by
  unfold dispatch
  split_ifs with h103 h100 h101 h102
  · subst h103; exact b.handleDpInfo_effect t conn payload env
  · subst h100; exact b.handleOffloadRequest_effect t conn payload env
  · subst h101; exact b.handleSessionKeepalive_effect t conn payload env
  · subst h102; exact b.handleSessionTerminateRequest_effect t conn payload env
  · exact .none

theorem receiving_eq_some {t : ClientId} {conn : MGWCPConnection} (h : b.receiving t = some conn) :
    t ∈ b.serverClients ∧ b.mgwcpConnections t = some conn := by
  unfold receiving at h
  split_ifs at h with ht
  exact ⟨ht, (Option.filter_eq_some_iff.mp h).1⟩

theorem handleReceivedMessage_effect {t : ClientId} {conn : MGWCPConnection} (hrecv : b.receiving t = some conn)
    (message : Json) (env : Env) :
    b.Effect env (.message t message) (b.handleReceivedMessage t conn message env).1 := by
  obtain ⟨ht, hconn⟩ := receiving_eq_some hrecv
  unfold handleReceivedMessage
  cases hr : conn.receive message with
  | ignored => exact .idle _ b.senders b.omConnected b.terminated
  | thrown => exact .threadEnded _ t conn ht hconn
  | ack payload =>
      show b.Effect env _ (b.handleAck t conn payload)
      unfold handleAck
      split
      · exact .threadEnded _ t conn ht hconn
      · exact .idle _ _ b.omConnected b.terminated
  | accepted componentId seqNum code payload =>
      exact .accepted t message conn componentId seqNum code payload _ hrecv hr (dispatch_effect _ _ _ _ _)

/-- A denial finds nobody to forward it to: the session is gone when it looks for the addressee. -/
theorem handleSessionDenied_eq (omResponse : Json) (env : Env) :
    b.handleSessionDenied omResponse env =
      if !omResponse.contains "payload" || !(omResponse.get "payload").contains "request_id" then (b, [])
      else
        match requestIdOf (omResponse.get "payload"),
            (omResponse.get "payload").valueString "reason_description" "No reason provided" with
        | none, _ => (b, [])
        | some _, none => ({ b with terminated := true }, [])
        | some requestId, some _ => ({ b with sessionManager := b.sessionManager.removeSession requestId }, []) := by
  unfold handleSessionDenied
  dsimp only
  split_ifs
  · rfl
  · cases hid : requestIdOf (omResponse.get "payload") with
    | none => rfl
    | some requestId =>
        cases hreason : (omResponse.get "payload").valueString "reason_description" "No reason provided" with
        | none => rfl
        | some reason =>
            dsimp only
            rw [SessionManager.getSession_removeSession, if_pos rfl]

theorem handleSessionApproved_effect {message : Json} (env : Env) (hlive : b.terminated = false)
    (hom : b.omConnected = true) (hcode : (message.get "message_code").asInt = some 200) :
    b.Effect env (.omMessage message) (b.handleSessionApproved message env).1 := by
  unfold handleSessionApproved
  dsimp only
  split
  · exact .idle _ b.senders b.omConnected b.terminated
  · cases hid : requestIdOf (message.get "payload") with
    | none => exact .idle _ b.senders b.omConnected b.terminated
    | some requestId =>
        dsimp only
        split
        · exact .approved message requestId b.senders hlive hom hcode hid
        · exact .approved message requestId _ hlive hom hcode hid

theorem handleOmMessage_effect (message : Json) (env : Env) (hlive : b.terminated = false)
    (hom : b.omConnected = true) :
    b.Effect env (.omMessage message) (b.handleOmMessage message env).1 := by
  have hidle : ∀ term, b.Effect env (.omMessage message) { b with terminated := term } :=
    fun term => .idle _ b.senders b.omConnected term
  unfold handleOmMessage
  split
  · exact hidle b.terminated
  · cases hcode : (message.get "message_code").asInt with
    | none => exact hidle true
    | some code =>
        dsimp only
        split_ifs with h200 h201
        · subst h200
          exact b.handleSessionApproved_effect env hlive hom hcode
        · subst h201
          rw [handleSessionDenied_eq]
          split
          · exact hidle b.terminated
          · split
            · exact hidle b.terminated
            · exact hidle true
            · exact .denied message _ hlive hom hcode (by assumption)
        · exact hidle b.terminated

/-! ## Steps on a message -/

theorem step_terminated (h : b.terminated = true) (env : Env) (e : Event) : b.step env e = (b, []) := by
  unfold step
  rw [if_pos h]

theorem step_message {t : ClientId} {conn : MGWCPConnection} (hlive : b.terminated = false)
    (hconn : b.receiving t = some conn) (message : Json) (env : Env) :
    b.step env (.message t message) = b.handleReceivedMessage t conn message env := by
  unfold step
  rw [if_neg (by rw [hlive]; simp)]
  dsimp only
  rw [hconn]

theorem step_omMessage (message : Json) (env : Env) :
    b.step env (.omMessage message) =
      if b.terminated = false ∧ b.omConnected = true then b.handleOmMessage message env else (b, []) := by
  unfold step
  cases b.terminated <;> cases b.omConnected <;> rfl

theorem handleReceivedMessage_accepted {t : ClientId} {conn : MGWCPConnection} {message payload : Json} {c : String}
    {seqNum : Nat} {code : Int} (h : conn.receive message = .accepted c seqNum code payload) (env : Env) :
    b.handleReceivedMessage t conn message env =
      (((b.identified t conn c).dispatch t { conn with componentId := c } code payload env).1,
        b.sendAck t c seqNum env ++
          ((b.identified t conn c).dispatch t { conn with componentId := c } code payload env).2) := by
  unfold handleReceivedMessage
  rw [h]
  rfl

/-! ## All steps -/

/-- **Every step is an effect.** -/
theorem step_effect (env : Env) (e : Event) : b.Effect env e (b.step env e).1 := by
  have hidle : b.Effect env e b := .idle e b.senders b.omConnected b.terminated
  unfold step
  by_cases hterm : b.terminated = true
  · rw [if_pos hterm]
    exact hidle
  · rw [if_neg hterm]
    cases e with
    | connect t clientIp =>
        dsimp only
        split_ifs with h
        · exact hidle
        · exact .connected t clientIp fun ht => h (Or.inl ht)
    | message t message =>
        dsimp only
        cases hc : b.receiving t with
        | none => exact hidle
        | some conn => exact handleReceivedMessage_effect hc message env
    | receiveError t =>
        dsimp only
        cases hc : b.receiving t with
        | none => exact hidle
        | some conn =>
            obtain ⟨ht, hconn⟩ := receiving_eq_some hc
            exact .threadEnded _ t conn ht hconn
    | timeouts t =>
        dsimp only
        cases hc : b.receiving t with
        | none => exact hidle
        | some conn => exact .idle _ _ b.omConnected b.terminated
    | disconnect t =>
        dsimp only
        split_ifs with ht
        · exact .disconnected t ht
        · exact hidle
    | omMessage message =>
        dsimp only
        split_ifs with hom
        · exact b.handleOmMessage_effect message env (Bool.not_eq_true _ ▸ hterm) hom
        · exact hidle
    | omLost => exact .idle _ b.senders false b.terminated
    | maintenance => exact hidle
    | worker componentId event =>
        dsimp only
        cases hh : b.transportHandlers componentId with
        | none => exact hidle
        | some handler => exact .worked componentId event handler hh

end Bridge

end EdgeOffloading
