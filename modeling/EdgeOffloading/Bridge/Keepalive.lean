import EdgeOffloading.Bridge.Step

/-!
# Keepalive times

The Bridge keeps the time of the last keepalive of every session and never acts on it.

* `Bridge.forget`: the Bridge without these times;
* `forget_step`: a step does the same, whatever they are.
-/

namespace EdgeOffloading

def ActiveSession.timeless (s : ActiveSession) : ActiveSession := { s with lastKeepalive := 0 }

@[simp] theorem ActiveSession.timeless_timeless (s : ActiveSession) : s.timeless.timeless = s.timeless := rfl

namespace SessionManager

variable (m : SessionManager)

/-- The sessions without the times of their keepalives. -/
def forget : SessionManager := ⟨fun r => (m.sessions r).map ActiveSession.timeless⟩

theorem getSession_forget (r : String) : m.forget.getSession r = (m.getSession r).map ActiveSession.timeless := rfl

theorem ext_getSession {m m' : SessionManager} (h : ∀ r, m.getSession r = m'.getSession r) : m = m' := by
  cases m
  cases m'
  exact congrArg SessionManager.mk (funext h)

theorem forget_forget : m.forget.forget = m.forget := by
  apply ext_getSession
  intro r
  simp [getSession_forget, Function.comp_def]

theorem forget_modify (r : String) {f : ActiveSession → ActiveSession}
    (hf : ∀ s : ActiveSession, (f s.timeless).timeless = (f s).timeless) :
    (m.forget.modify r f).forget = (m.modify r f).forget := by
  apply ext_getSession
  intro r'
  simp only [getSession_forget, getSession_modify]
  split_ifs
  · simp [Function.comp_def, hf]
  · simp [Function.comp_def]

theorem forget_updateKeepalive (r : String) (now : Nat) : (m.updateKeepalive r now).forget = m.forget := by
  apply ext_getSession
  intro r'
  simp only [updateKeepalive, getSession_forget, getSession_modify]
  split_ifs with h
  · subst h
    rw [Option.map_map]
    rfl
  · rfl

theorem forget_removeSession (r : String) : (m.forget.removeSession r).forget = (m.removeSession r).forget := by
  apply ext_getSession
  intro r'
  simp only [getSession_forget, getSession_removeSession]
  split_ifs
  · rfl
  · simp [Function.comp_def]

theorem forget_cleanup (c : String) :
    (m.forget.cleanupSessionsForMgwcp c).forget = (m.cleanupSessionsForMgwcp c).forget := by
  apply ext_getSession
  intro r
  show (((m.getSession r).map ActiveSession.timeless).filter _).map ActiveSession.timeless =
    ((m.getSession r).filter _).map ActiveSession.timeless
  cases m.getSession r with
  | none => rfl
  | some s =>
      simp only [Option.map_some, Option.filter_some, ActiveSession.timeless]
      split_ifs <;> rfl

theorem forget_createSession (r c : String) (taskId : Nat) (taskName : String) (g : GlobalConfig) (now : Nat) :
    (m.forget.createSession r c taskId taskName g now).1.forget =
      (m.createSession r c taskId taskName g now).1.forget := by
  unfold createSession
  have hr : m.forget.sessions r = (m.sessions r).map ActiveSession.timeless := rfl
  rw [hr]
  cases m.sessions r with
  | some s => exact m.forget_forget
  | none =>
      cases g.getTaskConfig taskId with
      | none => exact m.forget_forget
      | some task =>
          apply ext_getSession
          intro r'
          by_cases h : r' = r
          · subst h
            simp [getSession, forget]
          · simp [getSession, forget, h, Function.comp_def]

end SessionManager

namespace Bridge

variable (b : Bridge)

/-- The Bridge without the times of the keepalives. -/
def forget : Bridge := { b with sessionManager := b.sessionManager.forget }

theorem forget_forget : b.forget.forget = b.forget := by
  rw [forget, forget, SessionManager.forget_forget]

/-- Two results that differ in the times of keepalives only. -/
def SameResult (x y : Bridge × List Output) : Prop := x.1.forget = y.1.forget ∧ x.2 = y.2

variable {b}

theorem SameResult.unchanged (outputs : List Output) : SameResult (b.forget, outputs) (b, outputs) :=
  ⟨b.forget_forget, rfl⟩

/-- A change beside the sessions. -/
theorem SameResult.beside {f : Bridge → Bridge} (hf : ∀ b, (f b).forget = f b.forget) (outputs : List Output) :
    SameResult (f b.forget, outputs) (f b, outputs) := by
  refine ⟨?_, rfl⟩
  rw [hf, hf, forget_forget]

theorem sameResult_sessions {m m' : SessionManager} (h : m.forget = m'.forget) (outputs : List Output) :
    SameResult ({ b.forget with sessionManager := m }, outputs) ({ b with sessionManager := m' }, outputs) := by
  refine ⟨?_, rfl⟩
  show { b with sessionManager := m.forget } = { b with sessionManager := m'.forget }
  rw [h]

/-- The sessions after `forward_message_to_om`. -/
def sessionsForwarding (m : SessionManager) (g : GlobalConfig) (c : String) (message : Json) (now : Nat) :
    Option SessionManager :=
  if message.contains "message_code" && (message.get "message_code").eqInt 100 then
    let payload := message.get "payload"
    if payload.contains "request_id" && payload.contains "task_id" && payload.contains "task_name" then
      match (payload.get "request_id").asString, (payload.get "task_id").asUInt32,
          (payload.get "task_name").asString with
      | some requestId, some taskId, some taskName => some (m.createSession requestId c taskId taskName g now).1
      | _, _, _ => none
    else some m
  else some m

theorem forwardMessageToOm_eq (c : String) (message : Json) (env : Env) :
    b.forwardMessageToOm c message env =
      (sessionsForwarding b.sessionManager b.globalConfig c message env.now).map fun m =>
        let sent := b.sendOmMessage
          (if message.contains "bridge_component_id" then message
            else message.set "bridge_component_id" (.str bridgeComponentId)) env
        ({ b with sessionManager := m, omConnected := sent.1 }, sent.2) := rfl

theorem forget_sessionsForwarding (m : SessionManager) (g : GlobalConfig) (c : String) (message : Json) (now : Nat) :
    (sessionsForwarding m.forget g c message now).map SessionManager.forget =
      (sessionsForwarding m g c message now).map SessionManager.forget := by
  unfold sessionsForwarding
  dsimp only
  split
  · split
    · split
      · exact congrArg some (m.forget_createSession ..)
      · rfl
    · exact congrArg some m.forget_forget
  · exact congrArg some m.forget_forget

/-- Both handlers throw, or both give the same result. -/
theorem forget_forwardMessageToOm (c : String) (message : Json) (env : Env) :
    (b.forget.forwardMessageToOm c message env = none ∧ b.forwardMessageToOm c message env = none) ∨
      ∃ x y, b.forget.forwardMessageToOm c message env = some x ∧ b.forwardMessageToOm c message env = some y ∧
        SameResult x y := by
  have h := forget_sessionsForwarding b.sessionManager b.globalConfig c message env.now
  rw [forwardMessageToOm_eq, forwardMessageToOm_eq]
  change _ ∨ ∃ x y, (sessionsForwarding b.sessionManager.forget b.globalConfig c message env.now).map _ = _ ∧ _
  cases h₁ : sessionsForwarding b.sessionManager.forget b.globalConfig c message env.now with
  | none =>
      rw [h₁] at h
      refine Or.inl ⟨by rw [Option.map_eq_none_iff]; exact h₁, ?_⟩
      rw [Option.map_eq_none_iff]
      exact Option.map_eq_none_iff.mp h.symm
  | some m =>
      rw [h₁] at h
      obtain ⟨m', h₂, hm⟩ := Option.map_eq_some_iff.mp h.symm
      rw [h₂]
      refine Or.inr ⟨_, _, rfl, rfl, ?_, rfl⟩
      simp only [forget, hm]
      rfl

theorem forget_createTransportHandler (c host : String) (port : Int) :
    b.forget.createTransportHandlerForMgwdp c host port =
      (b.createTransportHandlerForMgwdp c host port).map fun r => (r.1.forget, r.2) := by
  unfold createTransportHandlerForMgwdp
  have hhandlers : b.forget.transportHandlers = b.transportHandlers := rfl
  rw [hhandlers]
  cases b.transportHandlers c with
  | some handler => rfl
  | none =>
      dsimp only
      rw [Option.map_map]
      rfl

theorem forget_handleDpInfo (t : ClientId) (conn : MGWCPConnection) (payload : Json) (env : Env) :
    SameResult (b.forget.handleDpInfo t conn payload env) (b.handleDpInfo t conn payload env) := by
  unfold handleDpInfo
  split
  · exact .unchanged []
  · split
    · exact .unchanged []
    · split
      · dsimp only [establishMgwcpDataPlaneConnection]
        rw [forget_createTransportHandler]
        cases b.createTransportHandlerForMgwdp conn.componentId _ _ with
        | none => exact .beside (f := fun b => b.endThread t _) (fun _ => rfl) []
        | some r =>
            obtain ⟨b', ok⟩ := r
            cases ok with
            | true =>
                exact .beside (b := b') (f := fun b' => { b'.putConnection t _ with senders := _ }) (fun _ => rfl) _
            | false => exact .beside (b := b') (f := fun b' => b'.putConnection t _) (fun _ => rfl) []
      · exact .beside (f := fun b => b.endThread t conn) (fun _ => rfl) []

theorem forget_orEndThread (t : ClientId) (conn : MGWCPConnection) (c : String) (message : Json) (env : Env) :
    SameResult (b.forget.orEndThread t conn (b.forget.forwardMessageToOm c message env))
      (b.orEndThread t conn (b.forwardMessageToOm c message env)) := by
  rcases b.forget_forwardMessageToOm c message env with ⟨h₁, h₂⟩ | ⟨x, y, h₁, h₂, h⟩
  · rw [h₁, h₂]
    exact .beside (f := fun b => b.endThread t conn) (fun _ => rfl) []
  · rw [h₁, h₂]
    exact h

theorem forget_handleOffloadRequest (t : ClientId) (conn : MGWCPConnection) (payload : Json) (env : Env) :
    SameResult (b.forget.handleOffloadRequest t conn payload env) (b.handleOffloadRequest t conn payload env) := by
  unfold handleOffloadRequest
  split
  · exact .unchanged []
  · split
    · exact .unchanged []
    · split
      · exact b.forget_orEndThread t conn _ _ env
      · exact .beside (f := fun b => b.endThread t conn) (fun _ => rfl) []

theorem SameResult.trans {x y z : Bridge × List Output} (h₁ : SameResult x y) (h₂ : SameResult y z) : SameResult x z :=
  ⟨h₁.1.trans h₂.1, h₁.2.trans h₂.2⟩

theorem SameResult.symm {x y : Bridge × List Output} (h : SameResult x y) : SameResult y x := ⟨h.1.symm, h.2.symm⟩

/-- States that differ in the times only are forwarded alike. -/
theorem sameResult_orEndThread {b' : Bridge} (h : b.forget = b'.forget) (t : ClientId) (conn : MGWCPConnection)
    (c : String) (message : Json) (env : Env) :
    SameResult (b.orEndThread t conn (b.forwardMessageToOm c message env))
      (b'.orEndThread t conn (b'.forwardMessageToOm c message env)) := by
  refine (b.forget_orEndThread t conn c message env).symm.trans ?_
  rw [h]
  exact b'.forget_orEndThread t conn c message env

theorem forget_handleSessionKeepalive (t : ClientId) (conn : MGWCPConnection) (payload : Json) (env : Env) :
    SameResult (b.forget.handleSessionKeepalive t conn payload env) (b.handleSessionKeepalive t conn payload env) := by
  unfold handleSessionKeepalive
  split
  · exact .unchanged []
  · split
    · exact .beside (f := fun b => b.endThread t conn) (fun _ => rfl) []
    · refine sameResult_orEndThread ?_ t conn _ _ env
      simp only [forget, SessionManager.forget_updateKeepalive, SessionManager.forget_forget]

theorem forget_handleSessionTerminateRequest (t : ClientId) (conn : MGWCPConnection) (payload : Json) (env : Env) :
    SameResult (b.forget.handleSessionTerminateRequest t conn payload env)
      (b.handleSessionTerminateRequest t conn payload env) := by
  unfold handleSessionTerminateRequest
  split
  · exact .unchanged []
  · split
    · exact .beside (f := fun b => b.endThread t conn) (fun _ => rfl) []
    · exact b.forget_orEndThread t conn _ _ env

theorem forget_dispatch (t : ClientId) (conn : MGWCPConnection) (code : Int) (payload : Json) (env : Env) :
    SameResult (b.forget.dispatch t conn code payload env) (b.dispatch t conn code payload env) := by
  unfold dispatch
  split_ifs
  · exact b.forget_handleDpInfo t conn payload env
  · exact b.forget_handleOffloadRequest t conn payload env
  · exact b.forget_handleSessionKeepalive t conn payload env
  · exact b.forget_handleSessionTerminateRequest t conn payload env
  · exact .unchanged []

theorem forget_handleReceivedMessage (t : ClientId) (conn : MGWCPConnection) (message : Json) (env : Env) :
    SameResult (b.forget.handleReceivedMessage t conn message env) (b.handleReceivedMessage t conn message env) := by
  unfold handleReceivedMessage
  cases conn.receive message with
  | ignored => exact .unchanged []
  | thrown => exact .beside (f := fun b => b.endThread t conn) (fun _ => rfl) []
  | ack payload =>
      dsimp only [handleAck]
      rw [show b.forget.senders t = b.senders t from rfl]
      cases (b.senders t).handleAck payload with
      | none => exact .beside (f := fun b => b.endThread t conn) (fun _ => rfl) []
      | some sender =>
          exact .beside (f := fun b => { b with senders := Function.update b.senders t sender }) (fun _ => rfl) []
  | accepted c seqNum code payload =>
      dsimp only
      have hidentify : (if conn.componentId = "" then b.forget.identify t conn c else b.forget) =
          (if conn.componentId = "" then b.identify t conn c else b).forget := by
        split_ifs <;> rfl
      rw [hidentify]
      obtain ⟨hb, hout⟩ := (if conn.componentId = "" then b.identify t conn c else b).forget_dispatch t
        { conn with componentId := c } code payload env
      exact ⟨hb, congrArg (b.sendAck t c seqNum env ++ ·) hout⟩

/-! ## Answers of the OM -/

theorem forget_createRoutingRules (m : SessionManager) (table : RoutingTable)
    (handlers : String → Option TransportHandler) (r : String) :
    (createRoutingRulesForSession m.forget table handlers r).1.forget =
        (createRoutingRulesForSession m table handlers r).1.forget ∧
      (createRoutingRulesForSession m.forget table handlers r).2 =
        (createRoutingRulesForSession m table handlers r).2 := by
  have hflag : ∀ created, (m.forget.setRoutingRulesCreated r created).forget =
      (m.setRoutingRulesCreated r created).forget := fun _ => m.forget_modify r fun _ => rfl
  unfold createRoutingRulesForSession
  rw [SessionManager.getSession_forget]
  cases m.getSession r with
  | none => exact ⟨m.forget_forget, rfl⟩
  | some s =>
      dsimp only [Option.map_some, ActiveSession.timeless]
      split
      · exact ⟨m.forget_forget, rfl⟩
      · split
        · split
          · exact ⟨hflag true, rfl⟩
          · split
            · exact ⟨m.forget_forget, rfl⟩
            · exact ⟨hflag true, rfl⟩
        · exact ⟨m.forget_forget, rfl⟩

theorem forget_approveSession (r : String) (payload : Json) :
    (b.forget.approveSession r payload).1.forget = (b.approveSession r payload).1.forget ∧
      (b.forget.approveSession r payload).2 = (b.approveSession r payload).2 := by
  unfold approveSession
  cases assignedMecIn payload with
  | none => exact forget_createRoutingRules b.sessionManager b.routingTable b.transportHandlers r
  | some mecId =>
      have hassign : (b.sessionManager.forget.setAssignedMec r mecId).forget =
          (b.sessionManager.setAssignedMec r mecId).forget := b.sessionManager.forget_modify r fun _ => rfl
      have h₁ := forget_createRoutingRules (b.sessionManager.forget.setAssignedMec r mecId) b.routingTable
        b.transportHandlers r
      have h₂ := forget_createRoutingRules (b.sessionManager.setAssignedMec r mecId) b.routingTable
        b.transportHandlers r
      rw [hassign] at h₁
      exact ⟨h₁.1.symm.trans h₂.1, h₁.2.symm.trans h₂.2⟩

theorem forget_handleSessionApproved (omResponse : Json) (env : Env) :
    SameResult (b.forget.handleSessionApproved omResponse env) (b.handleSessionApproved omResponse env) := by
  unfold handleSessionApproved
  split
  · exact .unchanged []
  · dsimp only
    cases requestIdOf (omResponse.get "payload") with
    | none => exact .unchanged []
    | some r =>
        dsimp only
        obtain ⟨hm, htable⟩ := b.forget_approveSession r (omResponse.get "payload")
        have hstate : ∀ senders, { b.forget with
            sessionManager := (b.forget.approveSession r (omResponse.get "payload")).1
            routingTable := (b.forget.approveSession r (omResponse.get "payload")).2
            senders := senders }.forget = { b with
            sessionManager := (b.approveSession r (omResponse.get "payload")).1
            routingTable := (b.approveSession r (omResponse.get "payload")).2
            senders := senders }.forget := by
          intro senders
          simp only [forget, ← hm, ← htable]
        have hget : ((b.forget.approveSession r (omResponse.get "payload")).1.getSession r).map ActiveSession.timeless =
            ((b.approveSession r (omResponse.get "payload")).1.getSession r).map ActiveSession.timeless := by
          rw [← SessionManager.getSession_forget, hm, SessionManager.getSession_forget]
        -- the addressees are the same
        cases hs : (b.approveSession r (omResponse.get "payload")).1.getSession r with
        | none =>
            rw [hs] at hget
            rw [Option.map_eq_none_iff.mp hget]
            exact ⟨hstate b.senders, rfl⟩
        | some s =>
            rw [hs] at hget
            obtain ⟨s', hs', heq⟩ := Option.map_eq_some_iff.mp hget
            have hvhc : s'.mgwcpComponentId = s.mgwcpComponentId := by injection heq
            have hmec : s'.assignedMecId = s.assignedMecId := by injection heq
            rw [hs']
            dsimp only
            rw [hvhc, hmec]
            exact ⟨hstate _, rfl⟩

theorem forget_handleSessionDenied (omResponse : Json) (env : Env) :
    SameResult (b.forget.handleSessionDenied omResponse env) (b.handleSessionDenied omResponse env) := by
  rw [handleSessionDenied_eq, handleSessionDenied_eq]
  split
  · exact .unchanged []
  · split
    · exact .unchanged []
    · exact .beside (f := fun b => { b with terminated := true }) (fun _ => rfl) []
    · exact sameResult_sessions (b.sessionManager.forget_removeSession _) []

theorem forget_handleOmMessage (message : Json) (env : Env) :
    SameResult (b.forget.handleOmMessage message env) (b.handleOmMessage message env) := by
  unfold handleOmMessage
  split
  · exact .unchanged []
  · cases (message.get "message_code").asInt with
    | none => exact .beside (f := fun b => { b with terminated := true }) (fun _ => rfl) []
    | some code =>
        dsimp only
        split_ifs
        · exact b.forget_handleSessionApproved message env
        · exact b.forget_handleSessionDenied message env
        · exact .unchanged []

/-! ## Steps -/

theorem forget_closeMgwcpConnection (t : ClientId) :
    (b.forget.closeMgwcpConnection t).forget = (b.closeMgwcpConnection t).forget := by
  unfold closeMgwcpConnection
  rw [show b.forget.mgwcpConnections t = b.mgwcpConnections t from rfl]
  cases b.mgwcpConnections t with
  | none => exact b.forget_forget
  | some conn =>
      dsimp only
      split_ifs
      · simp only [forget, SessionManager.forget_forget]
      · simp only [forget, SessionManager.forget_cleanup]

/-- **The times of the keepalives decide nothing.** -/
theorem forget_step (env : Env) (e : Event) : SameResult (b.forget.step env e) (b.step env e) := by
  unfold step
  change SameResult (if b.terminated then _ else _) _
  split
  · exact .unchanged []
  · cases e with
    | connect t clientIp =>
        dsimp only
        change SameResult (if t ∈ b.serverClients ∨ maxMgwcpConnections ≤ b.serverClients.length then _ else _) _
        split
        · exact .unchanged []
        · exact .beside
            (f := fun b => { b with serverClients := t :: b.serverClients }.handleNewMgwcpConnection t clientIp)
            (fun _ => rfl) []
    | message t message =>
        dsimp only
        rw [show b.forget.receiving t = b.receiving t from rfl]
        cases b.receiving t with
        | none => exact .unchanged []
        | some conn => exact b.forget_handleReceivedMessage t conn message env
    | receiveError t =>
        dsimp only
        rw [show b.forget.receiving t = b.receiving t from rfl]
        cases b.receiving t with
        | none => exact .unchanged []
        | some conn => exact .beside (f := fun b => b.endThread t conn) (fun _ => rfl) []
    | timeouts t =>
        dsimp only
        rw [show b.forget.receiving t = b.receiving t from rfl]
        cases b.receiving t with
        | none => exact .unchanged []
        | some conn => exact .beside (f := fun b => (b.checkForTimeouts t env).1) (fun _ => rfl) _
    | disconnect t =>
        dsimp only
        change SameResult (if t ∈ b.serverClients then _ else _) _
        split
        · refine ⟨?_, rfl⟩
          exact congrArg (fun b' : Bridge => { b' with serverClients := b.serverClients.filter (· ≠ t) })
            (b.forget_closeMgwcpConnection t)
        · exact .unchanged []
    | omMessage message =>
        dsimp only
        change SameResult (if b.omConnected then _ else _) _
        split
        · exact b.forget_handleOmMessage message env
        · exact .unchanged []
    | omLost => exact .beside (f := fun b => { b with omConnected := false }) (fun _ => rfl) []
    | maintenance => exact .unchanged []
    | worker c event =>
        dsimp only
        rw [show b.forget.transportHandlers c = b.transportHandlers c from rfl]
        cases b.transportHandlers c with
        | none => exact .unchanged []
        | some handler =>
            exact .beside (f := fun b =>
              { b with
                transportHandlers := Function.update b.transportHandlers c
                  (some (handler.worker b.routingTable event).1) }) (fun _ => rfl) _

theorem sameResult_step {b' : Bridge} (h : b.forget = b'.forget) (env : Env) (e : Event) :
    SameResult (b.step env e) (b'.step env e) := by
  refine (b.forget_step env e).symm.trans ?_
  rw [h]
  exact b'.forget_step env e

end Bridge

end EdgeOffloading
