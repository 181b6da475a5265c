import EdgeOffloading.Bridge.Step
import EdgeOffloading.Protocol.Messages

/-!
# Invariants of every reachable Bridge

* `WellFormed`: the stores of the control plane fit together (`reachable_wellFormed`);
* `createRoutingRulesForSession_cases`: route creation installs all routes of the session and flags it, or nothing.
-/

namespace EdgeOffloading

namespace SessionManager

/-- Every session of `m'` is a session of `m` under the same request id, with the same gateway and message types. -/
def Descends (m m' : SessionManager) : Prop :=
  ∀ r s', m'.getSession r = some s' → ∃ s, m.getSession r = some s ∧ s'.requestId = s.requestId ∧
    s'.mgwcpComponentId = s.mgwcpComponentId ∧ s'.inputMessageTypes = s.inputMessageTypes ∧
    s'.outputMessageTypes = s.outputMessageTypes

theorem Descends.refl (m : SessionManager) : Descends m m := fun _ s' h => ⟨s', h, rfl, rfl, rfl, rfl⟩

theorem Descends.trans {m₁ m₂ m₃ : SessionManager} (h₁ : Descends m₁ m₂) (h₂ : Descends m₂ m₃) : Descends m₁ m₃ := by
  intro r s'' h
  obtain ⟨s', hs', e1, e2, e3, e4⟩ := h₂ r s'' h
  obtain ⟨s, hs, f1, f2, f3, f4⟩ := h₁ r s' hs'
  exact ⟨s, hs, e1.trans f1, e2.trans f2, e3.trans f3, e4.trans f4⟩

/-- The operations on one field keep all the others. -/
theorem descends_modify (m : SessionManager) (r : String) {f : ActiveSession → ActiveSession}
    (hf : ∀ s, (f s).requestId = s.requestId ∧ (f s).mgwcpComponentId = s.mgwcpComponentId ∧
      (f s).inputMessageTypes = s.inputMessageTypes ∧ (f s).outputMessageTypes = s.outputMessageTypes) :
    Descends m (m.modify r f) := by
  intro r' s' h
  rw [getSession_modify] at h
  split_ifs at h with hr
  · subst hr
    obtain ⟨s, hs, rfl⟩ := Option.map_eq_some_iff.mp h
    exact ⟨s, hs, hf s⟩
  · exact ⟨s', h, rfl, rfl, rfl, rfl⟩

theorem descends_updateKeepalive (m : SessionManager) (r : String) (now : Nat) :
    Descends m (m.updateKeepalive r now) :=
  m.descends_modify r fun _ => ⟨rfl, rfl, rfl, rfl⟩

theorem descends_setAssignedMec (m : SessionManager) (r mecId : String) : Descends m (m.setAssignedMec r mecId) :=
  m.descends_modify r fun _ => ⟨rfl, rfl, rfl, rfl⟩

theorem descends_setRoutingRulesCreated (m : SessionManager) (r : String) (created : Bool) :
    Descends m (m.setRoutingRulesCreated r created) :=
  m.descends_modify r fun _ => ⟨rfl, rfl, rfl, rfl⟩

theorem descends_removeSession (m : SessionManager) (r : String) : Descends m (m.removeSession r) := by
  intro r' s' h
  rw [getSession_removeSession] at h
  split_ifs at h
  exact ⟨s', h, rfl, rfl, rfl, rfl⟩

theorem descends_cleanup (m : SessionManager) (c : String) : Descends m (m.cleanupSessionsForMgwcp c) := by
  intro r s' h
  exact ⟨s', (m.getSession_cleanup_eq_some.mp h).1, rfl, rfl, rfl, rfl⟩

end SessionManager

namespace Bridge

variable {b : Bridge}

/-- The stores of the control plane fit together. -/
structure WellFormed (b : Bridge) : Prop where
  /-- The server's clients are the ones with a connection. -/
  connected : ∀ t, t ∈ b.serverClients ↔ ∃ conn, b.mgwcpConnections t = some conn
  validId : ∀ t conn, b.mgwcpConnections t = some conn →
    conn.componentId = "" ∨ isValidComponentId conn.componentId = true
  operational : ∀ t conn, b.mgwcpConnections t = some conn → conn.state = .operational →
    conn.componentId ≠ "" ∧ ∃ handler, b.transportHandlers conn.componentId = some handler
  handlerValid : ∀ c handler, b.transportHandlers c = some handler → isValidComponentId c = true
  handlerStarted : ∀ c handler, b.transportHandlers c = some handler → handler.threadJoinable = true
  queueLt : ∀ c handler, b.transportHandlers c = some handler → handler.inputQueue < b.nextQueue
  /-- No two handlers share a queue. -/
  queueInj : ∀ c c' handler handler', b.transportHandlers c = some handler → b.transportHandlers c' = some handler' →
    handler.inputQueue = handler'.inputQueue → c = c'
  keyed : ∀ r s, b.sessionManager.getSession r = some s → s.requestId = r
  sessionHandler : ∀ r s, b.sessionManager.getSession r = some s →
    ∃ handler, b.transportHandlers s.mgwcpComponentId = some handler

theorem wellFormed_init (g : GlobalConfig) : WellFormed (init g) where
  connected t := by simp [init]
  validId t conn h := by cases h
  operational t conn h := by cases h
  handlerValid c handler h := by cases h
  handlerStarted c handler h := by cases h
  queueLt c handler h := by cases h
  queueInj c c' handler handler' h := by cases h
  keyed r s h := by cases h
  sessionHandler r s h := by cases h

/-- The other stores do not matter. -/
theorem WellFormed.of_eq {b' : Bridge} (h : WellFormed b) (hclients : b'.serverClients = b.serverClients)
    (hconns : b'.mgwcpConnections = b.mgwcpConnections) (hhandlers : b'.transportHandlers = b.transportHandlers)
    (hqueue : b'.nextQueue = b.nextQueue) (hsessions : b'.sessionManager = b.sessionManager) : WellFormed b' where
  connected := by rw [hclients, hconns]; exact h.connected
  validId := by rw [hconns]; exact h.validId
  operational := by rw [hconns, hhandlers]; exact h.operational
  handlerValid := by rw [hhandlers]; exact h.handlerValid
  handlerStarted := by rw [hhandlers]; exact h.handlerStarted
  queueLt := by rw [hhandlers, hqueue]; exact h.queueLt
  queueInj := by rw [hhandlers]; exact h.queueInj
  keyed := by rw [hsessions]; exact h.keyed
  sessionHandler := by rw [hsessions, hhandlers]; exact h.sessionHandler

/-! ## The single changes -/

theorem putConnection_apply (t t' : ClientId) (conn : MGWCPConnection) :
    (b.putConnection t conn).mgwcpConnections t' = if t' = t then some conn else b.mgwcpConnections t' := by
  simp [putConnection, Function.update_apply]

theorem WellFormed.putConnection (h : WellFormed b) {t : ClientId} {old : MGWCPConnection} (conn : MGWCPConnection)
    (hold : b.mgwcpConnections t = some old) (hid : conn.componentId = "" ∨ isValidComponentId conn.componentId = true)
    (hop : conn.state = .operational →
      conn.componentId ≠ "" ∧ ∃ handler, b.transportHandlers conn.componentId = some handler) :
    WellFormed (b.putConnection t conn) where
  connected t' := by
    rw [putConnection_apply]
    split_ifs with ht
    · subst ht
      exact (h.connected t').trans ⟨fun _ => ⟨conn, rfl⟩, fun _ => ⟨old, hold⟩⟩
    · exact h.connected t'
  validId t' conn' hc := by
    rw [putConnection_apply] at hc
    split_ifs at hc
    · cases hc; exact hid
    · exact h.validId t' conn' hc
  operational t' conn' hc hs := by
    rw [putConnection_apply] at hc
    split_ifs at hc
    · cases hc; exact hop hs
    · exact h.operational t' conn' hc hs
  handlerValid := h.handlerValid
  handlerStarted := h.handlerStarted
  queueLt := h.queueLt
  queueInj := h.queueInj
  keyed := h.keyed
  sessionHandler := h.sessionHandler

theorem WellFormed.descend (h : WellFormed b) {m : SessionManager} (hm : b.sessionManager.Descends m) :
    WellFormed { b with sessionManager := m } where
  connected := h.connected
  validId := h.validId
  operational := h.operational
  handlerValid := h.handlerValid
  handlerStarted := h.handlerStarted
  queueLt := h.queueLt
  queueInj := h.queueInj
  keyed r s hs := by
    obtain ⟨s₀, hs₀, hid, -⟩ := hm r s hs
    rw [hid, h.keyed r s₀ hs₀]
  sessionHandler r s hs := by
    obtain ⟨s₀, hs₀, -, hc, -⟩ := hm r s hs
    rw [hc]
    exact h.sessionHandler r s₀ hs₀

theorem WellFormed.createSession (h : WellFormed b) (r : String) {c : String} (taskId : Nat) (taskName : String)
    (now : Nat) (hc : ∃ handler, b.transportHandlers c = some handler) :
    WellFormed
      { b with sessionManager := (b.sessionManager.createSession r c taskId taskName b.globalConfig now).1 } := by
  rcases b.sessionManager.createSession_cases r c taskId taskName b.globalConfig now with ⟨heq, -⟩ | ⟨task, -, -, heq⟩
  · rw [heq]; exact h
  · refine ⟨h.connected, h.validId, h.operational, h.handlerValid, h.handlerStarted, h.queueLt, h.queueInj, ?_, ?_⟩
    · intro r' s hs
      rw [heq] at hs
      split_ifs at hs with hr
      · cases hs; exact hr.symm
      · exact h.keyed r' s hs
    · intro r' s hs
      rw [heq] at hs
      split_ifs at hs with hr
      · cases hs; exact hc
      · exact h.sessionHandler r' s hs

theorem create_inputQueue {c host : String} {port : Int} {q : QueueId} {config : TransportHandlerConfig}
    {handler : TransportHandler} (h : TransportHandler.create c host port q config = some handler) :
    handler.start.inputQueue = q ∧ handler.start.targetIp = host ∧ handler.start.targetPort = port ∧
      handler.start.threadJoinable = true ∧ handler.start.threadRunning = true := by
  unfold TransportHandler.create at h
  split_ifs at h
  cases h
  exact ⟨rfl, rfl, rfl, rfl, rfl⟩

theorem WellFormed.addHandler (h : WellFormed b) {c : String} {handler : TransportHandler}
    (hc : isValidComponentId c = true) (hnone : b.transportHandlers c = none) (hq : handler.inputQueue = b.nextQueue)
    (hj : handler.threadJoinable = true) :
    WellFormed { b with
      transportHandlers := Function.update b.transportHandlers c (some handler)
      nextQueue := b.nextQueue + 1 } := by
  have hkeep : ∀ c' h', b.transportHandlers c' = some h' →
      Function.update b.transportHandlers c (some handler) c' = some h' := by
    intro c' h' hc'
    rw [Function.update_apply, if_neg]
    · exact hc'
    · rintro rfl; rw [hnone] at hc'; cases hc'
  have hcases : ∀ c' h', Function.update b.transportHandlers c (some handler) c' = some h' →
      c' = c ∧ h' = handler ∨ b.transportHandlers c' = some h' := by
    intro c' h' hc'
    rw [Function.update_apply] at hc'
    split_ifs at hc' with hcc
    · exact Or.inl ⟨hcc, (Option.some.inj hc').symm⟩
    · exact Or.inr hc'
  refine ⟨h.connected, h.validId, ?_, ?_, ?_, ?_, ?_, h.keyed, ?_⟩
  · intro t conn ht hs
    obtain ⟨hne, h', hh'⟩ := h.operational t conn ht hs
    exact ⟨hne, h', hkeep _ _ hh'⟩
  · intro c' h' hc'
    rcases hcases c' h' hc' with ⟨rfl, -⟩ | h1
    · exact hc
    · exact h.handlerValid c' h' h1
  · intro c' h' hc'
    rcases hcases c' h' hc' with ⟨-, rfl⟩ | h1
    · exact hj
    · exact h.handlerStarted c' h' h1
  · intro c' h' hc'
    rcases hcases c' h' hc' with ⟨-, rfl⟩ | h1
    · rw [hq]; exact Nat.lt_succ_self _
    · exact Nat.lt_succ_of_lt (h.queueLt c' h' h1)
  · intro c₁ c₂ h₁ h₂ hc₁ hc₂ heq
    rcases hcases c₁ h₁ hc₁ with ⟨rfl, rfl⟩ | e₁ <;> rcases hcases c₂ h₂ hc₂ with ⟨rfl, rfl⟩ | e₂
    · rfl
    · exact absurd (heq.symm.trans hq) (Nat.ne_of_lt (h.queueLt c₂ h₂ e₂))
    · exact absurd (heq.trans hq) (Nat.ne_of_lt (h.queueLt c₁ h₁ e₁))
    · exact h.queueInj c₁ c₂ h₁ h₂ e₁ e₂ heq
  · intro r s hs
    obtain ⟨h', hh'⟩ := h.sessionHandler r s hs
    exact ⟨h', hkeep _ _ hh'⟩

/-- A worker event replaces a handler by one with the same queue. -/
theorem WellFormed.moveHandler (h : WellFormed b) {c : String} {handler handler' : TransportHandler}
    (hc : b.transportHandlers c = some handler) (hsame : handler.SameEndpoint handler') :
    WellFormed { b with transportHandlers := Function.update b.transportHandlers c (some handler') } := by
  have hkeep : ∀ c' h', b.transportHandlers c' = some h' →
      ∃ h'', Function.update b.transportHandlers c (some handler') c' = some h'' := by
    intro c' h' hc'
    rw [Function.update_apply]
    split_ifs
    · exact ⟨handler', rfl⟩
    · exact ⟨h', hc'⟩
  have hback : ∀ c' h', Function.update b.transportHandlers c (some handler') c' = some h' →
      ∃ h₀, b.transportHandlers c' = some h₀ ∧ h'.inputQueue = h₀.inputQueue ∧
        h'.threadJoinable = h₀.threadJoinable := by
    intro c' h' hc'
    rw [Function.update_apply] at hc'
    split_ifs at hc' with hcc
    · cases hc'; exact ⟨handler, by rw [hcc, hc], hsame.queue, hsame.joinable⟩
    · exact ⟨h', hc', rfl, rfl⟩
  refine ⟨h.connected, h.validId, ?_, ?_, ?_, ?_, ?_, h.keyed, ?_⟩
  · intro t conn ht hs
    obtain ⟨hne, h', hh'⟩ := h.operational t conn ht hs
    exact ⟨hne, hkeep _ _ hh'⟩
  · intro c' h' hc'
    obtain ⟨h₀, hh₀, -⟩ := hback c' h' hc'
    exact h.handlerValid c' h₀ hh₀
  · intro c' h' hc'
    obtain ⟨h₀, hh₀, -, hj⟩ := hback c' h' hc'
    rw [hj, h.handlerStarted c' h₀ hh₀]
  · intro c' h' hc'
    obtain ⟨h₀, hh₀, hq, -⟩ := hback c' h' hc'
    rw [hq]
    exact h.queueLt c' h₀ hh₀
  · intro c₁ c₂ h₁ h₂ hc₁ hc₂ heq
    obtain ⟨k₁, hk₁, hq₁, -⟩ := hback c₁ h₁ hc₁
    obtain ⟨k₂, hk₂, hq₂, -⟩ := hback c₂ h₂ hc₂
    exact h.queueInj c₁ c₂ k₁ k₂ hk₁ hk₂ (by rw [← hq₁, ← hq₂, heq])
  · intro r s hs
    obtain ⟨h', hh'⟩ := h.sessionHandler r s hs
    exact hkeep _ _ hh'

/-! ## Approvals -/

/-- The routes of a session whose two gateways have handlers: its input types to the MEC, its output types back. -/
def routesOf (transportHandlers : String → Option TransportHandler) (s : ActiveSession) : List (RoutingKey × QueueId) :=
  match componentIdParts s.mgwcpComponentId, componentIdParts s.assignedMecId, transportHandlers s.mgwcpComponentId,
      transportHandlers s.assignedMecId with
  | some source, some mec, some vhcHandler, some mecHandler =>
    s.inputMessageTypes.map (fun msgType => (routingKeyOf source msgType, mecHandler.inputQueue)) ++
      s.outputMessageTypes.map fun msgType => (routingKeyOf mec msgType, vhcHandler.inputQueue)
  | _, _, _, _ => []

/-- Route creation is all or nothing while the keys of the handlers are valid component ids. -/
theorem createRoutingRulesForSession_cases (m : SessionManager) (table : RoutingTable)
    {handlers : String → Option TransportHandler} (hvalid : ∀ c h, handlers c = some h → isValidComponentId c = true)
    (r : String) :
    (createRoutingRulesForSession m table handlers r = (m, table) ∧
        ∀ s, m.getSession r = some s → handlers s.mgwcpComponentId = none ∨ handlers s.assignedMecId = none) ∨
      ∃ s vhcHandler mecHandler, m.getSession r = some s ∧ handlers s.mgwcpComponentId = some vhcHandler ∧
        handlers s.assignedMecId = some mecHandler ∧
        createRoutingRulesForSession m table handlers r =
          (m.setRoutingRulesCreated r true, table.addRoutes (routesOf handlers s)) := by
  unfold createRoutingRulesForSession
  cases hs : m.getSession r with
  | none => exact Or.inl ⟨rfl, fun s h => by cases h⟩
  | some s =>
      dsimp only
      cases hv : handlers s.mgwcpComponentId with
      | none =>
          refine Or.inl ⟨?_, fun s' h => by cases h; exact Or.inl hv⟩
          cases componentIdParts s.mgwcpComponentId <;> rfl
      | some vhcHandler =>
          obtain ⟨g, i, hparts⟩ := isValidComponentId.parts (hvalid _ _ hv)
          rw [hparts]
          cases hm : handlers s.assignedMecId with
          | none => exact Or.inl ⟨rfl, fun s' h => by cases h; exact Or.inr hm⟩
          | some mecHandler =>
              obtain ⟨g', i', hmparts⟩ := isValidComponentId.parts (hvalid _ _ hm)
              refine Or.inr ⟨s, vhcHandler, mecHandler, rfl, hv, hm, ?_⟩
              dsimp only
              rw [if_neg (isValidComponentId.ne_empty (hvalid _ _ hm)), hmparts]
              simp only [routesOf, hparts, hmparts, hv, hm, RoutingTable.foldl_addRoute, RoutingTable.addRoutes_append]

theorem descends_createRoutingRules (m : SessionManager) (table : RoutingTable)
    (handlers : String → Option TransportHandler) (r : String) :
    m.Descends (createRoutingRulesForSession m table handlers r).1 := by
  unfold createRoutingRulesForSession
  repeat' first | exact m.descends_setRoutingRulesCreated r true | exact .refl m | split

/-- The sessions right after the assignment, before the routes are made. -/
def assignMec (m : SessionManager) (r : String) (payload : Json) : SessionManager :=
  match assignedMecIn payload with
  | some mecId => m.setAssignedMec r mecId
  | none => m

theorem approveSession_eq (r : String) (payload : Json) :
    b.approveSession r payload =
      createRoutingRulesForSession (assignMec b.sessionManager r payload) b.routingTable b.transportHandlers r := rfl

theorem descends_assignMec (m : SessionManager) (r : String) (payload : Json) : m.Descends (assignMec m r payload) := by
  unfold assignMec
  split
  · exact m.descends_setAssignedMec r _
  · exact .refl m

theorem descends_approveSession (r : String) (payload : Json) :
    b.sessionManager.Descends (b.approveSession r payload).1 :=
  (descends_assignMec b.sessionManager r payload).trans (descends_createRoutingRules _ _ _ _)

/-! ## Steps and runs -/

theorem identified_apply {t : ClientId} {conn : MGWCPConnection} {c : String} (hconn : b.mgwcpConnections t = some conn)
    (hc : conn.acceptsComponentId c = true) :
    (b.identified t conn c).mgwcpConnections t = some { conn with componentId := c } := by
  unfold identified
  split_ifs with h
  · simp [identify, putConnection]
  · rcases MGWCPConnection.acceptsComponentId_iff.mp hc with ⟨h0, -⟩ | ⟨-, rfl⟩
    · exact absurd h0 h
    · exact hconn

theorem WellFormed.identified (h : WellFormed b) {t : ClientId} {conn : MGWCPConnection} {c : String}
    (hconn : b.mgwcpConnections t = some conn) (hc : conn.acceptsComponentId c = true) :
    WellFormed (b.identified t conn c) := by
  unfold Bridge.identified
  split_ifs with h0
  · have hvalid : isValidComponentId c = true := by
      rcases MGWCPConnection.acceptsComponentId_iff.mp hc with ⟨-, hv⟩ | ⟨hne, -⟩
      · exact hv
      · exact absurd h0 hne
    have h' := h.putConnection { conn with componentId := c } hconn (Or.inr hvalid) (fun hs =>
      absurd h0 (h.operational t conn hconn hs).1)
    exact h'.of_eq rfl rfl rfl rfl rfl
  · exact h

theorem WellFormed.dispatch (h : WellFormed b) {t : ClientId} {conn : MGWCPConnection} {env : Env} {code : Int}
    {payload : Json} {b' : Bridge} (hconn : b.mgwcpConnections t = some conn)
    (hid : isValidComponentId conn.componentId = true) (hb' : b.DispatchEffect t conn env code payload b') :
    WellFormed b' := by
  have hop := h.operational t conn hconn
  cases hb' with
  | none => exact h
  | ended dpHost dpPort => exact h.putConnection _ hconn (Or.inr hid) hop
  | confirmed dpHost dpPort b₁ senders hcode hstate hb₁ =>
      obtain ⟨h₁, hconn₁, hhandler⟩ : WellFormed b₁ ∧ b₁.mgwcpConnections t = some conn ∧
          ∃ handler, b₁.transportHandlers conn.componentId = some handler := by
        rcases createTransportHandlerForMgwdp_cases hb₁ with ⟨heq, hex⟩ | ⟨handler, hnone, hcreate, heq⟩
        · cases heq; exact ⟨h, hconn, hex⟩
        · cases heq
          obtain ⟨hq, -, -, hj, -⟩ := create_inputQueue hcreate
          exact ⟨h.addHandler hid hnone hq hj, hconn, handler.start, by simp⟩
      have h₂ := h₁.putConnection { conn with dpHost := dpHost, dpPort := dpPort, state := .operational }
        hconn₁ (Or.inr hid) fun _ => ⟨isValidComponentId.ne_empty hid, hhandler⟩
      exact h₂.of_eq rfl rfl rfl rfl rfl
  | requested requestId taskId taskName omConnected hcode hstate hreq htask =>
      have h₁ := h.createSession requestId taskId taskName env.now (hop hstate).2
      exact h₁.of_eq rfl rfl rfl rfl rfl
  | keptAlive requestId omConnected hcode hreq =>
      have h₁ := h.descend (b.sessionManager.descends_updateKeepalive requestId env.now)
      exact h₁.of_eq rfl rfl rfl rfl rfl
  | forwarded omConnected hcode => exact h.of_eq rfl rfl rfl rfl rfl

theorem WellFormed.connect (h : WellFormed b) {t : ClientId} (clientIp : String) :
    WellFormed ({ b with serverClients := t :: b.serverClients }.handleNewMgwcpConnection t clientIp) where
  connected t' := by
    simp only [handleNewMgwcpConnection, Bridge.putConnection, Function.update_apply, List.mem_cons]
    split_ifs with ht
    · exact ⟨fun _ => ⟨_, rfl⟩, fun _ => Or.inl ht⟩
    · rw [h.connected t', or_iff_right ht]
  validId t' conn hc := by
    simp only [handleNewMgwcpConnection, Bridge.putConnection, Function.update_apply] at hc
    split_ifs at hc
    · cases hc; exact Or.inl rfl
    · exact h.validId t' conn hc
  operational t' conn hc hs := by
    simp only [handleNewMgwcpConnection, Bridge.putConnection, Function.update_apply] at hc
    split_ifs at hc
    · cases hc; cases hs
    · exact h.operational t' conn hc hs
  handlerValid := h.handlerValid
  handlerStarted := h.handlerStarted
  queueLt := h.queueLt
  queueInj := h.queueInj
  keyed := h.keyed
  sessionHandler := h.sessionHandler

/-- What is left of the connections after a disconnect. -/
theorem disconnection_apply (t t' : ClientId) :
    (b.closeMgwcpConnection t).mgwcpConnections t' = if t' = t then none else b.mgwcpConnections t' := by
  unfold closeMgwcpConnection
  cases hc : b.mgwcpConnections t with
  | none =>
      dsimp only
      split_ifs with ht
      · rw [ht, hc]
      · rfl
  | some conn =>
      dsimp only
      split_ifs <;> simp_all

theorem disconnection_sessions (t : ClientId) :
    b.sessionManager.Descends (b.closeMgwcpConnection t).sessionManager ∧
      (b.closeMgwcpConnection t).transportHandlers = b.transportHandlers ∧
      (b.closeMgwcpConnection t).nextQueue = b.nextQueue ∧
      (b.closeMgwcpConnection t).routingTable = b.routingTable := by
  unfold closeMgwcpConnection
  cases b.mgwcpConnections t with
  | none => exact ⟨.refl _, rfl, rfl, rfl⟩
  | some conn =>
      dsimp only
      split_ifs
      · exact ⟨.refl _, rfl, rfl, rfl⟩
      · exact ⟨b.sessionManager.descends_cleanup _, rfl, rfl, rfl⟩

theorem WellFormed.disconnect (h : WellFormed b) (t : ClientId) :
    WellFormed { b.closeMgwcpConnection t with serverClients := b.serverClients.filter (· ≠ t) } := by
  obtain ⟨hsess, hhandlers, hqueue, -⟩ := b.disconnection_sessions t
  have h₁ := h.descend hsess
  refine ⟨?_, ?_, ?_, ?_, ?_, ?_, ?_, h₁.keyed, ?_⟩
  · intro t'
    dsimp only
    rw [disconnection_apply]
    split_ifs with ht
    · simp [ht]
    · simp [ht, h.connected t']
  · intro t' conn hc
    dsimp only at hc
    rw [disconnection_apply] at hc
    split_ifs at hc
    exact h.validId t' conn hc
  · intro t' conn hc hs
    dsimp only at hc ⊢
    rw [disconnection_apply] at hc
    split_ifs at hc
    rw [hhandlers]
    exact h.operational t' conn hc hs
  · dsimp only; rw [hhandlers]; exact h.handlerValid
  · dsimp only; rw [hhandlers]; exact h.handlerStarted
  · dsimp only; rw [hhandlers, hqueue]; exact h.queueLt
  · dsimp only; rw [hhandlers]; exact h.queueInj
  · dsimp only; rw [hhandlers]; exact h₁.sessionHandler

theorem WellFormed.effect (h : WellFormed b) {env : Env} {e : Event} {b' : Bridge} (he : b.Effect env e b') :
    WellFormed b' := by
  cases he with
  | idle e senders omConnected terminated => exact h.of_eq rfl rfl rfl rfl rfl
  | connected t clientIp ht => exact h.connect clientIp
  | threadEnded e t conn ht hconn =>
      exact h.putConnection _ hconn (h.validId t conn hconn) (h.operational t conn hconn)
  | accepted t message conn c seqNum code payload b' hrecv hmsg hb' =>
      obtain ⟨ht, hconn⟩ := receiving_eq_some hrecv
      have hacc := MGWCPConnection.receive_accepted hmsg
      have hvalid : isValidComponentId c = true := by
        rcases MGWCPConnection.acceptsComponentId_iff.mp hacc with ⟨-, hv⟩ | ⟨hne, rfl⟩
        · exact hv
        · exact (h.validId t conn hconn).resolve_left hne
      exact (h.identified hconn hacc).dispatch (identified_apply hconn hacc) hvalid hb'
  | disconnected t ht => exact h.disconnect t
  | approved message r senders hlive hom hcode hid =>
      exact (h.descend (descends_approveSession r (message.get "payload"))).of_eq rfl rfl rfl rfl rfl
  | denied message r hlive hom hcode hid => exact h.descend (b.sessionManager.descends_removeSession r)
  | worked c event handler hh => exact h.moveHandler hh (handler.sameEndpoint_worker b.routingTable event)

theorem WellFormed.step (h : WellFormed b) (env : Env) (e : Event) : WellFormed (b.step env e).1 :=
  h.effect (step_effect env e)

/-- **Every reachable state is well-formed.** -/
theorem reachable_wellFormed (h : Reachable b) : WellFormed b := by
  obtain ⟨g, inputs, rfl⟩ := h
  exact Run.run_invariant_of_step next (fun s i hs => hs.step i.1 i.2) inputs _ (wellFormed_init g)

/-! ## A small run -/

/-- One task: `201` to the MEC, `202` back. -/
def sampleConfig : GlobalConfig :=
  ⟨[⟨7, "string_test", [201], [202]⟩], fun taskId => if taskId = 7 then some 0 else none⟩

/-- Every send succeeds. -/
def allSent (now : Nat) : Env := ⟨now, fun _ _ => true, true⟩

def atTime (now : Nat) (e : Event) : Env × Event := (allSent now, e)

/-- Gateway `c` connects as client `t` and reports its data plane. -/
def joins (t : ClientId) (c ip : String) : List (Env × Event) :=
  [atTime 0 (.connect t ip), atTime 0 (.message t (Protocol.dpInfo c "0.0.0.0" 6000 1))]

/-- A VHC and a MEC join and the VHC's request is approved. -/
def sampleRun : List (Env × Event) :=
  joins 4 "60:5" "10.0.0.5" ++ joins 5 "70:1" "10.0.0.7" ++
    [atTime 1 (.message 4 (Protocol.offloadRequest "60:5" "1" 7 "string_test" "" 2)),
      atTime 2 (.omMessage (Protocol.sessionApproved 1 (.int 1) "70:1" (.int 7)))]

example : ((Run.run next (init sampleConfig) sampleRun).sessionManager.getSession "1").map
    ActiveSession.routingRulesCreated = some true := by decide +kernel

end Bridge

end EdgeOffloading
