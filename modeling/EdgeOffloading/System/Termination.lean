import EdgeOffloading.Bridge.Relay
import EdgeOffloading.Bridge.Routes
import EdgeOffloading.System.Retransmission

/-!
# Termination of a session

A `SESSION_TERMINATE_REQUEST` has the code that the OM takes for a keepalive. The Bridge relays it and waits for an
answer; the OM touches at most a timestamp and sends none. Sessions of the OM go away only by a failure report, and the
Bridge sends none.

* `terminate_relayed`: the step of the Bridge;
* `active_run`: no run of the system takes a session away from the OM;
* `terminate_releases_nothing`: so a termination releases nothing, then or later.
-/

namespace EdgeOffloading

open Bridge (relayed)

theorem OffloadingManager.isActive_processMessage {om : OffloadingManager} {key : PyKey} (h : om.isActive key = true)
    {message : Json} (hfailure : (message.get "message_code").eqInt 301 = false) (env : ManagerEnv) :
    (om.processMessage message env).1.isActive key = true := by
  unfold processMessage
  split
  · exact h
  · split
    · rename_i fields _
      dsimp only
      split
      · unfold handleOffloadRequest
        split
        · exact h
        · dsimp only
          rcases om.makeDecision_cases (coerceInt ((Json.obj fields).get "request_id"))
            (coerceInt ((Json.obj fields).get "task_id")) ((Json.obj fields).get "mgwcp_component_id") env with
            hsame | ⟨key', mec, -, -, -, -, -, -, heq, -⟩
          · rw [hsame]
            exact h
          · rw [heq]
            show (om.activeSessions ++ [_]).any _ = true
            rw [List.any_append]
            exact Bool.or_eq_true_iff.mpr (.inl h)
      · split
        · show (om.activeSessions.map _).any _ = true
          rw [List.any_map]
          exact h
        · rw [if_neg (by rw [hfailure]; decide)]
          exact h
    · exact h

namespace System

/-- The stores of the OM and the Bridge without the request `r`, which had this session. -/
structure Released (s : System) (r : String) (session : ActiveSession) : Prop where
  manager : ∀ key, pyKey (coerceInt (.str r)) = some key → s.om.isActive key = false
  mec : s.om.isFree session.assignedMecId = true
  bridge : s.bridge.sessionManager.getSession r = none
  routes : ∀ k q, (k, q) ∈ Bridge.routesOf s.bridge.transportHandlers session →
    q ∉ s.bridge.routingTable.getDestinations k

/-- The request `r` of the VHC `c`, connected as client `t`, is approved. -/
structure ApprovedSession (s : System) (t : ClientId) (c r : String) (session : ActiveSession) : Prop where
  live : s.bridge.terminated = false
  linked : s.bridge.omConnected = true
  connected : ∃ conn, s.bridge.receiving t = some conn ∧ conn.componentId = c ∧ c ≠ ""
  stored : s.bridge.sessionManager.getSession r = some session
  owner : session.mgwcpComponentId = c
  active : ∃ key, pyKey (coerceInt (.str r)) = some key ∧ s.om.isActive key = true

variable {s : System}

/-! ## The OM keeps its sessions -/

/-- No failure report is on its way to the OM. -/
def NoFailureReport (s : System) : Prop := ∀ p ∈ s.toOm, (p.1.get "message_code").eqInt 301 = false

theorem noFailureReport_transmit (h : s.NoFailureReport) {b : Bridge} {env : Env} {e : Event} (again : Bool) :
    (s.transmit (b.step env e) again).NoFailureReport := by
  intro p hp
  rcases List.mem_append.mp hp with hp | hp
  · exact h p hp
  · obtain ⟨m, hm, rfl⟩ := List.mem_map.mp hp
    obtain ⟨o, ho, heq⟩ := List.mem_filterMap.mp hm
    cases o with
    | om message =>
        cases heq
        obtain ⟨t, message, rfl⟩ := Bridge.no_relay_of_event ho
        obtain ⟨c, code, type, -, -, hcode, rfl⟩ := Bridge.relayed_of_message ho
        rw [Bridge.relayed_code]
        have hne : code ≠ 301 := by
          simp only [Bridge.relayedCodes, List.mem_cons, Prod.mk.injEq, List.not_mem_nil, or_false] at hcode
          omega
        simp [Json.eqInt, hne]
    | reliable t message => cases heq
    | sendTo t message ok => cases heq
    | routed message => cases heq

theorem remember_toOm (s : System) (e : Event) : (s.remember e).toOm = s.toOm ∧ (s.remember e).om = s.om := by
  unfold remember
  split
  · split <;> exact ⟨rfl, rfl⟩
  · split <;> exact ⟨rfl, rfl⟩
  · exact ⟨rfl, rfl⟩

theorem noFailureReport_step (label : Label) (h : s.NoFailureReport) : (s.step label).NoFailureReport := by
  cases label with
  | event env e =>
      have hremember : (s.remember e).NoFailureReport := by
        unfold NoFailureReport
        rw [(s.remember_toOm e).1]
        exact h
      cases e with
      | omMessage message => exact h
      | _ => exact noFailureReport_transmit hremember false
  | again env t message => exact noFailureReport_transmit h true
  | omReceives env =>
      unfold step
      dsimp only
      split
      · exact h
      · rename_i htoOm
        exact fun p hp => h p (htoOm ▸ List.mem_cons_of_mem _ hp)
  | bridgeReceives env =>
      unfold step
      dsimp only
      split
      · exact h
      · rename_i rest _
        exact noFailureReport_transmit (s := { s with toBridge := rest }) h false
  | gatewayReceives t =>
      unfold step
      dsimp only
      split <;> exact h
  | teardown t requestId => exact h
  | availableMecs mecs => exact h

theorem active_step {key : PyKey} (label : Label) (hquiet : s.NoFailureReport) (h : s.om.isActive key = true) :
    (s.step label).om.isActive key = true := by
  cases label with
  | event env e =>
      have hremember : (s.remember e).om.isActive key = true := by
        rw [(s.remember_toOm e).2]
        exact h
      cases e with
      | omMessage message => exact h
      | _ => exact hremember
  | again env t message => exact h
  | omReceives env =>
      unfold step
      dsimp only
      split
      · exact h
      · rename_i message marked rest htoOm
        have hfirst := hquiet (message, marked) (htoOm ▸ List.mem_cons_self)
        exact OffloadingManager.isActive_processMessage h hfirst env
  | bridgeReceives env =>
      unfold step
      dsimp only
      split <;> exact h
  | gatewayReceives t =>
      unfold step
      dsimp only
      split <;> exact h
  | teardown t requestId => exact h
  | availableMecs mecs => exact h

theorem noFailureReport_run (g : GlobalConfig) (om : OffloadingManager) (labels : List Label) :
    (Run.run step (init g om) labels).NoFailureReport :=
  Run.run_invariant_of_step step (I := NoFailureReport) (fun _ label h => noFailureReport_step label h) labels _
    fun _ h => absurd h List.not_mem_nil

/-- **No run of the system takes a session away from the OM.** -/
theorem active_run {key : PyKey} (hquiet : s.NoFailureReport) (hactive : s.om.isActive key = true)
    (labels : List Label) : (Run.run step s labels).om.isActive key = true :=
  (Run.run_invariant_of_step step (I := fun s => s.NoFailureReport ∧ s.om.isActive key = true)
    (fun _ label h => ⟨noFailureReport_step label h.1, active_step label h.1 h.2⟩) labels s ⟨hquiet, hactive⟩).2

/-! ## The request on its way -/

/-- The request as the OM gets it. -/
def relayedTermination (c r : String) : Json :=
  relayed c 102 "SESSION_TERMINATE_REQUEST" (.obj [("request_id", .str r)])

theorem terminate_relayed {b : Bridge} {t : ClientId} {conn : MGWCPConnection} {c : String}
    (hlive : b.terminated = false) (hom : b.omConnected = true) (hrecv : b.receiving t = some conn)
    (hconn : conn.componentId = c) (hc : c ≠ "") (env : Env) (hsend : env.omSendOk = true) (r : String) (n : Nat) :
    b.step env (.message t (Protocol.sessionTerminateRequest c r n)) =
      (b, b.sendAck t c (seqNumOf ((n : Int).bmod (2 ^ 32))) env ++ [.om (relayedTermination c r)]) := by
  have hreceive : conn.receive (Protocol.sessionTerminateRequest c r n) =
      .accepted c (seqNumOf ((n : Int).bmod (2 ^ 32))) 102 (.obj [("request_id", .str r)]) := by
    have haccepts : conn.acceptsComponentId c = true := by
      rw [MGWCPConnection.acceptsComponentId_iff]
      exact .inr ⟨hconn ▸ hc, hconn⟩
    show (if conn.acceptsComponentId c = true then _ else _) = _
    rw [if_pos haccepts]
    rfl
  have hsent : b.sendOmMessage (relayedTermination c r) env = (b.omConnected, [.om (relayedTermination c r)]) := by
    rw [Bridge.sendOmMessage_sent _ hsend, if_pos hom]
  have hforward : b.forwardMessageToOm c
      (forwardMessage c 102 "SESSION_TERMINATE_REQUEST" (.obj [("request_id", .str r)])) env =
        some (b, [.om (relayedTermination c r)]) := by
    show some ({ b with omConnected := (b.sendOmMessage (relayedTermination c r) env).1 },
      (b.sendOmMessage (relayedTermination c r) env).2) = _
    rw [hsent]
  have hself : { conn with componentId := c } = conn := by rw [← hconn]
  rw [Bridge.step, if_neg (by rw [hlive]; decide), hrecv]
  show b.handleReceivedMessage t conn (Protocol.sessionTerminateRequest c r n) env = _
  rw [Bridge.handleReceivedMessage, hreceive]
  dsimp only
  rw [if_neg (hconn ▸ hc), hself]
  show ((b.handleSessionTerminateRequest t conn (.obj [("request_id", .str r)]) env).1,
    _ ++ (b.handleSessionTerminateRequest t conn (.obj [("request_id", .str r)]) env).2) = _
  have hhandled : b.handleSessionTerminateRequest t conn (.obj [("request_id", .str r)]) env =
      (b, [.om (relayedTermination c r)]) := by
    show b.orEndThread t conn (b.forwardMessageToOm conn.componentId
      (forwardMessage conn.componentId 102 "SESSION_TERMINATE_REQUEST" (.obj [("request_id", .str r)])) env) = _
    rw [hconn, hforward]
    rfl
  rw [hhandled]

theorem forget_relayedTermination (om : OffloadingManager) (c r : String) (env : ManagerEnv) :
    (om.processMessage (relayedTermination c r) env).1.forget = om.forget ∧
      (om.processMessage (relayedTermination c r) env).2 = [] :=
  om.forget_keepalive env rfl rfl

/-- **A termination releases nothing**: the Bridge keeps its session and its routes and relays the request, the OM takes
it for a keepalive and answers nothing, and the OM has the session for ever after. -/
theorem terminate_releases_nothing (g : GlobalConfig) (om : OffloadingManager) (labels : List Label) {t : ClientId}
    {c r : String} {session : ActiveSession} (h : (Run.run step (init g om) labels).ApprovedSession t c r session)
    (env : Env) (n : Nat) :
    let s := Run.run step (init g om) labels
    let requested := s.step (.event env (.message t (Protocol.sessionTerminateRequest c r n)))
    SameOutcome s requested ∧ requested.toOm = s.toOm ++ [(relayedTermination c r, false)] ∧
      (∀ (om' : OffloadingManager) (menv : ManagerEnv),
        (om'.processMessage (relayedTermination c r) menv).1.forget = om'.forget ∧
          (om'.processMessage (relayedTermination c r) menv).2 = []) ∧
      ∀ labels', ¬ (Run.run step requested labels').Released r session := by
  intro s requested
  obtain ⟨conn, hrecv, hconn, hc⟩ := h.connected
  obtain ⟨key, hkey, hactive⟩ := h.active
  have hstep := terminate_relayed h.live h.linked hrecv hconn hc (sending env) rfl r n
  have hquiet : s.NoFailureReport := noFailureReport_run g om labels
  have hbridge : requested.bridge = s.bridge := congrArg Prod.fst hstep
  refine ⟨⟨fun r' => ?_, ?_, rfl, rfl⟩, ?_, fun om' menv => forget_relayedTermination om' c r menv,
    fun labels' hreleased => ?_⟩
  · rw [hbridge]
  · rw [hbridge]
  · have hack : (s.bridge.sendAck t c (seqNumOf ((n : Int).bmod (2 ^ 32))) (sending env)).filterMap Output.toOm =
        [] := by
      unfold Bridge.sendAck
      split <;> rfl
    show (s.remember _).toOm ++ ((s.bridge.step (sending env) _).2.filterMap Output.toOm).map _ = _
    rw [(s.remember_toOm _).1, hstep, List.filterMap_append, hack]
    rfl
  · have hquiet' : requested.NoFailureReport := noFailureReport_step _ hquiet
    have hactive' : requested.om.isActive key = true := active_step _ hquiet hactive
    have hstill := active_run hquiet' hactive' labels'
    rw [hreleased.manager key hkey] at hstill
    cases hstill

/-- The session of the sample run after its approval. -/
def sampleSession : ActiveSession where
  requestId := "1"
  mgwcpComponentId := "60:5"
  taskId := 7
  taskName := "string_test"
  inputMessageTypes := [201]
  outputMessageTypes := [202]
  assignedMecId := "70:1"
  lastKeepalive := 1
  createdAt := 1
  routingRulesCreated := true

theorem sample_approvedSession :
    (Run.run step (init Bridge.sampleConfig sampleManager) sampleLabels).ApprovedSession 4 "60:5" "1"
      sampleSession where
  live := by decide +kernel
  linked := by decide +kernel
  connected :=
    ⟨{ connectionId := 1, clientIp := "10.0.0.5", componentId := "60:5", state := .operational, dpHost := "10.0.0.5",
       dpPort := 6000, running := true, threadAlive := true }, by decide +kernel, rfl, by decide⟩
  stored := by decide +kernel
  owner := rfl
  active := ⟨.num 1, rfl, by decide +kernel⟩

theorem terminate_releases_nothing_sample :
    ¬ (Run.run step (init Bridge.sampleConfig sampleManager) (sampleLabels ++
      [sampleEvent 3 (.message 4 (Protocol.sessionTerminateRequest "60:5" "1" 3)),
        .omReceives sampleManagerEnv])).Released "1" sampleSession := by
  have h := (terminate_releases_nothing Bridge.sampleConfig sampleManager sampleLabels sample_approvedSession
    (Bridge.allSent 3) 3).2.2.2 [.omReceives sampleManagerEnv]
  rw [Run.run_append, Run.run_cons, sampleEvent]
  exact h

/-- Everything is still there when the request has been processed and no message is left. -/
theorem termination_processed_not_released :
    let s := Run.run step (init Bridge.sampleConfig sampleManager) (sampleLabels ++
      [sampleEvent 3 (.message 4 (Protocol.sessionTerminateRequest "60:5" "1" 3)), .omReceives sampleManagerEnv])
    s.toOm.isEmpty = true ∧ s.toBridge.isEmpty = true ∧ s.om.isActive (.num 1) = true ∧
      s.bridge.sessionManager.getSession "1" = some sampleSession ∧
      s.bridge.routingTable.getDestinations ⟨0x3C05, 201⟩ ≠ [] ∧ ¬ s.Released "1" sampleSession := by
  intro s
  have hactive : s.om.isActive (.num 1) = true := by decide +kernel
  refine ⟨by decide +kernel, by decide +kernel, hactive, by decide +kernel, by decide +kernel, fun h => ?_⟩
  rw [h.manager (.num 1) rfl] at hactive
  cases hactive

end System

end EdgeOffloading
