import EdgeOffloading.Bridge.Confirmation
import EdgeOffloading.Gateway.Steps

/-!
# A gateway and its Bridge connection

A networked gateway process and the Bridge, with everything that was ever sent between them: a message that was sent may
arrive at any time, in any order and any number of times. The Bridge goes on with its other gateways and the OM.

* `Inv`: what is known of the Bridge's connection from each message under way;
* `operational_agreement`: an operational gateway has an operational connection with a transport handler, at most one
  confirmation gets a sequence number, and no request is dropped because the connection is not operational.
-/

namespace EdgeOffloading

structure Link where
  bridge : Bridge
  gateway : GatewayProcess
  /-- All messages that the gateway has sent on the connection. -/
  toBridge : List Json := []
  /-- All messages that the Bridge has sent on the connection. -/
  toGateway : List Json := []
  /-- The sequence numbers that the Bridge allocated for a DP_CONNECTION_CONFIRMED. -/
  confirmations : Nat := 0

namespace Link

inductive Label where
  | gateway (e : GatewayProcess.Event)
  | bridge (env : Env) (e : Event)
  /-- A message that the Bridge has sent arrives, for the first time or again. -/
  | gatewayReceives (i : Nat) (now : Nat)
  /-- A message that the gateway has sent arrives, for the first time or again. -/
  | bridgeReceives (env : Env) (i : Nat)

/-- What of an output goes to client `t`. -/
def sentTo (t : ClientId) : Output → Option Json
  | .sendTo t' message true => if t' = t then some message else none
  | _ => none

variable (t : ClientId) (s : Link)

def gatewaySteps (e : GatewayProcess.Event) : Link :=
  { s with gateway := (s.gateway.step e).1, toBridge := s.toBridge ++ (s.gateway.step e).2 }

def bridgeSteps (env : Env) (e : Event) : Link :=
  { s with
    bridge := (s.bridge.step env e).1
    toGateway := s.toGateway ++ (s.bridge.step env e).2.filterMap (sentTo t)
    confirmations := s.confirmations + (s.bridge.step env e).2.countP (·.allocates t) }

/-- The connection is that of client `t` and is not closed. -/
def step (s : Link) : Label → Link
  | .gateway (.receive _ _) => s
  | .gateway e => s.gatewaySteps e
  | .bridge env (.message t' message) => if t' = t then s else s.bridgeSteps t env (.message t' message)
  | .bridge env (.disconnect t') => if t' = t then s else s.bridgeSteps t env (.disconnect t')
  | .bridge env e => s.bridgeSteps t env e
  | .gatewayReceives i now =>
    match s.toGateway[i]? with
    | none => s
    | some message => s.gatewaySteps (.receive message now)
  | .bridgeReceives env i =>
    match s.toBridge[i]? with
    | none => s
    | some message => s.bridgeSteps t env (.message t message)

/-- The gateway starts and will connect to a Bridge that runs. -/
def start (bridge : Bridge) (componentType : ComponentType) (componentId : String) (dataPlaneListenPort : Int) :
    Link where
  bridge := bridge
  gateway := { controller := { componentType, operationMode := .networked, componentId, dataPlaneListenPort } }

/-- The Bridge's connection of the gateway is operational. -/
def Up : Prop := ∃ conn, s.bridge.mgwcpConnections t = some conn ∧ conn.state = .operational

/-- What gateway and Bridge know of each other. -/
structure Agree (componentId : String) : Prop where
  operational : s.gateway.controller.state = .operational →
    ∃ conn handler, s.bridge.mgwcpConnections t = some conn ∧ conn.state = .operational ∧
      conn.componentId = componentId ∧ s.bridge.transportHandlers componentId = some handler
  confirmations : s.confirmations ≤ 1
  /-- A request that arrives now finds the connection operational. -/
  requests : ∀ message ∈ s.toBridge, (message.get "message_code").asInt = some 100 →
    ∃ conn, s.bridge.mgwcpConnections t = some conn ∧ conn.state = .operational

/-! ## The invariant -/

/-- A confirmation under way, an operational gateway and its requests all mean that the connection is operational. -/
structure Inv (componentId : String) : Prop where
  wellFormed : s.bridge.WellFormed
  pointOk : GatewayProcess.PointOk s.gateway.point s.gateway.controller.state
  identity : s.gateway.controller.componentId = componentId
  networked : s.gateway.controller.operationMode = .networked
  notAccepted : s.gateway.accepted = false
  connection : ∀ conn, s.bridge.mgwcpConnections t = some conn → conn.componentId = "" ∨ conn.componentId = componentId
  toBridge : ∀ message ∈ s.toBridge, (message.get "message_code").asInt = some 900 ∨
    (message.get "component_id").asString = some componentId
  requests : ∀ message ∈ s.toBridge, (message.get "message_code").asInt = some 100 → s.Up t
  pending : (∃ conn, s.bridge.mgwcpConnections t = some conn) →
    ∀ p ∈ (s.bridge.senders t).pendingAcks, ConfirmsDp p.2.message → s.Up t
  toGateway : ∀ message ∈ s.toGateway, ConfirmsDp message → s.Up t
  operational : s.gateway.controller.state = .operational → s.Up t
  confirmations : s.confirmations ≤ 1
  confirmed : 0 < s.confirmations → s.Up t

variable {t s} {componentId : String}

theorem inv_start {b : Bridge} (hb : b.Reachable) (ht : t ∉ b.serverClients) (componentType : ComponentType)
    (componentId : String) (dataPlaneListenPort : Int) :
    (start b componentType componentId dataPlaneListenPort).Inv t componentId := by
  have hwf := Bridge.reachable_wellFormed hb
  have hnone : ∀ conn, b.mgwcpConnections t ≠ some conn := fun conn hconn => ht ((hwf.connected t).mpr ⟨conn, hconn⟩)
  refine
    ⟨hwf, trivial, rfl, rfl, rfl, fun conn hconn => absurd hconn (hnone conn), ?_, ?_, ?_, ?_, ?_, Nat.zero_le _, ?_⟩
  · exact fun _ h => absurd h List.not_mem_nil
  · exact fun _ h => absurd h List.not_mem_nil
  · rintro ⟨conn, hconn⟩
    exact absurd hconn (hnone conn)
  · exact fun _ h => absurd h List.not_mem_nil
  · intro h
    cases h
  · exact fun h => absurd h (Nat.lt_irrefl 0)

theorem Inv.agree (h : s.Inv t componentId) : s.Agree t componentId where
  operational hop := by
    obtain ⟨conn, hconn, hstate⟩ := h.operational hop
    obtain ⟨hid, handler, hhandler⟩ := h.wellFormed.operational t conn hconn hstate
    have hcomponent := (h.connection conn hconn).resolve_left hid
    exact ⟨conn, handler, hconn, hstate, hcomponent, hcomponent ▸ hhandler⟩
  confirmations := h.confirmations
  requests := h.requests

/-! ## The gateway takes a step -/

theorem Inv.gatewaySteps (h : s.Inv t componentId) {e : GatewayProcess.Event}
    (he : ∀ message now, e = .receive message now → message ∈ s.toGateway) : (s.gatewaySteps e).Inv t componentId := by
  have hidentity := GatewayProcess.identity_step h.pointOk e
  have hsends := GatewayProcess.sends_step h.pointOk e
  refine ⟨h.wellFormed, (GatewayProcess.consistent_step h.pointOk e).1, hidentity.1.trans h.identity,
    hidentity.2.trans h.networked, GatewayProcess.accepted_step h.pointOk h.networked h.notAccepted e, h.connection,
    ?_, ?_, h.pending, h.toGateway, ?_, h.confirmations, h.confirmed⟩
  · intro message hmem
    rcases List.mem_append.mp hmem with hold | hnew
    · exact h.toBridge message hold
    · rcases hsends message hnew with hack | ⟨hid, -⟩
      · exact Or.inl hack
      · exact Or.inr (h.identity ▸ hid)
  · intro message hmem hcode
    rcases List.mem_append.mp hmem with hold | hnew
    · exact h.requests message hold hcode
    · rcases hsends message hnew with hack | ⟨-, hop⟩
      · rw [hack] at hcode
        cases hcode
      · exact h.operational (hop hcode)
  · intro hop
    rcases GatewayProcess.operational_step h.pointOk h.networked h.notAccepted hop with
      hbefore | ⟨message, now, rfl, hcode⟩
    · exact h.operational hbefore
    · exact h.toGateway message (he message now rfl) hcode

/-! ## The Bridge takes a step -/

theorem mem_sentTo {outputs : List Output} {message : Json} (h : message ∈ outputs.filterMap (sentTo t)) :
    Output.sendTo t message true ∈ outputs := by
  obtain ⟨o, ho, hsent⟩ := List.mem_filterMap.mp h
  unfold sentTo at hsent
  split at hsent
  · split_ifs at hsent with ht
    cases hsent
    exact ht ▸ ho
  · cases hsent

theorem Up.bridgeSteps (h : s.Inv t componentId) (hup : s.Up t) (env : Env) {e : Event} (he : e ≠ .disconnect t) :
    (s.bridgeSteps t env e).Up t := by
  obtain ⟨conn, hconn, hstate⟩ := hup
  obtain ⟨after, hafter, hkeeps, -⟩ := Bridge.connection_step h.wellFormed hconn env he
  exact ⟨after, hafter, hkeeps hstate⟩

theorem Inv.connection_step (h : s.Inv t componentId) (env : Env) {e : Event} (hdisc : e ≠ .disconnect t)
    (hmsg : ∀ message, e = .message t message → message ∈ s.toBridge) {after : MGWCPConnection}
    (hafter : (s.bridge.step env e).1.mgwcpConnections t = some after) :
    after.componentId = "" ∨ after.componentId = componentId := by
  cases hconn : s.bridge.mgwcpConnections t with
  | none => exact Or.inl (Bridge.connection_new hconn env e hafter).1
  | some conn =>
      obtain ⟨after', hafter', -, hid⟩ := Bridge.connection_step h.wellFormed hconn env hdisc
      cases hafter.symm.trans hafter'
      rcases hid with hsame | ⟨message, seqNum, code, payload, rfl, hrecv⟩
      · rw [hsame]
        exact h.connection conn hconn
      · -- the message that binds the id is one of the gateway
        obtain ⟨-, hcomponent, hcode, -⟩ := MGWCPConnection.receive_accepted_fields hrecv
        rcases h.toBridge message (hmsg message rfl) with hack | hown
        · rw [hcode] at hack
          exact absurd (Option.some.inj hack) (MGWCPConnection.receive_accepted_code_ne hrecv)
        · rw [hcomponent] at hown
          exact Or.inr (Option.some.inj hown)

theorem Inv.bridgeSteps (h : s.Inv t componentId) (env : Env) {e : Event} (hdisc : e ≠ .disconnect t)
    (hmsg : ∀ message, e = .message t message → message ∈ s.toBridge) : (s.bridgeSteps t env e).Inv t componentId := by
  have hup : s.Up t → (s.bridgeSteps t env e).Up t := fun hup => hup.bridgeSteps h env hdisc
  have hwf := h.wellFormed.step env e
  have hconn : ∀ after, (s.bridge.step env e).1.mgwcpConnections t = some after →
      after.componentId = "" ∨ after.componentId = componentId :=
    fun _ hafter => h.connection_step env hdisc hmsg hafter
  rcases Bridge.step_quiet_or_confirms (b := s.bridge) t env e with hquiet | hconfirms
  · have hconfirmations : (s.bridgeSteps t env e).confirmations = s.confirmations := by
      show s.confirmations + (s.bridge.step env e).2.countP (·.allocates t) = _
      rw [hquiet.countP_eq_zero, Nat.add_zero]
    refine ⟨hwf, h.pointOk, h.identity, h.networked, h.notAccepted, hconn, h.toBridge,
      fun message hm hcode => hup (h.requests message hm hcode), ?_, ?_, fun hop => hup (h.operational hop), ?_, ?_⟩
    · rintro ⟨after, hafter⟩ p hp hconf
      cases hbefore : s.bridge.mgwcpConnections t with
      | none =>
          have hp : p ∈ ((s.bridge.step env e).1.senders t).pendingAcks := hp
          rw [(Bridge.connection_new hbefore env e hafter).2] at hp
          cases hp
      | some conn =>
          obtain ⟨p₀, hp₀, hconf₀⟩ := hquiet.pending p hp hconf
          exact hup (h.pending ⟨conn, hbefore⟩ p₀ hp₀ hconf₀)
    · intro message hm hconf
      rcases List.mem_append.mp hm with hold | hnew
      · exact hup (h.toGateway message hold hconf)
      · obtain ⟨hconnected, p₀, hp₀, hconf₀⟩ := hquiet.sent message true (mem_sentTo hnew) hconf
        exact hup (h.pending hconnected p₀ hp₀ hconf₀)
    · rw [hconfirmations]
      exact h.confirmations
    · rw [hconfirmations]
      exact fun hpos => hup (h.confirmed hpos)
  · -- the one place where a confirmation is made up: the connection was not operational, so there was none before
    obtain ⟨⟨conn, hbefore, hconnecting⟩, hoperational, hcount⟩ := hconfirms
    have hafter : (s.bridgeSteps t env e).Up t := hoperational
    have hnone : s.confirmations = 0 := by
      by_contra hne
      obtain ⟨conn', hconn', hstate⟩ := h.confirmed (Nat.pos_of_ne_zero hne)
      cases hbefore.symm.trans hconn'
      rw [hconnecting] at hstate
      cases hstate
    refine ⟨hwf, h.pointOk, h.identity, h.networked, h.notAccepted, hconn, h.toBridge, fun _ _ _ => hafter,
      fun _ _ _ _ => hafter, fun _ _ _ => hafter, fun _ => hafter, ?_, fun _ => hafter⟩
    show s.confirmations + (s.bridge.step env e).2.countP (·.allocates t) ≤ 1
    rw [hnone, hcount]

/-! ## Runs -/

theorem Inv.step (h : s.Inv t componentId) (label : Label) : (s.step t label).Inv t componentId := by
  cases label with
  | gateway e =>
      cases e with
      | receive message now => exact h
      | _ => exact h.gatewaySteps fun message now he => by cases he
  | bridge env e =>
      cases e with
      | message t' message =>
          unfold Link.step
          dsimp only
          split_ifs with ht
          · exact h
          · exact h.bridgeSteps env (fun he => by cases he) fun message' he => by cases he; exact absurd rfl ht
      | disconnect t' =>
          unfold Link.step
          dsimp only
          split_ifs with ht
          · exact h
          · exact h.bridgeSteps env (fun he => by cases he; exact absurd rfl ht) fun message' he => by cases he
      | _ => exact h.bridgeSteps env (fun he => by cases he) fun message' he => by cases he
  | gatewayReceives i now =>
      unfold Link.step
      dsimp only
      cases hi : s.toGateway[i]? with
      | none => exact h
      | some message =>
          refine h.gatewaySteps fun message' now' he => ?_
          cases he
          exact List.mem_of_getElem? hi
  | bridgeReceives env i =>
      unfold Link.step
      dsimp only
      cases hi : s.toBridge[i]? with
      | none => exact h
      | some message =>
          refine h.bridgeSteps env (fun he => by cases he) fun message' he => ?_
          cases he
          exact List.mem_of_getElem? hi

/-- **Gateway and Bridge agree**, whatever order the messages arrive in and however often: an operational gateway has an
operational connection with a transport handler for it, the connection gets one confirmation at most, and no request of
the gateway is dropped because the connection is not operational. -/
theorem operational_agreement {b : Bridge} (hb : b.Reachable) (ht : t ∉ b.serverClients) (componentType : ComponentType)
    (componentId : String) (dataPlaneListenPort : Int) (labels : List Label) :
    (Run.run (Link.step t) (start b componentType componentId dataPlaneListenPort) labels).Agree t componentId := by
  have hinv := Run.run_invariant_of_step (Link.step t) (I := fun s => s.Inv t componentId)
    (fun _ label hs => hs.step label) labels _ (inv_start hb ht componentType componentId dataPlaneListenPort)
  exact hinv.agree

/-- A gateway connects, announces its data plane and is confirmed; DP_INFO and the confirmation arrive twice. -/
def handshake : List Label :=
  let control : Label := .gateway (.control {})
  [control, control, control, control, control, .gateway (.discovered (some [])), control, control,
    .bridge (Bridge.allSent 0) (.connect 5 "10.0.0.5"), control, control, .bridgeReceives (Bridge.allSent 1) 0,
    .bridgeReceives (Bridge.allSent 2) 0, .gatewayReceives 1 3, .gatewayReceives 1 4]

def afterHandshake : Link :=
  Run.run (Link.step 5) (start (Bridge.init Bridge.sampleConfig) .vhc "60:5" 7401) handshake

theorem operational_agreement_sample :
    afterHandshake.gateway.controller.state = .operational ∧ afterHandshake.Agree 5 "60:5" :=
  ⟨by decide +kernel, operational_agreement ⟨Bridge.sampleConfig, [], rfl⟩ List.not_mem_nil .vhc "60:5" 7401 handshake⟩

end Link

end EdgeOffloading
