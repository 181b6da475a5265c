import EdgeOffloading.Gateway.Approval
import EdgeOffloading.Gateway.Process

/-!
# Steps of the gateway process

Everything a step of a thread can do, so that an invariant of the process is proved by cases on it.

* `Handled`, `Controlled`, `Stepped`: what the handling of a message, a step of the control thread and any step can do,
  with the guards under which they do it;
* `consistent_step`: which states the controller can be in at each point of the control thread, and how a step changes
  the state;
* `operational_step`, `sends_step`: how a networked gateway becomes operational, and what it sends.
-/

namespace EdgeOffloading

/-! ## What the handlers change -/

namespace GatewayController

variable {c : GatewayController}

/-- What the handling of a message can do to the controller, where it may confirm the data plane only if `P`. -/
inductive Handled (P : Prop) (c : GatewayController) : GatewayController → Prop where
  | sessions (activeSessions : String → Option SessionState) (gateway : RosGateway) (client : Option BridgeCpClient)
      (terminated : Bool) :
      Handled P c
        { c with activeSessions := activeSessions, gateway := gateway, bridgeCpClient := client,
                 terminated := terminated }
  | confirmed (activeSessions : String → Option SessionState) (gateway : RosGateway) (terminated : Bool) (h : P)
      (hstate : c.state = .waitingForDpConnection) :
      Handled P c
        { c with activeSessions := activeSessions, gateway := gateway, terminated := terminated,
                 receiverRunning := true, state := .operational }

theorem Handled.refl {P : Prop} (c : GatewayController) : Handled P c c :=
  .sessions c.activeSessions c.gateway c.bridgeCpClient c.terminated

theorem onDiscoverySuccess_changes (c : GatewayController) (config : Option (List (String × TaskDetails))) :
    ∃ tasks state, c.onDiscoverySuccess config = { c with taskDatabase := tasks, state := state } := by
  unfold onDiscoverySuccess
  split_ifs
  · exact ⟨c.taskDatabase, _, rfl⟩
  · cases config with
    | none => exact ⟨c.taskDatabase, _, rfl⟩
    | some tasks => exact ⟨tasks, _, rfl⟩
  · exact ⟨c.taskDatabase, c.state, rfl⟩

theorem operational_of_onDiscoverySuccess {config : Option (List (String × TaskDetails))}
    (h : (c.onDiscoverySuccess config).state = .operational) : c.state = .operational := by
  unfold onDiscoverySuccess at h
  split_ifs at h
  · cases config <;> cases h
  · exact h

theorem onSessionApproved_changes (c : GatewayController) (payload : Json) (now : Nat) :
    ∃ activeSessions gateway,
      (c.onSessionApproved payload now).1 = { c with activeSessions := activeSessions, gateway := gateway } := by
  have htouched : ∃ activeSessions, c.touched payload now = { c with activeSessions := activeSessions } := by
    unfold touched
    cases approvedRequestId payload with
    | none => exact ⟨c.activeSessions, rfl⟩
    | some requestId => exact ⟨_, rfl⟩
  obtain ⟨activeSessions, htouched⟩ := htouched
  cases htask : c.approvedTask payload with
  | none => exact ⟨activeSessions, c.gateway, by rw [onSessionApproved_of_none htask, htouched]⟩
  | some details => exact ⟨activeSessions, _, by rw [onSessionApproved_eq htask, activateTask_fst, htouched]⟩

theorem handleSessionTeardown_changes (c : GatewayController) (requestId : String) :
    ∃ activeSessions gateway,
      c.handleSessionTeardown requestId = { c with activeSessions := activeSessions, gateway := gateway } := by
  unfold handleSessionTeardown
  cases c.activeSessions requestId with
  | none => exact ⟨c.activeSessions, c.gateway, rfl⟩
  | some session => exact ⟨_, _, rfl⟩

theorem activateAllP2pSessions_changes (now : Nat) (tasks : List (String × TaskDetails)) (c : GatewayController) :
    ∃ activeSessions gateway,
      (activateAllP2pSessions now c tasks).1 = { c with activeSessions := activeSessions, gateway := gateway } := by
  induction tasks generalizing c with
  | nil => exact ⟨c.activeSessions, c.gateway, rfl⟩
  | cons task tasks ih =>
      obtain ⟨taskId, details⟩ := task
      unfold activateAllP2pSessions
      dsimp only
      obtain ⟨sessions, gateway, happroved⟩ := onSessionApproved_changes
        (c.insertSession ("p2p_session_" ++ taskId) taskId now)
        (.obj [("request_id", .str ("p2p_session_" ++ taskId)), ("task_id", .str taskId)]) now
      split_ifs
      · rw [happroved]
        exact ih _
      · exact ⟨sessions, gateway, happroved⟩

theorem onDpConfirmed_handled {P : Prop} (h : P) (c : GatewayController) (now : Nat) :
    Handled P c (orTerminate (c.onDpConfirmed now)) := by
  unfold onDpConfirmed
  split_ifs with hstate hmode
  · exact .confirmed c.activeSessions c.gateway c.terminated h hstate
  · obtain ⟨sessions, gateway, hc⟩ := activateAllP2pSessions_changes now c.taskDatabase
      { c with receiverRunning := true, state := .operational }
    unfold orTerminate
    split_ifs
    · rw [hc]
      exact .confirmed sessions gateway c.terminated h hstate
    · rw [hc]
      exact .confirmed sessions gateway true h hstate
  · exact .refl c

theorem onSessionApproved_handled {P : Prop} (c : GatewayController) (payload : Json) (now : Nat) :
    Handled P c (orTerminate (c.onSessionApproved payload now)) := by
  obtain ⟨sessions, gateway, h⟩ := onSessionApproved_changes c payload now
  unfold orTerminate
  split_ifs
  · rw [h]
    exact .sessions sessions gateway c.bridgeCpClient c.terminated
  · rw [h]
    exact .sessions sessions gateway c.bridgeCpClient true

theorem handleSessionTeardown_handled {P : Prop} (c : GatewayController) (requestId : String) :
    Handled P c (c.handleSessionTeardown requestId) := by
  obtain ⟨sessions, gateway, h⟩ := handleSessionTeardown_changes c requestId
  rw [h]
  exact .sessions sessions gateway c.bridgeCpClient c.terminated

theorem receiveDenied_handled {P : Prop} (c : GatewayController) (msg : Json) : Handled P c (c.receiveDenied msg) := by
  unfold receiveDenied
  split_ifs
  · split
    · exact .refl c
    · exact handleSessionTeardown_handled c _
  · exact .refl c

theorem receiveAck_handled {P : Prop} (c : GatewayController) (msg : Json) : Handled P c (c.receiveAck msg) := by
  unfold receiveAck
  split_ifs
  · split
    · exact .sessions c.activeSessions c.gateway c.bridgeCpClient true
    · exact .sessions c.activeSessions c.gateway _ c.terminated
  · exact .refl c

/-- Only a message with the code 202 confirms. -/
theorem dispatch_handled (c : GatewayController) (code : Int) (msg : Json) (now : Nat) :
    Handled (code = 202) c (c.dispatch code msg now) := by
  unfold dispatch
  split_ifs with h200 hpayload h201 h202 h900
  · exact onSessionApproved_handled c _ now
  · exact .refl c
  · exact receiveDenied_handled c msg
  · exact onDpConfirmed_handled h202 c now
  · exact receiveAck_handled c msg
  · exact .refl c

theorem handleReceivedMessage_handled (c : GatewayController) (msg : Json) (now : Nat) :
    Handled ((msg.get "message_code").asInt = some 202) c (c.handleReceivedMessage msg now).1 := by
  unfold handleReceivedMessage
  split_ifs
  · exact .refl c
  · split
    · rename_i code _ _ hcode _ _
      rw [hcode, Option.some_inj]
      exact dispatch_handled c code msg now
    · exact .sessions c.activeSessions c.gateway c.bridgeCpClient true

/-- What a received message is answered with. -/
theorem handleReceivedMessage_acks (c : GatewayController) (msg : Json) (now : Nat) :
    ∀ m ∈ (c.handleReceivedMessage msg now).2, ∃ componentId n, m = Protocol.ack componentId n := by
  unfold handleReceivedMessage
  intro m hm
  split_ifs at hm
  · cases hm
  · split at hm
    · split_ifs at hm
      · cases hm
      · exact ⟨_, _, List.mem_singleton.mp hm⟩
    · cases hm

theorem sendReliable_changes (c : GatewayController) (message : Nat → Json) (result : BridgeCpClient.SendResult) :
    ∃ client, (c.sendReliable message result).1 = { c with bridgeCpClient := client } := by
  unfold sendReliable
  split_ifs
  · cases c.bridgeCpClient with
    | none => exact ⟨c.bridgeCpClient, rfl⟩
    | some client => exact ⟨_, rfl⟩
  · exact ⟨c.bridgeCpClient, rfl⟩

theorem sendReliable_sent (c : GatewayController) (message : Nat → Json) (result : BridgeCpClient.SendResult) :
    ∀ m ∈ (c.sendReliable message result).2, ∃ n, m = message n := by
  unfold sendReliable BridgeCpClient.sendReliableMessage
  split_ifs
  · cases c.bridgeCpClient with
    | none => simp
    | some client => cases result <;> simp
  · simp

theorem sendOffloadRequest_changes (c : GatewayController) (requestId : String) (request : OffloadingRequestData)
    (result : BridgeCpClient.SendResult) :
    ∃ client terminated, (c.sendOffloadRequest requestId request result).1 =
      { c with bridgeCpClient := client, terminated := terminated } := by
  unfold sendOffloadRequest
  split_ifs
  · split
    · exact ⟨c.bridgeCpClient, c.terminated, rfl⟩
    · split
      · exact ⟨c.bridgeCpClient, true, rfl⟩
      · obtain ⟨client, h⟩ := sendReliable_changes c _ result
        exact ⟨client, c.terminated, h⟩
  · exact ⟨c.bridgeCpClient, c.terminated, rfl⟩

theorem sendOffloadRequest_sent (c : GatewayController) (requestId : String) (request : OffloadingRequestData)
    (result : BridgeCpClient.SendResult) :
    ∀ m ∈ (c.sendOffloadRequest requestId request result).2,
      ∃ taskId taskName n, m = Protocol.offloadRequest c.componentId requestId taskId taskName request.vhcData n := by
  unfold sendOffloadRequest
  intro m hm
  split_ifs at hm
  · split at hm
    · cases hm
    · split at hm
      · cases hm
      · obtain ⟨n, rfl⟩ := sendReliable_sent c _ result m hm
        exact ⟨_, _, n, rfl⟩
  · cases hm

theorem sendKeepalives_changes (now : Nat) (keys : List (String × BridgeCpClient.SendResult)) (c : GatewayController) :
    ∃ activeSessions client, (sendKeepalives now c keys).1 =
      { c with activeSessions := activeSessions, bridgeCpClient := client } := by
  induction keys generalizing c with
  | nil => exact ⟨c.activeSessions, c.bridgeCpClient, rfl⟩
  | cons key keys ih =>
      obtain ⟨requestId, result⟩ := key
      unfold sendKeepalives
      split
      · exact ih c
      · split_ifs
        · obtain ⟨client, h⟩ := sendReliable_changes c (Protocol.sessionKeepalive c.componentId requestId) result
          dsimp only
          rw [h]
          exact ih _
        · exact ih c

theorem sendKeepalives_sent (now : Nat) (keys : List (String × BridgeCpClient.SendResult)) (c : GatewayController) :
    ∀ m ∈ (sendKeepalives now c keys).2, ∃ requestId n, m = Protocol.sessionKeepalive c.componentId requestId n := by
  induction keys generalizing c with
  | nil => simp [sendKeepalives]
  | cons key keys ih =>
      obtain ⟨requestId, result⟩ := key
      unfold sendKeepalives
      split
      · exact ih c
      · split_ifs
        · obtain ⟨client, h⟩ := sendReliable_changes c (Protocol.sessionKeepalive c.componentId requestId) result
          dsimp only
          intro m hm
          rcases List.mem_append.mp hm with hm | hm
          · obtain ⟨n, rfl⟩ := sendReliable_sent c _ result m hm
            exact ⟨requestId, n, rfl⟩
          · rw [h] at hm
            obtain ⟨other, n, hother⟩ := ih _ m hm
            exact ⟨other, n, hother⟩
        · exact ih c

end GatewayController

/-! ## The points of the control thread -/

namespace GatewayProcess

variable {p : GatewayProcess}

/-- The states that the controller can be in while the control thread is at a point. -/
def PointOk : ControlPoint → ControllerState → Prop
  | .loop, _ => True
  | .loaded .initializing, s | .listening, s => s = .initializing
  | .loaded .discovering, s => s ≠ .initializing
  | .loaded .connectingToBridge, s | .connected, s | .dpInfoSent, s => s = .connectingToBridge
  | .loaded .waitingForDpConnection, s => s = .waitingForDpConnection ∨ s = .operational
  | .loaded .failed, s | .exited, s => s = .failed
  | .loaded .operational, s | .offloads, s | .taken _, s | .numbered _ _, s | .recorded _ _, s | .terminations, s
  | .terminating _, s | .terminateSent _, s => s = .operational

theorem pointOk_loaded (s : ControllerState) : PointOk (.loaded s) s := by
  cases s <;> simp [PointOk]

/-- A confirmation does not disturb the control thread. -/
theorem PointOk.handled {P : Prop} {point : ControlPoint} {c c' : GatewayController} (h : PointOk point c.state)
    (hc : GatewayController.Handled P c c') : PointOk point c'.state := by
  cases hc with
  | sessions => exact h
  | confirmed _ _ _ _ hstate =>
      rw [hstate] at h
      cases point with
      | loaded state =>
          cases state with
          | waitingForDpConnection => exact Or.inr rfl
          | discovering => exact fun h' => by cases h'
          | _ => cases h
      | loop => trivial
      | _ => cases h

/-- Neither does the end of the discovery. -/
theorem PointOk.of_discovering {point : ControlPoint} (h : PointOk point .discovering) {s : ControllerState}
    (hs : s ≠ .initializing) : PointOk point s := by
  cases point with
  | loaded state =>
      cases state with
      | discovering => exact hs
      | waitingForDpConnection => cases h <;> contradiction
      | _ => cases h
  | loop => trivial
  | _ => cases h

theorem PointOk.onDiscoverySuccess {point : ControlPoint} {c : GatewayController} (h : PointOk point c.state)
    (config : Option (List (String × TaskDetails))) : PointOk point (c.onDiscoverySuccess config).state := by
  unfold GatewayController.onDiscoverySuccess
  split_ifs with hstate hmode
  · rw [hstate] at h
    exact h.of_discovering (s := .waitingForDpConnection) (by decide)
  · rw [hstate] at h
    cases config with
    | none => exact h.of_discovering (s := .failed) (by decide)
    | some tasks => exact h.of_discovering (s := .connectingToBridge) (by decide)
  · exact h

/-- How a step changes the state: what comes before the wait for the data plane is left, and the wait ends. -/
inductive Moved : ControllerState → ControllerState → Prop where
  | same (s : ControllerState) : Moved s s
  | left (s s' : ControllerState) (hs : s = .initializing ∨ s = .discovering ∨ s = .connectingToBridge)
      (hs' : s' ≠ .operational) : Moved s s'
  | confirmed : Moved .waitingForDpConnection .operational

/-- The controller stays operational. -/
theorem Moved.of_operational {s : ControllerState} (h : Moved .operational s) : s = .operational := by
  cases h with
  | same => rfl
  | left _ _ hs => simp at hs

theorem moved_handled {P : Prop} {c c' : GatewayController} (h : GatewayController.Handled P c c') :
    Moved c.state c'.state := by
  cases h with
  | sessions => exact .same _
  | confirmed _ _ _ _ hstate =>
      rw [hstate]
      exact .confirmed

theorem moved_onDiscoverySuccess (c : GatewayController) (config : Option (List (String × TaskDetails))) :
    Moved c.state (c.onDiscoverySuccess config).state := by
  unfold GatewayController.onDiscoverySuccess
  split_ifs with hstate hmode
  · exact .left _ .waitingForDpConnection (Or.inr (Or.inl hstate)) (by decide)
  · cases config with
    | none => exact .left _ .failed (Or.inr (Or.inl hstate)) (by decide)
    | some tasks => exact .left _ .connectingToBridge (Or.inr (Or.inl hstate)) (by decide)
  · exact .same _

/-- What a step of the control thread does to its point and to the state. -/
def Consistent (p p' : GatewayProcess) : Prop :=
  PointOk p'.point p'.controller.state ∧ Moved p.controller.state p'.controller.state

/-- What a step of the control thread can do. -/
inductive Controlled (p : GatewayProcess) (o : Outcomes) : GatewayProcess → List Json → Prop where
  /-- Only the thread moves on, with a configuration read or another thread started. -/
  | moved (tasks : List (String × TaskDetails)) (point : ControlPoint) (accepting discovery : Bool)
      (hpoint : PointOk point p.controller.state) (hheld : p.point.request = none) (hheld' : point.request = none) :
      Controlled p o
        { p with controller := { p.controller with taskDatabase := tasks }, point := point, accepting := accepting,
                 discovery := discovery } []
  | stored (tasks : List (String × TaskDetails)) (state : ControllerState)
      (hstate : p.controller.state = .initializing ∨ p.controller.state = .connectingToBridge)
      (hnew : state ≠ .operational) (hheld : p.point.request = none) :
      Controlled p o
        { p with controller := { p.controller with taskDatabase := tasks, state := state }, point := .loop } []
  | clientStarted (succeeds : Bool) (hpoint : p.point = .loaded .connectingToBridge) :
      Controlled p o
        { p with controller := { p.controller with bridgeCpClient := some {} }, receiving := succeeds,
                 point := if succeeds then .connected else .loop } []
  | confirmed (c : GatewayController) (hmode : p.controller.operationMode ≠ .networked)
      (hc : GatewayController.Handled True p.controller c) (hheld : p.point.request = none) :
      Controlled p o { p with controller := c, point := .loop } []
  /-- DP_INFO, keepalives or the end of a session are sent. -/
  | sent (activeSessions : String → Option SessionState) (client : Option BridgeCpClient) (point : ControlPoint)
      (messages : List Json)
      (hsent : ∀ m ∈ messages, ∃ n, m = Protocol.dpInfo p.controller.componentId "0.0.0.0"
        p.controller.dataPlaneListenPort n ∨
        (∃ requestId, m = Protocol.sessionKeepalive p.controller.componentId requestId n) ∨
        ∃ requestId, m = Protocol.sessionTerminateRequest p.controller.componentId requestId n)
      (hpoint : PointOk point p.controller.state) (hheld : p.point.request = none) (hheld' : point.request = none) :
      Controlled p o
        { p with controller := { p.controller with activeSessions := activeSessions, bridgeCpClient := client },
                 point := point } messages
  | took (request : OffloadingRequestData) (rest : List OffloadingRequestData) (hpoint : p.point = .offloads)
      (hqueue : p.controller.offloadingRequestQueue = request :: rest) :
      Controlled p o
        { p with controller := { p.controller with offloadingRequestQueue := rest }, point := .taken request } []
  | drew (request : OffloadingRequestData) (hpoint : p.point = .taken request) :
      Controlled p o
        { p with controller := p.controller.drawRequestId.1,
                 point := .numbered p.controller.drawRequestId.2 request } []
  | inserted (requestId : String) (request : OffloadingRequestData)
      (hpoint : p.point = .numbered requestId request) :
      Controlled p o
        { p with controller := p.controller.insertSession requestId request.taskId o.now,
                 point := .recorded requestId request } []
  | offered (requestId : String) (request : OffloadingRequestData)
      (hpoint : p.point = .recorded requestId request) :
      Controlled p o
        { p with controller := (p.controller.sendOffloadRequest requestId request o.sendResult).1, point := .offloads }
        (p.controller.sendOffloadRequest requestId request o.sendResult).2
  | tookTermination (requestId : String) (rest : List String) (hpoint : p.point = .terminations) :
      Controlled p o
        { p with controller := { p.controller with terminationRequestQueue := rest }, point := .terminating requestId }
        []
  | tornDown (requestId : String) (hpoint : p.point = .terminateSent requestId) :
      Controlled p o
        { p with controller := p.controller.handleSessionTeardown requestId, point := .terminations } []

theorem Controlled.pointOnly (o : Outcomes) (point : ControlPoint) (hpoint : PointOk point p.controller.state)
    (hheld : p.point.request = none) (hheld' : point.request = none) : Controlled p o { p with point := point } [] :=
  .moved p.controller.taskDatabase point p.accepting p.discovery hpoint hheld hheld'

theorem controlled_listen (tasks : List (String × TaskDetails)) (h : p.controller.state = .initializing)
    (hheld : p.point.request = none) (o : Outcomes) :
    Controlled p o (listen { p with controller := { p.controller with taskDatabase := tasks } } o) [] := by
  unfold listen
  split_ifs
  · exact .moved tasks .listening true p.discovery h hheld rfl
  · exact .moved tasks .loop p.accepting p.discovery trivial hheld rfl

theorem controlled_initializing (hp : p.point = .loaded .initializing) (h : p.controller.state = .initializing)
    (o : Outcomes) : Controlled p o (p.controlInitializing o) [] := by
  have hheld : p.point.request = none := by rw [hp]; rfl
  unfold controlInitializing
  split_ifs
  · exact controlled_listen p.controller.taskDatabase h hheld o
  · cases o.localConfig with
    | none => exact .stored p.controller.taskDatabase .failed (Or.inl h) (by decide) hheld
    | some tasks =>
        dsimp only
        split_ifs
        · exact controlled_listen tasks h hheld o
        · exact .stored tasks .discovering (Or.inl h) (by decide) hheld
        · exact .stored tasks .waitingForDpConnection (Or.inl h) (by decide) hheld

theorem controlled_operational (hp : p.point = .loaded .operational) (h : p.controller.state = .operational)
    (o : Outcomes) : Controlled p o (p.controlOperational o).1 (p.controlOperational o).2 := by
  have hheld : p.point.request = none := by rw [hp]; rfl
  unfold controlOperational
  split_ifs
  · exact .pointOnly o .offloads h hheld rfl
  · obtain ⟨sessions, client, hc⟩ := GatewayController.sendKeepalives_changes o.now o.keepalives p.controller
    dsimp only
    rw [hc]
    refine .sent sessions client .loop _ (fun m hm => ?_) trivial hheld rfl
    obtain ⟨requestId, n, rfl⟩ := GatewayController.sendKeepalives_sent o.now o.keepalives p.controller m hm
    exact ⟨n, Or.inr (Or.inl ⟨requestId, rfl⟩)⟩
  · exact .pointOnly o .loop trivial hheld rfl

/-- DP_INFO and the end of a session are handed to the client of the Bridge. -/
theorem controlled_sendReliable (o : Outcomes) (message : Nat → Json) (point : ControlPoint)
    (hmessage : ∀ n, message n = Protocol.dpInfo p.controller.componentId "0.0.0.0" p.controller.dataPlaneListenPort n ∨
      (∃ requestId, message n = Protocol.sessionKeepalive p.controller.componentId requestId n) ∨
      ∃ requestId, message n = Protocol.sessionTerminateRequest p.controller.componentId requestId n)
    (hpoint : PointOk point p.controller.state) (hheld : p.point.request = none) (hheld' : point.request = none) :
    Controlled p o { p with controller := (p.controller.sendReliable message o.sendResult).1, point := point }
      (p.controller.sendReliable message o.sendResult).2 := by
  obtain ⟨client, hc⟩ := GatewayController.sendReliable_changes p.controller message o.sendResult
  rw [hc]
  refine .sent p.controller.activeSessions client point _ (fun m hm => ?_) hpoint hheld hheld'
  obtain ⟨n, rfl⟩ := GatewayController.sendReliable_sent _ _ _ m hm
  exact ⟨n, hmessage n⟩

/-- **Every step of the control thread is one of these.** -/
theorem control_controlled (h : PointOk p.point p.controller.state) (o : Outcomes) :
    Controlled p o (p.control o).1 (p.control o).2 := by
  have hheld : ∀ {point : ControlPoint}, p.point = point → point.request = none → p.point.request = none :=
    fun hp hnone => hp ▸ hnone
  unfold control
  cases hp : p.point with
  | loop => exact .pointOnly o _ (pointOk_loaded _) (hheld hp rfl) rfl
  | loaded state =>
      rw [hp] at h
      cases state with
      | initializing => exact controlled_initializing hp h o
      | discovering =>
          exact .moved p.controller.taskDatabase .loop p.accepting o.succeeds trivial (hheld hp rfl) rfl
      | connectingToBridge => exact .clientStarted o.succeeds hp
      | waitingForDpConnection =>
          show Controlled p o (p.controlWaiting o) []
          unfold controlWaiting
          split_ifs with hpeer
          · exact .confirmed _ hpeer.1 (GatewayController.onDpConfirmed_handled trivial _ _) (hheld hp rfl)
          · exact .pointOnly o .loop trivial (hheld hp rfl) rfl
      | operational => exact controlled_operational hp h o
      | failed => exact .pointOnly o .exited h (hheld hp rfl) rfl
  | listening =>
      rw [hp] at h
      dsimp only
      split_ifs
      · exact .stored p.controller.taskDatabase _ (Or.inl h) (by decide) (hheld hp rfl)
      · exact .stored p.controller.taskDatabase _ (Or.inl h) (by decide) (hheld hp rfl)
  | connected =>
      rw [hp] at h
      exact controlled_sendReliable o _ .dpInfoSent (fun n => Or.inl rfl) h (hheld hp rfl) rfl
  | dpInfoSent =>
      rw [hp] at h
      exact .stored p.controller.taskDatabase .waitingForDpConnection (Or.inr h) (by decide) (hheld hp rfl)
  | offloads =>
      rw [hp] at h
      show Controlled p o p.takeOffload []
      unfold takeOffload
      split
      · split_ifs
        · exact .took _ _ hp (by assumption)
        · exact .pointOnly o .terminations h (hheld hp rfl) rfl
      · exact .pointOnly o .terminations h (hheld hp rfl) rfl
  | taken request => exact .drew request hp
  | numbered requestId request => exact .inserted requestId request hp
  | recorded requestId request => exact .offered requestId request hp
  | terminations =>
      show Controlled p o p.takeTermination []
      unfold takeTermination
      split
      · exact .tookTermination _ _ hp
      · exact .pointOnly o .loop trivial (hheld hp rfl) rfl
  | terminating requestId =>
      rw [hp] at h
      exact controlled_sendReliable o _ (.terminateSent requestId) (fun n => Or.inr (Or.inr ⟨requestId, rfl⟩)) h
        (hheld hp rfl) rfl
  | terminateSent requestId => exact .tornDown requestId hp
  | exited => exact .pointOnly o p.point h (hheld hp rfl) (hheld hp rfl)

theorem consistent_controlled (h : PointOk p.point p.controller.state) {o : Outcomes} {p' : GatewayProcess}
    {messages : List Json} (hc : Controlled p o p' messages) : Consistent p p' := by
  cases hc with
  | moved tasks point accepting discovery hpoint => exact ⟨hpoint, .same _⟩
  | stored tasks state hstate hnew => exact ⟨trivial, .left _ state (hstate.imp_right Or.inr) hnew⟩
  | clientStarted succeeds hpoint =>
      rw [hpoint] at h
      cases succeeds with
      | false => exact ⟨trivial, .same _⟩
      | true => exact ⟨h, .same _⟩
  | confirmed c hmode hc => exact ⟨trivial, moved_handled hc⟩
  | sent sessions client point messages hsent hpoint => exact ⟨hpoint, .same _⟩
  | took request rest hpoint =>
      rw [hpoint] at h
      exact ⟨h, .same _⟩
  | drew request hpoint =>
      rw [hpoint] at h
      exact ⟨h, .same _⟩
  | inserted requestId request hpoint =>
      rw [hpoint] at h
      exact ⟨h, .same _⟩
  | offered requestId request hpoint =>
      rw [hpoint] at h
      obtain ⟨client, terminated, hc⟩ := GatewayController.sendOffloadRequest_changes p.controller requestId request
        o.sendResult
      rw [hc]
      exact ⟨h, .same _⟩
  | tookTermination requestId rest hpoint =>
      rw [hpoint] at h
      exact ⟨h, .same _⟩
  | tornDown requestId hpoint =>
      rw [hpoint] at h
      obtain ⟨sessions, gateway, hc⟩ := GatewayController.handleSessionTeardown_changes p.controller requestId
      rw [hc]
      exact ⟨h, .same _⟩

/-! ## All steps -/

/-- What a step of a thread can do. -/
inductive Stepped (p : GatewayProcess) : Event → GatewayProcess → List Json → Prop where
  | idle (e : Event) : Stepped p e p []
  | control (o : Outcomes) (p' : GatewayProcess) (messages : List Json) (h : Controlled p o p' messages) :
      Stepped p (.control o) p' messages
  | discovered (config : Option (List (String × TaskDetails))) :
      Stepped p (.discovered config) { p with controller := p.controller.onDiscoverySuccess config } []
  /-- A call of a service. -/
  | served (e : Event) (counter : Nat) (offloads : List OffloadingRequestData) (terminations : List String)
      (answering : Bool) :
      Stepped p e
        { p with
          controller :=
            { p.controller with requestIdCounter := counter, offloadingRequestQueue := offloads,
                                terminationRequestQueue := terminations }
          answering := answering } []
  | accept (hmode : p.controller.operationMode ≠ .networked) : Stepped p .accept { p with accepted := true } []
  | confirmAccepted (now : Nat) (haccepted : p.accepted = true) :
      Stepped p (.confirmAccepted now)
        { p with controller := GatewayController.orTerminate (p.controller.onDpConfirmed now), accepted := false } []
  | receive (message : Json) (now : Nat) :
      Stepped p (.receive message now) { p with controller := (p.controller.handleReceivedMessage message now).1 }
        (p.controller.handleReceivedMessage message now).2

theorem stepped_requestOffloading (request : OffloadingRequestData) (hlive : ¬ p.controller.terminated = true) :
    Stepped p (.requestOffloading request) (p.step (.requestOffloading request)).1
      (p.step (.requestOffloading request)).2 := by
  unfold step GatewayController.queueOffloadingRequest
  dsimp only
  rw [if_neg hlive]
  split_ifs
  · exact .idle _
  · exact .idle _
  · exact .served _ _ _ _ true
  · exact .idle _

theorem stepped_terminateOffloading (requestId : String) (hlive : ¬ p.controller.terminated = true) :
    Stepped p (.terminateOffloading requestId) (p.step (.terminateOffloading requestId)).1
      (p.step (.terminateOffloading requestId)).2 := by
  unfold step GatewayController.queueTerminationRequest
  dsimp only
  rw [if_neg hlive]
  split_ifs
  · exact .idle _
  · exact .served _ _ _ _ p.answering
  · exact .idle _

/-- **Every step of the process is one of these.** -/
theorem step_stepped (h : PointOk p.point p.controller.state) (e : Event) : Stepped p e (p.step e).1 (p.step e).2 := by
  by_cases hterm : p.controller.terminated = true
  · unfold step
    rw [if_pos hterm]
    exact .idle e
  · cases e with
    | requestOffloading request => exact stepped_requestOffloading request hterm
    | terminateOffloading requestId => exact stepped_terminateOffloading requestId hterm
    | control o =>
        unfold step
        rw [if_neg hterm]
        exact .control o _ _ (control_controlled h o)
    | discovered config =>
        unfold step
        rw [if_neg hterm]
        dsimp only
        split_ifs
        · exact .discovered config
        · exact .idle _
    | answer =>
        unfold step
        rw [if_neg hterm]
        dsimp only
        split_ifs
        · exact .served _ _ _ _ false
        · exact .idle _
    | accept =>
        unfold step
        rw [if_neg hterm]
        dsimp only
        split_ifs with haccept
        · exact .accept haccept.2
        · exact .idle _
    | confirmAccepted now =>
        unfold step
        rw [if_neg hterm]
        dsimp only
        split_ifs with haccepted
        · exact .confirmAccepted now haccepted
        · exact .idle _
    | receive message now =>
        unfold step
        rw [if_neg hterm]
        dsimp only
        split_ifs
        · exact .receive message now
        · exact .idle _

/-- **The state fits the point of the control thread, whatever the threads do.** -/
theorem consistent_step (h : PointOk p.point p.controller.state) (e : Event) : Consistent p (p.step e).1 := by
  have hstepped := step_stepped h e
  generalize (p.step e).1 = p' at hstepped ⊢
  generalize (p.step e).2 = messages at hstepped
  cases hstepped with
  | idle => exact ⟨h, .same _⟩
  | control o _ _ hc => exact consistent_controlled h hc
  | discovered config => exact ⟨h.onDiscoverySuccess config, moved_onDiscoverySuccess _ config⟩
  | served => exact ⟨h, .same _⟩
  | accept => exact ⟨h, .same _⟩
  | confirmAccepted now =>
      have hc := GatewayController.onDpConfirmed_handled trivial p.controller now
      exact ⟨h.handled hc, moved_handled hc⟩
  | receive message now =>
      have hc := GatewayController.handleReceivedMessage_handled p.controller message now
      exact ⟨h.handled hc, moved_handled hc⟩

/-! ## In networked mode -/

theorem identity_controlled {o : Outcomes} {p' : GatewayProcess} {messages : List Json}
    (h : Controlled p o p' messages) :
    p'.controller.componentId = p.controller.componentId ∧
      p'.controller.operationMode = p.controller.operationMode := by
  cases h with
  | confirmed c hmode hc => cases hc <;> exact ⟨rfl, rfl⟩
  | offered requestId request =>
      obtain ⟨client, terminated, hc⟩ := GatewayController.sendOffloadRequest_changes p.controller requestId request
        o.sendResult
      rw [hc]
      exact ⟨rfl, rfl⟩
  | tornDown requestId =>
      obtain ⟨sessions, gateway, hc⟩ := GatewayController.handleSessionTeardown_changes p.controller requestId
      rw [hc]
      exact ⟨rfl, rfl⟩
  | _ => exact ⟨rfl, rfl⟩

theorem identity_handled {P : Prop} {c c' : GatewayController} (h : GatewayController.Handled P c c') :
    c'.componentId = c.componentId ∧ c'.operationMode = c.operationMode := by
  cases h <;> exact ⟨rfl, rfl⟩

theorem identity_step (h : PointOk p.point p.controller.state) (e : Event) :
    (p.step e).1.controller.componentId = p.controller.componentId ∧
      (p.step e).1.controller.operationMode = p.controller.operationMode := by
  have hstepped := step_stepped h e
  generalize (p.step e).1 = p' at hstepped ⊢
  generalize (p.step e).2 = messages at hstepped
  cases hstepped with
  | idle => exact ⟨rfl, rfl⟩
  | control o _ _ hc => exact identity_controlled hc
  | discovered config =>
      obtain ⟨tasks, state, hc⟩ := GatewayController.onDiscoverySuccess_changes p.controller config
      rw [hc]
      exact ⟨rfl, rfl⟩
  | served => exact ⟨rfl, rfl⟩
  | accept => exact ⟨rfl, rfl⟩
  | confirmAccepted now => exact identity_handled (GatewayController.onDpConfirmed_handled trivial p.controller now)
  | receive message now =>
      exact identity_handled (GatewayController.handleReceivedMessage_handled p.controller message now)

/-- A networked gateway confirms nothing by itself. -/
theorem accepted_step (h : PointOk p.point p.controller.state) (hmode : p.controller.operationMode = .networked)
    (haccepted : p.accepted = false) (e : Event) : (p.step e).1.accepted = false := by
  have hstepped := step_stepped h e
  generalize (p.step e).1 = p' at hstepped ⊢
  generalize (p.step e).2 = messages at hstepped
  cases hstepped with
  | control o _ _ hc => cases hc <;> exact haccepted
  | accept hnot => exact absurd hmode hnot
  | confirmAccepted now => rfl
  | _ => exact haccepted

/-- A networked gateway becomes operational by a message of the Bridge only. -/
theorem operational_step (h : PointOk p.point p.controller.state) (hmode : p.controller.operationMode = .networked)
    (haccepted : p.accepted = false) {e : Event} (hop : (p.step e).1.controller.state = .operational) :
    p.controller.state = .operational ∨
      ∃ message now, e = .receive message now ∧ (message.get "message_code").asInt = some 202 := by
  have hstepped := step_stepped h e
  generalize (p.step e).1 = p' at hstepped hop
  generalize (p.step e).2 = messages at hstepped
  cases hstepped with
  | idle => exact Or.inl hop
  | control o _ _ hc =>
      left
      cases hc with
      | stored tasks state hstate hnew => exact absurd hop hnew
      | confirmed c hnot => exact absurd hmode hnot
      | offered requestId request =>
          obtain ⟨client, terminated, hc⟩ := GatewayController.sendOffloadRequest_changes p.controller requestId request
            o.sendResult
          rw [hc] at hop
          exact hop
      | tornDown requestId =>
          obtain ⟨sessions, gateway, hc⟩ := GatewayController.handleSessionTeardown_changes p.controller requestId
          rw [hc] at hop
          exact hop
      | _ => exact hop
  | discovered config => exact Or.inl (GatewayController.operational_of_onDiscoverySuccess hop)
  | served => exact Or.inl hop
  | accept => exact Or.inl hop
  | confirmAccepted now hnot =>
      rw [haccepted] at hnot
      cases hnot
  | receive message now =>
      have hc := GatewayController.handleReceivedMessage_handled p.controller message now
      generalize (p.controller.handleReceivedMessage message now).1 = c at hc hop
      cases hc with
      | sessions => exact Or.inl hop
      | confirmed _ _ _ hcode => exact Or.inr ⟨message, now, rfl, hcode⟩

/-- What a networked gateway sends: ACKs, and messages with its component id; requests only when it is operational. -/
def Sends (p : GatewayProcess) (m : Json) : Prop :=
  (m.get "message_code").asInt = some 900 ∨
    (m.get "component_id").asString = some p.controller.componentId ∧
      ((m.get "message_code").asInt = some 100 → p.controller.state = .operational)

theorem sends_controlled (h : PointOk p.point p.controller.state) {o : Outcomes} {p' : GatewayProcess}
    {messages : List Json} (hc : Controlled p o p' messages) : ∀ m ∈ messages, Sends p m := by
  cases hc with
  | sent sessions client point messages hsent =>
      intro m hm
      obtain ⟨n, rfl | ⟨requestId, rfl⟩ | ⟨requestId, rfl⟩⟩ := hsent m hm
      · exact Or.inr ⟨rfl, fun hcode => absurd (show some (103 : Int) = some 100 from hcode) (by decide)⟩
      · exact Or.inr ⟨rfl, fun hcode => absurd (show some (101 : Int) = some 100 from hcode) (by decide)⟩
      · exact Or.inr ⟨rfl, fun hcode => absurd (show some (102 : Int) = some 100 from hcode) (by decide)⟩
  | offered requestId request hpoint =>
      rw [hpoint] at h
      intro m hm
      obtain ⟨taskId, taskName, n, rfl⟩ :=
        GatewayController.sendOffloadRequest_sent p.controller requestId request _ m hm
      exact Or.inr ⟨rfl, fun _ => h⟩
  | _ => exact fun m hm => absurd hm List.not_mem_nil

theorem sends_step (h : PointOk p.point p.controller.state) (e : Event) : ∀ m ∈ (p.step e).2, Sends p m := by
  have hstepped := step_stepped h e
  generalize (p.step e).1 = p' at hstepped
  generalize (p.step e).2 = messages at hstepped ⊢
  cases hstepped with
  | control o _ _ hc => exact sends_controlled h hc
  | receive message now =>
      intro m hm
      obtain ⟨c, n, rfl⟩ := GatewayController.handleReceivedMessage_acks p.controller message now m hm
      exact Or.inl rfl
  | _ => exact fun m hm => absurd hm List.not_mem_nil

end GatewayProcess

end EdgeOffloading
