import EdgeOffloading.Cpp.Parse
import EdgeOffloading.Gateway.Steps
import EdgeOffloading.Lib.Run
import EdgeOffloading.Protocol.Shape

/-!
# What the receive thread of a gateway makes of a document

Any JSON document may arrive from the Bridge. The thread catches parse errors only: any other exception, also the one of
the parser at a number that no double holds and one that `on_session_approved` lets through, ends the process.

* `ReadsMessage`, `WritesMessage`: every field that is read converts; the document changes a session;
* `survives_iff`: a document neither ends the process nor changes a session if it is not of the documented shape,
  exactly if it is parsed, every field that is read converts, the handlers that it activates can be registered, and it
  writes to no session if it is not of the documented shape.
-/

namespace EdgeOffloading

namespace GatewayController

variable {c : GatewayController}

/-! ## Fields that are read -/

/-- The fields that are read of a message of the Bridge; an approval also finds handlers that can be registered. -/
def ReadsMessage (c : GatewayController) (message : Json) : Prop :=
  message.contains "message_code" = true → message.contains "component_id" = true →
    ∃ code componentId seqNum, (message.get "message_code").asInt = some code ∧
      (message.get "component_id").asString = some componentId ∧ message.valueInt "sequence_number" 0 = some seqNum ∧
        (code = 200 → message.contains "payload" = true →
          Readable c (normalizePayload (message.get "payload")) ∧
            ∀ details, c.approvedTask (normalizePayload (message.get "payload")) = some details →
              c.gateway.RegistrableAll (typesOf details)) ∧
        (code = 900 → message.contains "payload" = true →
          (message.get "payload").contains "ack_sequence_number" = true →
            ((message.get "payload").get "ack_sequence_number").asInt ≠ none)

theorem orTerminate_terminated (result : GatewayController × Bool) (hlive : result.1.terminated = false) :
    (orTerminate result).terminated = false ↔ result.2 = true := by
  unfold orTerminate
  cases result.2 with
  | true => exact iff_of_true hlive rfl
  | false => exact iff_of_false (by simp) Bool.false_ne_true

theorem onDpConfirmed_networked (hmode : c.operationMode = .networked) (now : Nat) :
    (c.onDpConfirmed now).2 = true ∧ (c.onDpConfirmed now).1.activeSessions = c.activeSessions ∧
      (c.onDpConfirmed now).1.terminated = c.terminated := by
  unfold onDpConfirmed
  dsimp only
  split_ifs <;> exact ⟨rfl, rfl, rfl⟩

theorem terminated_receiveDenied (c : GatewayController) (message : Json) :
    (c.receiveDenied message).terminated = c.terminated := by
  unfold receiveDenied
  split_ifs
  · split
    · rfl
    · unfold onSessionDenied handleSessionTeardown
      split <;> rfl
  · rfl

theorem dispatch_terminated_iff (hlive : c.terminated = false) (hmode : c.operationMode = .networked) (code : Int)
    (message : Json) (now : Nat) :
    (c.dispatch code message now).terminated = false ↔
      (code = 200 → message.contains "payload" = true →
          Readable c (normalizePayload (message.get "payload")) ∧
            ∀ details, c.approvedTask (normalizePayload (message.get "payload")) = some details →
              c.gateway.RegistrableAll (typesOf details)) ∧
        (code = 900 → message.contains "payload" = true →
          (message.get "payload").contains "ack_sequence_number" = true →
            ((message.get "payload").get "ack_sequence_number").asInt ≠ none) := by
  unfold dispatch
  split_ifs with h200 hpayload h201 h202 h900
  · obtain ⟨sessions, gateway, hc⟩ :=
      onSessionApproved_changes c (normalizePayload (message.get "payload")) now
    rw [orTerminate_terminated _ (by rw [hc]; exact hlive), onSessionApproved_completes_iff]
    exact ⟨fun h => ⟨fun _ _ => h, fun h900 => by omega⟩, fun h => h.1 h200 hpayload⟩
  · exact iff_of_true hlive ⟨fun _ h => absurd h hpayload, fun h900 => by omega⟩
  · rw [terminated_receiveDenied]
    exact iff_of_true hlive ⟨fun h => absurd h h200, fun h900 => by omega⟩
  · obtain ⟨hok, -, hterm⟩ := onDpConfirmed_networked hmode now
    rw [orTerminate_terminated _ (by rw [hterm]; exact hlive)]
    exact iff_of_true hok ⟨fun h => absurd h h200, fun h900 => by omega⟩
  · unfold receiveAck
    split_ifs with hack
    · obtain ⟨hpayload, hnum⟩ := Bool.and_eq_true_iff.mp hack
      cases hn : ((message.get "payload").get "ack_sequence_number").asInt with
      | none => exact iff_of_false (by simp) fun h => h.2 h900 hpayload hnum rfl
      | some n => exact iff_of_true hlive ⟨fun h => absurd h h200, fun _ _ _ => Option.some_ne_none n⟩
    · refine iff_of_true hlive ⟨fun h => absurd h h200, fun _ h₁ h₂ => ?_⟩
      exact absurd (Bool.and_eq_true_iff.mpr ⟨h₁, h₂⟩) hack
  · exact iff_of_true hlive ⟨fun h => absurd h h200, fun h => absurd h h900⟩

/-- **The process survives a message** exactly if every field that is read converts and every handler that it activates
can be registered. -/
theorem terminated_iff_reads (hlive : c.terminated = false) (hmode : c.operationMode = .networked) (message : Json)
    (now : Nat) : (c.handleReceivedMessage message now).1.terminated = false ↔ c.ReadsMessage message := by
  unfold handleReceivedMessage ReadsMessage
  by_cases hcontains : message.contains "message_code" = true ∧ message.contains "component_id" = true
  · rw [if_neg (by simp [hcontains])]
    split
    · rename_i code componentId seqNum hcode hid hseq
      refine (dispatch_terminated_iff hlive hmode code message now).trans ⟨fun h _ _ => ?_, fun h => ?_⟩
      · exact ⟨code, componentId, seqNum, hcode, hid, hseq, h⟩
      · obtain ⟨code', _, _, hcode', _, _, hreads⟩ := h hcontains.1 hcontains.2
        cases hcode.symm.trans hcode'
        exact hreads
    · rename_i hnone
      refine iff_of_false (by simp) fun h => ?_
      obtain ⟨code, componentId, seqNum, hcode, hid, hseq, -⟩ := h hcontains.1 hcontains.2
      exact hnone code componentId seqNum hcode hid hseq
  · rw [if_pos (by simpa [or_iff_not_imp_left] using hcontains)]
    exact iff_of_true hlive fun h₁ h₂ => absurd ⟨h₁, h₂⟩ hcontains

/-! ## The sessions -/

/-- A message is acted upon, finds the session that it names, and moves its keepalive or ends it. -/
def WritesMessage (c : GatewayController) (message : Json) (now : Nat) : Prop :=
  (message.get "component_id").asString ≠ none ∧ message.valueInt "sequence_number" 0 ≠ none ∧
    ((message.get "message_code").asInt = some 200 ∧ message.contains "payload" = true ∧
        (∃ requestId session, approvedRequestId (normalizePayload (message.get "payload")) = some requestId ∧
          c.activeSessions requestId = some session ∧ session.lastKeepaliveSent ≠ now) ∨
      (message.get "message_code").asInt = some 201 ∧ (message.get "payload").contains "request_id" = true ∧
        ((message.get "payload").get "reason_description").asString ≠ none ∧
          c.activeSessions (deniedRequestId ((message.get "payload").get "request_id")) ≠ none)

theorem activeSessions_onSessionApproved (c : GatewayController) (payload : Json) (now : Nat) :
    (c.onSessionApproved payload now).1.activeSessions = (c.touched payload now).activeSessions := by
  cases htask : c.approvedTask payload with
  | none => rw [onSessionApproved_of_none htask]
  | some details => rw [onSessionApproved_eq htask, activateTask_fst]

theorem touched_sessions_iff (payload : Json) (now : Nat) :
    (c.touched payload now).activeSessions = c.activeSessions ↔
      ¬ ∃ requestId session, approvedRequestId payload = some requestId ∧
        c.activeSessions requestId = some session ∧ session.lastKeepaliveSent ≠ now := by
  unfold touched
  cases hid : approvedRequestId payload with
  | none => simp
  | some requestId =>
      show Function.update c.activeSessions requestId _ = c.activeSessions ↔ _
      rw [Function.update_eq_self_iff]
      cases hs : c.activeSessions requestId with
      | none => simp [hs]
      | some session =>
          rw [Option.map_some]
          constructor
          · rintro heq ⟨requestId', session', hid', hs', hne⟩
            cases hid'
            cases hs.symm.trans hs'
            exact hne (congrArg SessionState.lastKeepaliveSent (Option.some.inj heq)).symm
          · intro hnot
            have hnow : session.lastKeepaliveSent = now := by
              by_contra hne
              exact hnot ⟨requestId, session, rfl, hs, hne⟩
            rw [← hnow]

theorem handleSessionTeardown_sessions_iff (requestId : String) :
    (c.handleSessionTeardown requestId).activeSessions = c.activeSessions ↔ c.activeSessions requestId = none := by
  unfold handleSessionTeardown
  cases hs : c.activeSessions requestId with
  | none => exact iff_of_true rfl rfl
  | some session =>
      refine iff_of_false (fun hsame => ?_) (Option.some_ne_none session)
      have h := congrFun hsame requestId
      rw [hs] at h
      change Function.update c.activeSessions requestId none requestId = some session at h
      rw [Function.update_self] at h
      cases h

theorem receiveDenied_sessions_iff (message : Json) :
    (c.receiveDenied message).activeSessions = c.activeSessions ↔
      ¬((message.get "payload").contains "request_id" = true ∧
        ((message.get "payload").get "reason_description").asString ≠ none ∧
          c.activeSessions (deniedRequestId ((message.get "payload").get "request_id")) ≠ none) := by
  unfold receiveDenied
  split_ifs with hcontains
  · obtain ⟨hcontains, hreason⟩ := Bool.and_eq_true_iff.mp hcontains
    obtain ⟨hpayload, hid⟩ := Bool.and_eq_true_iff.mp hcontains
    cases hstr : ((message.get "payload").get "reason_description").asString with
    | none => exact iff_of_true rfl fun h => h.2.1 rfl
    | some reason =>
        refine (handleSessionTeardown_sessions_iff _).trans ?_
        rw [hid]
        simp
  · refine iff_of_true rfl ?_
    rintro ⟨hid, hreason, -⟩
    obtain ⟨reason, hreason⟩ := Option.ne_none_iff_exists'.mp hreason
    have hpayload : message.contains "payload" = true := by
      refine Json.contains_of_get_ne_null fun hnull => ?_
      rw [hnull] at hid
      cases hid
    rw [hpayload, hid, Json.contains_of_asString hreason] at hcontains
    exact hcontains rfl

theorem orTerminate_sessions (result : GatewayController × Bool) :
    (orTerminate result).activeSessions = result.1.activeSessions := by
  unfold orTerminate
  split_ifs <;> rfl

theorem dispatch_sessions_iff (hmode : c.operationMode = .networked) (code : Int) (message : Json) (now : Nat) :
    (c.dispatch code message now).activeSessions = c.activeSessions ↔
      ¬(code = 200 ∧ message.contains "payload" = true ∧
          (∃ requestId session, approvedRequestId (normalizePayload (message.get "payload")) = some requestId ∧
            c.activeSessions requestId = some session ∧ session.lastKeepaliveSent ≠ now) ∨
        code = 201 ∧ (message.get "payload").contains "request_id" = true ∧
          ((message.get "payload").get "reason_description").asString ≠ none ∧
            c.activeSessions (deniedRequestId ((message.get "payload").get "request_id")) ≠ none) := by
  unfold dispatch
  split_ifs with h200 hpayload h201 h202 h900
  · rw [orTerminate_sessions, activeSessions_onSessionApproved, touched_sessions_iff]
    simp [h200, hpayload]
  · exact iff_of_true rfl (by simp [h200, hpayload])
  · rw [receiveDenied_sessions_iff]
    simp [h201]
  · rw [orTerminate_sessions, (onDpConfirmed_networked hmode now).2.1]
    exact iff_of_true rfl (by simp [h202])
  · refine iff_of_true ?_ (by simp [h900])
    unfold receiveAck
    split_ifs
    · split <;> rfl
    · rfl
  · exact iff_of_true rfl (by simp [h200, h201])

/-- **A message leaves the sessions as they are** exactly if it writes to none. -/
theorem unchanged_iff (hmode : c.operationMode = .networked) (message : Json) (now : Nat) :
    (c.handleReceivedMessage message now).1.activeSessions = c.activeSessions ↔ ¬ c.WritesMessage message now := by
  unfold handleReceivedMessage WritesMessage
  split_ifs with hcontains
  · refine iff_of_true rfl ?_
    rintro ⟨hid, -, hcode⟩
    obtain ⟨componentId, hid⟩ := Option.ne_none_iff_exists'.mp hid
    have hcode : message.contains "message_code" = true :=
      hcode.elim (fun h => Json.contains_of_asInt h.1) fun h => Json.contains_of_asInt h.1
    rw [hcode, Json.contains_of_asString hid] at hcontains
    cases hcontains
  · split
    · rename_i code componentId seqNum hcode hid hseq
      refine (dispatch_sessions_iff hmode code message now).trans ?_
      simp [hcode, hid, hseq]
    · rename_i hnone
      refine iff_of_true rfl ?_
      rintro ⟨hid, hseq, hcode⟩
      obtain ⟨componentId, hid⟩ := Option.ne_none_iff_exists'.mp hid
      obtain ⟨seqNum, hseq⟩ := Option.ne_none_iff_exists'.mp hseq
      rcases hcode with ⟨hcode, -⟩ | ⟨hcode, -⟩
      · exact hnone 200 componentId seqNum hcode hid hseq
      · exact hnone 201 componentId seqNum hcode hid hseq

end GatewayController

namespace GatewayProcess

variable {p : GatewayProcess}

/-! ## Only a networked gateway receives -/

/-- Outside networked mode the gateway does not connect to a Bridge. -/
def ConnectsNetworked (p : GatewayProcess) : Prop :=
  p.controller.operationMode ≠ .networked →
    p.receiving = false ∧ p.controller.state ≠ .connectingToBridge ∧
      (p.controller.operationMode = .p2p → p.controller.state ≠ .discovering)

theorem control_of_initializing (hok : PointOk p.point p.controller.state) (hstate : p.controller.state = .initializing)
    (hmode : p.controller.operationMode ≠ .networked) (o : Outcomes) :
    (p.control o).1.receiving = p.receiving ∧ (p.control o).1.controller.state ≠ .connectingToBridge ∧
      (p.controller.operationMode = .p2p → (p.control o).1.controller.state ≠ .discovering) := by
  rw [hstate] at hok
  unfold control
  cases hpoint : p.point with
  | loop => exact ⟨rfl, by simp [hstate], fun _ => by simp [hstate]⟩
  | listening =>
      unfold store
      refine ⟨rfl, ?_, fun hp2p => ?_⟩
      · dsimp only
        split_ifs <;> simp
      · simp [hp2p]
  | loaded s =>
      rw [hpoint] at hok
      cases s with
      | initializing =>
          show (p.controlInitializing o).receiving = _ ∧ (p.controlInitializing o).controller.state ≠ _ ∧
            (_ → (p.controlInitializing o).controller.state ≠ _)
          unfold controlInitializing
          rw [if_neg hmode]
          cases o.localConfig with
          | none => exact ⟨rfl, by simp [store], fun _ => by simp [store]⟩
          | some tasks =>
              dsimp only
              unfold listen store
              split_ifs with hmec hsucceeds hds
              · exact ⟨rfl, by simp [hstate], fun _ => by simp [hstate]⟩
              · exact ⟨rfl, by simp [hstate], fun _ => by simp [hstate]⟩
              · exact ⟨rfl, by simp, fun hp2p => by cases hp2p.symm.trans hds⟩
              · exact ⟨rfl, by simp, fun _ => by simp⟩
      | discovering => exact absurd rfl hok
      | waitingForDpConnection => rcases hok with h | h <;> cases h
      | connectingToBridge => cases hok
      | operational => cases hok
      | failed => cases hok
  | _ =>
      rw [hpoint] at hok
      cases hok

theorem connectsNetworked_handled {P : Prop} {c : GatewayController} (h : ConnectsNetworked p)
    (hc : GatewayController.Handled P p.controller c) (point : ControlPoint) (accepted : Bool) :
    ConnectsNetworked { p with controller := c, point := point, accepted := accepted } := by
  cases hc with
  | sessions => exact h
  | confirmed =>
      intro hmode
      exact ⟨(h hmode).1, by simp, fun _ => by simp⟩

theorem ConnectsNetworked.control (h : ConnectsNetworked p) (hok : PointOk p.point p.controller.state) (o : Outcomes) :
    ConnectsNetworked (p.control o).1 := by
  have hcontrolled := control_controlled hok o
  by_cases hstate : p.controller.state = .initializing
  · intro hmode
    rw [(identity_controlled hcontrolled).2] at hmode ⊢
    obtain ⟨hreceiving, hrest⟩ := control_of_initializing hok hstate hmode o
    exact ⟨hreceiving.trans (h hmode).1, hrest⟩
  · generalize (p.control o).1 = p' at hcontrolled ⊢
    generalize (p.control o).2 = messages at hcontrolled
    cases hcontrolled with
    | stored tasks state hold hnew hheld =>
        intro hmode
        exact absurd (hold.resolve_left hstate) (h hmode).2.1
    | clientStarted succeeds hpoint =>
        intro hmode
        rw [hpoint] at hok
        exact absurd hok (h hmode).2.1
    | confirmed c hmode hc => exact connectsNetworked_handled h hc .loop p.accepted
    | offered requestId request =>
        obtain ⟨client, terminated, hc⟩ := GatewayController.sendOffloadRequest_changes p.controller requestId request
          o.sendResult
        rw [hc]
        exact h
    | tornDown requestId =>
        obtain ⟨sessions, gateway, hc⟩ := GatewayController.handleSessionTeardown_changes p.controller requestId
        rw [hc]
        exact h
    | _ => exact h

theorem ConnectsNetworked.onDiscoverySuccess (h : ConnectsNetworked p)
    (config : Option (List (String × TaskDetails))) :
    ConnectsNetworked { p with controller := p.controller.onDiscoverySuccess config } := by
  unfold GatewayController.onDiscoverySuccess
  split_ifs with hstate hmode
  · intro hnet
    exact ⟨(h hnet).1, by simp, fun _ => by simp⟩
  · cases config with
    | none =>
        intro hnet
        exact ⟨(h hnet).1, by simp, fun _ => by simp⟩
    | some tasks =>
        intro hnet
        change p.controller.operationMode ≠ .networked at hnet
        cases hp2p : p.controller.operationMode with
        | networked => exact absurd hp2p hnet
        | p2pDs => exact absurd hp2p hmode
        | p2p => exact absurd hstate ((h hnet).2.2 hp2p)
  · exact h

theorem ConnectsNetworked.step (h : ConnectsNetworked p) (hok : PointOk p.point p.controller.state) (e : Event) :
    ConnectsNetworked (p.step e).1 := by
  by_cases hcontrol : ∃ o, e = .control o
  · obtain ⟨o, rfl⟩ := hcontrol
    unfold GatewayProcess.step
    dsimp only
    split_ifs
    · exact h
    · exact h.control hok o
  · have hstepped := step_stepped hok e
    generalize (p.step e).1 = p' at hstepped ⊢
    generalize (p.step e).2 = messages at hstepped
    cases hstepped with
    | idle => exact h
    | control o => exact absurd ⟨o, rfl⟩ hcontrol
    | discovered config => exact h.onDiscoverySuccess config
    | served => exact h
    | accept => exact h
    | confirmAccepted now =>
        exact connectsNetworked_handled h (GatewayController.onDpConfirmed_handled trivial p.controller now)
          p.point false
    | receive message now =>
        exact connectsNetworked_handled h (GatewayController.handleReceivedMessage_handled p.controller message now)
          p.point p.accepted

/-! ## The receive thread -/

/-- A gateway that starts. -/
def initial (componentType : ComponentType) (operationMode : OperationMode) (componentId : String)
    (dataPlaneListenPort : Int) : GatewayProcess :=
  { controller := { componentType, operationMode, componentId, dataPlaneListenPort } }

/-- The state after one event of a run. -/
def next (p : GatewayProcess) (e : Event) : GatewayProcess := (p.step e).1

/-- A step on a document as it arrives: an `out_of_range` of the parser ends the process. -/
def deliver (p : GatewayProcess) : Event → GatewayProcess
  | .receive message now =>
    match message.parsed with
    | some document => p.next (.receive document now)
    | none => if p.receiving then { p with controller := { p.controller with terminated := true } } else p
  | e => p.next e

/-- A document that arrives does not end the process, and one that is not of the documented shape does not change the
sessions. -/
def Survives (p : GatewayProcess) : Event → Prop
  | .receive message now => p.controller.terminated = false → p.receiving = true →
      (p.deliver (.receive message now)).controller.terminated = false ∧
        (Protocol.documented message = false →
          (p.deliver (.receive message now)).controller.activeSessions = p.controller.activeSessions)
  | _ => True

/-- Every number of the document is in range, every field that is read of it converts, every handler that it activates
can be registered, and it writes to no session if it is not of the documented shape. -/
def Digestible (p : GatewayProcess) : Event → Prop
  | .receive message now => p.controller.terminated = false → p.receiving = true →
      ∃ document, message.parsed = some document ∧ p.controller.ReadsMessage document ∧
        (Protocol.documented message = false → ¬ p.controller.WritesMessage document now)
  | _ => True

/-- What holds of every run of a gateway. -/
def Sound (p : GatewayProcess) : Prop := PointOk p.point p.controller.state ∧ ConnectsNetworked p

theorem Sound.next (h : Sound p) (e : Event) : Sound (p.next e) := ⟨(consistent_step h.1 e).1, h.2.step h.1 e⟩

theorem Sound.deliver (h : Sound p) (e : Event) : Sound (p.deliver e) := by
  unfold GatewayProcess.deliver
  split
  · split
    · exact h.next _
    · split_ifs
      · exact ⟨h.1, h.2⟩
      · exact h
  · exact h.next e

theorem sound_deliver_run (componentType : ComponentType) (operationMode : OperationMode) (componentId : String)
    (dataPlaneListenPort : Int) (es : List Event) :
    Sound (Run.run deliver (initial componentType operationMode componentId dataPlaneListenPort) es) := by
  refine Run.run_invariant_of_step deliver (fun _ e h => h.deliver e) es _ ⟨trivial, fun _ => ⟨rfl, ?_, fun _ => ?_⟩⟩
  · exact ControllerState.noConfusion
  · exact ControllerState.noConfusion

/-- **One delivery.** -/
theorem survives_iff (h : ConnectsNetworked p) (e : Event) : Survives p e ↔ Digestible p e := by
  cases e with
  | receive message now =>
      refine forall₂_congr fun hlive hreceiving => ?_
      have hmode : p.controller.operationMode = .networked := by
        by_contra hmode
        cases hreceiving.symm.trans (h hmode).1
      cases hparsed : message.parsed with
      | none =>
          have hdeliver : p.deliver (.receive message now) =
              { p with controller := { p.controller with terminated := true } } := by
            unfold deliver
            dsimp only
            rw [hparsed]
            exact if_pos hreceiving
          rw [hdeliver]
          simp
      | some document =>
          have hdeliver : p.deliver (.receive message now) =
              { p with controller := (p.controller.handleReceivedMessage document now).1 } := by
            unfold deliver next GatewayProcess.step
            dsimp only
            rw [hparsed]
            dsimp only
            rw [if_neg (by rw [hlive]; exact Bool.false_ne_true), if_pos hreceiving]
          rw [hdeliver]
          simp only [Option.some.injEq, exists_eq_left']
          exact and_congr (GatewayController.terminated_iff_reads hlive hmode document now)
            (imp_congr_right fun _ => GatewayController.unchanged_iff hmode document now)
  | _ => exact Iff.rfl

end GatewayProcess

end EdgeOffloading
