import EdgeOffloading.Bridge.Invariants
import EdgeOffloading.Bridge.Keepalive

/-!
# A message received again

A gateway sends a message again, with the same sequence number, until it gets the ACK, and the Bridge does not compare
sequence numbers.

* `Handled`: what the first reception of a message leaves behind in its connection;
* `handled_step`: it does so, and later steps keep it;
* `step_copy`: a copy of a message that is no request then touches nothing but the time of a keepalive.
-/

namespace EdgeOffloading.Bridge

variable {b : Bridge}

/-- A copy of the message is ignored, or is accepted and finds its connection set up. -/
inductive Handled (conn : MGWCPConnection) (message : Json) : Prop
  | ignored (h : conn.receive message = .ignored)
  | accepted (seqNum : Nat) (code : Int) (payload : Json)
      (h : conn.receive message = .accepted conn.componentId seqNum code payload) (hid : conn.componentId ≠ "")
      (hdp : code = 103 →
        conn.state ≠ .connecting ∨ payload.contains "dp_host" = false ∨ payload.contains "dp_port" = false)
      (hrequest : code = 101 ∨ code = 102 → payload.contains "request_id" = true →
        ∃ r, (payload.get "request_id").asString = some r)

/-- What a step does to a connection whose thread goes on. -/
structure Advances (conn conn' : MGWCPConnection) : Prop where
  componentId : conn'.componentId = conn.componentId ∨
    conn.componentId = "" ∧ isValidComponentId conn'.componentId = true
  state : conn.state ≠ .connecting → conn'.state ≠ .connecting

theorem Advances.refl (conn : MGWCPConnection) : Advances conn conn := ⟨Or.inl rfl, id⟩

/-- A message that is ignored while its connection has no component id is ignored afterwards. -/
theorem receive_ignored_of_identified {conn conn' : MGWCPConnection} {message : Json} (hnil : conn.componentId = "")
    (hvalid : isValidComponentId conn'.componentId = true) (h : conn.receive message = .ignored) :
    conn'.receive message = .ignored := by
  unfold MGWCPConnection.receive at h ⊢
  split
  · rfl
  · rename_i hshape
    rw [if_neg hshape] at h
    split at h
    · split at h
      · cases h
      · rename_i hack
        split at h
        · cases h
        · rename_i c hc
          split at h
          · cases h
          · rename_i haccepts
            rw [if_neg hack, if_neg]
            rw [MGWCPConnection.acceptsComponentId, if_pos hnil] at haccepts
            rw [MGWCPConnection.acceptsComponentId, if_neg (isValidComponentId.ne_empty hvalid)]
            intro heq
            rw [decide_eq_true_eq] at heq
            rw [← heq] at haccepts
            exact haccepts hvalid
    · cases h

/-- An accepted message is accepted again. -/
theorem receive_accepted_of_componentId {conn conn' : MGWCPConnection} {message payload : Json} {c : String}
    {seqNum : Nat} {code : Int} (hid : conn'.componentId = c) (hc : c ≠ "")
    (h : conn.receive message = .accepted c seqNum code payload) :
    conn'.receive message = .accepted c seqNum code payload := by
  have haccepts : conn'.acceptsComponentId c = true := MGWCPConnection.acceptsComponentId_iff.mpr
    (Or.inr ⟨by rwa [hid], hid⟩)
  obtain ⟨hstructure, hcode, hack, hseq, hmsg, -, hpayload⟩ := MGWCPConnection.receive_eq_accepted_iff.mp h
  exact MGWCPConnection.receive_eq_accepted_iff.mpr ⟨hstructure, hcode, hack, hseq, hmsg, haccepts, hpayload⟩

theorem receive_eq_of_componentId {conn conn' : MGWCPConnection} (h : conn'.componentId = conn.componentId)
    (message : Json) : conn'.receive message = conn.receive message := by
  have haccepts : ∀ c, conn'.acceptsComponentId c = conn.acceptsComponentId c := fun c => by
    rw [MGWCPConnection.acceptsComponentId, MGWCPConnection.acceptsComponentId, h]
  unfold MGWCPConnection.receive
  simp only [haccepts]

theorem Handled.advance {conn conn' : MGWCPConnection} {message : Json} (h : Handled conn message)
    (hadv : Advances conn conn') : Handled conn' message := by
  cases h with
  | ignored h =>
      rcases hadv.componentId with heq | ⟨hnil, hvalid⟩
      · exact .ignored (by rw [receive_eq_of_componentId heq, h])
      · exact .ignored (receive_ignored_of_identified hnil hvalid h)
  | accepted seqNum code payload h hid hdp hrequest =>
      have heq : conn'.componentId = conn.componentId := by
        rcases hadv.componentId with heq | ⟨hnil, -⟩
        · exact heq
        · exact absurd hnil hid
      refine .accepted seqNum code payload ?_ (by rwa [heq]) ?_ hrequest
      · rw [receive_eq_of_componentId heq, h, heq]
      · intro hcode
        exact (hdp hcode).imp_left hadv.state

/-! ## Later steps -/

theorem receiving_congr {b' : Bridge} {t : ClientId} (hclients : t ∈ b'.serverClients ↔ t ∈ b.serverClients)
    (hconn : b'.mgwcpConnections t = b.mgwcpConnections t) : b'.receiving t = b.receiving t := by
  unfold receiving
  rw [hconn]
  simp only [hclients]

/-- The connection that is received from after it was replaced. -/
theorem receiving_putConnection {t : ClientId} {conn conn' : MGWCPConnection}
    (h : (b.putConnection t conn).receiving t = some conn') : conn' = conn ∧ conn.threadAlive = true := by
  obtain ⟨-, hconn⟩ := receiving_eq_some h
  rw [putConnection_apply, if_pos rfl] at hconn
  cases hconn
  unfold receiving at h
  split_ifs at h
  have hrun := (Option.filter_eq_some_iff.mp h).2
  simp only [Bool.and_eq_true] at hrun
  exact ⟨rfl, hrun.2⟩

theorem receiving_putConnection_of_ne {t t' : ClientId} (conn : MGWCPConnection) (h : t' ≠ t) :
    (b.putConnection t conn).receiving t' = b.receiving t' :=
  receiving_congr Iff.rfl (by rw [putConnection_apply, if_neg h])

theorem receiving_iff {t : ClientId} {conn : MGWCPConnection} :
    b.receiving t = some conn ↔
      t ∈ b.serverClients ∧ b.mgwcpConnections t = some conn ∧ conn.running = true ∧ conn.threadAlive = true := by
  unfold receiving
  split_ifs with ht
  · simp [ht, Option.filter_eq_some_iff]
  · simp [ht]

theorem Advances.trans {conn₁ conn₂ conn₃ : MGWCPConnection} (h₁ : Advances conn₁ conn₂) (h₂ : Advances conn₂ conn₃) :
    Advances conn₁ conn₃ := by
  refine ⟨?_, fun h => h₂.state (h₁.state h)⟩
  rcases h₂.componentId with heq | ⟨hnil, hvalid⟩
  · rw [heq]
    exact h₁.componentId
  · rcases h₁.componentId with heq' | ⟨-, hvalid'⟩
    · exact Or.inr ⟨heq' ▸ hnil, hvalid⟩
    · exact absurd hnil (isValidComponentId.ne_empty hvalid')

theorem DispatchEffect.advances {t : ClientId} {conn : MGWCPConnection} {env : Env} {code : Int} {payload : Json}
    {b' : Bridge} (hconn : b.mgwcpConnections t = some conn) (hb' : b.DispatchEffect t conn env code payload b')
    {t' : ClientId} {conn' : MGWCPConnection} (hrecv : b'.receiving t' = some conn') :
    ∃ conn₀, b.receiving t' = some conn₀ ∧ Advances conn₀ conn' := by
  cases hb' with
  | none => exact ⟨conn', hrecv, .refl conn'⟩
  | ended dpHost dpPort =>
      by_cases h : t' = t
      · subst h
        cases (receiving_putConnection hrecv).2
      · rw [receiving_putConnection_of_ne _ h] at hrecv
        exact ⟨conn', hrecv, .refl conn'⟩
  | confirmed dpHost dpPort b₁ senders hcode hstate hb₁ =>
      obtain ⟨hclients, hconns⟩ : b₁.serverClients = b.serverClients ∧ b₁.mgwcpConnections = b.mgwcpConnections := by
        rcases createTransportHandlerForMgwdp_cases hb₁ with ⟨heq, -⟩ | ⟨handler, -, -, heq⟩
        · cases heq; exact ⟨rfl, rfl⟩
        · cases heq; exact ⟨rfl, rfl⟩
      by_cases h : t' = t
      · subst h
        obtain ⟨ht', hconn', hrun, halive⟩ := receiving_iff.mp hrecv
        have heq : conn' = { conn with dpHost := dpHost, dpPort := dpPort, state := .operational } := by
          have := hconn'.symm.trans (putConnection_apply t' t' _)
          rw [if_pos rfl] at this
          exact Option.some.inj this
        subst heq
        exact ⟨conn, receiving_iff.mpr ⟨hclients ▸ ht', hconn, hrun, halive⟩, Or.inl rfl, fun _ h => by cases h⟩
      · refine ⟨conn', ?_, .refl conn'⟩
        rw [← hrecv]
        refine (receiving_congr ?_ ?_).symm
        · show t' ∈ b₁.serverClients ↔ _
          rw [hclients]
        · refine (putConnection_apply t t' _).trans ?_
          rw [if_neg h, hconns]
  | requested requestId taskId taskName omConnected hcode hstate hreq htask => exact ⟨conn', hrecv, .refl conn'⟩
  | keptAlive requestId omConnected hcode hreq => exact ⟨conn', hrecv, .refl conn'⟩
  | forwarded omConnected hcode => exact ⟨conn', hrecv, .refl conn'⟩

/-- The message that identifies a connection. -/
theorem identified_advances {t : ClientId} {conn : MGWCPConnection} {c : String} (hrecv : b.receiving t = some conn)
    (hc : conn.acceptsComponentId c = true) {t' : ClientId} {conn' : MGWCPConnection}
    (hrecv' : (b.identified t conn c).receiving t' = some conn') :
    ∃ conn₀, b.receiving t' = some conn₀ ∧ Advances conn₀ conn' := by
  by_cases h : t' = t
  · subst h
    obtain ⟨-, hconn', -⟩ := receiving_iff.mp hrecv'
    rw [identified_apply (receiving_eq_some hrecv).2 hc] at hconn'
    cases hconn'
    refine ⟨conn, hrecv, ?_, id⟩
    rcases MGWCPConnection.acceptsComponentId_iff.mp hc with ⟨hnil, hvalid⟩ | ⟨-, heq⟩
    · exact Or.inr ⟨hnil, hvalid⟩
    · exact Or.inl heq.symm
  · refine ⟨conn', ?_, .refl conn'⟩
    rw [← hrecv']
    unfold identified
    split_ifs
    · symm
      refine receiving_congr Iff.rfl ?_
      exact (putConnection_apply t t' _).trans (if_neg h)
    · rfl

/-- A connection that is received from after a step was received from before, unless it is new. -/
def StepAdvances (b : Bridge) (e : Event) (b' : Bridge) : Prop :=
  ∀ t conn', b'.receiving t = some conn' → (∃ ip, e = .connect t ip ∧ t ∉ b.serverClients) ∨
    ∃ conn, b.receiving t = some conn ∧ Advances conn conn'

theorem Effect.advances {env : Env} {e : Event} {b' : Bridge} (he : b.Effect env e b') : StepAdvances b e b' := by
  intro t conn' hconn'
  cases he with
  | idle e senders omConnected terminated => exact Or.inr ⟨conn', hconn', .refl conn'⟩
  | connected t' clientIp ht' =>
      by_cases h : t = t'
      · subst h
        exact Or.inl ⟨clientIp, rfl, ht'⟩
      · refine Or.inr ⟨conn', ?_, .refl conn'⟩
        rw [← hconn']
        refine (receiving_congr ?_ ?_).symm
        · simp [handleNewMgwcpConnection, putConnection, h]
        · simp [handleNewMgwcpConnection, putConnection, h]
  | threadEnded e t' conn ht' hconn =>
      by_cases h : t = t'
      · subst h
        cases (receiving_putConnection hconn').2
      · rw [endThread, receiving_putConnection_of_ne _ h] at hconn'
        exact Or.inr ⟨conn', hconn', .refl conn'⟩
  | accepted t' message conn c seqNum code payload b' hrecv hmsg hb' =>
      have hacc := MGWCPConnection.receive_accepted hmsg
      have hconn := identified_apply (receiving_eq_some hrecv).2 hacc
      obtain ⟨conn₁, hrecv₁, hadv₁⟩ := hb'.advances hconn hconn'
      obtain ⟨conn₀, hrecv₀, hadv₀⟩ := identified_advances hrecv hacc hrecv₁
      exact Or.inr ⟨conn₀, hrecv₀, hadv₀.trans hadv₁⟩
  | disconnected t' ht' =>
      have hne : t ≠ t' := by
        rintro rfl
        have := (receiving_eq_some hconn').1
        simp at this
      refine Or.inr ⟨conn', ?_, .refl conn'⟩
      rw [← hconn']
      refine (receiving_congr ?_ ?_).symm
      · simp [hne]
      · exact (disconnection_apply t' t).trans (if_neg hne)
  | approved message r senders hlive hom hcode hid => exact Or.inr ⟨conn', hconn', .refl conn'⟩
  | denied message r hlive hom hcode hid => exact Or.inr ⟨conn', hconn', .refl conn'⟩
  | worked c event handler hh => exact Or.inr ⟨conn', hconn', .refl conn'⟩

/-! ## The first reception -/

theorem receiving_endThread (t : ClientId) (conn : MGWCPConnection) : (b.endThread t conn).receiving t = none := by
  cases h : (b.endThread t conn).receiving t with
  | none => rfl
  | some conn' => cases (receiving_putConnection h).2

/-- A connection that goes on after DP_INFO has left the state CONNECTING, or the message was incomplete. -/
theorem state_handleDpInfo {t : ClientId} {conn conn' : MGWCPConnection} {payload : Json} {env : Env}
    (hconn : b.mgwcpConnections t = some conn) (h : (b.handleDpInfo t conn payload env).1.receiving t = some conn') :
    conn'.state ≠ .connecting ∨ payload.contains "dp_host" = false ∨ payload.contains "dp_port" = false := by
  unfold handleDpInfo at h
  split at h
  · rename_i hstate
    rw [(receiving_eq_some h).2] at hconn
    cases hconn
    exact Or.inl hstate
  · split at h
    · rename_i hfields
      simp only [Bool.or_eq_true, Bool.not_eq_true'] at hfields
      exact Or.inr hfields
    · split at h
      · dsimp only at h
        split at h
        · rw [receiving_endThread] at h
          cases h
        · have hconn' := (receiving_eq_some h).2
          have := hconn'.symm.trans (putConnection_apply t t _)
          rw [if_pos rfl] at this
          cases this
          exact Or.inl (by simp)
        · obtain ⟨heq, -⟩ := receiving_putConnection h
          rw [heq]
          exact Or.inl (by simp)
      · rw [receiving_endThread] at h
        cases h

/-- A connection goes on only after a request id that can be read, if the thread ends otherwise. -/
theorem requestId_of_receiving {t : ClientId} {conn conn' : MGWCPConnection} {payload : Json} {b' : Bridge}
    (hended : (payload.get "request_id").asString = none → b' = b.endThread t conn)
    (h : b'.receiving t = some conn') : ∃ r, (payload.get "request_id").asString = some r := by
  cases hid : (payload.get "request_id").asString with
  | none =>
      rw [hended hid, receiving_endThread] at h
      cases h
  | some r => exact ⟨r, rfl⟩

theorem handleSessionKeepalive_ended {t : ClientId} {conn : MGWCPConnection} {payload : Json} (env : Env)
    (hcont : payload.contains "request_id" = true) (hid : (payload.get "request_id").asString = none) :
    (b.handleSessionKeepalive t conn payload env).1 = b.endThread t conn := by
  unfold handleSessionKeepalive
  rw [if_neg (by rw [hcont]; decide), hid]

theorem handleSessionTerminateRequest_ended {t : ClientId} {conn : MGWCPConnection} {payload : Json} (env : Env)
    (hcont : payload.contains "request_id" = true) (hid : (payload.get "request_id").asString = none) :
    (b.handleSessionTerminateRequest t conn payload env).1 = b.endThread t conn := by
  unfold handleSessionTerminateRequest
  rw [if_neg (by rw [hcont]; decide), hid]

theorem receive_ack {conn : MGWCPConnection} {message payload : Json} (h : conn.receive message = .ack payload) :
    (message.get "message_code").asInt = some 900 := by
  unfold MGWCPConnection.receive at h
  split at h
  · cases h
  · split at h
    · split at h
      · rename_i hcode
        rw [← hcode]
        assumption
      · split at h
        · cases h
        · split at h <;> cases h
    · cases h

/-- A message that is no ACK is handled once it has been received. -/
theorem handled_handleReceivedMessage {t : ClientId} {conn conn' : MGWCPConnection} {message : Json} {env : Env}
    (hrecv : b.receiving t = some conn) (hack : (message.get "message_code").asInt ≠ some 900)
    (h : (b.handleReceivedMessage t conn message env).1.receiving t = some conn') : Handled conn' message := by
  cases hmsg : conn.receive message with
  | ignored =>
      unfold handleReceivedMessage at h
      rw [hmsg] at h
      cases hrecv.symm.trans h
      exact .ignored hmsg
  | thrown =>
      unfold handleReceivedMessage at h
      rw [hmsg] at h
      dsimp only at h
      rw [receiving_endThread] at h
      cases h
  | ack payload => exact absurd (receive_ack hmsg) hack
  | accepted c seqNum code payload =>
      rw [handleReceivedMessage_accepted hmsg] at h
      have hacc := MGWCPConnection.receive_accepted hmsg
      have hconn := identified_apply (receiving_eq_some hrecv).2 hacc
      have hc : c ≠ "" := by
        rcases MGWCPConnection.acceptsComponentId_iff.mp hacc with ⟨-, hvalid⟩ | ⟨hne, rfl⟩
        · exact isValidComponentId.ne_empty hvalid
        · exact hne
      obtain ⟨conn₁, hrecv₁, hadv⟩ :=
        (dispatch_effect t { conn with componentId := c } code payload env).advances hconn h
      have heq : conn'.componentId = c := by
        cases hconn.symm.trans (receiving_eq_some hrecv₁).2
        rcases hadv.componentId with heq | ⟨hnil, -⟩
        · exact heq
        · exact absurd hnil hc
      refine .accepted seqNum code payload ?_ (by rwa [heq]) ?_ ?_
      · rw [heq]
        exact receive_accepted_of_componentId heq hc hmsg
      · rintro rfl
        exact state_handleDpInfo hconn h
      · rintro (rfl | rfl) hcont
        · exact requestId_of_receiving (handleSessionKeepalive_ended env hcont) h
        · exact requestId_of_receiving (handleSessionTerminateRequest_ended env hcont) h

/-! ## Copies -/

/-- A request that passes the checks of `handle_offload_request`. -/
def TakesRequest (b : Bridge) (t : ClientId) (message : Json) : Prop :=
  ∃ conn c seqNum payload, b.receiving t = some conn ∧ conn.receive message = .accepted c seqNum 100 payload ∧
    conn.state = .operational ∧ payload.contains "request_id" = true ∧ payload.contains "task_id" = true ∧
    payload.contains "task_name" = true

/-- What neither a gateway nor the OM acts on: ACKs, and messages that are no request and no failure report. -/
def InertOutput : Output → Prop
  | .sendTo _ message _ => (message.get "message_code").asInt = some 900
  | .om message => (message.get "message_code").eqInt 100 = false ∧ (message.get "message_code").eqInt 301 = false
  | _ => False

theorem sendOmMessage_sent (message : Json) {env : Env} (hom : env.omSendOk = true) :
    b.sendOmMessage message env = (b.omConnected, if b.omConnected then [.om message] else []) := by
  unfold sendOmMessage
  rw [hom]
  cases b.omConnected <;> rfl

theorem forwardMessageToOm_inert (c : String) (code : Int) (type : String) (payload : Json) {env : Env}
    (hom : env.omSendOk = true) (hrequest : code ≠ 100) (hfailure : code ≠ 301) :
    ∃ outputs, b.forwardMessageToOm c (forwardMessage c code type payload) env = some (b, outputs) ∧
      ∀ o ∈ outputs, InertOutput o := by
  have hcode : ((forwardMessage c code type payload).get "message_code") = .int code := rfl
  have hforward : (((forwardMessage c code type payload).set "bridge_component_id" (.str bridgeComponentId)).get
      "message_code") = .int code := rfl
  have hsessions : sessionsForwarding b.sessionManager b.globalConfig c (forwardMessage c code type payload) env.now =
      some b.sessionManager := by
    unfold sessionsForwarding
    rw [hcode, if_neg]
    simp [Json.eqInt, hrequest]
  have hnew : (forwardMessage c code type payload).contains "bridge_component_id" = false := rfl
  rw [forwardMessageToOm_eq, hsessions, hnew, if_neg (by decide)]
  dsimp only [Option.map_some]
  rw [sendOmMessage_sent _ hom]
  refine ⟨_, rfl, fun o ho => ?_⟩
  split at ho
  · rw [List.mem_singleton.mp ho]
    refine ⟨?_, ?_⟩
    · rw [hforward]; simp [Json.eqInt, hrequest]
    · rw [hforward]; simp [Json.eqInt, hfailure]
  · cases ho

/-- A handler that does nothing but touch the time of a keepalive and send what nobody acts on. -/
def Harmless (b : Bridge) (result : Bridge × List Output) : Prop :=
  result.1.forget = b.forget ∧ ∀ o ∈ result.2, InertOutput o

theorem harmless_unchanged : Harmless b (b, []) := ⟨rfl, fun o ho => by cases ho⟩

section Handlers

variable {t : ClientId} {conn : MGWCPConnection} {payload : Json} {env : Env}

theorem harmless_handleDpInfo
    (h : conn.state ≠ .connecting ∨ payload.contains "dp_host" = false ∨ payload.contains "dp_port" = false) :
    Harmless b (b.handleDpInfo t conn payload env) := by
  unfold handleDpInfo
  split
  · exact harmless_unchanged
  · rename_i hstate
    rw [if_pos]
    · exact harmless_unchanged
    · rcases h.resolve_left hstate with h | h <;> simp [h]

theorem harmless_handleOffloadRequest
    (h : conn.state = .operational → payload.contains "request_id" = true → payload.contains "task_id" = true →
      payload.contains "task_name" = false) : Harmless b (b.handleOffloadRequest t conn payload env) := by
  unfold handleOffloadRequest
  split
  · exact harmless_unchanged
  · rename_i hstate
    rw [if_pos]
    · exact harmless_unchanged
    · by_contra hfields
      simp only [Bool.not_eq_true, Bool.or_eq_false_iff, Bool.not_eq_false'] at hfields
      obtain ⟨⟨hr, ht⟩, hn⟩ := hfields
      rw [h (not_not.mp hstate) hr ht] at hn
      cases hn

theorem harmless_handleSessionKeepalive (hom : env.omSendOk = true)
    (h : payload.contains "request_id" = true → ∃ r, (payload.get "request_id").asString = some r) :
    Harmless b (b.handleSessionKeepalive t conn payload env) := by
  unfold handleSessionKeepalive
  split
  · exact harmless_unchanged
  · rename_i hcont
    obtain ⟨r, hr⟩ := h (by simpa using hcont)
    rw [hr]
    obtain ⟨outputs, hforward, hinert⟩ :=
      { b with sessionManager := b.sessionManager.updateKeepalive r env.now }.forwardMessageToOm_inert
        conn.componentId 101 "SESSION_KEEPALIVE" payload hom (by decide) (by decide)
    dsimp only
    rw [hforward]
    refine ⟨?_, hinert⟩
    simp [orEndThread, forget, SessionManager.forget_updateKeepalive]

theorem harmless_handleSessionTerminateRequest (hom : env.omSendOk = true)
    (h : payload.contains "request_id" = true → ∃ r, (payload.get "request_id").asString = some r) :
    Harmless b (b.handleSessionTerminateRequest t conn payload env) := by
  unfold handleSessionTerminateRequest
  split
  · exact harmless_unchanged
  · rename_i hcont
    obtain ⟨r, hr⟩ := h (by simpa using hcont)
    rw [hr]
    obtain ⟨outputs, hforward, hinert⟩ := b.forwardMessageToOm_inert conn.componentId 102 "SESSION_TERMINATE_REQUEST"
      payload hom (by decide) (by decide)
    dsimp only
    rw [hforward]
    exact ⟨rfl, hinert⟩

theorem harmless_dispatch {code : Int} (hom : env.omSendOk = true)
    (hdp : code = 103 →
      conn.state ≠ .connecting ∨ payload.contains "dp_host" = false ∨ payload.contains "dp_port" = false)
    (hid : code = 101 ∨ code = 102 → payload.contains "request_id" = true →
      ∃ r, (payload.get "request_id").asString = some r)
    (hrequest : code = 100 → conn.state = .operational → payload.contains "request_id" = true →
      payload.contains "task_id" = true → payload.contains "task_name" = false) :
    Harmless b (b.dispatch t conn code payload env) := by
  unfold dispatch
  split_ifs with h103 h100 h101 h102
  · exact harmless_handleDpInfo (hdp h103)
  · exact harmless_handleOffloadRequest (hrequest h100)
  · exact harmless_handleSessionKeepalive hom (hid (Or.inl h101))
  · exact harmless_handleSessionTerminateRequest hom (hid (Or.inr h102))
  · exact harmless_unchanged

end Handlers

theorem inert_sendAck (t : ClientId) (c : String) (seqNum : Nat) (env : Env) :
    ∀ o ∈ b.sendAck t c seqNum env, InertOutput o := by
  intro o ho
  unfold sendAck at ho
  split at ho
  · rw [List.mem_singleton.mp ho]
    rfl
  · cases ho

/-- **A copy is harmless** unless it is a request that is taken again. -/
theorem step_copy {t : ClientId} {message : Json} {env : Env}
    (hhandled : ∀ conn, b.receiving t = some conn → Handled conn message) (hno : ¬ TakesRequest b t message)
    (hom : env.omSendOk = true) : Harmless b (b.step env (.message t message)) := by
  cases hlive : b.terminated with
  | true =>
      rw [step_terminated hlive]
      exact harmless_unchanged
  | false =>
      cases hrecv : b.receiving t with
      | none =>
          have hidle : b.step env (.message t message) = (b, []) := by
            unfold step
            rw [if_neg (by rw [hlive]; decide)]
            dsimp only
            rw [hrecv]
          rw [hidle]
          exact harmless_unchanged
      | some conn =>
          rw [step_message hlive hrecv]
          cases hhandled conn hrecv with
          | ignored h =>
              unfold handleReceivedMessage
              rw [h]
              exact harmless_unchanged
          | accepted seqNum code payload h hid hdp hrequest =>
              have hsame : b.identified t conn conn.componentId = b := if_neg hid
              rw [handleReceivedMessage_accepted h, hsame]
              have hdispatch : Harmless b (b.dispatch t conn code payload env) := by
                refine harmless_dispatch hom hdp hrequest fun hcode hstate hr ht => ?_
                by_contra hn
                subst hcode
                exact hno ⟨conn, _, seqNum, payload, hrecv, h, hstate, hr, ht, by simpa using hn⟩
              obtain ⟨hb, hinert⟩ := hdispatch
              refine ⟨hb, fun o ho => ?_⟩
              rcases List.mem_append.mp ho with ho | ho
              · exact inert_sendAck t _ seqNum env o ho
              · exact hinert o ho

end EdgeOffloading.Bridge
