import EdgeOffloading.Bridge.Invariants

/-!
# When the Bridge confirms the data plane

A DP_CONNECTION_CONFIRMED for a client is made up in one place, when DP_INFO arrives in the state `CONNECTING`;
everything else that goes to the client is another message or one that is sent again.

* `step_quiet_or_confirms`: a step sends no new confirmation to a client, or it makes its connection operational;
* `connection_step`: what a step does to a connection.
-/

namespace EdgeOffloading

/-- A message that the gateway takes for a DP_CONNECTION_CONFIRMED. -/
def ConfirmsDp (message : Json) : Prop := (message.get "message_code").asInt = some 202

instance (message : Json) : Decidable (ConfirmsDp message) :=
  inferInstanceAs (Decidable ((message.get "message_code").asInt = some 202))

theorem not_confirmsDp {message : Json} (code : Int) (h : message.get "message_code" = .int code)
    (hcode : code.bmod (2 ^ 32) ≠ 202) : ¬ ConfirmsDp message := by
  unfold ConfirmsDp
  rw [h]
  exact fun heq => hcode (Option.some.inj heq)

/-- A sequence number is allocated for a confirmation to client `t`. -/
def Output.allocates (t : ClientId) : Output → Bool
  | .reliable t' message => decide (t' = t ∧ ConfirmsDp message)
  | _ => false

/-- An ACK is not accepted as a message. -/
theorem MGWCPConnection.receive_accepted_code_ne {conn : MGWCPConnection} {message payload : Json} {c : String}
    {seqNum : Nat} {code : Int} (h : conn.receive message = .accepted c seqNum code payload) : code ≠ 900 := by
  obtain ⟨-, -, hne, -⟩ := receive_eq_accepted_iff.mp h
  exact hne

namespace Bridge

variable {b : Bridge} {t : ClientId}

/-! ## Sending -/

/-- No new confirmation for client `t`: what is unacknowledged or sent comes from what was unacknowledged, and it is
sent only on a connection (`C`). -/
structure Quiet (C : Prop) (t : ClientId) (senders senders' : ClientId → ReliableSender) (outputs : List Output) :
    Prop where
  pending : ∀ p ∈ (senders' t).pendingAcks, ConfirmsDp p.2.message →
    ∃ p₀ ∈ (senders t).pendingAcks, ConfirmsDp p₀.2.message
  sent : ∀ message ok, Output.sendTo t message ok ∈ outputs → ConfirmsDp message →
    C ∧ ∃ p₀ ∈ (senders t).pendingAcks, ConfirmsDp p₀.2.message
  allocated : ∀ o ∈ outputs, o.allocates t = false

variable {C : Prop} {senders senders' senders'' : ClientId → ReliableSender} {outputs outputs' : List Output}

theorem Quiet.nil (h : senders' t = senders t) : Quiet C t senders senders' [] where
  pending p hp hconf := ⟨p, h ▸ hp, hconf⟩
  sent _ _ h := by cases h
  allocated _ h := by cases h

theorem Quiet.trans (h : Quiet C t senders senders' outputs) (h' : Quiet C t senders' senders'' outputs') :
    Quiet C t senders senders'' (outputs ++ outputs') where
  pending p hp hconf := by
    obtain ⟨p₀, hp₀, hconf₀⟩ := h'.pending p hp hconf
    exact h.pending p₀ hp₀ hconf₀
  sent message ok hmem hconf := by
    rcases List.mem_append.mp hmem with hmem | hmem
    · exact h.sent message ok hmem hconf
    · obtain ⟨hC, p₀, hp₀, hconf₀⟩ := h'.sent message ok hmem hconf
      exact ⟨hC, h.pending p₀ hp₀ hconf₀⟩
  allocated o ho := by
    rcases List.mem_append.mp ho with ho | ho
    · exact h.allocated o ho
    · exact h'.allocated o ho

theorem Quiet.countP_eq_zero (h : Quiet C t senders senders' outputs) : outputs.countP (·.allocates t) = 0 :=
  List.countP_eq_zero.mpr fun o ho => (Bool.not_eq_true _).mpr (h.allocated o ho)

/-- A message that is no confirmation or goes to another client. -/
theorem quiet_sendReliableMessage {t' : ClientId} {message : Json}
    (hmsg : t' = t → ¬ ConfirmsDp message ∧ ∀ n : Nat, ¬ ConfirmsDp (message.set "sequence_number" (.int n)))
    (env : Env) :
    Quiet C t senders (b.sendReliableMessage senders t' message env).1
      (b.sendReliableMessage senders t' message env).2 := by
  have hother : (Output.reliable t' message).allocates t = false :=
    decide_eq_false fun h => (hmsg h.1).1 h.2
  unfold Bridge.sendReliableMessage
  split_ifs
  · refine ⟨fun p hp hconf => ?_, fun m ok hm hconf => ?_, fun o ho => ?_⟩
    · dsimp only at hp
      by_cases ht : t' = t
      · subst ht
        rw [Function.update_self] at hp
        unfold ReliableSender.sendReliableMessage at hp
        dsimp only at hp
        split_ifs at hp
        · rcases List.mem_append.mp hp with hold | hnew
          · exact ⟨p, (List.mem_filter.mp hold).1, hconf⟩
          · rw [List.mem_singleton.mp hnew] at hconf
            exact absurd hconf ((hmsg rfl).2 _)
        · exact ⟨p, (List.mem_filter.mp hp).1, hconf⟩
      · rw [Function.update_of_ne (Ne.symm ht)] at hp
        exact ⟨p, hp, hconf⟩
    · simp only [List.mem_cons, List.not_mem_nil, or_false, reduceCtorEq, false_or, Output.sendTo.injEq] at hm
      obtain ⟨ht, rfl, -⟩ := hm
      exact absurd hconf ((hmsg ht.symm).2 _)
    · simp only [List.mem_cons, List.not_mem_nil, or_false] at ho
      rcases ho with rfl | rfl
      · exact hother
      · rfl
  · refine ⟨fun p hp hconf => ⟨p, hp, hconf⟩, fun m ok hm => ?_, fun o ho => ?_⟩
    · simp at hm
    · rw [List.mem_singleton.mp ho]
      exact hother

theorem quiet_forwardTo {message : Json} (hmsg : ¬ ConfirmsDp message)
    (hseq : ∀ n : Nat, ¬ ConfirmsDp (message.set "sequence_number" (.int n))) (c : String) (env : Env) :
    Quiet C t senders (b.forwardTo senders c message env).1 (b.forwardTo senders c message env).2 := by
  unfold forwardTo
  split
  · exact .nil rfl
  · split
    · exact .nil rfl
    · exact quiet_sendReliableMessage (fun _ => ⟨hmsg, hseq⟩) env

theorem quiet_sendAck (t' : ClientId) (c : String) (n : Nat) (env : Env) :
    Quiet C t senders senders (b.sendAck t' c n env) := by
  unfold sendAck
  split_ifs
  · refine ⟨fun p hp hconf => ⟨p, hp, hconf⟩, fun m ok hm hconf => ?_, fun o ho => ?_⟩
    · obtain ⟨-, rfl, -⟩ := Output.sendTo.inj (List.mem_singleton.mp hm)
      exact absurd hconf (not_confirmsDp 900 rfl (by decide))
    · rw [List.mem_singleton.mp ho]
      rfl
  · exact .nil rfl

theorem quiet_checkForTimeouts (t' : ClientId) (env : Env) (hC : t' = t → C) :
    Quiet C t b.senders (b.checkForTimeouts t' env).1.senders (b.checkForTimeouts t' env).2 := by
  unfold checkForTimeouts ReliableSender.checkForTimeouts
  dsimp only
  refine ⟨fun p hp hconf => ?_, fun m ok hm hconf => ?_, fun o ho => ?_⟩
  · by_cases ht : t = t'
    · subst ht
      rw [Function.update_self] at hp
      obtain ⟨⟨n, p₀⟩, hp₀, hkept⟩ := List.mem_filterMap.mp hp
      dsimp only at hkept
      split_ifs at hkept
      · cases hkept
        exact ⟨(n, p₀), hp₀, hconf⟩
      · cases hkept
        exact ⟨(n, p₀), hp₀, hconf⟩
    · rw [Function.update_of_ne ht] at hp
      exact ⟨p, hp, hconf⟩
  · obtain ⟨m', hm', heq⟩ := List.mem_map.mp hm
    obtain ⟨rfl, rfl, -⟩ := Output.sendTo.inj heq
    obtain ⟨p, hp, rfl⟩ := List.mem_map.mp hm'
    exact ⟨hC rfl, p, (List.mem_filter.mp hp).1, hconf⟩
  · obtain ⟨m', -, rfl⟩ := List.mem_map.mp ho
    rfl

/-- What is sent to the OM is sent to no gateway. -/
theorem quiet_om {sent : List Output} (h : ∀ o ∈ sent, ∃ message, o = .om message) :
    Quiet C t senders senders sent where
  pending p hp hconf := ⟨p, hp, hconf⟩
  sent m ok hm := by
    obtain ⟨message, heq⟩ := h _ hm
    cases heq
  allocated o ho := by
    obtain ⟨message, rfl⟩ := h o ho
    rfl

theorem forwardMessageToOm_outputs {c : String} {message : Json} {env : Env} {r : Bridge × List Output}
    (h : b.forwardMessageToOm c message env = some r) :
    r.1.senders = b.senders ∧ ∀ o ∈ r.2, ∃ message, o = .om message := by
  unfold forwardMessageToOm at h
  obtain ⟨sessionManager, -, rfl⟩ := Option.map_eq_some_iff.mp h
  refine ⟨rfl, fun o ho => ?_⟩
  dsimp only at ho
  unfold sendOmMessage at ho
  split_ifs at ho
  all_goals first | exact ⟨_, List.mem_singleton.mp ho⟩ | cases ho

/-! ## One step -/

/-- The step confirms the data plane of client `t`: its connection was being set up and is operational now, and one
sequence number was allocated. -/
structure Confirms (t : ClientId) (b : Bridge) (r : Bridge × List Output) : Prop where
  connecting : ∃ conn, b.mgwcpConnections t = some conn ∧ conn.state = .connecting
  operational : ∃ conn, r.1.mgwcpConnections t = some conn ∧ conn.state = .operational
  allocated : r.2.countP (·.allocates t) = 1

theorem countP_sendReliableMessage (senders : ClientId → ReliableSender) (env : Env) :
    (b.sendReliableMessage senders t dpConnectionConfirmedMessage env).2.countP (·.allocates t) = 1 := by
  have hconf : ConfirmsDp dpConnectionConfirmedMessage := rfl
  have hone : (Output.reliable t dpConnectionConfirmedMessage).allocates t = true := by
    simp [Output.allocates, hconf]
  unfold Bridge.sendReliableMessage
  split_ifs
  · rw [List.countP_cons_of_pos hone]
    rfl
  · rw [List.countP_cons_of_pos hone]
    rfl

theorem handleDpInfo_quiet_or_confirms (t' : ClientId) (conn : MGWCPConnection) (payload : Json) (env : Env) :
    Quiet C t b.senders (b.handleDpInfo t' conn payload env).1.senders (b.handleDpInfo t' conn payload env).2 ∨
      t' = t ∧ conn.state = .connecting ∧
        (∃ conn', (b.handleDpInfo t' conn payload env).1.mgwcpConnections t = some conn' ∧
          conn'.state = .operational) ∧
        (b.handleDpInfo t' conn payload env).2.countP (·.allocates t) = 1 := by
  unfold handleDpInfo
  by_cases hstate : conn.state = .connecting
  · rw [if_neg (not_not.mpr hstate)]
    split
    · exact Or.inl (.nil rfl)
    · split
      · dsimp only
        unfold establishMgwcpDataPlaneConnection
        split
        · exact Or.inl (.nil rfl)
        · by_cases ht : t' = t
          · subst ht
            refine Or.inr ⟨rfl, hstate, ⟨_, (putConnection_apply t' t' _).trans (if_pos rfl), rfl⟩, ?_⟩
            exact countP_sendReliableMessage b.senders env
          · exact Or.inl (quiet_sendReliableMessage (fun h => absurd h ht) env)
        · rename_i b' hb'
          rcases createTransportHandlerForMgwdp_cases hb' with ⟨h, -⟩ | ⟨_, -, -, h⟩
          · cases h
          · cases h
      · exact Or.inl (.nil rfl)
  · rw [if_pos hstate]
    exact Or.inl (.nil rfl)

/-- A handler that at most forwards to the OM. -/
theorem quiet_orEndThread (t' : ClientId) (conn : MGWCPConnection) (c : String) (message : Json) (env : Env) :
    Quiet C t b.senders (b.orEndThread t' conn (b.forwardMessageToOm c message env)).1.senders
      (b.orEndThread t' conn (b.forwardMessageToOm c message env)).2 := by
  unfold orEndThread
  cases h : b.forwardMessageToOm c message env with
  | none => exact .nil rfl
  | some r =>
      obtain ⟨hsenders, houtputs⟩ := forwardMessageToOm_outputs h
      rw [Option.getD_some, hsenders]
      exact quiet_om houtputs

theorem dispatch_quiet_or_confirms (t' : ClientId) (conn : MGWCPConnection) (code : Int) (payload : Json) (env : Env) :
    Quiet C t b.senders (b.dispatch t' conn code payload env).1.senders (b.dispatch t' conn code payload env).2 ∨
      t' = t ∧ conn.state = .connecting ∧
        (∃ conn', (b.dispatch t' conn code payload env).1.mgwcpConnections t = some conn' ∧
          conn'.state = .operational) ∧
        (b.dispatch t' conn code payload env).2.countP (·.allocates t) = 1 := by
  unfold dispatch
  split_ifs
  · exact handleDpInfo_quiet_or_confirms t' conn payload env
  · left
    unfold handleOffloadRequest
    split_ifs
    · exact .nil rfl
    · exact .nil rfl
    · split
      · exact quiet_orEndThread t' conn _ _ env
      · exact .nil rfl
  · left
    unfold handleSessionKeepalive
    split_ifs
    · exact .nil rfl
    · split
      · exact .nil rfl
      · rename_i requestId _
        exact quiet_orEndThread (b := { b with sessionManager := b.sessionManager.updateKeepalive requestId env.now })
          t' conn _ _ env
  · left
    unfold handleSessionTerminateRequest
    split_ifs
    · exact .nil rfl
    · split
      · exact .nil rfl
      · exact quiet_orEndThread t' conn _ _ env
  · exact Or.inl (.nil rfl)

theorem not_confirmsDp_approved (payload : Json) (n : Nat) :
    ¬ ConfirmsDp (sessionApprovedMessage payload) ∧
      ¬ ConfirmsDp ((sessionApprovedMessage payload).set "sequence_number" (.int n)) :=
  ⟨not_confirmsDp 200 rfl (by decide), not_confirmsDp 200 rfl (by decide)⟩

theorem quiet_handleSessionApproved (message : Json) (env : Env) :
    Quiet C t b.senders (b.handleSessionApproved message env).1.senders (b.handleSessionApproved message env).2 := by
  have hmsg := fun payload => (not_confirmsDp_approved payload 0).1
  have hseq := fun payload n => (not_confirmsDp_approved payload n).2
  unfold handleSessionApproved
  dsimp only
  split_ifs
  · exact .nil rfl
  · split
    · exact .nil rfl
    · split
      · exact .nil rfl
      · rename_i session _
        have hvhc : Quiet C t b.senders
            (b.forwardTo b.senders session.mgwcpComponentId (sessionApprovedMessage (message.get "payload")) env).1
            (b.forwardTo b.senders session.mgwcpComponentId (sessionApprovedMessage (message.get "payload")) env).2 :=
          quiet_forwardTo (hmsg _) (hseq _) _ env
        split_ifs
        · dsimp only
          rw [List.append_nil]
          exact hvhc
        · exact hvhc.trans (quiet_forwardTo (hmsg _) (hseq _) session.assignedMecId env)

theorem quiet_handleOmMessage (message : Json) (env : Env) :
    Quiet C t b.senders (b.handleOmMessage message env).1.senders (b.handleOmMessage message env).2 := by
  unfold handleOmMessage
  split_ifs
  · exact .nil rfl
  · split
    · exact .nil rfl
    · split_ifs
      · exact quiet_handleSessionApproved message env
      · rw [handleSessionDenied_eq]
        split_ifs
        · exact .nil rfl
        · split <;> exact .nil rfl
      · exact .nil rfl

theorem senders_identified (t' : ClientId) (conn : MGWCPConnection) (c : String) :
    (b.identified t' conn c).senders = b.senders := by
  unfold identified
  split_ifs <;> rfl

theorem quiet_handleAck (t' : ClientId) (conn : MGWCPConnection) (payload : Json) :
    Quiet C t b.senders (b.handleAck t' conn payload).senders [] := by
  unfold handleAck
  cases h : (b.senders t').handleAck payload with
  | none => exact .nil rfl
  | some sender =>
      refine ⟨fun p hp hconf => ?_, fun _ _ h => (by cases h), fun _ h => (by cases h)⟩
      by_cases ht : t = t'
      · subst ht
        dsimp only at hp
        rw [Function.update_self] at hp
        unfold ReliableSender.handleAck at h
        split_ifs at h
        · cases h
          exact ⟨p, hp, hconf⟩
        · obtain ⟨n, -, rfl⟩ := Option.map_eq_some_iff.mp h
          exact ⟨p, (List.mem_filter.mp hp).1, hconf⟩
      · dsimp only at hp
        rw [Function.update_of_ne ht] at hp
        exact ⟨p, hp, hconf⟩

theorem handleReceivedMessage_quiet_or_confirms {t' : ClientId} {conn : MGWCPConnection}
    (hconn : b.mgwcpConnections t' = some conn) (message : Json) (env : Env) :
    Quiet C t b.senders (b.handleReceivedMessage t' conn message env).1.senders
        (b.handleReceivedMessage t' conn message env).2 ∨
      Confirms t b (b.handleReceivedMessage t' conn message env) := by
  cases hr : conn.receive message with
  | ignored =>
      unfold handleReceivedMessage
      rw [hr]
      exact Or.inl (.nil rfl)
  | thrown =>
      unfold handleReceivedMessage
      rw [hr]
      exact Or.inl (.nil rfl)
  | ack payload =>
      unfold handleReceivedMessage
      rw [hr]
      exact Or.inl (quiet_handleAck t' conn payload)
  | accepted c seqNum code payload =>
      rw [handleReceivedMessage_accepted hr]
      rcases dispatch_quiet_or_confirms (b := b.identified t' conn c) (C := C) (t := t) t'
        { conn with componentId := c } code payload env with hquiet | ⟨rfl, hstate, hoperational, hcount⟩
      · rw [senders_identified] at hquiet
        exact Or.inl ((quiet_sendAck t' c seqNum env).trans hquiet)
      · refine Or.inr ⟨⟨conn, hconn, hstate⟩, hoperational, ?_⟩
        have hquiet : Quiet C t' b.senders b.senders (b.sendAck t' c seqNum env) := quiet_sendAck t' c seqNum env
        rw [List.countP_append, hquiet.countP_eq_zero, hcount]

/-- **A step sends no new confirmation to a client, or it makes the client's connection operational.** -/
theorem step_quiet_or_confirms (t : ClientId) (env : Env) (e : Event) :
    Quiet (∃ conn, b.mgwcpConnections t = some conn) t b.senders (b.step env e).1.senders (b.step env e).2 ∨
      Confirms t b (b.step env e) := by
  unfold step
  by_cases hterm : b.terminated = true
  · rw [if_pos hterm]
    exact Or.inl (.nil rfl)
  · rw [if_neg hterm]
    cases e with
    | connect t' clientIp =>
        left
        dsimp only
        split_ifs
        · exact .nil rfl
        · refine ⟨fun p hp hconf => ?_, fun _ _ h => (by cases h), fun _ h => (by cases h)⟩
          by_cases ht : t = t'
          · subst ht
            simp [handleNewMgwcpConnection] at hp
          · refine ⟨p, ?_, hconf⟩
            simpa [handleNewMgwcpConnection, putConnection, Function.update_of_ne ht] using hp
    | message t' message =>
        dsimp only
        cases hc : b.receiving t' with
        | none => exact Or.inl (.nil rfl)
        | some conn => exact handleReceivedMessage_quiet_or_confirms (receiving_eq_some hc).2 message env
    | receiveError t' =>
        left
        dsimp only
        cases b.receiving t' with
        | none => exact .nil rfl
        | some conn => exact .nil rfl
    | timeouts t' =>
        left
        dsimp only
        cases hc : b.receiving t' with
        | none => exact .nil rfl
        | some conn => exact quiet_checkForTimeouts t' env fun ht => ⟨conn, ht ▸ (receiving_eq_some hc).2⟩
    | disconnect t' =>
        left
        dsimp only
        split_ifs
        · refine .nil ?_
          show (b.closeMgwcpConnection t').senders t = _
          unfold closeMgwcpConnection
          cases b.mgwcpConnections t' with
          | none => rfl
          | some conn =>
              dsimp only
              split_ifs <;> rfl
        · exact .nil rfl
    | omMessage message =>
        left
        dsimp only
        split_ifs
        · exact quiet_handleOmMessage message env
        · exact .nil rfl
    | omLost => exact Or.inl (.nil rfl)
    | maintenance => exact Or.inl (.nil rfl)
    | worker c event =>
        left
        dsimp only
        cases b.transportHandlers c with
        | none => exact .nil rfl
        | some handler =>
            refine ⟨fun p hp hconf => ⟨p, hp, hconf⟩, fun m ok hm => ?_, fun o ho => ?_⟩
            · obtain ⟨message, -, heq⟩ := List.mem_map.mp hm
              cases heq
            · obtain ⟨message, -, rfl⟩ := List.mem_map.mp ho
              rfl

/-! ## Connections -/

theorem connections_createTransportHandler {c host : String} {port : Int} {b' : Bridge} {ok : Bool}
    (h : b.createTransportHandlerForMgwdp c host port = some (b', ok)) : b'.mgwcpConnections = b.mgwcpConnections := by
  rcases createTransportHandlerForMgwdp_cases h with ⟨heq, -⟩ | ⟨handler, -, -, heq⟩
  · cases heq; rfl
  · cases heq; rfl

/-- A dispatch touches the connection of its message only, -/
theorem DispatchEffect.connection_of_ne {t' : ClientId} {conn : MGWCPConnection} {env : Env} {code : Int}
    {payload : Json} {b' : Bridge} (h : b.DispatchEffect t' conn env code payload b') (ht : t ≠ t') :
    b'.mgwcpConnections t = b.mgwcpConnections t := by
  cases h with
  | none => rfl
  | ended dpHost dpPort => exact (putConnection_apply t' t _).trans (if_neg ht)
  | confirmed dpHost dpPort b₁ senders hcode hstate hb₁ =>
      refine (putConnection_apply t' t _).trans ?_
      rw [if_neg ht, connections_createTransportHandler hb₁]
  | requested requestId taskId taskName omConnected => rfl
  | keptAlive requestId omConnected => rfl
  | forwarded omConnected => rfl

/-- and leaves it its component id and operational. -/
theorem DispatchEffect.connection_self {conn : MGWCPConnection} {env : Env} {code : Int} {payload : Json} {b' : Bridge}
    (h : b.DispatchEffect t conn env code payload b') (hconn : b.mgwcpConnections t = some conn) :
    ∃ after, b'.mgwcpConnections t = some after ∧ (conn.state = .operational → after.state = .operational) ∧
      after.componentId = conn.componentId := by
  cases h with
  | none => exact ⟨conn, hconn, id, rfl⟩
  | ended dpHost dpPort => exact ⟨_, (putConnection_apply t t _).trans (if_pos rfl), id, rfl⟩
  | confirmed dpHost dpPort b₁ senders => exact ⟨_, (putConnection_apply t t _).trans (if_pos rfl), fun _ => rfl, rfl⟩
  | requested requestId taskId taskName omConnected => exact ⟨conn, hconn, id, rfl⟩
  | keptAlive requestId omConnected => exact ⟨conn, hconn, id, rfl⟩
  | forwarded omConnected => exact ⟨conn, hconn, id, rfl⟩

theorem identified_of_ne {t' : ClientId} (conn : MGWCPConnection) (c : String) (ht : t ≠ t') :
    (b.identified t' conn c).mgwcpConnections t = b.mgwcpConnections t := by
  unfold identified
  split_ifs
  · exact (putConnection_apply t' t _).trans (if_neg ht)
  · rfl

/-- **A connection stays and stays operational, and only a message on it binds its component id.** -/
theorem connection_step (hwf : b.WellFormed) {conn : MGWCPConnection} (hconn : b.mgwcpConnections t = some conn)
    (env : Env) {e : Event} (he : e ≠ .disconnect t) :
    ∃ after, (b.step env e).1.mgwcpConnections t = some after ∧
      (conn.state = .operational → after.state = .operational) ∧
      (after.componentId = conn.componentId ∨ ∃ message seqNum code payload, e = .message t message ∧
        conn.receive message = .accepted after.componentId seqNum code payload) := by
  have heffect := step_effect (b := b) env e
  generalize (b.step env e).1 = b' at heffect ⊢
  have hsame : b.mgwcpConnections t = some conn ∧ (conn.state = .operational → conn.state = .operational) ∧
      (conn.componentId = conn.componentId ∨ ∃ message seqNum code payload, e = .message t message ∧
        conn.receive message = .accepted conn.componentId seqNum code payload) := ⟨hconn, id, Or.inl rfl⟩
  cases heffect with
  | idle e senders omConnected terminated => exact ⟨conn, hsame⟩
  | connected t' clientIp ht' =>
      have hne : t ≠ t' := by
        rintro rfl
        exact ht' ((hwf.connected t).mpr ⟨conn, hconn⟩)
      refine ⟨conn, ?_, hsame.2⟩
      simpa [handleNewMgwcpConnection, putConnection, Function.update_of_ne hne] using hconn
  | threadEnded e t' conn' ht' hconn' =>
      rw [endThread, putConnection_apply]
      by_cases ht : t = t'
      · subst ht
        cases hconn.symm.trans hconn'
        rw [if_pos rfl]
        exact ⟨_, rfl, id, Or.inl rfl⟩
      · rw [if_neg ht]
        exact ⟨conn, hsame⟩
  | accepted t' message conn' c seqNum code payload b' hrecv hmsg hb' =>
      have hconn' := (receiving_eq_some hrecv).2
      have haccepts := MGWCPConnection.receive_accepted hmsg
      by_cases ht : t = t'
      · subst ht
        cases hconn.symm.trans hconn'
        obtain ⟨after, hafter, hstate, hid⟩ := hb'.connection_self (identified_apply hconn' haccepts)
        have hid : after.componentId = c := hid
        exact ⟨after, hafter, hstate, Or.inr ⟨message, seqNum, code, payload, rfl, by rw [hid]; exact hmsg⟩⟩
      · rw [hb'.connection_of_ne ht, identified_of_ne conn' c ht]
        exact ⟨conn, hsame⟩
  | disconnected t' ht' =>
      have hne : t ≠ t' := by
        rintro rfl
        exact he rfl
      refine ⟨conn, ?_, hsame.2⟩
      show (b.closeMgwcpConnection t').mgwcpConnections t = _
      rw [disconnection_apply, if_neg hne, hconn]
  | approved message requestId senders => exact ⟨conn, hsame⟩
  | denied message requestId => exact ⟨conn, hsame⟩
  | worked c event handler hh => exact ⟨conn, hsame⟩

/-- A new connection has nothing of an earlier one on its descriptor. -/
theorem connection_new (hnone : b.mgwcpConnections t = none) (env : Env) (e : Event) {conn : MGWCPConnection}
    (hconn : (b.step env e).1.mgwcpConnections t = some conn) :
    conn.componentId = "" ∧ ((b.step env e).1.senders t).pendingAcks = [] := by
  have heffect := step_effect (b := b) env e
  generalize (b.step env e).1 = b' at heffect hconn ⊢
  have hold : b.mgwcpConnections t ≠ some conn := by rw [hnone]; simp
  cases heffect with
  | idle e senders omConnected terminated => exact absurd hconn hold
  | connected t' clientIp ht' =>
      by_cases ht : t = t'
      · subst ht
        simp only [handleNewMgwcpConnection, putConnection, Function.update_self, Option.some.injEq] at hconn ⊢
        subst hconn
        exact ⟨rfl, trivial⟩
      · refine absurd ?_ hold
        simpa [handleNewMgwcpConnection, putConnection, Function.update_of_ne ht] using hconn
  | threadEnded e t' conn' ht' hconn' =>
      rw [endThread, putConnection_apply] at hconn
      split_ifs at hconn with ht
      · rw [ht, hconn'] at hnone
        cases hnone
      · exact absurd hconn hold
  | accepted t' message conn' c seqNum code payload b' hrecv hmsg hb' =>
      have hne : t ≠ t' := by
        rintro rfl
        rw [(receiving_eq_some hrecv).2] at hnone
        cases hnone
      rw [hb'.connection_of_ne hne, identified_of_ne conn' c hne] at hconn
      exact absurd hconn hold
  | disconnected t' ht' =>
      have hconn : (b.closeMgwcpConnection t').mgwcpConnections t = some conn := hconn
      rw [disconnection_apply] at hconn
      split_ifs at hconn
      exact absurd hconn hold
  | approved message requestId senders => exact absurd hconn hold
  | denied message requestId => exact absurd hconn hold
  | worked c event handler hh => exact absurd hconn hold

end Bridge

end EdgeOffloading
