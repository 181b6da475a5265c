import EdgeOffloading.Bridge.Step

/-!
# What the Bridge relays to the OM

A message reaches the OM only as `relayed`: the payload of a gateway's request, keepalive or termination as it came, in
an envelope with the component id of its connection and the Bridge's own.

* `relayed_of_message`: so for every message of a gateway;
* `no_relay_of_event`: nothing else sends to the OM.
-/

namespace EdgeOffloading.Bridge

variable {b : Bridge}

/-- A gateway's message as the OM gets it. -/
def relayed (componentId : String) (code : Int) (type : String) (payload : Json) : Json :=
  (forwardMessage componentId code type payload).set "bridge_component_id" (.str bridgeComponentId)

/-- The codes that are relayed, with their types. -/
def relayedCodes : List (Int × String) :=
  [(100, "OFFLOAD_REQUEST"), (101, "SESSION_KEEPALIVE"), (102, "SESSION_TERMINATE_REQUEST")]

@[simp] theorem relayed_code (c : String) (code : Int) (type : String) (payload : Json) :
    (relayed c code type payload).get "message_code" = .int code := rfl

theorem om_of_forward {c : String} {code : Int} {type : String} {payload m : Json} {t : ClientId}
    {conn : MGWCPConnection} {env : Env}
    (h : .om m ∈ (b.orEndThread t conn (b.forwardMessageToOm c (forwardMessage c code type payload) env)).2) :
    m = relayed c code type payload := by
  unfold orEndThread at h
  cases hforward : b.forwardMessageToOm c (forwardMessage c code type payload) env with
  | none => rw [hforward] at h; cases h
  | some r =>
      rw [hforward, Option.getD_some] at h
      unfold forwardMessageToOm at hforward
      obtain ⟨sessionManager, -, rfl⟩ := Option.map_eq_some_iff.mp hforward
      have hnew : (forwardMessage c code type payload).contains "bridge_component_id" = false := rfl
      dsimp only at h
      rw [hnew, if_neg Bool.false_ne_true] at h
      unfold sendOmMessage at h
      split at h
      · split at h
        · exact Output.om.inj (List.mem_singleton.mp h)
        · cases h
      · cases h

/-- Reliable sending does not send to the OM. -/
theorem not_om_sendReliableMessage (senders : ClientId → ReliableSender) (t : ClientId) (message m : Json) (env : Env) :
    .om m ∉ (b.sendReliableMessage senders t message env).2 := by
  unfold sendReliableMessage
  split <;> simp

theorem not_om_handleDpInfo (t : ClientId) (conn : MGWCPConnection) (payload m : Json) (env : Env) :
    .om m ∉ (b.handleDpInfo t conn payload env).2 := by
  unfold handleDpInfo
  split
  · exact List.not_mem_nil
  · split
    · exact List.not_mem_nil
    · split
      · dsimp only
        split
        · exact List.not_mem_nil
        · exact not_om_sendReliableMessage _ t _ m env
        · exact List.not_mem_nil
      · exact List.not_mem_nil

theorem relayed_of_dispatch {t : ClientId} {conn : MGWCPConnection} {code : Int} {payload m : Json} {env : Env}
    (h : .om m ∈ (b.dispatch t conn code payload env).2) :
    ∃ type, (code, type) ∈ relayedCodes ∧ m = relayed conn.componentId code type payload := by
  unfold dispatch at h
  split_ifs at h with h103 h100 h101 h102
  · exact absurd h (not_om_handleDpInfo t conn payload m env)
  · refine ⟨"OFFLOAD_REQUEST", by simp [relayedCodes, h100], ?_⟩
    unfold handleOffloadRequest at h
    split_ifs at h
    · cases h
    · cases h
    · split at h
      · rw [h100]
        exact om_of_forward h
      · cases h
  · refine ⟨"SESSION_KEEPALIVE", by simp [relayedCodes, h101], ?_⟩
    unfold handleSessionKeepalive at h
    split_ifs at h
    · cases h
    · split at h
      · cases h
      · rw [h101]
        exact om_of_forward h
  · refine ⟨"SESSION_TERMINATE_REQUEST", by simp [relayedCodes, h102], ?_⟩
    unfold handleSessionTerminateRequest at h
    split_ifs at h
    · cases h
    · split at h
      · cases h
      · rw [h102]
        exact om_of_forward h
  · cases h

theorem not_om_sendAck (t : ClientId) (c : String) (seqNum : Nat) (m : Json) (env : Env) :
    .om m ∉ b.sendAck t c seqNum env := by
  unfold sendAck
  split <;> simp

/-- **What the OM gets of a gateway's message**: its payload, under its component id. -/
theorem relayed_of_message {env : Env} {t : ClientId} {message m : Json}
    (h : .om m ∈ (b.step env (.message t message)).2) :
    ∃ c code type, (message.get "component_id").asString = some c ∧ (message.get "message_code").asInt = some code ∧
      (code, type) ∈ relayedCodes ∧ m = relayed c code type (message.get "payload") := by
  unfold step at h
  split at h
  · cases h
  · dsimp only at h
    split at h
    · cases h
    · rename_i conn hrecv
      unfold handleReceivedMessage at h
      split at h
      · cases h
      · cases h
      · cases h
      · rename_i c seqNum code payload hreceive
        obtain ⟨-, hc, hcode, rfl⟩ := MGWCPConnection.receive_accepted_fields hreceive
        dsimp only at h
        rcases List.mem_append.mp h with h | h
        · exact absurd h (not_om_sendAck t c seqNum m env)
        · obtain ⟨type, hmem, rfl⟩ := relayed_of_dispatch h
          exact ⟨c, code, type, hc, hcode, hmem, rfl⟩

theorem not_om_forwardTo (senders : ClientId → ReliableSender) (c : String) (message m : Json) (env : Env) :
    .om m ∉ (b.forwardTo senders c message env).2 := by
  unfold forwardTo
  split
  · exact List.not_mem_nil
  · split
    · exact List.not_mem_nil
    · exact not_om_sendReliableMessage senders _ message m env

theorem not_om_handleOmMessage (message m : Json) (env : Env) : .om m ∉ (b.handleOmMessage message env).2 := by
  unfold handleOmMessage
  split
  · exact List.not_mem_nil
  · split
    · exact List.not_mem_nil
    · split
      · unfold handleSessionApproved
        split
        · exact List.not_mem_nil
        · dsimp only
          split
          · exact List.not_mem_nil
          · split
            · exact List.not_mem_nil
            · dsimp only
              refine fun hmem => (List.mem_append.mp hmem).elim (not_om_forwardTo _ _ _ m env) fun hmem => ?_
              split at hmem
              · cases hmem
              · exact not_om_forwardTo _ _ _ m env hmem
      · split
        · rw [handleSessionDenied_eq]
          split
          · exact List.not_mem_nil
          · split <;> exact List.not_mem_nil
        · exact List.not_mem_nil

/-- Only messages of gateways are relayed. -/
theorem no_relay_of_event {env : Env} {e : Event} {m : Json} (h : .om m ∈ (b.step env e).2) :
    ∃ t message, e = .message t message := by
  unfold step at h
  split at h
  · cases h
  · cases e with
    | message t message => exact ⟨t, message, rfl⟩
    | connect t clientIp =>
        dsimp only at h
        split at h <;> cases h
    | receiveError t =>
        dsimp only at h
        split at h <;> cases h
    | timeouts t =>
        dsimp only at h
        split at h
        · cases h
        · obtain ⟨message, -, heq⟩ := List.mem_map.mp h
          cases heq
    | disconnect t =>
        dsimp only at h
        split at h <;> cases h
    | omMessage message =>
        dsimp only at h
        split at h
        · exact absurd h (not_om_handleOmMessage message m env)
        · cases h
    | omLost => cases h
    | maintenance => cases h
    | worker c event =>
        dsimp only at h
        split at h
        · cases h
        · obtain ⟨routed, -, heq⟩ := List.mem_map.mp h
          cases heq

end EdgeOffloading.Bridge
