import EdgeOffloading.Bridge.Confirmation
import EdgeOffloading.Bridge.Routes

/-!
# What the Bridge sends to gateways

A message for a gateway is an ACK, a confirmation of its data plane, the approval that is handled, or one that has been
sent before and waits for its ACK.

* `sends_step`: a property of all these is a property of everything a step sends and leaves waiting;
* `Addresses`: who is told about an approval.
-/

namespace EdgeOffloading.Bridge

variable {b : Bridge} {P : ClientId → Json → Prop}

/-- Every message that waits for its ACK is as `P` says. -/
def Waiting (P : ClientId → Json → Prop) (senders : ClientId → ReliableSender) : Prop :=
  ∀ t, ∀ p ∈ (senders t).pendingAcks, P t p.2.message

/-- So is everything that is sent, and what waits afterwards. -/
structure Sends (P : ClientId → Json → Prop) (senders : ClientId → ReliableSender) (outputs : List Output) : Prop where
  waiting : Waiting P senders
  sent : ∀ t message ok, .sendTo t message ok ∈ outputs → P t message

/-- The approval goes to client `t`, which is identified as the VHC or the MEC of the session. -/
structure Addresses (b : Bridge) (message : Json) (r : String) (payload : Json) (t : ClientId) : Prop where
  taken : approvalTaken b message = some (r, payload)
  addressee : ∃ s c, (b.approveSession r payload).1.getSession r = some s ∧
    (c = s.mgwcpComponentId ∨ c ≠ "" ∧ c = s.assignedMecId) ∧ b.componentIdToTransportId c = some t

theorem Waiting.nothing {senders : ClientId → ReliableSender} (h : Waiting P senders) : Sends P senders [] :=
  ⟨h, fun _ _ _ hmem => absurd hmem List.not_mem_nil⟩

theorem Sends.append {senders senders' : ClientId → ReliableSender} {outputs outputs' : List Output}
    (h : Sends P senders outputs) (h' : Sends P senders' outputs') : Sends P senders' (outputs ++ outputs') := by
  refine ⟨h'.waiting, fun t message ok hmem => ?_⟩
  rcases List.mem_append.mp hmem with hmem | hmem
  · exact h.sent t message ok hmem
  · exact h'.sent t message ok hmem

/-! ## Sending -/

theorem Waiting.update {senders : ClientId → ReliableSender} (h : Waiting P senders) {t : ClientId}
    {sender : ReliableSender} (hsender : ∀ p ∈ sender.pendingAcks, P t p.2.message) :
    Waiting P (Function.update senders t sender) := by
  intro t' p hp
  rw [Function.update_apply] at hp
  split_ifs at hp with ht
  · rw [ht]
    exact hsender p hp
  · exact h t' p hp

theorem sends_sendReliableMessage {senders : ClientId → ReliableSender} (h : Waiting P senders) {t : ClientId}
    {message : Json} (hmessage : ∀ n : Nat, P t (message.set "sequence_number" (.int n))) (env : Env) :
    Sends P (b.sendReliableMessage senders t message env).1 (b.sendReliableMessage senders t message env).2 := by
  unfold sendReliableMessage
  split
  · refine ⟨h.update fun p hp => ?_, fun t' m ok hmem => ?_⟩
    · unfold ReliableSender.sendReliableMessage at hp
      dsimp only at hp
      split_ifs at hp
      · rcases List.mem_append.mp hp with hold | hnew
        · exact h t p (List.mem_filter.mp hold).1
        · rw [List.mem_singleton.mp hnew]
          exact hmessage _
      · exact h t p (List.mem_filter.mp hp).1
    · rcases List.mem_cons.mp hmem with heq | hmem
      · cases heq
      · obtain ⟨rfl, rfl, -⟩ := Output.sendTo.inj (List.mem_singleton.mp hmem)
        exact hmessage _
  · refine ⟨h, fun t' m ok hmem => ?_⟩
    cases List.mem_singleton.mp hmem

theorem sends_forwardTo {senders : ClientId → ReliableSender} (h : Waiting P senders) {c : String} {message : Json}
    (hmessage : ∀ t, b.componentIdToTransportId c = some t → ∀ n : Nat, P t (message.set "sequence_number" (.int n)))
    (env : Env) : Sends P (b.forwardTo senders c message env).1 (b.forwardTo senders c message env).2 := by
  unfold forwardTo
  split
  · exact h.nothing
  · rename_i t ht
    split
    · exact h.nothing
    · exact sends_sendReliableMessage h (hmessage t ht) env

theorem sends_sendAck {senders : ClientId → ReliableSender} (h : Waiting P senders)
    (hack : ∀ t c n, P t (ackMessage c n)) (t : ClientId) (c : String) (n : Nat) (env : Env) :
    Sends P senders (b.sendAck t c n env) := by
  unfold sendAck
  split
  · refine ⟨h, fun t' m ok hmem => ?_⟩
    obtain ⟨rfl, rfl, -⟩ := Output.sendTo.inj (List.mem_singleton.mp hmem)
    exact hack _ _ _
  · exact h.nothing

/-- What goes to the OM goes to no gateway. -/
theorem sends_orEndThread (h : Waiting P b.senders) (t : ClientId) (conn : MGWCPConnection) (c : String)
    (message : Json) (env : Env) :
    Sends P (b.orEndThread t conn (b.forwardMessageToOm c message env)).1.senders
      (b.orEndThread t conn (b.forwardMessageToOm c message env)).2 := by
  unfold orEndThread
  cases hforward : b.forwardMessageToOm c message env with
  | none => exact h.nothing
  | some r =>
      obtain ⟨hsenders, houtputs⟩ := forwardMessageToOm_outputs hforward
      rw [Option.getD_some, hsenders]
      refine ⟨h, fun t' m ok hmem => ?_⟩
      obtain ⟨message, heq⟩ := houtputs _ hmem
      cases heq

theorem sends_checkForTimeouts (h : Waiting P b.senders) (t : ClientId) (env : Env) :
    Sends P (b.checkForTimeouts t env).1.senders (b.checkForTimeouts t env).2 := by
  unfold checkForTimeouts ReliableSender.checkForTimeouts
  refine ⟨h.update fun p hp => ?_, fun t' m ok hmem => ?_⟩
  · obtain ⟨⟨n, p₀⟩, hp₀, hkept⟩ := List.mem_filterMap.mp hp
    dsimp only at hkept
    split_ifs at hkept
    · cases hkept
      exact h t (n, p₀) hp₀
    · cases hkept
      exact h t (n, p₀) hp₀
  · obtain ⟨m', hm', heq⟩ := List.mem_map.mp hmem
    obtain ⟨rfl, rfl, -⟩ := Output.sendTo.inj heq
    obtain ⟨p, hp, rfl⟩ := List.mem_map.mp hm'
    exact h t p (List.mem_filter.mp hp).1

/-! ## Handlers -/

theorem sends_handleDpInfo (h : Waiting P b.senders)
    (hconfirmed : ∀ t (n : Nat), P t (dpConnectionConfirmedMessage.set "sequence_number" (.int n))) (t : ClientId)
    (conn : MGWCPConnection) (payload : Json) (env : Env) :
    Sends P (b.handleDpInfo t conn payload env).1.senders (b.handleDpInfo t conn payload env).2 := by
  unfold handleDpInfo
  split
  · exact h.nothing
  · split
    · exact h.nothing
    · split
      · dsimp only
        split
        · exact h.nothing
        · exact sends_sendReliableMessage h (hconfirmed t) env
        · rename_i b' hb'
          rcases createTransportHandlerForMgwdp_cases hb' with ⟨heq, -⟩ | ⟨_, -, -, heq⟩
          · cases heq
          · cases heq
      · exact h.nothing

theorem sends_dispatch (h : Waiting P b.senders)
    (hconfirmed : ∀ t (n : Nat), P t (dpConnectionConfirmedMessage.set "sequence_number" (.int n))) (t : ClientId)
    (conn : MGWCPConnection) (code : Int) (payload : Json) (env : Env) :
    Sends P (b.dispatch t conn code payload env).1.senders (b.dispatch t conn code payload env).2 := by
  unfold dispatch
  split_ifs
  · exact sends_handleDpInfo h hconfirmed t conn payload env
  · unfold handleOffloadRequest
    split_ifs
    · exact h.nothing
    · exact h.nothing
    · split
      · exact sends_orEndThread h t conn _ _ env
      · exact h.nothing
  · unfold handleSessionKeepalive
    split_ifs
    · exact h.nothing
    · split
      · exact h.nothing
      · rename_i requestId _
        exact sends_orEndThread (b := { b with sessionManager := b.sessionManager.updateKeepalive requestId env.now })
          h t conn _ _ env
  · unfold handleSessionTerminateRequest
    split_ifs
    · exact h.nothing
    · split
      · exact h.nothing
      · exact sends_orEndThread h t conn _ _ env
  · exact h.nothing

theorem sends_handleReceivedMessage (h : Waiting P b.senders) (hack : ∀ t c n, P t (ackMessage c n))
    (hconfirmed : ∀ t (n : Nat), P t (dpConnectionConfirmedMessage.set "sequence_number" (.int n))) (t : ClientId)
    (conn : MGWCPConnection) (message : Json) (env : Env) :
    Sends P (b.handleReceivedMessage t conn message env).1.senders (b.handleReceivedMessage t conn message env).2 := by
  unfold handleReceivedMessage
  cases hr : conn.receive message with
  | ignored => exact h.nothing
  | thrown => exact h.nothing
  | ack payload =>
      dsimp only
      unfold handleAck
      split
      · exact h.nothing
      · rename_i sender hsender
        refine Waiting.nothing (h.update fun p hp => ?_)
        unfold ReliableSender.handleAck at hsender
        split_ifs at hsender
        · obtain rfl := Option.some.inj hsender
          exact h t p hp
        · obtain ⟨n, -, rfl⟩ := Option.map_eq_some_iff.mp hsender
          exact h t p (List.mem_filter.mp hp).1
  | accepted c seqNum code payload =>
      have hsenders : (b.identified t conn c).senders = b.senders := senders_identified t conn c
      have hdispatch := sends_dispatch (b := b.identified t conn c) (P := P) (hsenders ▸ h) hconfirmed t
        { conn with componentId := c } code payload env
      exact (sends_sendAck h hack t c seqNum env).append hdispatch

theorem sends_handleSessionApproved (h : Waiting P b.senders) {message : Json} (hlive : b.terminated = false)
    (hom : b.omConnected = true) (hcode : (message.get "message_code").asInt = some 200)
    (happroved : ∀ r payload t, Addresses b message r payload t →
      ∀ n : Nat, P t ((sessionApprovedMessage payload).set "sequence_number" (.int n)))
    (env : Env) :
    Sends P (b.handleSessionApproved message env).1.senders (b.handleSessionApproved message env).2 := by
  cases happroval : approvalOf message with
  | none =>
      unfold approvalOf at happroval
      unfold handleSessionApproved
      split_ifs at happroval ⊢ with hshape
      · exact h.nothing
      · dsimp only
        rw [Option.map_eq_none_iff.mp happroval]
        exact h.nothing
  | some approval =>
      obtain ⟨r, payload⟩ := approval
      have htaken : approvalTaken b message = some (r, payload) := by
        rw [approvalTaken, if_pos ⟨hlive, hom, hcode⟩, happroval]
      cases hs : (b.approveSession r payload).1.getSession r with
      | none =>
          rw [handleSessionApproved_unknown happroval hs]
          exact h.nothing
      | some s =>
          rw [handleSessionApproved_known happroval hs]
          have hvhc : Sends P
              (b.forwardTo b.senders s.mgwcpComponentId (sessionApprovedMessage payload) env).1
              (b.forwardTo b.senders s.mgwcpComponentId (sessionApprovedMessage payload) env).2 :=
            sends_forwardTo h (fun t ht => happroved r payload t ⟨htaken, s, _, hs, .inl rfl, ht⟩) env
          dsimp only
          split
          · rw [List.append_nil]
            exact hvhc
          · rename_i hne
            refine hvhc.append (sends_forwardTo hvhc.waiting (fun t ht => ?_) env)
            exact happroved r payload t ⟨htaken, s, _, hs, .inr ⟨hne, rfl⟩, ht⟩

/-! ## One step -/

/-- **What a step sends.** -/
theorem sends_step (h : Waiting P b.senders) (hack : ∀ t c n, P t (ackMessage c n))
    (hconfirmed : ∀ t (n : Nat), P t (dpConnectionConfirmedMessage.set "sequence_number" (.int n))) (env : Env)
    (e : Event)
    (happroved : ∀ message r payload t, e = .omMessage message → Addresses b message r payload t →
      ∀ n : Nat, P t ((sessionApprovedMessage payload).set "sequence_number" (.int n))) :
    Sends P (b.step env e).1.senders (b.step env e).2 := by
  by_cases hlive : b.terminated = true
  · rw [step_terminated hlive]
    exact h.nothing
  · rw [Bool.not_eq_true] at hlive
    unfold step
    rw [if_neg (by rw [hlive]; decide)]
    cases e with
    | connect t clientIp =>
        dsimp only
        split
        · exact h.nothing
        · exact (h.update fun p hp => absurd hp List.not_mem_nil).nothing
    | message t message =>
        dsimp only
        cases hrecv : b.receiving t with
        | none => exact h.nothing
        | some conn => exact sends_handleReceivedMessage h hack hconfirmed t conn message env
    | receiveError t =>
        dsimp only
        cases b.receiving t <;> exact h.nothing
    | timeouts t =>
        dsimp only
        cases b.receiving t with
        | none => exact h.nothing
        | some conn => exact sends_checkForTimeouts h t env
    | disconnect t =>
        dsimp only
        split
        · refine Waiting.nothing ?_
          show Waiting P (b.closeMgwcpConnection t).senders
          unfold closeMgwcpConnection
          split
          · exact h
          · split <;> exact h
        · exact h.nothing
    | omMessage message =>
        dsimp only
        split
        · rename_i hom
          unfold handleOmMessage
          split
          · exact h.nothing
          · split
            · exact h.nothing
            · rename_i code hcode
              split_ifs with h200 h201
              · subst h200
                exact sends_handleSessionApproved h hlive hom hcode
                  (fun r payload t => happroved message r payload t rfl) env
              · rw [handleSessionDenied_eq]
                split
                · exact h.nothing
                · split <;> exact h.nothing
              · exact h.nothing
        · exact h.nothing
    | omLost => exact h.nothing
    | maintenance => exact h.nothing
    | worker c event =>
        dsimp only
        cases b.transportHandlers c with
        | none => exact h.nothing
        | some handler =>
            refine ⟨h, fun t m ok hmem => ?_⟩
            obtain ⟨routed, -, heq⟩ := List.mem_map.mp hmem
            cases heq

end EdgeOffloading.Bridge
