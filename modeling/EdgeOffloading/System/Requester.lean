import EdgeOffloading.Bridge.Relay
import EdgeOffloading.Bridge.Routes
import EdgeOffloading.Gateway.Approval
import EdgeOffloading.Gateway.Steps
import EdgeOffloading.Manager.Decision

/-!
# The requester as the OM knows it

An `OFFLOAD_REQUEST` goes from the gateway through the Bridge to the OM. The Bridge puts the id of the requester into
the envelope, as `component_id`; the OM reads `mgwcp_component_id` of the payload, which neither the gateway nor the
Bridge writes. Every decision is made for the requester `None`, and an approval leaves its MEC free.

* `decisionArguments_relayed`: what `make_decision` is called with;
* `requester_unknown`: no relayed request tells the OM who asks.
-/

namespace EdgeOffloading

open Bridge (relayed)

/-- The OM decides for the component `c`, and an approval takes the MEC for it. -/
structure KnowsRequester (c : String) (m : Json) : Prop where
  argument : ∃ requestId taskId, OffloadingManager.decisionArguments m = some (requestId, taskId, .str c)
  assigned : ∀ (om : OffloadingManager) (env : ManagerEnv) (sequence : Nat) (requestId : Json) (mec : String)
    (taskId : Json), (om.processMessage m env).2 = [Protocol.sessionApproved sequence requestId mec taskId] →
      (om.processMessage m env).1.mecAssignments mec = some (.str c) ∧ (om.processMessage m env).1.isFree mec = false

theorem decisionArguments_relayed (c requestId : String) (taskId : Int) (taskName vhcData type : String) :
    OffloadingManager.decisionArguments
        (relayed c 100 type (Protocol.offloadPayload requestId taskId taskName vhcData)) =
      some (coerceInt (.str requestId), .int taskId, .null) := by
  unfold OffloadingManager.decisionArguments Protocol.offloadPayload
  by_cases hdata : vhcData = ""
  · rw [if_pos hdata]
    rfl
  · rw [if_neg hdata]
    rfl

theorem OffloadingManager.isFree_makeDecision_null (om : OffloadingManager) {requestId taskId : Json} {env : ManagerEnv}
    {mec : String} (h : om.isFree mec = true) : (om.makeDecision requestId taskId .null env).1.isFree mec = true := by
  rcases om.makeDecision_cases requestId taskId .null env with hsame | ⟨key, mec', -, -, -, -, -, -, heq, -⟩
  · rw [hsame]
    exact h
  · rw [heq]
    unfold isFree at h ⊢
    dsimp only [track]
    by_cases hmec : mec = mec'
    · rw [hmec, Function.update_self]
    · rw [Function.update_of_ne hmec]
      exact h

/-- **The OM never knows who asks**: it decides for `None`, and the MEC of an approval stays free. -/
theorem requester_unknown {g : GatewayController} {requestId : String} {request : OffloadingRequestData}
    {result : BridgeCpClient.SendResult} {message : Json}
    (hsent : message ∈ (g.sendOffloadRequest requestId request result).2) {b : Bridge} {env : Env} {t : ClientId}
    {m : Json} (hrelayed : .om m ∈ (b.step env (.message t message)).2) :
    ¬ KnowsRequester g.componentId m ∧
      (∃ requestId taskId, OffloadingManager.decisionArguments m = some (requestId, taskId, .null)) ∧
      ∀ (om : OffloadingManager) (menv : ManagerEnv) (sequence : Nat) (requestId : Json) (mec : String) (taskId : Json),
        (om.processMessage m menv).2 = [Protocol.sessionApproved sequence requestId mec taskId] →
          (om.processMessage m menv).1.isFree mec = true := by
  obtain ⟨taskId, taskName, seqNum, rfl⟩ := g.sendOffloadRequest_sent requestId request result message hsent
  obtain ⟨c, code, type, hc, hcode, -, rfl⟩ := Bridge.relayed_of_message hrelayed
  have hcode' : code = 100 := (Option.some.inj hcode).symm
  subst hcode'
  have harguments : OffloadingManager.decisionArguments
      (relayed c 100 type (Protocol.offloadPayload requestId taskId taskName request.vhcData)) =
        some (coerceInt (.str requestId), .int taskId, .null) :=
    decisionArguments_relayed c requestId taskId taskName request.vhcData type
  refine ⟨fun h => ?_, ⟨_, _, harguments⟩, ?_⟩
  · obtain ⟨r, task, heq⟩ := h.argument
    cases harguments.symm.trans heq
  · intro om menv sequence r mec task hanswer
    have hprocessed := om.processMessage_of_arguments harguments menv
    have hanswer' := List.singleton_inj.mp ((congrArg Prod.snd hprocessed).symm.trans hanswer)
    have hstate : (om.processMessage _ menv).1.isFree mec =
        (om.makeDecision (coerceInt (.str requestId)) (.int taskId) .null menv).1.isFree mec :=
      congrArg (fun processed => processed.1.isFree mec) hprocessed
    split at hanswer'
    · rename_i happroved
      have hmec : (om.makeDecision (coerceInt (.str requestId)) (.int taskId) .null menv).2.assignedMecId = mec :=
        Json.str.inj (congrArg (fun answer => (answer.get "payload").get "assigned_mec_id") hanswer')
      have hfree := om.isFree_of_approved happroved
      rw [hmec] at hfree
      exact hstate.trans (om.isFree_makeDecision_null hfree)
    · have hcode : Json.int 201 = .int 200 := congrArg (fun answer => answer.get "message_code") hanswer'
      cases hcode

/-! ## One request -/

/-- The first request of the VHC `60:5`, as its gateway sends it. -/
def sampleRequest : Json := Protocol.offloadRequest "60:5" "1" 3 "STRING_TEST_PIPELINE" "" 1

theorem sampleRequest_sent :
    sampleRequest ∈ (GatewayController.sampleVhc.sendOffloadRequest "1" ⟨"3", ""⟩ .success).2 := .head _

/-- The Bridge with the connection of the VHC. -/
def sampleBridge : Bridge := Run.run Bridge.next (Bridge.init Bridge.sampleConfig) (Bridge.joins 4 "60:5" "10.0.0.5")

/-- The request as the OM gets it. -/
def sampleRelayed : Json := relayed "60:5" 100 "OFFLOAD_REQUEST" (sampleRequest.get "payload")

theorem sampleRequest_relayed :
    .om sampleRelayed ∈ (sampleBridge.step (Bridge.allSent 1) (.message 4 sampleRequest)).2 := .tail _ (.head _)

theorem requester_unknown_sample : ¬ KnowsRequester GatewayController.sampleVhc.componentId sampleRelayed :=
  (requester_unknown sampleRequest_sent sampleRequest_relayed).1

/-- An OM with the task and one MEC. -/
def sampleManager : OffloadingManager :=
  { availableTasks := [3], maxConcurrentSessions := 10 : OffloadingManager }.updateAvailableMecs ["70:1"]

theorem sampleRequest_approved_for_none :
    let processed := sampleManager.processMessage sampleRelayed ⟨0, 0, fun _ => ""⟩
    processed.2 = [Protocol.sessionApproved 1 (.int 1) "70:1" (.int 3)] ∧
      processed.1.mecAssignments "70:1" = some .null ∧ processed.1.isFree "70:1" = true ∧
      ¬ (sampleRequest ∈ (GatewayController.sampleVhc.sendOffloadRequest "1" ⟨"3", ""⟩ .success).2 →
        .om sampleRelayed ∈ (sampleBridge.step (Bridge.allSent 1) (.message 4 sampleRequest)).2 →
          KnowsRequester "60:5" sampleRelayed) := by
  refine ⟨rfl, rfl, rfl, fun h => ?_⟩
  obtain ⟨requestId, taskId, harguments⟩ := (h sampleRequest_sent sampleRequest_relayed).argument
  have hnone : OffloadingManager.decisionArguments sampleRelayed = some (.int 1, .int 3, .null) := rfl
  cases hnone.symm.trans harguments

end EdgeOffloading
