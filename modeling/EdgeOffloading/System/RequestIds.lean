import EdgeOffloading.Bridge.Relay
import EdgeOffloading.Gateway.Controller
import EdgeOffloading.Manager.Exclusive
import EdgeOffloading.Manager.Text
import EdgeOffloading.System.Requester

/-!
# A request id on its way

A gateway writes its counter as a string. The OM makes an integer of it when it decides, keeps the session under the
integer and answers with it; Bridge and gateway make a string of it again, through a signed 64-bit number. The handlers
of the OM for keepalives and failures look for the string as it comes.

* `coerceInt_toString`: what the OM keeps the session under;
* `idReturns_iff`: the answer carries the original id iff the counter is below `2 ^ 63`;
* `session_untouched`: no later message with the original id finds the session.
-/

namespace EdgeOffloading

theorem coerceInt_toString (n : Nat) : coerceInt (.str (toString n)) = .int n := by
  rw [coerceInt, pyInt_toString_nat]

/-! ## The answer -/

/-- The request with the id `n` as the OM gets it. -/
def relayedRequest (n : Nat) (c : String) (taskId : Int) (taskName vhcData : String) : Json :=
  Bridge.relayed c 100 "OFFLOAD_REQUEST" (Protocol.offloadPayload (toString n) taskId taskName vhcData)

/-- Bridge and gateway find the original id in every answer of the OM. -/
structure IdReturns (n : Nat) : Prop where
  bridge : ∀ (om : OffloadingManager) (env : ManagerEnv) (c : String) (taskId : Int) (taskName vhcData : String),
    ∀ answer ∈ (om.processMessage (relayedRequest n c taskId taskName vhcData) env).2,
      Bridge.requestIdOf (answer.get "payload") = some (toString n)
  approved : ∀ (om : OffloadingManager) (env : ManagerEnv) (c : String) (taskId : Int) (taskName vhcData : String),
    ∀ answer ∈ (om.processMessage (relayedRequest n c taskId taskName vhcData) env).2,
      answer.get "message_code" = .int 200 →
        GatewayController.approvedRequestId
          (GatewayController.normalizePayload ((sessionApprovedMessage (answer.get "payload")).get "payload")) =
            some (toString n)
  denied : ∀ (om : OffloadingManager) (env : ManagerEnv) (c : String) (taskId : Int) (taskName vhcData : String),
    ∀ answer ∈ (om.processMessage (relayedRequest n c taskId taskName vhcData) env).2,
      answer.get "message_code" = .int 201 →
        ∀ r reason, Bridge.requestIdOf (answer.get "payload") = some r →
          GatewayController.deniedRequestId (((sessionDeniedMessage r reason).get "payload").get "request_id") =
            toString n

theorem answer_cases (om : OffloadingManager) (env : ManagerEnv) (n : Nat) (c : String) (taskId : Int)
    (taskName vhcData : String) :
    (∃ sequence mec, (om.processMessage (relayedRequest n c taskId taskName vhcData) env).2 =
        [Protocol.sessionApproved sequence (.int n) mec (.int taskId)]) ∨
      ∃ sequence code reason, (om.processMessage (relayedRequest n c taskId taskName vhcData) env).2 =
        [Protocol.sessionDenied sequence (.int n) code reason] := by
  have harguments := decisionArguments_relayed c (toString n) taskId taskName vhcData "OFFLOAD_REQUEST"
  rw [coerceInt_toString] at harguments
  rw [relayedRequest, om.processMessage_of_arguments harguments env]
  dsimp only
  split
  · exact .inl ⟨_, _, rfl⟩
  · exact .inr ⟨_, _, _, rfl⟩

theorem requestIdOf_answer {om : OffloadingManager} {env : ManagerEnv} {n : Nat} {c : String} {taskId : Int}
    {taskName vhcData : String} {answer : Json}
    (h : answer ∈ (om.processMessage (relayedRequest n c taskId taskName vhcData) env).2) :
    Bridge.requestIdOf (answer.get "payload") = some (toString ((n : Int).bmod (2 ^ 64))) := by
  rcases answer_cases om env n c taskId taskName vhcData with ⟨sequence, mec, heq⟩ | ⟨sequence, code, reason, heq⟩
  · rw [heq, List.mem_singleton] at h
    rw [h]
    rfl
  · rw [heq, List.mem_singleton] at h
    rw [h]
    rfl

theorem toString_bmod_iff (n : Nat) : toString ((n : Int).bmod (2 ^ 64)) = toString n ↔ n < 2 ^ 63 := by
  constructor
  · intro h
    have hbmod := toString_int_inj h
    rw [Int.bmod_def] at hbmod
    omega
  · intro h
    have hbmod : (n : Int).bmod (2 ^ 64) = n := by
      rw [Int.bmod_def]
      omega
    rw [hbmod]
    rfl

/-- **The answer carries the original id** iff the counter is below `2 ^ 63`. -/
theorem idReturns_iff (n : Nat) : IdReturns n ↔ n < 2 ^ 63 := by
  rw [← toString_bmod_iff]
  constructor
  · intro h
    have hanswered : ∃ answer, answer ∈ ((OffloadingManager.init [] 0).processMessage (relayedRequest n "" 0 "" "")
        ⟨0, 0, fun _ => ""⟩).2 := by
      rcases answer_cases (.init [] 0) ⟨0, 0, fun _ => ""⟩ n "" 0 "" "" with ⟨_, _, heq⟩ | ⟨_, _, _, heq⟩
      · exact ⟨_, heq ▸ List.mem_singleton.mpr rfl⟩
      · exact ⟨_, heq ▸ List.mem_singleton.mpr rfl⟩
    obtain ⟨answer, hanswer⟩ := hanswered
    have hid := h.bridge _ _ _ _ _ _ answer hanswer
    rw [requestIdOf_answer hanswer] at hid
    exact Option.some.inj hid
  · intro hid
    refine ⟨fun om env c taskId taskName vhcData answer hanswer => ?_,
      fun om env c taskId taskName vhcData answer hanswer hcode => ?_,
      fun om env c taskId taskName vhcData answer hanswer hcode r reason hr => ?_⟩
    · rw [requestIdOf_answer hanswer, hid]
    · rcases answer_cases om env n c taskId taskName vhcData with ⟨sequence, mec, heq⟩ | ⟨sequence, code, reason, heq⟩
      · rw [heq, List.mem_singleton] at hanswer
        rw [hanswer]
        exact congrArg some hid
      · rw [heq, List.mem_singleton] at hanswer
        rw [hanswer] at hcode
        cases hcode
    · rw [requestIdOf_answer hanswer, hid] at hr
      exact (Option.some.inj hr).symm

/-! ## Later messages -/

/-- A message with this code and request id that the OM reads. -/
structure Carries (m : Json) (code : Int) (requestId : String) : Prop where
  fields : (m.contains "component_id" && m.contains "message_code" && m.contains "message_type" &&
    m.contains "payload") = true
  code : (m.get "message_code").eqInt code = true
  payload : ∃ fields, m.get "payload" = .obj fields ∧ (Json.obj fields).get "request_id" = .str requestId

theorem Carries.eqInt_of_ne {m : Json} {code code' : Int} {requestId : String} (h : Carries m code requestId)
    (hne : code' ≠ code) : (m.get "message_code").eqInt code' = false := by
  have hcode := h.code
  cases hget : m.get "message_code" with
  | int k =>
      rw [hget] at hcode
      have hk : k = code := of_decide_eq_true hcode
      exact decide_eq_false fun heq => hne (heq.symm.trans hk)
  | float q =>
      rw [hget] at hcode
      have hq : q = code := of_decide_eq_true hcode
      exact decide_eq_false fun heq => hne (by exact_mod_cast heq.symm.trans hq)
  | _ => rw [hget] at hcode; cases hcode

/-- The session that a decision keeps for the request `n`. -/
def StoredFor (om : OffloadingManager) (n : Nat) (key : PyKey) (session : SessionInfo) : Prop :=
  pyKey (coerceInt (.str (toString n))) = some key ∧ (key, session) ∈ om.activeSessions

/-- What keepalives and failures with the original id should do. -/
structure ActsOnSession (n : Nat) : Prop where
  keepalive : ∀ om key session m env, StoredFor om n key session → Carries m 102 (toString n) →
    ∃ session', (key, session') ∈ (om.processMessage m env).1.activeSessions ∧ session'.timestamp = env.now
  failure : ∀ om key session m env, StoredFor om n key session → Carries m 301 (toString n) →
    (om.processMessage m env).1.isActive key = false

/-- **No later message with the original id finds the session.** -/
theorem session_untouched {om : OffloadingManager} {n : Nat} {key : PyKey} {session : SessionInfo}
    (h : StoredFor om n key session) {m : Json} {code : Int} (hcode : code = 102 ∨ code = 301)
    (hm : Carries m code (toString n)) (env : ManagerEnv) :
    (key, session) ∈ (om.processMessage m env).1.activeSessions := by
  obtain ⟨hkey, hmem⟩ := h
  rw [coerceInt_toString] at hkey
  have hne : pyKey (.str (toString n)) ≠ some key := by
    rw [← hkey]
    simp [pyKey]
  obtain ⟨fields, hpayload, hid⟩ := hm.payload
  have hfields : ¬ (!(m.contains "component_id" && m.contains "message_code" && m.contains "message_type" &&
      m.contains "payload")) = true := by
    rw [hm.fields]
    decide
  unfold OffloadingManager.processMessage
  rw [if_neg hfields, hpayload]
  dsimp only
  rw [hm.eqInt_of_ne (by omega), if_neg Bool.false_ne_true]
  rcases hcode with rfl | rfl
  · rw [if_pos hm.code, hid]
    refine List.mem_map.mpr ⟨(key, session), hmem, ?_⟩
    dsimp only
    rw [if_neg hne]
  · rw [hm.eqInt_of_ne (by decide), if_neg Bool.false_ne_true, if_pos hm.code, hid]
    unfold OffloadingManager.handleSessionFailure
    split
    · exact hmem
    · rename_i key' session' hfound
      refine List.mem_filter.mpr ⟨hmem, decide_eq_true fun heq => hne ?_⟩
      have hfound' : pyKey (.str (toString n)) = some key' := by simpa using List.find?_some hfound
      exact hfound'.trans (congrArg some heq.symm)

/-- A failure report of the Bridge's data plane. -/
def failureReport (requestId : String) : Json :=
  .obj [("component_id", .str bridgeComponentId), ("message_code", .int 301),
    ("message_type", .str "BRIDGE_DP_FAILURE"), ("payload", .obj [("request_id", .str requestId)])]

theorem carries_failureReport (requestId : String) : Carries (failureReport requestId) 301 requestId :=
  ⟨rfl, rfl, _, rfl, rfl⟩

/-- **Request ids do not survive**: the answer brings the original id back iff the counter is below `2 ^ 63`, and no
keepalive or failure with the original id acts on the session. -/
theorem request_id_lost (n : Nat) :
    (IdReturns n ↔ n < 2 ^ 63) ∧
      (∀ om key session m code env, StoredFor om n key session → code = 102 ∨ code = 301 →
        Carries m code (toString n) → (key, session) ∈ (om.processMessage m env).1.activeSessions) ∧
      ¬ (IdReturns n ∧ ActsOnSession n) := by
  refine ⟨idReturns_iff n, fun om key session m code env h hcode hm => session_untouched h hcode hm env, ?_⟩
  rintro ⟨-, hacts⟩
  let session : SessionInfo := ⟨.int n, .int 0, .null, "70:1", 0⟩
  have hstored : StoredFor ((OffloadingManager.init [0] 1).track (.num n) session) n (.num n) session := by
    refine ⟨?_, List.mem_singleton.mpr rfl⟩
    rw [coerceInt_toString]
    simp [pyKey]
  have hgone := hacts.failure _ _ _ _ ⟨0, 0, fun _ => ""⟩ hstored (carries_failureReport (toString n))
  rw [OffloadingManager.isActive_eq_false_iff] at hgone
  exact hgone (List.mem_map_of_mem (session_untouched hstored (.inr rfl) (carries_failureReport (toString n)) _))

/-- The OM after the approval of the first request. -/
def firstApproved : OffloadingManager :=
  (sampleManager.processMessage (relayedRequest 1 "60:5" 3 "STRING_TEST_PIPELINE" "") ⟨0, 0, fun _ => ""⟩).1

/-- A termination as the OM gets it, which it takes for a keepalive. -/
def firstKeepalive : Json := Bridge.relayed "60:5" 102 "SESSION_TERMINATE_REQUEST" (.obj [("request_id", .str "1")])

theorem first_request_untouched :
    firstApproved.activeSessions.map Prod.fst = [.num 1] ∧
      (firstApproved.processMessage firstKeepalive ⟨5, 0, fun _ => ""⟩).1.activeSessions.map
        (fun e => e.2.timestamp) = [0] ∧
      (firstApproved.processMessage (failureReport "1") ⟨5, 0, fun _ => ""⟩).1.isActive (.num 1) = true ∧
      ¬ (IdReturns 1 ∧ ActsOnSession 1) := by
  have hone : toString 1 = "1" := rfl
  refine ⟨by decide +kernel, by decide +kernel, by decide +kernel, fun h => ?_⟩
  have hactive : (firstApproved.processMessage (failureReport "1") ⟨5, 0, fun _ => ""⟩).1.isActive (.num 1) = true := by
    decide +kernel
  have hstored : StoredFor firstApproved 1 (.num 1) ⟨.int 1, .int 3, .null, "70:1", 0⟩ := ⟨rfl, .head _⟩
  have hgone := h.2.failure _ _ _ (failureReport "1") ⟨5, 0, fun _ => ""⟩ hstored (hone ▸ carries_failureReport "1")
  rw [hactive] at hgone
  cases hgone

end EdgeOffloading
