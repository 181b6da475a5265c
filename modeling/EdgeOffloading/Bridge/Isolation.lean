import EdgeOffloading.Bridge.Addressing

/-!
# Gateways that share request ids

Every gateway numbers its own requests, and the Bridge keeps the sessions of all gateways under the request id alone.
An input of a run carries its owner: the gateway that sent the message, or whose request the OM answers.

* `NonInterference`: what an input may do to the sessions of gateways other than its owner;
* `noninterference_of_along`: gateways do not interfere in a run in which no message and no answer carries the id of
  another gateway's session.
-/

namespace EdgeOffloading.Bridge

variable {b : Bridge}

/-- The owner is the gateway a message comes from, or whose connection ends. The owner of an answer is not written in
it: it is the gateway whose request the OM answers. -/
def BelongsTo (b : Bridge) (owner : String) : Event → Prop
  | .message t message => ∀ conn c seqNum code payload, b.receiving t = some conn →
      conn.receive message = .accepted c seqNum code payload → c = owner
  | .disconnect t => ∀ conn, b.mgwcpConnections t = some conn → conn.componentId ≠ "" → conn.componentId = owner
  | _ => True

/-- The session under the request id of a request, a keepalive or an answer is the owner's. -/
def OwnRequestId (b : Bridge) (owner : String) : Event → Prop
  | .message t message => ∀ conn c seqNum code payload r s, b.receiving t = some conn →
      conn.receive message = .accepted c seqNum code payload → code = 100 ∨ code = 101 →
      (payload.get "request_id").asString = some r → b.sessionManager.getSession r = some s →
      s.mgwcpComponentId = owner
  | .omMessage message => ∀ r s, requestIdOf (message.get "payload") = some r →
      b.sessionManager.getSession r = some s → s.mgwcpComponentId = owner
  | _ => True

/-- A request that the Bridge accepts for a task it knows, while its gateway has no session under the id. -/
structure CreatesSession (b : Bridge) (owner : String) (t : ClientId) (message : Json) (r : String) : Prop where
  live : b.terminated = false
  request : ∃ conn seqNum payload taskId task taskName, b.receiving t = some conn ∧
    conn.receive message = .accepted owner seqNum 100 payload ∧ conn.state = .operational ∧
    (payload.get "request_id").asString = some r ∧ (payload.get "task_id").asUInt32 = some taskId ∧
    (payload.get "task_name").asString = some taskName ∧ b.globalConfig.getTaskConfig taskId = some task
  fresh : ∀ s, b.sessionManager.getSession r = some s → s.mgwcpComponentId ≠ owner

/-- What an input of `owner` does not do to other gateways, nor they to it. -/
structure NonInterference (b : Bridge) (owner : String) (env : Env) (e : Event) : Prop where
  /-- Sessions of other gateways are neither removed nor modified. -/
  kept : ∀ r s, b.sessionManager.getSession r = some s → s.mgwcpComponentId ≠ owner →
    (b.step env e).1.sessionManager.getSession r = some s
  /-- No session of another gateway prevents the creation of the owner's. -/
  created : ∀ t message r, e = .message t message → CreatesSession b owner t message r →
    ∃ s, (b.step env e).1.sessionManager.getSession r = some s ∧ s.mgwcpComponentId = owner
  /-- An answer is delivered for a session of its owner only. -/
  delivered : ∀ message, e = .omMessage message → ∀ t m, Output.reliable t m ∈ (b.step env e).2 →
    ∃ r s, requestIdOf (message.get "payload") = some r ∧ (b.step env e).1.sessionManager.getSession r = some s ∧
      s.mgwcpComponentId = owner

theorem getSession_modify_of_ne {m : SessionManager} {r r' : String} {f : ActiveSession → ActiveSession}
    (h : r' ≠ r) : (m.modify r f).getSession r' = m.getSession r' := by
  rw [SessionManager.getSession_modify, if_neg h]

theorem kept_approveSession {r r' : String} (payload : Json) (h : r' ≠ r) :
    (b.approveSession r payload).1.getSession r' = b.sessionManager.getSession r' := by
  have hassign : (assignMec b.sessionManager r payload).getSession r' = b.sessionManager.getSession r' := by
    rw [getSession_assignMec, if_neg h]
  rw [approveSession_eq, ← hassign]
  unfold createRoutingRulesForSession
  repeat' first | rfl | exact getSession_modify_of_ne h | split

theorem kept_of_own {env : Env} {e : Event} {owner : String} {b' : Bridge} (hbelongs : BelongsTo b owner e)
    (hown : OwnRequestId b owner e) (he : b.Effect env e b') {r : String} {s : ActiveSession}
    (hs : b.sessionManager.getSession r = some s) (hne : s.mgwcpComponentId ≠ owner) :
    b'.sessionManager.getSession r = some s := by
  cases he with
  | idle e senders omConnected terminated => exact hs
  | connected t clientIp ht => exact hs
  | threadEnded e t conn ht hconn => exact hs
  | accepted t message conn c seqNum code payload b' hrecv hmsg hb' =>
      obtain ⟨-, -, hsessions⟩ := b.identified_same t conn c
      rw [← hsessions] at hs
      cases hb' with
      | none => exact hs
      | ended dpHost dpPort => exact hs
      | confirmed dpHost dpPort b₁ senders hcode hstate hb₁ =>
          rw [← (createHandler_grow hb₁).2.1] at hs
          exact hs
      | requested r' taskId taskName omConnected hcode hstate hreq htask =>
          rcases (b.identified t conn c).sessionManager.createSession_cases r' c taskId taskName
            (b.identified t conn c).globalConfig env.now with ⟨heq, -⟩ | ⟨task, hnone, -, heq⟩
          · dsimp only
            rw [heq]
            exact hs
          · dsimp only
            rw [heq, if_neg]
            · exact hs
            · rintro rfl; rw [hnone] at hs; cases hs
      | keptAlive r' omConnected hcode hreq =>
          refine (getSession_modify_of_ne ?_).trans hs
          rintro rfl
          rw [hsessions] at hs
          exact hne (hown conn c seqNum code payload r s hrecv hmsg (Or.inr hcode) hreq hs)
      | forwarded omConnected hcode => exact hs
  | disconnected t ht =>
      refine getSession_disconnection.mpr ⟨hs, fun conn hconn hc hcc => ?_⟩
      exact hne (hcc.trans (hbelongs conn hconn hc))
  | approved message r' senders hlive hom hcode hid =>
      refine (kept_approveSession _ ?_).trans hs
      rintro rfl
      exact hne (hown r s hid hs)
  | denied message r' hlive hom hcode hid =>
      dsimp only
      rw [SessionManager.getSession_removeSession, if_neg]
      · exact hs
      · rintro rfl; exact hne (hown r s hid hs)
  | worked c event handler hh => exact hs

theorem getSession_handleOffloadRequest {t : ClientId} {conn : MGWCPConnection} {payload : Json} {r taskName : String}
    {taskId : Nat} {task : TaskConfig} (env : Env) (hstate : conn.state = .operational)
    (hid : (payload.get "request_id").asString = some r) (htask : (payload.get "task_id").asUInt32 = some taskId)
    (hname : (payload.get "task_name").asString = some taskName) (hg : b.globalConfig.getTaskConfig taskId = some task)
    (hfree : b.sessionManager.getSession r = none) :
    (b.handleOffloadRequest t conn payload env).1.sessionManager.getSession r =
      some (SessionManager.newSession r conn.componentId taskId taskName task env.now) := by
  have hr := Json.contains_of_asString hid
  have ht := Json.contains_of_asUInt32 htask
  have hn := Json.contains_of_asString hname
  obtain ⟨omConnected, outputs, hforward⟩ := b.forwardMessageToOm_request conn.componentId payload env hid htask hname
    (by rw [hr, ht, hn]; rfl)
  unfold handleOffloadRequest
  rw [if_neg (not_not.mpr hstate), if_neg (by rw [hr, ht, hn]; simp), hid, htask, hname, hforward]
  rcases b.sessionManager.createSession_cases r conn.componentId taskId taskName b.globalConfig env.now with
    ⟨-, hno⟩ | ⟨task', -, htask', heq⟩
  · rcases hno with hsome | hnone
    · exact absurd hfree hsome
    · rw [hg] at hnone; cases hnone
  · rw [hg] at htask'
    cases htask'
    exact (heq r).trans (if_pos rfl)

theorem created_of_own {env : Env} {owner : String} {t : ClientId} {message : Json} {r : String}
    (hown : OwnRequestId b owner (.message t message)) (h : CreatesSession b owner t message r) :
    ∃ s, (b.step env (.message t message)).1.sessionManager.getSession r = some s ∧ s.mgwcpComponentId = owner := by
  obtain ⟨hlive, hrequest, hfresh⟩ := h
  obtain ⟨conn, seqNum, payload, taskId, task, taskName, hrecv, hmsg, hstate, hid, htask, hname, hg⟩ := hrequest
  have hfree : b.sessionManager.getSession r = none := by
    cases hs : b.sessionManager.getSession r with
    | none => rfl
    | some s => exact absurd (hown conn owner seqNum 100 payload r s hrecv hmsg (Or.inl rfl) hid hs) (hfresh s hs)
  obtain ⟨-, -, hsessions⟩ := b.identified_same t conn owner
  have hconfig : (b.identified t conn owner).globalConfig = b.globalConfig := by
    unfold identified
    split_ifs <;> rfl
  refine ⟨SessionManager.newSession r owner taskId taskName task env.now, ?_, rfl⟩
  rw [step_message hlive hrecv, handleReceivedMessage_accepted hmsg]
  exact getSession_handleOffloadRequest env hstate hid htask hname (by rw [hconfig, hg]) (by rw [hsessions, hfree])

theorem approvalTaken_of_output {env : Env} {message : Json} {o : Output}
    (ho : o ∈ (b.step env (.omMessage message)).2) : ∃ r payload, approvalTaken b message = some (r, payload) := by
  rw [step_omMessage] at ho
  split_ifs at ho with hguard
  · unfold handleOmMessage at ho
    split_ifs at ho with hshape
    · cases ho
    · cases hcode : (message.get "message_code").asInt with
      | none => rw [hcode] at ho; cases ho
      | some code =>
          rw [hcode] at ho
          dsimp only at ho
          split_ifs at ho with h200 h201
          · subst h200
            rw [approvalTaken, if_pos ⟨hguard.1, hguard.2, hcode⟩]
            unfold handleSessionApproved at ho
            dsimp only at ho
            split_ifs at ho with hpay
            · cases ho
            · cases hid : requestIdOf (message.get "payload") with
              | none => rw [hid] at ho; cases ho
              | some r => exact ⟨r, _, approvalOf_eq_some.mpr ⟨hid, rfl⟩⟩
          · rw [handleSessionDenied_eq] at ho
            split_ifs at ho
            · cases ho
            · split at ho <;> cases ho
          · cases ho
  · cases ho

theorem handleSessionApproved_output {env : Env} {message payload : Json} {r : String} {o : Output}
    (h : approvalOf message = some (r, payload)) (ho : o ∈ (b.handleSessionApproved message env).2) :
    ∃ s, (b.handleSessionApproved message env).1.sessionManager.getSession r = some s := by
  rw [(handleSessionApproved_state h env).1]
  cases hs : (b.approveSession r payload).1.getSession r with
  | none => rw [handleSessionApproved_unknown h hs] at ho; cases ho
  | some s => exact ⟨s, rfl⟩

theorem delivered_of_own {env : Env} {owner : String} {message : Json} {o : Output}
    (hown : OwnRequestId b owner (.omMessage message)) (ho : o ∈ (b.step env (.omMessage message)).2) :
    ∃ r s, requestIdOf (message.get "payload") = some r ∧
      (b.step env (.omMessage message)).1.sessionManager.getSession r = some s ∧ s.mgwcpComponentId = owner := by
  obtain ⟨r, payload, htaken⟩ := approvalTaken_of_output ho
  have happroval := approvalOf_of_taken htaken
  have hid := (approvalOf_eq_some.mp happroval).1
  rw [step_approvalTaken htaken] at ho ⊢
  obtain ⟨s, hs⟩ := handleSessionApproved_output happroval ho
  refine ⟨r, s, hid, hs, ?_⟩
  rw [(handleSessionApproved_state happroval env).1] at hs
  obtain ⟨s₀, hs₀, -, hvhc, -⟩ := descends_approveSession r payload r s hs
  rw [hvhc]
  exact hown r s₀ hid hs₀

theorem nonInterference_of_own {env : Env} {e : Event} {owner : String} (hbelongs : BelongsTo b owner e)
    (hown : OwnRequestId b owner e) : NonInterference b owner env e where
  kept r s hs hne := kept_of_own hbelongs hown (step_effect env e) hs hne
  created t message r he h := by
    subst he
    exact created_of_own hown h
  delivered message he t m hm := by
    subst he
    exact delivered_of_own hown hm

/-! ## Runs -/

/-- The input of a run with its owner. -/
def nextOwned (b : Bridge) (input : String × Env × Event) : Bridge := next b input.2

/-- **Gateways do not interfere** in a run in which no request, keepalive or answer carries the request id of another
gateway's session. -/
theorem noninterference_of_along (g : GlobalConfig) (inputs : List (String × Env × Event))
    (h : Run.Along nextOwned (fun b i => BelongsTo b i.1 i.2.2 ∧ OwnRequestId b i.1 i.2.2) (init g) inputs)
    (pre : List (String × Env × Event)) (i : String × Env × Event) (hi : pre ++ [i] <+: inputs) :
    NonInterference (Run.run nextOwned (init g) pre) i.1 i.2.1 i.2.2 := by
  obtain ⟨hbelongs, hown⟩ := (Run.along_iff_forall_step nextOwned).mp h pre i hi
  exact nonInterference_of_own hbelongs hown

/-- Two gateways join and each sends its first request, under the ids `r` and `r'`. -/
def twoGateways (r r' : String) : List (String × Env × Event) :=
  (joins 4 "60:5" "10.0.0.5").map (Prod.mk "60:5") ++ (joins 6 "60:6" "10.0.0.6").map (Prod.mk "60:6") ++
    [("60:5", atTime 1 (.message 4 (Protocol.offloadRequest "60:5" r 7 "string_test" "" 2))),
      ("60:6", atTime 2 (.message 6 (Protocol.offloadRequest "60:6" r' 7 "string_test" "" 2)))]

theorem belongsTo_message {owner : String} {t : ClientId} {message : Json}
    (h : (message.get "component_id").asString = some owner) : BelongsTo b owner (.message t message) := by
  intro conn c seqNum code payload _ hmsg
  exact Option.some.inj ((MGWCPConnection.receive_accepted_fields hmsg).2.1.symm.trans h)

theorem belongsTo_twoGateways (r r' : String) :
    Run.Along nextOwned (fun b i => BelongsTo b i.1 i.2.2) (init sampleConfig) (twoGateways r r') :=
  ⟨trivial, belongsTo_message rfl, trivial, belongsTo_message rfl, belongsTo_message rfl, belongsTo_message rfl,
    trivial⟩

/-- Distinct request ids. -/
theorem noninterference_twoGateways :
    NonInterference (Run.run nextOwned (init sampleConfig) ((twoGateways "1" "2").take 5)) "60:6" (allSent 2)
      (.message 6 (Protocol.offloadRequest "60:6" "2" 7 "string_test" "" 2)) := by
  refine noninterference_of_along sampleConfig (twoGateways "1" "2") ?_ ((twoGateways "1" "2").take 5)
    ("60:6", atTime 2 (.message 6 (Protocol.offloadRequest "60:6" "2" 7 "string_test" "" 2))) ⟨[], rfl⟩
  have hfree : ∀ (b : Bridge) (owner r : String) (t : ClientId), b.sessionManager.getSession r = none →
      OwnRequestId b owner (.message t (Protocol.offloadRequest owner r 7 "string_test" "" 2)) := by
    intro b owner r t hnone conn c seqNum code payload r' s hrecv hmsg _ hid hs
    obtain ⟨-, -, -, rfl⟩ := MGWCPConnection.receive_accepted_fields hmsg
    cases Option.some.inj hid
    rw [hnone] at hs
    cases hs
  have hinfo : ∀ (b : Bridge) (owner : String) (t : ClientId),
      OwnRequestId b owner (.message t (Protocol.dpInfo owner "0.0.0.0" 6000 1)) := by
    intro b owner t conn c seqNum code payload r' s hrecv hmsg hcode
    obtain ⟨-, -, hc, -⟩ := MGWCPConnection.receive_accepted_fields hmsg
    cases Option.some.inj hc
    rcases hcode with h | h <;> cases h
  exact ⟨⟨trivial, trivial⟩, ⟨belongsTo_message rfl, hinfo _ _ _⟩, ⟨trivial, trivial⟩,
    ⟨belongsTo_message rfl, hinfo _ _ _⟩, ⟨belongsTo_message rfl, hfree _ _ _ _ rfl⟩,
    ⟨belongsTo_message rfl, hfree _ _ _ _ (by decide +kernel)⟩, trivial⟩

/-- The first requests of two gateways have the same id, and the second one gets no session. -/
theorem not_noninterference_of_first_requests :
    ¬ ∀ (g : GlobalConfig) (inputs : List (String × Env × Event)),
      Run.Along nextOwned (fun b i => BelongsTo b i.1 i.2.2) (init g) inputs →
        ∀ pre i, pre ++ [i] <+: inputs → NonInterference (Run.run nextOwned (init g) pre) i.1 i.2.1 i.2.2 := by
  intro hall
  have h := hall sampleConfig (twoGateways "1" "1") (belongsTo_twoGateways "1" "1") ((twoGateways "1" "1").take 5)
    ("60:6", atTime 2 (.message 6 (Protocol.offloadRequest "60:6" "1" 7 "string_test" "" 2))) ⟨[], rfl⟩
  have hcreates : CreatesSession (Run.run nextOwned (init sampleConfig) ((twoGateways "1" "1").take 5)) "60:6" 6
      (Protocol.offloadRequest "60:6" "1" 7 "string_test" "" 2) "1" := by
    let conn : MGWCPConnection :=
      { connectionId := 2
        clientIp := "10.0.0.6"
        componentId := "60:6"
        state := .operational
        dpHost := "10.0.0.6"
        dpPort := 6000
        running := true
        threadAlive := true }
    refine ⟨by decide +kernel, ⟨conn, 2, (Protocol.offloadRequest "60:6" "1" 7 "string_test" "" 2).get "payload", 7,
      ⟨7, "string_test", [201], [202]⟩, "string_test", by decide +kernel, by rfl, rfl, rfl, rfl, rfl, rfl⟩,
      by decide +kernel⟩
  obtain ⟨s, hs, howner⟩ := h.created 6 _ "1" rfl hcreates
  have hother : ∀ s,
      (Run.run nextOwned (init sampleConfig) (twoGateways "1" "1")).sessionManager.getSession "1" = some s →
        s.mgwcpComponentId = "60:5" := by decide +kernel
  rw [hother s hs] at howner
  exact absurd howner (by decide)

end EdgeOffloading.Bridge
