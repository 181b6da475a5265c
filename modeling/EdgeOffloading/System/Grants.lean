import EdgeOffloading.Bridge.Outgoing
import EdgeOffloading.Manager.Atomic
import EdgeOffloading.System.Termination

/-!
# What a gateway takes for approved

An approval goes from the OM over the channel to the Bridge, from there over the reliable senders of two connections to
their gateways, which may get it late and more than once. The OM keeps its sessions for ever (`active_run`).

* `announced_step`: what is announced to a gateway was announced before, or the Bridge forwards an approval to it;
* `approved_granted`: a gateway takes a request for approved only if the OM has a session for it;
* `grants_bounded`: so there are never more such requests over a whole run than the OM may have sessions at a time.
-/

namespace EdgeOffloading

/-- A message leaves a gateway's requests alone, or one of them is approved or denied. -/
theorem gatewayReceives_cases (message : Json) :
    (∀ approved, gatewayReceives approved message = approved) ∨
      ((message.get "message_code").asInt = some 200 ∧
        ∃ r, ∀ approved, gatewayReceives approved message = Function.update approved r true) ∨
      ∃ r, ∀ approved, gatewayReceives approved message = Function.update approved r false := by
  unfold gatewayReceives
  split
  · exact .inl fun _ => rfl
  · dsimp only
    split
    · rename_i hcode
      split
      · exact .inl fun _ => rfl
      · split
        · exact .inr (.inl ⟨hcode, _, fun _ => rfl⟩)
        · cases Bridge.requestIdOf (message.get "payload") with
          | none => exact .inl fun _ => rfl
          | some r => exact .inr (.inl ⟨hcode, r, fun _ => rfl⟩)
    · split
      · split
        · cases ((message.get "payload").get "reason_description").asString with
          | none => exact .inl fun _ => rfl
          | some reason => exact .inr (.inr ⟨_, fun _ => rfl⟩)
        · exact .inl fun _ => rfl
      · exact .inl fun _ => rfl

/-- A gateway that gets the message takes the request `r` for approved. -/
def Announces (message : Json) (r : String) : Prop := gatewayReceives (fun _ => false) message r = true

theorem announces_code {message : Json} {r : String} (h : Announces message r) :
    (message.get "message_code").asInt = some 200 := by
  unfold Announces at h
  rcases gatewayReceives_cases message with heq | ⟨hcode, -⟩ | ⟨r', heq⟩
  · rw [heq] at h
    cases h
  · exact hcode
  · rw [heq, Function.update_apply] at h
    split_ifs at h

theorem not_announces {message : Json} (code : Int) (hcode : (message.get "message_code").asInt = some code)
    (hne : code ≠ 200) (r : String) : ¬ Announces message r := by
  intro h
  rw [announces_code h] at hcode
  exact hne (Option.some.inj hcode).symm

theorem approved_or_announces {approved : String → Bool} {message : Json} {r : String}
    (h : gatewayReceives approved message r = true) : approved r = true ∨ Announces message r := by
  unfold Announces
  rcases gatewayReceives_cases message with heq | ⟨-, r', heq⟩ | ⟨r', heq⟩
  · rw [heq] at h
    exact .inl h
  · rw [heq, Function.update_apply] at h ⊢
    split_ifs at h ⊢
    · exact .inr rfl
    · exact .inl h
  · rw [heq, Function.update_apply] at h
    split_ifs at h
    exact .inl h

theorem gatewayReceives_approval {message : Json} (hmessage : message.contains "message_code" = true)
    (hsender : message.contains "component_id" = true) (hcode : (message.get "message_code").asInt = some 200)
    (hpayload : message.contains "payload" = true) (hrequest : (message.get "payload").contains "request_id" = true)
    {r : String} (hid : Bridge.requestIdOf (message.get "payload") = some r) (approved : String → Bool) :
    gatewayReceives approved message = Function.update approved r true := by
  unfold gatewayReceives
  simp [hmessage, hsender, hcode, hpayload, hrequest, hid]

theorem eq_of_announces {payload : Json} {r r' : String} (hid : Bridge.requestIdOf payload = some r) {n : Nat}
    (h : Announces ((sessionApprovedMessage payload).set "sequence_number" (.int n)) r') : r' = r := by
  have hcontains : payload.contains "request_id" = true := by
    refine Json.contains_of_get_ne_null fun h0 => ?_
    unfold Bridge.requestIdOf at hid
    rw [h0] at hid
    cases hid
  have heq : gatewayReceives (fun _ => false) ((sessionApprovedMessage payload).set "sequence_number" (.int n)) =
      Function.update (fun _ => false) r true := by
    apply gatewayReceives_approval
    · rfl
    · rfl
    · rfl
    · rfl
    · exact hcontains
    · exact hid
  unfold Announces at h
  rw [heq, Function.update_apply] at h
  split_ifs at h with hr
  exact hr

/-! ## The OM -/

namespace OffloadingManager

variable {om : OffloadingManager}

theorem processMessage_cases (om : OffloadingManager) (message : Json) (env : ManagerEnv) :
    om.processMessage message env = (om, []) ∨
      (∃ requestId taskId vhc, om.processMessage message env =
        ({ (om.makeDecision requestId taskId vhc env).1 with sequenceNumber := om.sequenceNumber + 1 },
          [if (om.makeDecision requestId taskId vhc env).2.approved then
              Protocol.sessionApproved (om.sequenceNumber + 1) requestId
                (om.makeDecision requestId taskId vhc env).2.assignedMecId taskId
            else
              Protocol.sessionDenied (om.sequenceNumber + 1) requestId
                (om.makeDecision requestId taskId vhc env).2.reasonCode
                (om.makeDecision requestId taskId vhc env).2.reason])) ∨
      (∃ requestId, om.processMessage message env = (om.updateSessionKeepalive requestId env.now, [])) ∨
      (message.get "message_code").eqInt 301 = true ∧
        ∃ requestId, om.processMessage message env = (om.handleSessionFailure requestId, []) := by
  unfold processMessage
  split
  · exact .inl rfl
  · split
    · dsimp only
      split
      · unfold handleOffloadRequest
        split
        · exact .inl rfl
        · exact .inr (.inl ⟨_, _, _, rfl⟩)
      · split
        · exact .inr (.inr (.inl ⟨_, rfl⟩))
        · split
          · rename_i hcode
            exact .inr (.inr (.inr ⟨hcode, _, rfl⟩))
          · exact .inl rfl
    · exact .inl rfl

/-- The OM has a session for the request on the MEC. -/
def Grants (om : OffloadingManager) (requestId : Json) (mec : String) : Prop :=
  ∃ entry ∈ om.activeSessions, entry.2.requestId = requestId ∧ entry.2.assignedMecId = mec

theorem Grants.processMessage {requestId : Json} {mec : String} (h : om.Grants requestId mec) {message : Json}
    (hfailure : (message.get "message_code").eqInt 301 = false) (env : ManagerEnv) :
    (om.processMessage message env).1.Grants requestId mec := by
  rcases om.processMessage_cases message env with heq | ⟨request, task, vhc, heq⟩ | ⟨request, heq⟩ | ⟨hcode, -⟩
  · rw [heq]
    exact h
  · rw [heq]
    obtain ⟨entry, hentry, hrequest, hmec⟩ := h
    rcases om.makeDecision_cases request task vhc env with hsame | ⟨key, mec', -, -, -, -, -, -, htrack, -⟩
    · rw [hsame]
      exact ⟨entry, hentry, hrequest, hmec⟩
    · rw [htrack]
      exact ⟨entry, List.mem_append_left _ hentry, hrequest, hmec⟩
  · rw [heq]
    obtain ⟨entry, hentry, hrequest, hmec⟩ := h
    refine ⟨_, List.mem_map_of_mem hentry, ?_⟩
    dsimp only
    split <;> exact ⟨hrequest, hmec⟩
  · rw [hfailure] at hcode
    cases hcode

/-- The answer is no approval, or the OM has a session for the request it approves. -/
def Stands (om : OffloadingManager) (answer : Json) : Prop :=
  (answer.get "message_code").asInt = some 200 → ∃ requestId mec, om.Grants requestId mec ∧
    (answer.get "payload").get "request_id" = requestId ∧ (answer.get "payload").get "assigned_mec_id" = .str mec

theorem Stands.mono {om' : OffloadingManager} {answer : Json} (h : om.Stands answer)
    (hkept : ∀ requestId mec, om.Grants requestId mec → om'.Grants requestId mec) : om'.Stands answer := by
  intro hcode
  obtain ⟨requestId, mec, hgrants, hanswer⟩ := h hcode
  exact ⟨requestId, mec, hkept _ _ hgrants, hanswer⟩

/-- **What the OM approves, it has a session for**, where the MECs have names. -/
theorem stands_processMessage (hnamed : ∀ mec ∈ om.availableMecs, mec ≠ "") {message answer : Json} {env : ManagerEnv}
    (h : answer ∈ (om.processMessage message env).2) : (om.processMessage message env).1.Stands answer := by
  rcases om.processMessage_cases message env with heq | ⟨request, task, vhc, heq⟩ | ⟨request, heq⟩ | ⟨-, request, heq⟩
  · rw [heq] at h
    cases h
  · rw [heq] at h ⊢
    rcases om.makeDecision_outcome request task vhc env with
      ⟨-, hnone⟩ | ⟨key, mec, -, -, -, -, -, -, htrack, happroved, hmec⟩
    · rw [List.mem_singleton.mp h]
      split
      · rename_i happroved
        obtain ⟨hempty, hmem, -⟩ := hnone happroved
        exact absurd hempty (hnamed _ hmem)
      · intro hcode
        cases hcode
    · rw [List.mem_singleton.mp h, if_pos happroved, hmec, htrack]
      intro _
      exact ⟨_, mec, ⟨_, List.mem_append_right _ (List.mem_singleton.mpr rfl), rfl, rfl⟩, rfl, rfl⟩
  · rw [heq] at h
    cases h
  · rw [heq] at h
    cases h

theorem Bounded.processMessage {limit : Nat} (h : om.Bounded limit) (message : Json) (env : ManagerEnv) :
    (om.processMessage message env).1.Bounded limit := by
  rcases om.processMessage_cases message env with heq | ⟨request, task, vhc, heq⟩ | ⟨request, heq⟩ | ⟨-, request, heq⟩
  · rw [heq]
    exact h
  · rw [heq]
    exact bounded_callMakeDecision h request task vhc .null env
  · rw [heq]
    refine ⟨h.1, ?_⟩
    show (om.activeSessions.map _).length ≤ limit
    rw [List.length_map]
    exact h.2
  · rw [heq]
    exact bounded_sequentialStep h (.failure request)

theorem availableMecs_processMessage (om : OffloadingManager) (message : Json) (env : ManagerEnv) :
    (om.processMessage message env).1.availableMecs = om.availableMecs := by
  rcases om.processMessage_cases message env with heq | ⟨request, task, vhc, heq⟩ | ⟨request, heq⟩ | ⟨-, request, heq⟩
  · rw [heq]
  · rw [heq]
    rcases om.makeDecision_cases request task vhc env with hsame | ⟨key, mec, -, -, -, -, -, -, htrack, -⟩
    · rw [hsame]
    · rw [htrack]
      rfl
  · rw [heq]
    rfl
  · rw [heq]
    unfold handleSessionFailure
    split <;> rfl

end OffloadingManager

namespace System

variable {s : System} {t : ClientId} {r : String}

/-! ## The way of an approval -/

/-- The approval of a request is known to a gateway or on its way to it. -/
def Announced (s : System) (t : ClientId) (r : String) : Prop :=
  s.approved t r = true ∨ (∃ p ∈ s.toGateway t, Announces p.1 r) ∨
    ∃ p ∈ (s.bridge.senders t).pendingAcks, Announces p.2.message r

/-- The Bridge takes the next answer of the OM, an approval of the request, and forwards it to the gateway. -/
structure Forwards (s : System) (l : Label) (t : ClientId) (r : String) (message payload : Json) : Prop where
  label : ∃ env rest, l = .bridgeReceives env ∧ s.toBridge = message :: rest
  addresses : Bridge.Addresses s.bridge message r payload t

theorem announced_remember {e : Event} (h : (s.remember e).Announced t r) : s.Announced t r := by
  rcases h with h | ⟨p, hp, hannounces⟩ | h
  · left
    revert h
    unfold remember
    split
    · split
      · exact id
      · dsimp only
        rw [Function.update_apply]
        split
        · exact fun h => by cases h
        · exact id
    · split <;> exact id
    · exact id
  · exact .inr (.inl ⟨p, s.remember_toGateway_subset e t hp, hannounces⟩)
  · rw [(s.remember_rest e).1] at h
    exact .inr (.inr h)

theorem announced_transmit {env : Env} {e : Event} {again : Bool}
    (h : (s.transmit (s.bridge.step env e) again).Announced t r) :
    s.Announced t r ∨ ∃ message payload, e = .omMessage message ∧ Bridge.Addresses s.bridge message r payload t := by
  have hsends := Bridge.sends_step (b := s.bridge)
    (P := fun t message => Announces message r → s.Announced t r ∨
      ∃ answer payload, e = .omMessage answer ∧ Bridge.Addresses s.bridge answer r payload t)
    (fun t p hp hannounces => .inl (.inr (.inr ⟨p, hp, hannounces⟩)))
    (fun _ _ _ hannounces => absurd hannounces (not_announces 900 rfl (by decide) r))
    (fun _ _ hannounces => absurd hannounces (not_announces 202 rfl (by decide) r)) env e
    (fun message r' payload t' he haddresses n hannounces => by
      have hid := (Bridge.approvalOf_eq_some.mp (Bridge.approvalOf_of_taken haddresses.taken)).1
      have hpayload := (Bridge.approvalOf_eq_some.mp (Bridge.approvalOf_of_taken haddresses.taken)).2
      rw [hpayload] at hid
      obtain rfl := eq_of_announces hid hannounces
      exact .inr ⟨message, payload, he, haddresses⟩)
  rcases h with h | ⟨p, hp, hannounces⟩ | ⟨p, hp, hannounces⟩
  · exact .inl (.inl h)
  · rcases mem_transmit_toGateway hp with hp | ⟨⟨ok, hsent⟩, -⟩
    · exact .inl (.inr (.inl ⟨p, hp, hannounces⟩))
    · exact hsends.sent t p.1 ok hsent hannounces
  · exact hsends.waiting t p hp hannounces

/-- **An approval comes from the OM.** -/
theorem announced_step (l : Label) (h : (s.step l).Announced t r) :
    s.Announced t r ∨ ∃ message payload, s.Forwards l t r message payload := by
  cases l with
  | event env e =>
      have hevent : (∀ message, e ≠ .omMessage message) →
          ((s.remember e).transmit (s.bridge.step (sending env) e) false).Announced t r → s.Announced t r := by
        intro hno h
        rw [← (s.remember_rest e).1] at h
        rcases announced_transmit h with h | ⟨message, payload, he, -⟩
        · exact announced_remember h
        · exact absurd he (hno message)
      cases e with
      | omMessage message => exact .inl h
      | _ => exact .inl (hevent (fun _ heq => by cases heq) h)
  | again env t' message =>
      rcases announced_transmit h with h | ⟨message, payload, he, -⟩
      · exact .inl h
      · cases he
  | omReceives env =>
      unfold step at h
      dsimp only at h
      split at h
      · exact .inl h
      · exact .inl h
  | bridgeReceives env =>
      unfold step at h
      dsimp only at h
      split at h
      · exact .inl h
      · rename_i message rest hqueue
        rcases announced_transmit (s := { s with toBridge := rest }) h with h | ⟨message', payload, he, haddresses⟩
        · exact .inl h
        · cases he
          exact .inr ⟨message, payload, ⟨env, rest, rfl, hqueue⟩, haddresses⟩
  | gatewayReceives t' =>
      left
      unfold step at h
      dsimp only at h
      split at h
      · exact h
      · rename_i message again rest hqueue
        rcases h with h | ⟨p, hp, hannounces⟩ | h
        · dsimp only at h
          rw [Function.update_apply] at h
          split_ifs at h with ht
          · subst ht
            rcases approved_or_announces h with h | hannounces
            · exact .inl h
            · exact .inr (.inl ⟨(message, again), hqueue ▸ List.mem_cons_self, hannounces⟩)
          · exact .inl h
        · dsimp only at hp
          rw [Function.update_apply] at hp
          split_ifs at hp with ht
          · subst ht
            exact .inr (.inl ⟨p, hqueue ▸ List.mem_cons_of_mem _ hp, hannounces⟩)
          · exact .inr (.inl ⟨p, hp, hannounces⟩)
        · exact .inr (.inr h)
  | teardown t' requestId =>
      left
      rcases h with h | h
      · left
        dsimp only [step] at h
        rw [Function.update_apply] at h
        split_ifs at h with ht
        · rw [Function.update_apply] at h
          split_ifs at h
          exact ht ▸ h
        · exact h
      · exact .inr h
  | availableMecs mecs => exact .inl h

/-! ## The OM behind it -/

/-- The MECs of the label have names. -/
def Named (_s : System) : Label → Prop
  | .availableMecs mecs => ∀ mec ∈ mecs, mec ≠ ""
  | _ => True

/-- Every answer on its way to the Bridge stands. -/
structure Answers (s : System) : Prop where
  named : ∀ mec ∈ s.om.availableMecs, mec ≠ ""
  quiet : s.NoFailureReport
  toBridge : ∀ answer ∈ s.toBridge, s.om.Stands answer

theorem om_step (s : System) (l : Label) :
    (s.step l).om = s.om ∨
      (∃ env first rest, l = .omReceives env ∧ s.toOm = first :: rest ∧
        (s.step l).om = (s.om.processMessage first.1 env).1) ∨
      ∃ mecs, l = .availableMecs mecs ∧ (s.step l).om = s.om.updateAvailableMecs mecs := by
  cases l with
  | event env e =>
      left
      cases e with
      | omMessage message => rfl
      | _ => exact (s.remember_rest _).2.1
  | again env t message => exact .inl rfl
  | omReceives env =>
      cases hqueue : s.toOm with
      | nil => exact .inl (by simp only [step, hqueue])
      | cons first rest => exact .inr (.inl ⟨env, first, rest, rfl, rfl, by simp only [step, hqueue]⟩)
  | bridgeReceives env =>
      left
      unfold step
      dsimp only
      split <;> rfl
  | gatewayReceives t =>
      left
      unfold step
      dsimp only
      split <;> rfl
  | teardown t requestId => exact .inl rfl
  | availableMecs mecs => exact .inr (.inr ⟨mecs, rfl, rfl⟩)

theorem grants_step {requestId : Json} {mec : String} (hquiet : s.NoFailureReport) (h : s.om.Grants requestId mec)
    (l : Label) : (s.step l).om.Grants requestId mec := by
  rcases s.om_step l with heq | ⟨env, first, rest, -, hqueue, heq⟩ | ⟨mecs, -, heq⟩
  · rw [heq]
    exact h
  · rw [heq]
    exact h.processMessage (hquiet first (hqueue ▸ List.mem_cons_self)) env
  · rw [heq]
    exact h

theorem bounded_step {limit : Nat} (h : s.om.Bounded limit) (l : Label) : (s.step l).om.Bounded limit := by
  rcases s.om_step l with heq | ⟨env, first, rest, -, -, heq⟩ | ⟨mecs, -, heq⟩
  · rw [heq]
    exact h
  · rw [heq]
    exact h.processMessage first.1 env
  · rw [heq]
    exact h

theorem answers_step (s : System) (l : Label) (h : s.Answers) (hl : s.Named l) : (s.step l).Answers := by
  have hquiet := noFailureReport_step l h.quiet
  have hkept : ∀ answer, s.om.Stands answer → (s.step l).om.Stands answer :=
    fun answer hstands => hstands.mono fun _ _ hgrants => grants_step h.quiet hgrants l
  have hsame : (s.step l).om.availableMecs = s.om.availableMecs →
      (∀ answer ∈ (s.step l).toBridge, answer ∈ s.toBridge) → (s.step l).Answers :=
    fun hmecs hqueue => ⟨hmecs ▸ h.named, hquiet, fun answer hanswer => hkept _ (h.toBridge _ (hqueue _ hanswer))⟩
  cases l with
  | event env e =>
      have hremember := s.remember_rest e
      cases e with
      | omMessage message => exact h
      | _ =>
        refine hsame ?_ fun answer hanswer => ?_
        · exact congrArg OffloadingManager.availableMecs hremember.2.1
        · have hqueue : answer ∈ (s.remember _).toBridge := hanswer
          rwa [hremember.2.2.2] at hqueue
  | again env t message => exact hsame rfl fun _ hanswer => hanswer
  | omReceives env =>
      cases hqueue : s.toOm with
      | nil =>
          have heq : s.step (.omReceives env) = s := by simp only [step, hqueue]
          rw [heq]
          exact h
      | cons first rest =>
          have heq : s.step (.omReceives env) =
              { s with
                om := (s.om.processMessage first.1 env).1
                toOm := rest
                toBridge := s.toBridge ++ (s.om.processMessage first.1 env).2 } := by
            simp only [step, hqueue]
          refine ⟨?_, hquiet, fun answer hanswer => ?_⟩
          · rw [heq]
            dsimp only
            rw [OffloadingManager.availableMecs_processMessage]
            exact h.named
          · rw [heq] at hanswer hkept ⊢
            rcases List.mem_append.mp hanswer with hanswer | hanswer
            · exact hkept _ (h.toBridge _ hanswer)
            · exact OffloadingManager.stands_processMessage h.named hanswer
  | bridgeReceives env =>
      cases hqueue : s.toBridge with
      | nil =>
          have heq : s.step (.bridgeReceives env) = s := by simp only [step, hqueue]
          rw [heq]
          exact h
      | cons first rest =>
          have heq : s.step (.bridgeReceives env) =
              { s with toBridge := rest }.transmit (s.bridge.step (sending env) (.omMessage first)) false := by
            simp only [step, hqueue]
          refine hsame ?_ fun answer hanswer => ?_
          · rw [heq]
            rfl
          · rw [heq] at hanswer
            rw [hqueue]
            exact List.mem_cons_of_mem _ hanswer
  | gatewayReceives t =>
      cases hqueue : s.toGateway t with
      | nil =>
          have heq : s.step (.gatewayReceives t) = s := by simp only [step, hqueue]
          rw [heq]
          exact h
      | cons first rest =>
          refine hsame ?_ fun answer hanswer => ?_
          · simp only [step, hqueue]
          · simp only [step, hqueue] at hanswer
            exact hanswer
  | teardown t requestId => exact hsame rfl fun _ hanswer => hanswer
  | availableMecs mecs =>
      exact ⟨hl, hquiet, fun answer hanswer => hkept _ (h.toBridge _ hanswer)⟩

/-! ## Over a run -/

theorem grants_run {requestId : Json} {mec : String} (hquiet : s.NoFailureReport) (h : s.om.Grants requestId mec)
    (labels : List Label) : (Run.run step s labels).om.Grants requestId mec :=
  (Run.run_invariant_of_step step (I := fun s => s.NoFailureReport ∧ s.om.Grants requestId mec)
    (fun _ l h => ⟨noFailureReport_step l h.1, grants_step h.1 h.2 l⟩) labels s ⟨hquiet, h⟩).2

theorem forwarded_of_approved {g : GlobalConfig} {om : OffloadingManager} (hnamed : ∀ mec ∈ om.availableMecs, mec ≠ "")
    {labels : List Label} (hlabels : Run.Along step Named (init g om) labels)
    (h : (Run.run step (init g om) labels).approved t r = true) :
    ∃ pre l message payload requestId mec, pre ++ [l] <+: labels ∧
      (Run.run step (init g om) pre).Forwards l t r message payload ∧
      (Run.run step (init g om) labels).om.Grants requestId mec ∧
      payload.get "request_id" = requestId ∧ payload.get "assigned_mec_id" = .str mec := by
  have hstart : ¬ (init g om).Announced t r := by
    rintro (h | ⟨p, hp, -⟩ | ⟨p, hp, -⟩)
    · cases h
    · cases hp
    · cases hp
  obtain ⟨pre, l, hpre, message, payload, hforwards⟩ := Run.exists_step_of_run step (I := fun _ => True)
    (P := fun s => s.Announced t r) (Q := fun s l => ∃ message payload, s.Forwards l t r message payload)
    (fun _ _ _ => trivial) (fun s l _ h => announced_step l h) trivial hstart labels (.inl h)
  have hbefore : pre <+: labels := (List.prefix_append _ _).trans hpre
  have hanswers : (Run.run step (init g om) pre).Answers :=
    Run.run_invariant_on_the_way step answers_step
      ⟨hnamed, fun _ h => absurd h List.not_mem_nil, fun _ h => absurd h List.not_mem_nil⟩ hlabels pre hbefore
  obtain ⟨env, rest, -, hqueue⟩ := hforwards.label
  have htaken := hforwards.addresses.taken
  obtain ⟨-, hpayload⟩ := Bridge.approvalOf_eq_some.mp (Bridge.approvalOf_of_taken htaken)
  have hcode : (message.get "message_code").asInt = some 200 := by
    unfold Bridge.approvalTaken at htaken
    split_ifs at htaken with hguard
    exact hguard.2.2
  obtain ⟨requestId, mec, hgrants, hid, hmec⟩ := hanswers.toBridge message (hqueue ▸ List.mem_cons_self) hcode
  rw [hpayload] at hid hmec
  refine ⟨pre, l, message, payload, requestId, mec, hpre, hforwards, ?_, hid, hmec⟩
  obtain ⟨post, rfl⟩ := hbefore
  rw [Run.run_append]
  exact grants_run hanswers.quiet hgrants post

/-- **What a gateway takes for approved, the OM has granted.** The Bridge has forwarded the approval to the gateway as
one of the two ends of the session, and the OM still has its session for the request, on the MEC that the approval
names. -/
theorem approved_granted (g : GlobalConfig) (om : OffloadingManager) (hnamed : ∀ mec ∈ om.availableMecs, mec ≠ "")
    (labels : List Label) (hlabels : Run.Along step Named (init g om) labels)
    (h : (Run.run step (init g om) labels).approved t r = true) :
    ∃ pre l message payload, pre ++ [l] <+: labels ∧
      (Run.run step (init g om) pre).Forwards l t r message payload ∧
      ∃ entry ∈ (Run.run step (init g om) labels).om.activeSessions,
        payload.get "request_id" = entry.2.requestId ∧ payload.get "assigned_mec_id" = .str entry.2.assignedMecId := by
  obtain ⟨pre, l, message, payload, requestId, mec, hpre, hforwards, hgrants, hid, hmec⟩ :=
    forwarded_of_approved hnamed hlabels h
  obtain ⟨entry, hentry, rfl, rfl⟩ := hgrants
  exact ⟨pre, l, message, payload, hpre, hforwards, entry, hentry, hid, hmec⟩

/-- The request id under which the Bridge knows the session of the OM. -/
def bridgeId (entry : PyKey × SessionInfo) : String :=
  (Bridge.requestIdOf (.obj [("request_id", entry.2.requestId)])).getD ""

/-- **Grants run out**: over a whole run the gateways come to take no more requests for approved, all together, than the
OM may have sessions at a time. -/
theorem grants_bounded (g : GlobalConfig) (om : OffloadingManager) (hnamed : ∀ mec ∈ om.availableMecs, mec ≠ "")
    (hlength : om.activeSessions.length ≤ om.maxConcurrentSessions) (labels : List Label)
    (hlabels : Run.Along step Named (init g om) labels) (requests : Finset String)
    (hrequests : ∀ r ∈ requests, ∃ pre t, pre <+: labels ∧ (Run.run step (init g om) pre).approved t r = true) :
    requests.card ≤ om.maxConcurrentSessions := by
  have hbounded : (Run.run step (init g om) labels).om.Bounded om.maxConcurrentSessions :=
    Run.run_invariant_of_step step (I := fun s => s.om.Bounded om.maxConcurrentSessions)
      (fun _ l h => bounded_step h l) labels _ ⟨rfl, hlength⟩
  have hsubset : requests ⊆ ((Run.run step (init g om) labels).om.activeSessions.map bridgeId).toFinset := by
    intro r hr
    obtain ⟨pre, t, ⟨post, rfl⟩, happroved⟩ := hrequests r hr
    have hpre := ((Run.Along.append step Named (init g om) pre post).mp hlabels).1
    obtain ⟨before, l, message, payload, requestId, mec, -, hforwards, hgrants, hid, -⟩ :=
      forwarded_of_approved hnamed hpre happroved
    obtain ⟨hread, rfl⟩ := Bridge.approvalOf_eq_some.mp (Bridge.approvalOf_of_taken hforwards.addresses.taken)
    have hgrants' := grants_run (noFailureReport_run g om pre) hgrants post
    rw [← Run.run_append] at hgrants'
    obtain ⟨entry, hentry, hrequest, -⟩ := hgrants'
    refine List.mem_toFinset.mpr (List.mem_map.mpr ⟨entry, hentry, ?_⟩)
    have hsame : Bridge.requestIdOf (.obj [("request_id", entry.2.requestId)]) = some r := by
      rw [← hread]
      unfold Bridge.requestIdOf
      rw [hid, hrequest]
      rfl
    rw [bridgeId, hsame, Option.getD_some]
  calc requests.card
      ≤ ((Run.run step (init g om) labels).om.activeSessions.map bridgeId).toFinset.card := Finset.card_le_card hsubset
    _ ≤ ((Run.run step (init g om) labels).om.activeSessions.map bridgeId).length := List.toFinset_card_le _
    _ ≤ om.maxConcurrentSessions := by
        rw [List.length_map]
        exact hbounded.2

/-! ## The sample run -/

/-- The VHC gets its messages, the approval last. -/
def sampleApproved : List Label := sampleLabels ++ List.replicate 4 (.gatewayReceives 4)

theorem named_sampleApproved : Run.Along step Named (init Bridge.sampleConfig sampleManager) sampleApproved :=
  ⟨trivial, trivial, trivial, trivial, trivial, trivial, trivial, trivial, trivial, trivial, trivial, trivial⟩

theorem approved_granted_sample :
    ∃ pre l message payload, pre ++ [l] <+: sampleApproved ∧
      (Run.run step (init Bridge.sampleConfig sampleManager) pre).Forwards l 4 "1" message payload ∧
      ∃ entry ∈ (Run.run step (init Bridge.sampleConfig sampleManager) sampleApproved).om.activeSessions,
        payload.get "request_id" = entry.2.requestId ∧
          payload.get "assigned_mec_id" = .str entry.2.assignedMecId := by
  refine approved_granted Bridge.sampleConfig sampleManager (fun mec hmec => ?_) sampleApproved named_sampleApproved
    (by decide +kernel)
  rw [List.mem_singleton.mp hmec]
  decide

theorem grants_bounded_sample : ({"1"} : Finset String).card ≤ 100 := by
  refine grants_bounded Bridge.sampleConfig sampleManager (fun mec hmec => ?_) (by decide) sampleApproved
    named_sampleApproved {"1"} fun r hr => ?_
  · rw [List.mem_singleton.mp hmec]
    decide
  · rw [Finset.mem_singleton.mp hr]
    exact ⟨sampleApproved, 4, List.prefix_rfl, by decide +kernel⟩

end System

end EdgeOffloading
