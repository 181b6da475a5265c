import EdgeOffloading.Bridge.RouteCreation

/-!
# Where sessions and routes come from

* `session_requested`: every session of the Bridge was requested by its gateway;
* `route_approved`: every route was installed for an approval of the OM, between the two gateways of the session it
  approves;
* `route_paired`: so a queue is listed under a key only if one of the two gateways asked for offloading and the OM
  assigned the other one to it.
-/

namespace EdgeOffloading.Bridge

variable {b : Bridge}

/-! ## Sessions -/

/-- The event is a request with this id of the gateway with component id `c`. -/
def Requests (b : Bridge) (input : Env × Event) (r c : String) : Prop :=
  ∃ t message conn seqNum payload, input.2 = .message t message ∧ b.receiving t = some conn ∧
    conn.receive message = .accepted c seqNum 100 payload ∧ (payload.get "request_id").asString = some r

/-- A session of gateway `c` under this request id. -/
def HasSession (b : Bridge) (r c : String) : Prop :=
  ∃ s, b.sessionManager.getSession r = some s ∧ s.mgwcpComponentId = c

theorem hasSession_descends {m : SessionManager} {r c : String} (h : b.sessionManager.Descends m)
    (hs : ∃ s, m.getSession r = some s ∧ s.mgwcpComponentId = c) : HasSession b r c := by
  obtain ⟨s, hs, rfl⟩ := hs
  obtain ⟨s₀, hs₀, -, hc, -⟩ := h r s hs
  exact ⟨s₀, hs₀, hc.symm⟩

theorem Effect.session_origin {env : Env} {e : Event} {b' : Bridge} (he : b.Effect env e b') {r c : String}
    (h : HasSession b' r c) : HasSession b r c ∨ Requests b (env, e) r c := by
  cases he with
  | idle e senders omConnected terminated => exact .inl h
  | connected t clientIp ht => exact .inl h
  | threadEnded e t conn ht hconn => exact .inl h
  | accepted t message conn componentId seqNum code payload b' hrecv hmsg hb' =>
      have hsame := (b.identified_same t conn componentId).2.2
      cases hb' with
      | none => exact .inl (hasSession_descends (hsame ▸ .refl _) h)
      | ended dpHost dpPort => exact .inl (hasSession_descends (hsame ▸ .refl _) h)
      | confirmed dpHost dpPort b₁ senders hcode hstate hb₁ =>
          refine .inl (hasSession_descends ?_ h)
          show b.sessionManager.Descends b₁.sessionManager
          rw [(createHandler_grow hb₁).2.1, hsame]
          exact .refl _
      | requested requestId taskId taskName omConnected hcode hstate hid htask =>
          obtain ⟨s, hs, hc⟩ := h
          dsimp only at hs
          rcases (b.identified t conn componentId).sessionManager.createSession_cases requestId componentId taskId
            taskName (b.identified t conn componentId).globalConfig env.now with ⟨heq, -⟩ | ⟨task, -, -, hget⟩
          · rw [heq, hsame] at hs
            exact .inl ⟨s, hs, hc⟩
          · rw [hget, hsame] at hs
            split_ifs at hs with hr
            · obtain rfl := Option.some.inj hs
              refine .inr ⟨t, message, conn, seqNum, payload, rfl, hrecv, ?_, ?_⟩
              · rw [hmsg, hcode, ← hc]
                rfl
              · rw [hid, hr]
            · exact .inl ⟨s, hs, hc⟩
      | keptAlive requestId omConnected hcode hid =>
          refine .inl (hasSession_descends ?_ h)
          rw [hsame]
          exact b.sessionManager.descends_updateKeepalive _ _
      | forwarded omConnected hcode => exact .inl (hasSession_descends (hsame ▸ .refl _) h)
  | disconnected t ht => exact .inl (hasSession_descends (b.disconnection_sessions t).1 h)
  | approved message requestId senders hlive hom hcode hid =>
      exact .inl (hasSession_descends (b.descends_approveSession _ _) h)
  | denied message requestId hlive hom hcode hid =>
      exact .inl (hasSession_descends (b.sessionManager.descends_removeSession _) h)
  | worked componentId event handler hh => exact .inl h

/-- **Every session was requested** by the gateway it belongs to. -/
theorem session_requested (g : GlobalConfig) (inputs : List (Env × Event)) {r : String} {s : ActiveSession}
    (hs : (Run.run next (init g) inputs).sessionManager.getSession r = some s) :
    ∃ pre input, pre ++ [input] <+: inputs ∧ Requests (Run.run next (init g) pre) input r s.mgwcpComponentId := by
  refine Run.exists_step_of_run next (I := fun _ => True) (P := fun b => HasSession b r s.mgwcpComponentId)
    (Q := fun b input => Requests b input r s.mgwcpComponentId) (fun _ _ _ => trivial)
    (fun b input _ h => (step_effect input.1 input.2).session_origin h) trivial ?_ inputs ⟨s, hs, rfl⟩
  rintro ⟨s', hs', -⟩
  cases hs'

/-! ## Routes -/

/-- The event is an approval of the session under `r`, which it leaves as `s`. -/
def Approves (b : Bridge) (input : Env × Event) (r : String) (s : ActiveSession) : Prop :=
  ∃ message payload s₀, input.2 = .omMessage message ∧ approvalTaken b message = some (r, payload) ∧
    b.sessionManager.getSession r = some s₀ ∧ s = assigned payload s₀

/-- The event is an approval of `s`, and `k` to `q` is one of the routes between its two gateways. -/
structure Installs (b : Bridge) (input : Env × Event) (s : ActiveSession) (k : RoutingKey) (q : QueueId) : Prop where
  approves : ∃ r, Approves b input r s
  ends : ∃ vhc mec, b.transportHandlers s.mgwcpComponentId = some vhc ∧
    b.transportHandlers s.assignedMecId = some mec ∧
    (IsInputKey s k ∧ q = mec.inputQueue ∨ IsOutputKey s k ∧ q = vhc.inputQueue)

theorem isQueueOf_iff {handlers : String → Option TransportHandler} {c : String} {handler : TransportHandler}
    (hc : handlers c = some handler) (q : QueueId) : IsQueueOf handlers c q ↔ q = handler.inputQueue := by
  unfold IsQueueOf
  rw [hc]
  simp only [Option.some.injEq, exists_eq_left']

theorem WellFormed.route_origin (hwf : WellFormed b) {env : Env} {e : Event} {b' : Bridge} (he : b.Effect env e b')
    {k : RoutingKey} {q : QueueId} (h : q ∈ b'.routingTable.getDestinations k) :
    q ∈ b.routingTable.getDestinations k ∨ ∃ s, Installs b (env, e) s k q := by
  by_cases hno : ∀ message, e = .omMessage message → approvalTaken b message = none
  · rw [he.routingTable_eq hno] at h
    exact .inl h
  · push Not at hno
    obtain ⟨message, rfl, htaken⟩ := hno
    obtain ⟨⟨r, payload⟩, htaken⟩ := Option.ne_none_iff_exists'.mp htaken
    cases he with
    | idle e senders omConnected terminated => exact .inl h
    | threadEnded e t conn ht hconn => exact .inl h
    | denied message requestId hlive hom hcode hid => exact .inl h
    | approved message requestId senders hlive hom hcode hid =>
        obtain ⟨hr, rfl⟩ := approvalOf_eq_some.mp (approvalOf_of_taken htaken)
        obtain rfl : requestId = r := Option.some.inj (hid.symm.trans hr)
        dsimp only at h
        rcases hwf.approveSession_cases requestId (message.get "payload") with
          ⟨heq, -⟩ | ⟨s, vhc, mec, hs, hvhc, hmec, heq⟩
        · rw [heq] at h
          exact .inl h
        · rw [heq] at h
          rcases (RoutingTable.mem_addRoutes _ _ k q).mp h with h | h
          · exact .inl h
          · rw [getSession_assignMec, if_pos rfl] at hs
            obtain ⟨s₀, hs₀, rfl⟩ := Option.map_eq_some_iff.mp hs
            refine .inr ⟨_, ⟨requestId, message, _, s₀, rfl, htaken, hs₀, rfl⟩, vhc, mec, hvhc, hmec, ?_⟩
            have hends := (mem_routesOf hwf.handlerValid hvhc hmec k q).mp h
            rwa [isQueueOf_iff hvhc, isQueueOf_iff hmec] at hends

/-- **Every route was installed for an approval**, between the two gateways of the session that it approves. -/
theorem route_approved (g : GlobalConfig) (inputs : List (Env × Event)) {k : RoutingKey} {q : QueueId}
    (h : q ∈ (Run.run next (init g) inputs).routingTable.getDestinations k) :
    ∃ pre input s, pre ++ [input] <+: inputs ∧ Installs (Run.run next (init g) pre) input s k q := by
  obtain ⟨pre, input, hpre, s, hinstalls⟩ := Run.exists_step_of_run next (I := WellFormed)
    (P := fun b => q ∈ b.routingTable.getDestinations k) (Q := fun b input => ∃ s, Installs b input s k q)
    (fun b input hb => hb.step input.1 input.2) (fun b input hb h => hb.route_origin (step_effect input.1 input.2) h)
    (wellFormed_init g) List.not_mem_nil inputs h
  exact ⟨pre, input, s, hpre, hinstalls⟩

/-! ## Queues -/

theorem HandlersGrow.refl (handlers : String → Option TransportHandler) : HandlersGrow handlers handlers :=
  fun _ h hc => ⟨h, hc, rfl⟩

theorem HandlersGrow.trans {h₁ h₂ h₃ : String → Option TransportHandler} (h : HandlersGrow h₁ h₂)
    (h' : HandlersGrow h₂ h₃) : HandlersGrow h₁ h₃ := by
  intro c handler hc
  obtain ⟨handler', hc', hq⟩ := h c handler hc
  obtain ⟨handler'', hc'', hq'⟩ := h' c handler' hc'
  exact ⟨handler'', hc'', hq'.trans hq⟩

theorem Effect.handlers_grow {env : Env} {e : Event} {b' : Bridge} (he : b.Effect env e b') :
    HandlersGrow b.transportHandlers b'.transportHandlers := by
  cases he with
  | idle e senders omConnected terminated => exact .refl _
  | connected t clientIp ht => exact .refl _
  | threadEnded e t conn ht hconn => exact .refl _
  | accepted t message conn componentId seqNum code payload b' hrecv hmsg hb' =>
      rw [← (b.identified_same t conn componentId).2.1]
      cases hb' with
      | none => exact .refl _
      | ended dpHost dpPort => exact .refl _
      | confirmed dpHost dpPort b₁ senders hcode hstate hb₁ => exact (createHandler_grow hb₁).2.2
      | requested requestId taskId taskName omConnected hcode hstate hid htask => exact .refl _
      | keptAlive requestId omConnected hcode hid => exact .refl _
      | forwarded omConnected hcode => exact .refl _
  | disconnected t ht =>
      rw [(b.disconnection_sessions t).2.1]
      exact .refl _
  | approved message requestId senders hlive hom hcode hid => exact .refl _
  | denied message requestId hlive hom hcode hid => exact .refl _
  | worked componentId event handler hh =>
      intro c h hc
      dsimp only
      rw [Function.update_apply]
      split_ifs with heq
      · rw [heq, hh] at hc
        obtain rfl := Option.some.inj hc
        exact ⟨_, rfl, (handler.sameEndpoint_worker b.routingTable event).queue⟩
      · exact ⟨h, hc, rfl⟩

theorem handlers_grow_run (inputs : List (Env × Event)) (b : Bridge) :
    HandlersGrow b.transportHandlers (Run.run next b inputs).transportHandlers :=
  Run.run_invariant_of_step next (I := fun b' => HandlersGrow b.transportHandlers b'.transportHandlers)
    (fun _ input h => h.trans (step_effect input.1 input.2).handlers_grow) inputs b (.refl _)

/-- At some point of the run the session `s` was approved, between two gateways with valid ids, and before that point
the one it belongs to had requested it, under the id under which it was approved. -/
structure Granted (g : GlobalConfig) (inputs : List (Env × Event)) (s : ActiveSession) : Prop where
  approved : ∃ r pre input, pre ++ [input] <+: inputs ∧ Approves (Run.run next (init g) pre) input r s ∧
    ∃ pre' input', pre' ++ [input'] <+: pre ∧ Requests (Run.run next (init g) pre') input' r s.mgwcpComponentId
  vhcValid : isValidComponentId s.mgwcpComponentId = true
  mecValid : isValidComponentId s.assignedMecId = true

theorem Granted.mono {g : GlobalConfig} {pre inputs : List (Env × Event)} {session : ActiveSession}
    (h : Granted g pre session) (hpre : pre <+: inputs) : Granted g inputs session := by
  obtain ⟨r, front, input, hfront, happroved⟩ := h.approved
  exact ⟨⟨r, front, input, hfront.trans hpre, happroved⟩, h.vhcValid, h.mecValid⟩

theorem Installs.granted {g : GlobalConfig} {pre inputs : List (Env × Event)} {input : Env × Event}
    (hpre : pre ++ [input] <+: inputs) {s : ActiveSession} {k : RoutingKey} {q : QueueId}
    (hinstalls : Installs (Run.run next (init g) pre) input s k q) :
    Granted g inputs s ∧
      (IsInputKey s k ∧ IsQueueOf (Run.run next (init g) inputs).transportHandlers s.assignedMecId q ∨
        IsOutputKey s k ∧ IsQueueOf (Run.run next (init g) inputs).transportHandlers s.mgwcpComponentId q) := by
  have hwf : WellFormed (Run.run next (init g) pre) := reachable_wellFormed ⟨g, pre, rfl⟩
  have hfront : pre <+: inputs := (List.prefix_append pre [input]).trans hpre
  have hgrow : ∀ c handler, (Run.run next (init g) pre).transportHandlers c = some handler →
      IsQueueOf (Run.run next (init g) inputs).transportHandlers c handler.inputQueue := by
    intro c handler hc
    obtain ⟨post, rfl⟩ := hfront
    rw [Run.run_append]
    obtain ⟨handler', hc', hq⟩ := handlers_grow_run post (Run.run next (init g) pre) c handler hc
    exact ⟨handler', hc', hq.symm⟩
  obtain ⟨vhc, mec, hvhc, hmec, hends⟩ := hinstalls.ends
  obtain ⟨r, message, payload, s₀, hevent, htaken, hs₀, hs⟩ := hinstalls.approves
  have hbelongs : s.mgwcpComponentId = s₀.mgwcpComponentId := by rw [hs]; rfl
  obtain ⟨pre', input', hpre', hrequests⟩ := session_requested g pre hs₀
  rw [← hbelongs] at hrequests
  have happroves : Approves (Run.run next (init g) pre) input r s := ⟨message, payload, s₀, hevent, htaken, hs₀, hs⟩
  refine ⟨⟨⟨r, pre, input, hpre, happroves, pre', input', hpre', hrequests⟩, hwf.handlerValid _ _ hvhc,
    hwf.handlerValid _ _ hmec⟩, ?_⟩
  rcases hends with ⟨hkey, rfl⟩ | ⟨hkey, rfl⟩
  · exact .inl ⟨hkey, hgrow _ _ hmec⟩
  · exact .inr ⟨hkey, hgrow _ _ hvhc⟩

/-- **Data flows only between paired gateways**: the queue under a key is the queue of the MEC of a granted session,
and the key is one of its VHC, or the other way round. -/
theorem route_paired (g : GlobalConfig) (inputs : List (Env × Event)) {k : RoutingKey} {q : QueueId}
    (h : q ∈ (Run.run next (init g) inputs).routingTable.getDestinations k) :
    ∃ s, Granted g inputs s ∧
      (IsInputKey s k ∧ IsQueueOf (Run.run next (init g) inputs).transportHandlers s.assignedMecId q ∨
        IsOutputKey s k ∧ IsQueueOf (Run.run next (init g) inputs).transportHandlers s.mgwcpComponentId q) := by
  obtain ⟨pre, input, s, hpre, hinstalls⟩ := route_approved g inputs h
  exact ⟨s, hinstalls.granted hpre⟩

theorem route_paired_sampleRun :
    ∃ s, Granted sampleConfig sampleRun s ∧
      (IsInputKey s (routingKeyOf (60, 5) 201) ∧
          IsQueueOf (Run.run next (init sampleConfig) sampleRun).transportHandlers s.assignedMecId 1 ∨
        IsOutputKey s (routingKeyOf (60, 5) 201) ∧
          IsQueueOf (Run.run next (init sampleConfig) sampleRun).transportHandlers s.mgwcpComponentId 1) :=
  route_paired sampleConfig sampleRun (by decide +kernel)

end EdgeOffloading.Bridge
