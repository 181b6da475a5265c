import EdgeOffloading.Bridge.Invariants

/-!
# Routes and the sessions they belong to

A session that has `routing_rules_created` stands for the routes `routesOf`: its input types from the VHC to the queue
of its MEC, its output types from the MEC to the queue of its VHC.

* `backed_of_along`: the routing table is exactly the routes of the flagged sessions as long as no flagged session is
  denied, cleaned up on a disconnect, or approved again for another MEC;
* `approval_forwarded_iff`: when a forwarded approval has its routes in place;
* `noDuplicates_iff_along`: when no queue is listed twice under a key.
-/

namespace EdgeOffloading.Bridge

variable {b : Bridge}

/-! ## The routes of a session -/

/-- `k` is the key of one of the types the VHC sends. -/
def IsInputKey (s : ActiveSession) (k : RoutingKey) : Prop :=
  ∃ source msgType, componentIdParts s.mgwcpComponentId = some source ∧ msgType ∈ s.inputMessageTypes ∧
    k = routingKeyOf source msgType

/-- `k` is the key of one of the types the MEC sends. -/
def IsOutputKey (s : ActiveSession) (k : RoutingKey) : Prop :=
  ∃ mec msgType, componentIdParts s.assignedMecId = some mec ∧ msgType ∈ s.outputMessageTypes ∧
    k = routingKeyOf mec msgType

/-- `q` is the input queue of the gateway's handler. -/
def IsQueueOf (handlers : String → Option TransportHandler) (c : String) (q : QueueId) : Prop :=
  ∃ handler, handlers c = some handler ∧ q = handler.inputQueue

theorem mem_routesOf {handlers : String → Option TransportHandler} {s : ActiveSession} {vhc mec : TransportHandler}
    (hvalid : ∀ c h, handlers c = some h → isValidComponentId c = true) (hvhc : handlers s.mgwcpComponentId = some vhc)
    (hmec : handlers s.assignedMecId = some mec) (k : RoutingKey) (q : QueueId) :
    (k, q) ∈ routesOf handlers s ↔ IsInputKey s k ∧ IsQueueOf handlers s.assignedMecId q ∨
      IsOutputKey s k ∧ IsQueueOf handlers s.mgwcpComponentId q := by
  obtain ⟨g, i, hp⟩ := isValidComponentId.parts (hvalid _ _ hvhc)
  obtain ⟨g', i', hp'⟩ := isValidComponentId.parts (hvalid _ _ hmec)
  simp only [routesOf, hp, hp', hvhc, hmec, List.mem_append, List.mem_map, Prod.mk.injEq, IsInputKey, IsOutputKey,
    IsQueueOf, Option.some.injEq]
  constructor
  · rintro (⟨ty, hty, rfl, rfl⟩ | ⟨ty, hty, rfl, rfl⟩)
    · exact Or.inl ⟨⟨(g, i), ty, rfl, hty, rfl⟩, mec, rfl, rfl⟩
    · exact Or.inr ⟨⟨(g', i'), ty, rfl, hty, rfl⟩, vhc, rfl, rfl⟩
  · rintro (⟨⟨src, ty, hsrc, hty, rfl⟩, h, rfl, rfl⟩ | ⟨⟨src, ty, hsrc, hty, rfl⟩, h, rfl, rfl⟩)
    · exact Or.inl ⟨ty, hty, by rw [hsrc], rfl⟩
    · exact Or.inr ⟨ty, hty, by rw [hsrc], rfl⟩

/-- Handlers are only added, and keep their queues. -/
def HandlersGrow (handlers handlers' : String → Option TransportHandler) : Prop :=
  ∀ c h, handlers c = some h → ∃ h', handlers' c = some h' ∧ h'.inputQueue = h.inputQueue

theorem routesOf_grow {handlers handlers' : String → Option TransportHandler} (hgrow : HandlersGrow handlers handlers')
    {s : ActiveSession} {vhc mec : TransportHandler} (hvhc : handlers s.mgwcpComponentId = some vhc)
    (hmec : handlers s.assignedMecId = some mec) : routesOf handlers' s = routesOf handlers s := by
  obtain ⟨vhc', hvhc', hq⟩ := hgrow _ _ hvhc
  obtain ⟨mec', hmec', hq'⟩ := hgrow _ _ hmec
  unfold routesOf
  rw [hvhc, hmec, hvhc', hmec']
  cases componentIdParts s.mgwcpComponentId with
  | none => rfl
  | some source =>
      cases componentIdParts s.assignedMecId with
      | none => rfl
      | some mecParts => simp only [hq, hq']

/-- Sessions that agree in what routes are made of. -/
structure SameRoutes (s s' : ActiveSession) : Prop where
  vhc : s'.mgwcpComponentId = s.mgwcpComponentId
  mec : s'.assignedMecId = s.assignedMecId
  inputs : s'.inputMessageTypes = s.inputMessageTypes
  outputs : s'.outputMessageTypes = s.outputMessageTypes

theorem routesOf_same {handlers : String → Option TransportHandler} {s s' : ActiveSession} (h : SameRoutes s s') :
    routesOf handlers s' = routesOf handlers s := by
  simp only [routesOf, h.vhc, h.mec, h.inputs, h.outputs]

/-- A session as the answer assigns it. -/
def assigned (payload : Json) (s : ActiveSession) : ActiveSession :=
  { s with assignedMecId := (assignedMecIn payload).getD s.assignedMecId }

theorem getSession_assignMec (m : SessionManager) (r r' : String) (payload : Json) :
    (assignMec m r payload).getSession r' =
      if r' = r then (m.getSession r).map (assigned payload) else m.getSession r' := by
  unfold assignMec assigned
  cases assignedMecIn payload with
  | none =>
      dsimp only [Option.getD_none]
      split_ifs with hr
      · rw [hr]; cases m.getSession r <;> rfl
      · rfl
  | some mecId => exact m.getSession_modify r r' _

/-- In a well-formed state an approval finds the MEC's handler and installs all routes of the session, or installs
nothing. -/
theorem WellFormed.approveSession_cases (h : WellFormed b) (r : String) (payload : Json) :
    (b.approveSession r payload = (assignMec b.sessionManager r payload, b.routingTable) ∧
        ∀ s, (assignMec b.sessionManager r payload).getSession r = some s →
          b.transportHandlers s.assignedMecId = none) ∨
      ∃ s vhc mec, (assignMec b.sessionManager r payload).getSession r = some s ∧
        b.transportHandlers s.mgwcpComponentId = some vhc ∧ b.transportHandlers s.assignedMecId = some mec ∧
        b.approveSession r payload = ((assignMec b.sessionManager r payload).setRoutingRulesCreated r true,
          b.routingTable.addRoutes (routesOf b.transportHandlers s)) := by
  rw [approveSession_eq]
  rcases createRoutingRulesForSession_cases (assignMec b.sessionManager r payload) b.routingTable
    h.handlerValid r with ⟨heq, hnone⟩ | hinst
  · refine Or.inl ⟨heq, fun s hs => ?_⟩
    obtain ⟨s₀, hs₀, -, hc, -⟩ := descends_assignMec b.sessionManager r payload r s hs
    obtain ⟨vhc, hvhc⟩ := h.sessionHandler r s₀ hs₀
    rcases hnone s hs with h0 | h0
    · rw [hc, hvhc] at h0; cases h0
    · exact h0
  · exact Or.inr hinst

/-! ## The table is backed by the flagged sessions -/

/-- A queue is listed under a key iff a session with `routing_rules_created` needs it there. -/
def BackedBySessions (b : Bridge) : Prop :=
  ∀ k q, q ∈ b.routingTable.getDestinations k ↔
    ∃ r s, b.sessionManager.getSession r = some s ∧ s.routingRulesCreated = true ∧
      (IsInputKey s k ∧ IsQueueOf b.transportHandlers s.assignedMecId q ∨
        IsOutputKey s k ∧ IsQueueOf b.transportHandlers s.mgwcpComponentId q)

/-- The routes of all flagged sessions. -/
def FlaggedRoute (m : SessionManager) (handlers : String → Option TransportHandler) (k : RoutingKey) (q : QueueId) :
    Prop :=
  ∃ r s, m.getSession r = some s ∧ s.routingRulesCreated = true ∧ (k, q) ∈ routesOf handlers s

/-- The invariant behind `BackedBySessions`. -/
structure Backing (b : Bridge) : Prop where
  routes : ∀ k q, q ∈ b.routingTable.getDestinations k ↔ FlaggedRoute b.sessionManager b.transportHandlers k q
  mecHandler : ∀ r s, b.sessionManager.getSession r = some s → s.routingRulesCreated = true →
    ∃ handler, b.transportHandlers s.assignedMecId = some handler

theorem Backing.backedBySessions (h : Backing b) (hwf : WellFormed b) : BackedBySessions b := by
  intro k q
  rw [h.routes]
  constructor
  · rintro ⟨r, s, hs, hflag, hmem⟩
    obtain ⟨vhc, hvhc⟩ := hwf.sessionHandler r s hs
    obtain ⟨mec, hmec⟩ := h.mecHandler r s hs hflag
    exact ⟨r, s, hs, hflag, (mem_routesOf hwf.handlerValid hvhc hmec k q).mp hmem⟩
  · rintro ⟨r, s, hs, hflag, hmem⟩
    obtain ⟨vhc, hvhc⟩ := hwf.sessionHandler r s hs
    obtain ⟨mec, hmec⟩ := h.mecHandler r s hs hflag
    exact ⟨r, s, hs, hflag, (mem_routesOf hwf.handlerValid hvhc hmec k q).mpr hmem⟩

theorem Backing.sessions (h : Backing b) {b' : Bridge} (htable : b'.routingTable = b.routingTable)
    (hhandlers : b'.transportHandlers = b.transportHandlers)
    (hto : ∀ r s, b.sessionManager.getSession r = some s → s.routingRulesCreated = true →
      ∃ s', b'.sessionManager.getSession r = some s' ∧ s'.routingRulesCreated = true ∧ SameRoutes s s')
    (hfrom : ∀ r s', b'.sessionManager.getSession r = some s' → s'.routingRulesCreated = true →
      ∃ s, b.sessionManager.getSession r = some s ∧ s.routingRulesCreated = true ∧ SameRoutes s s') : Backing b' where
  routes k q := by
    rw [htable, hhandlers, h.routes]
    constructor
    · rintro ⟨r, s, hs, hflag, hmem⟩
      obtain ⟨s', hs', hflag', hsame⟩ := hto r s hs hflag
      exact ⟨r, s', hs', hflag', by rwa [routesOf_same hsame]⟩
    · rintro ⟨r, s', hs', hflag', hmem⟩
      obtain ⟨s, hs, hflag, hsame⟩ := hfrom r s' hs' hflag'
      exact ⟨r, s, hs, hflag, by rwa [routesOf_same hsame] at hmem⟩
  mecHandler r s' hs' hflag' := by
    obtain ⟨s, hs, hflag, hsame⟩ := hfrom r s' hs' hflag'
    rw [hhandlers, hsame.mec]
    exact h.mecHandler r s hs hflag

theorem Backing.grow (h : Backing b) (hwf : WellFormed b) {b' : Bridge} (htable : b'.routingTable = b.routingTable)
    (hsessions : b'.sessionManager = b.sessionManager)
    (hgrow : HandlersGrow b.transportHandlers b'.transportHandlers) : Backing b' where
  routes k q := by
    rw [htable, h.routes, hsessions]
    have hroutes : ∀ r s, b.sessionManager.getSession r = some s → s.routingRulesCreated = true →
        routesOf b'.transportHandlers s = routesOf b.transportHandlers s := by
      intro r s hs hflag
      obtain ⟨vhc, hvhc⟩ := hwf.sessionHandler r s hs
      obtain ⟨mec, hmec⟩ := h.mecHandler r s hs hflag
      exact routesOf_grow hgrow hvhc hmec
    constructor
    · rintro ⟨r, s, hs, hflag, hmem⟩
      exact ⟨r, s, hs, hflag, by rwa [hroutes r s hs hflag]⟩
    · rintro ⟨r, s, hs, hflag, hmem⟩
      exact ⟨r, s, hs, hflag, by rwa [hroutes r s hs hflag] at hmem⟩
  mecHandler r s hs hflag := by
    rw [hsessions] at hs
    obtain ⟨mec, hmec⟩ := h.mecHandler r s hs hflag
    obtain ⟨mec', hmec', -⟩ := hgrow _ _ hmec
    exact ⟨mec', hmec'⟩

theorem Backing.same (h : Backing b) {b' : Bridge} (htable : b'.routingTable = b.routingTable)
    (hhandlers : b'.transportHandlers = b.transportHandlers) (hsessions : b'.sessionManager = b.sessionManager) :
    Backing b' := by
  refine h.sessions htable hhandlers ?_ ?_
  · intro r s hs hflag
    exact ⟨s, by rwa [hsessions], hflag, rfl, rfl, rfl, rfl⟩
  · intro r s hs hflag
    exact ⟨s, by rwa [hsessions] at hs, hflag, rfl, rfl, rfl, rfl⟩

/-- The steps that leave the routes of flagged sessions alone: no flagged session is denied, assigned to another MEC,
or dropped with the connection of its gateway. -/
def KeepsRoutes (b : Bridge) (input : Env × Event) : Prop :=
  match input.2 with
  | .omMessage message =>
    ∀ r s, requestIdOf (message.get "payload") = some r → b.sessionManager.getSession r = some s →
      s.routingRulesCreated = true →
      (message.get "message_code").asInt ≠ some 201 ∧
        ((message.get "message_code").asInt = some 200 →
          ∀ mecId, assignedMecIn (message.get "payload") = some mecId → mecId = s.assignedMecId)
  | .disconnect t =>
    ∀ conn r s, b.mgwcpConnections t = some conn → b.sessionManager.getSession r = some s →
      s.mgwcpComponentId = conn.componentId → s.routingRulesCreated = false
  | _ => True

theorem createHandler_grow {c host : String} {port : Int} {b' : Bridge}
    (h : b.createTransportHandlerForMgwdp c host port = some (b', true)) :
    b'.routingTable = b.routingTable ∧ b'.sessionManager = b.sessionManager ∧
      HandlersGrow b.transportHandlers b'.transportHandlers := by
  rcases createTransportHandlerForMgwdp_cases h with ⟨heq, -⟩ | ⟨handler, hnone, -, heq⟩
  · cases heq
    exact ⟨rfl, rfl, fun c h hc => ⟨h, hc, rfl⟩⟩
  · cases heq
    refine ⟨rfl, rfl, fun c' h' hc' => ⟨h', ?_, rfl⟩⟩
    dsimp only
    rw [Function.update_apply, if_neg]
    · exact hc'
    · rintro rfl; rw [hnone] at hc'; cases hc'

theorem Backing.dispatch (h : Backing b) (hwf : WellFormed b) {t : ClientId} {conn : MGWCPConnection} {env : Env}
    {code : Int} {payload : Json} {b' : Bridge} (hb' : b.DispatchEffect t conn env code payload b') : Backing b' := by
  cases hb' with
  | none => exact h
  | ended dpHost dpPort => exact h.same rfl rfl rfl
  | confirmed dpHost dpPort b₁ senders hcode hstate hb₁ =>
      obtain ⟨htable, hsessions, hgrow⟩ := createHandler_grow hb₁
      exact h.grow hwf htable hsessions hgrow
  | requested r taskId taskName omConnected hcode hstate hreq htask =>
      rcases b.sessionManager.createSession_cases r conn.componentId taskId taskName b.globalConfig env.now with
        ⟨heq, -⟩ | ⟨task, hnone, -, heq⟩
      · exact h.same rfl rfl heq
      · refine h.sessions rfl rfl ?_ ?_
        · intro r' s hs hflag
          refine ⟨s, ?_, hflag, rfl, rfl, rfl, rfl⟩
          rw [heq, if_neg]
          · exact hs
          · rintro rfl; rw [hnone] at hs; cases hs
        · intro r' s hs hflag
          rw [heq] at hs
          split_ifs at hs
          · cases hs; cases hflag
          · exact ⟨s, hs, hflag, rfl, rfl, rfl, rfl⟩
  | keptAlive r omConnected hcode hreq =>
      refine h.sessions rfl rfl ?_ ?_
      · intro r' s hs hflag
        dsimp only [SessionManager.updateKeepalive]
        rw [SessionManager.getSession_modify]
        split_ifs with hr
        · subst hr
          exact ⟨{ s with lastKeepalive := env.now }, by rw [hs]; rfl, hflag, rfl, rfl, rfl, rfl⟩
        · exact ⟨s, hs, hflag, rfl, rfl, rfl, rfl⟩
      · intro r' s hs hflag
        dsimp only [SessionManager.updateKeepalive] at hs
        rw [SessionManager.getSession_modify] at hs
        split_ifs at hs with hr
        · subst hr
          obtain ⟨s₀, hs₀, rfl⟩ := Option.map_eq_some_iff.mp hs
          exact ⟨s₀, hs₀, hflag, rfl, rfl, rfl, rfl⟩
        · exact ⟨s, hs, hflag, rfl, rfl, rfl, rfl⟩
  | forwarded omConnected hcode => exact h.same rfl rfl rfl

theorem Backing.assign (h : Backing b) {r : String} {payload : Json} {b' : Bridge}
    (hunflagged : ∀ s, b.sessionManager.getSession r = some s → s.routingRulesCreated = false)
    (hsessions : b'.sessionManager = assignMec b.sessionManager r payload)
    (htable : b'.routingTable = b.routingTable) (hhandlers : b'.transportHandlers = b.transportHandlers) :
    Backing b' := by
  refine h.sessions htable hhandlers ?_ ?_
  · intro r' s' hs' hflag
    refine ⟨s', ?_, hflag, rfl, rfl, rfl, rfl⟩
    rw [hsessions, getSession_assignMec, if_neg]
    · exact hs'
    · rintro rfl
      rw [hunflagged s' hs'] at hflag
      cases hflag
  · intro r' s' hs' hflag
    rw [hsessions, getSession_assignMec] at hs'
    split_ifs at hs' with hr
    · obtain ⟨s₀, hs₀, rfl⟩ := Option.map_eq_some_iff.mp hs'
      have := hunflagged s₀ hs₀
      rw [show s₀.routingRulesCreated = true from hflag] at this
      cases this
    · exact ⟨s', hs', hflag, rfl, rfl, rfl, rfl⟩

theorem getSession_flagged {r : String} (payload : Json) {s₀ : ActiveSession}
    (hs₀ : b.sessionManager.getSession r = some s₀) (r' : String) :
    ((assignMec b.sessionManager r payload).setRoutingRulesCreated r true).getSession r' =
      if r' = r then some { assigned payload s₀ with routingRulesCreated := true }
      else b.sessionManager.getSession r' := by
  rw [SessionManager.setRoutingRulesCreated, SessionManager.getSession_modify, getSession_assignMec,
    getSession_assignMec, if_pos rfl, hs₀]
  split_ifs <;> rfl

theorem Backing.install (h : Backing b) {r : String} {payload : Json} {s₀ : ActiveSession} {mec : TransportHandler}
    {b' : Bridge} (hs₀ : b.sessionManager.getSession r = some s₀)
    (hkeep : s₀.routingRulesCreated = true → SameRoutes s₀ (assigned payload s₀))
    (hmec : b.transportHandlers (assigned payload s₀).assignedMecId = some mec)
    (hsessions : b'.sessionManager = (assignMec b.sessionManager r payload).setRoutingRulesCreated r true)
    (htable : b'.routingTable =
      b.routingTable.addRoutes (routesOf b.transportHandlers (assigned payload s₀)))
    (hhandlers : b'.transportHandlers = b.transportHandlers) : Backing b' := by
  have hlook := getSession_flagged payload hs₀
  rw [← hsessions] at hlook
  have hnew : b'.sessionManager.getSession r = some { assigned payload s₀ with routingRulesCreated := true } := by
    rw [hlook, if_pos rfl]
  refine ⟨fun k q => ?_, fun r' s' hs' hflag => ?_⟩
  · rw [htable, RoutingTable.mem_addRoutes, h.routes, hhandlers]
    constructor
    · rintro (⟨r', s', hs', hflag, hmem⟩ | hmem)
      · by_cases hr : r' = r
        · subst hr
          cases hs₀.symm.trans hs'
          rw [← routesOf_same (hkeep hflag)] at hmem
          exact ⟨r', _, hnew, rfl, hmem⟩
        · exact ⟨r', s', by rw [hlook, if_neg hr, hs'], hflag, hmem⟩
      · exact ⟨r, _, hnew, rfl, hmem⟩
    · rintro ⟨r', s', hs', hflag, hmem⟩
      rw [hlook] at hs'
      split_ifs at hs' with hr
      · cases hs'; exact Or.inr hmem
      · exact Or.inl ⟨r', s', hs', hflag, hmem⟩
  · rw [hlook] at hs'
    rw [hhandlers]
    split_ifs at hs' with hr
    · cases hs'; exact ⟨mec, hmec⟩
    · exact h.mecHandler r' s' hs' hflag

theorem Backing.approve (h : Backing b) (hwf : WellFormed b) {r : String} {payload : Json} {b' : Bridge}
    (hkeep : ∀ s, b.sessionManager.getSession r = some s → s.routingRulesCreated = true →
      (assigned payload s).assignedMecId = s.assignedMecId)
    (hsessions : b'.sessionManager = (b.approveSession r payload).1)
    (htable : b'.routingTable = (b.approveSession r payload).2)
    (hhandlers : b'.transportHandlers = b.transportHandlers) : Backing b' := by
  have hassigned : ∀ s, b.sessionManager.getSession r = some s → s.routingRulesCreated = true →
      SameRoutes s (assigned payload s) := fun s hs hflag => ⟨rfl, hkeep s hs hflag, rfl, rfl⟩
  rcases hwf.approveSession_cases r payload with ⟨heq, hnone⟩ | ⟨s, vhc, mec, hs, hvhc, hmec, heq⟩
  · rw [heq] at hsessions htable
    refine h.assign (fun s hs => ?_) hsessions htable hhandlers
    -- a flagged session would have a handler of its MEC
    by_contra hflag
    rw [Bool.not_eq_false] at hflag
    obtain ⟨mec, hmec⟩ := h.mecHandler r s hs hflag
    have := hnone (assigned payload s) (by rw [getSession_assignMec, if_pos rfl, hs]; rfl)
    rw [(hassigned s hs hflag).mec, hmec] at this
    cases this
  · rw [heq] at hsessions htable
    rw [getSession_assignMec, if_pos rfl] at hs
    obtain ⟨s₀, hs₀, rfl⟩ := Option.map_eq_some_iff.mp hs
    exact h.install hs₀ (hassigned s₀ hs₀) hmec hsessions htable hhandlers

theorem identified_same (t : ClientId) (conn : MGWCPConnection) (c : String) :
    (b.identified t conn c).routingTable = b.routingTable ∧
      (b.identified t conn c).transportHandlers = b.transportHandlers ∧
      (b.identified t conn c).sessionManager = b.sessionManager := by
  unfold identified
  split_ifs <;> exact ⟨rfl, rfl, rfl⟩

theorem Backing.drop (h : Backing b) {b' : Bridge} (htable : b'.routingTable = b.routingTable)
    (hhandlers : b'.transportHandlers = b.transportHandlers)
    (hsub : ∀ r s, b'.sessionManager.getSession r = some s → b.sessionManager.getSession r = some s)
    (hkeep : ∀ r s, b.sessionManager.getSession r = some s → s.routingRulesCreated = true →
      b'.sessionManager.getSession r = some s) : Backing b' :=
  h.sessions htable hhandlers (fun r s hs hflag => ⟨s, hkeep r s hs hflag, hflag, rfl, rfl, rfl, rfl⟩)
    fun r s hs hflag => ⟨s, hsub r s hs, hflag, rfl, rfl, rfl, rfl⟩

theorem getSession_disconnection {t : ClientId} {r : String} {s : ActiveSession} :
    (b.closeMgwcpConnection t).sessionManager.getSession r = some s ↔
      b.sessionManager.getSession r = some s ∧
        ∀ conn, b.mgwcpConnections t = some conn → conn.componentId ≠ "" → s.mgwcpComponentId ≠ conn.componentId := by
  unfold closeMgwcpConnection
  cases hc : b.mgwcpConnections t with
  | none => simp
  | some conn =>
      dsimp only
      split_ifs with h0
      · simp [h0]
      · dsimp only
        rw [SessionManager.getSession_cleanup_eq_some]
        simp [h0]

theorem Backing.effect (h : Backing b) (hwf : WellFormed b) {env : Env} {e : Event} {b' : Bridge}
    (hkeep : KeepsRoutes b (env, e)) (he : b.Effect env e b') : Backing b' := by
  cases he with
  | idle e senders omConnected terminated => exact h.same rfl rfl rfl
  | connected t clientIp ht => exact h.same rfl rfl rfl
  | threadEnded e t conn ht hconn => exact h.same rfl rfl rfl
  | accepted t message conn c seqNum code payload b' hrecv hmsg hb' =>
      obtain ⟨ht, hconn⟩ := receiving_eq_some hrecv
      obtain ⟨htable, hhandlers, hsessions⟩ := b.identified_same t conn c
      have hacc := MGWCPConnection.receive_accepted hmsg
      exact (h.same htable hhandlers hsessions).dispatch (hwf.identified hconn hacc) hb'
  | disconnected t ht =>
      obtain ⟨-, hhandlers, -, htable⟩ := b.disconnection_sessions t
      refine h.drop htable hhandlers (fun r s hs => (getSession_disconnection.mp hs).1) ?_
      intro r s hs hflag
      refine getSession_disconnection.mpr ⟨hs, fun conn hconn _ hc => ?_⟩
      rw [hkeep conn r s hconn hs hc] at hflag
      cases hflag
  | approved message r senders hlive hom hcode hid =>
      refine h.approve hwf ?_ rfl rfl rfl
      intro s hs hflag
      unfold assigned
      cases hm : assignedMecIn (message.get "payload") with
      | none => rfl
      | some mecId => exact (hkeep r s hid hs hflag).2 hcode mecId hm
  | denied message r hlive hom hcode hid =>
      refine h.drop rfl rfl ?_ ?_
      · intro r' s hs
        rw [SessionManager.getSession_removeSession] at hs
        split_ifs at hs
        exact hs
      · intro r' s hs hflag
        rw [SessionManager.getSession_removeSession, if_neg]
        · exact hs
        · rintro rfl; exact (hkeep r' s hid hs hflag).1 hcode
  | worked c event handler hh =>
      refine h.grow hwf rfl rfl ?_
      intro c' h' hc'
      dsimp only
      rw [Function.update_apply]
      split_ifs with hcc
      · rw [hcc, hh] at hc'
        cases hc'
        exact ⟨_, rfl, (handler.sameEndpoint_worker b.routingTable event).queue⟩
      · exact ⟨h', hc', rfl⟩

theorem backing_init (g : GlobalConfig) : Backing (init g) where
  routes k q := by
    constructor
    · intro h; cases h
    · rintro ⟨r, s, hs, -⟩; cases hs
  mecHandler r s hs := by cases hs

/-- **In a run that keeps routes the table is backed by the sessions in every state.** -/
theorem backed_of_along (g : GlobalConfig) (inputs : List (Env × Event))
    (h : Run.Along next KeepsRoutes (init g) inputs) (pre : List (Env × Event)) (hpre : pre <+: inputs) :
    BackedBySessions (Run.run next (init g) pre) := by
  have hinv := Run.run_invariant_on_the_way next (I := fun b => WellFormed b ∧ Backing b)
    (fun b i hb hi => ⟨hb.1.step i.1 i.2, hb.2.effect hb.1 hi (step_effect i.1 i.2)⟩)
    ⟨wellFormed_init g, backing_init g⟩ h pre hpre
  exact hinv.2.backedBySessions hinv.1

/-- The first approval of a session moves no flagged session. -/
theorem backed_sampleRun :
    Run.Along next KeepsRoutes (init sampleConfig) sampleRun ∧
      BackedBySessions (Run.run next (init sampleConfig) sampleRun) := by
  have halong : Run.Along next KeepsRoutes (init sampleConfig) sampleRun := by
    refine ⟨trivial, trivial, trivial, trivial, trivial, ?_, trivial⟩
    intro r s hr hs hflag
    cases hr
    have hfirst : ∀ s, (Run.run next (init sampleConfig) (sampleRun.take 5)).sessionManager.getSession "1" = some s →
        s.routingRulesCreated = false := by decide +kernel
    rw [hfirst s hs] at hflag
    cases hflag
  exact ⟨halong, backed_of_along sampleConfig sampleRun halong sampleRun List.prefix_rfl⟩

/-- A denial that follows the approval removes the session and leaves its routes. -/
theorem not_backed_after_denial :
    ¬ ∀ (g : GlobalConfig) (inputs : List (Env × Event)), BackedBySessions (Run.run next (init g) inputs) := by
  intro hall
  let inputs := sampleRun ++
    [atTime 3 (.omMessage (Protocol.sessionDenied 2 (.int 1) 4004 "Duplicate request_id 1"))]
  have hmem : 1 ∈ (Run.run next (init sampleConfig) inputs).routingTable.getDestinations ⟨0x3C05, 201⟩ := by
    decide +kernel
  obtain ⟨r, s, hs, -⟩ := (hall sampleConfig inputs _ _).mp hmem
  have hsessions : (Run.run next (init sampleConfig) inputs).sessionManager =
      (((SessionManager.empty.createSession "1" "60:5" 7 "string_test" sampleConfig 1).1.setAssignedMec "1"
        "70:1").setRoutingRulesCreated "1" true).removeSession "1" := rfl
  have hnone : ∀ r, r ≠ "1" →
      (SessionManager.empty.createSession "1" "60:5" 7 "string_test" sampleConfig 1).1.getSession r = none :=
    fun r hr => Function.update_of_ne hr _ _
  rw [hsessions, SessionManager.getSession_removeSession] at hs
  split_ifs at hs with hr
  rw [SessionManager.setRoutingRulesCreated, SessionManager.getSession_modify, if_neg hr,
    SessionManager.setAssignedMec, SessionManager.getSession_modify, if_neg hr, hnone r hr] at hs
  cases hs

/-! ## A forwarded approval has its routes -/

/-- The session is flagged and every one of its message types has its route in the table. -/
def HasItsRoutes (b : Bridge) (s : ActiveSession) : Prop :=
  s.routingRulesCreated = true ∧
    (∀ msgType ∈ s.inputMessageTypes, ∃ source q, componentIdParts s.mgwcpComponentId = some source ∧
      IsQueueOf b.transportHandlers s.assignedMecId q ∧
        q ∈ b.routingTable.getDestinations (routingKeyOf source msgType)) ∧
    ∀ msgType ∈ s.outputMessageTypes, ∃ mec q, componentIdParts s.assignedMecId = some mec ∧
      IsQueueOf b.transportHandlers s.mgwcpComponentId q ∧ q ∈ b.routingTable.getDestinations (routingKeyOf mec msgType)

/-- The gateway with this component id has a connection to forward to. -/
def HasConnection (b : Bridge) (c : String) : Prop :=
  ∃ t conn, b.componentIdToTransportId c = some t ∧ b.mgwcpConnections t = some conn

theorem mem_sendReliableMessage (senders : ClientId → ReliableSender) (t : ClientId) (message : Json) (env : Env) :
    Output.reliable t message ∈ (b.sendReliableMessage senders t message env).2 := by
  unfold sendReliableMessage
  split_ifs <;> simp

theorem forwardTo_eq {c : String} {t : ClientId} {conn : MGWCPConnection} (ht : b.componentIdToTransportId c = some t)
    (hc : b.mgwcpConnections t = some conn) (senders : ClientId → ReliableSender) (message : Json) (env : Env) :
    b.forwardTo senders c message env = b.sendReliableMessage senders t message env := by
  unfold forwardTo
  rw [ht]
  dsimp only
  rw [hc]

theorem forwardTo_eq_nil {c : String} (h : ¬ HasConnection b c) (senders : ClientId → ReliableSender) (message : Json)
    (env : Env) : b.forwardTo senders c message env = (senders, []) := by
  unfold forwardTo
  cases ht : b.componentIdToTransportId c with
  | none => rfl
  | some t =>
      dsimp only
      cases hc : b.mgwcpConnections t with
      | none => rfl
      | some conn => exact absurd ⟨t, conn, ht, hc⟩ h

theorem forwardTo_mem_iff (senders : ClientId → ReliableSender) (c : String) (message : Json) (env : Env) :
    (∃ t, Output.reliable t message ∈ (b.forwardTo senders c message env).2) ↔ HasConnection b c := by
  constructor
  · rintro ⟨t, ht⟩
    by_contra h
    rw [forwardTo_eq_nil h] at ht
    cases ht
  · rintro ⟨t, conn, ht, hc⟩
    rw [forwardTo_eq ht hc]
    exact ⟨t, mem_sendReliableMessage senders t message env⟩

/-- The request and the payload of a SESSION_APPROVED that the Bridge can read. -/
def approvalOf (omResponse : Json) : Option (String × Json) :=
  if !omResponse.contains "payload" || !(omResponse.get "payload").contains "request_id" then none
  else (requestIdOf (omResponse.get "payload")).map fun r => (r, omResponse.get "payload")

theorem approvalOf_eq_some {omResponse payload : Json} {r : String} :
    approvalOf omResponse = some (r, payload) ↔
      requestIdOf (omResponse.get "payload") = some r ∧ omResponse.get "payload" = payload := by
  unfold approvalOf
  constructor
  · intro h
    split_ifs at h
    obtain ⟨r', hr, heq⟩ := Option.map_eq_some_iff.mp h
    cases heq
    exact ⟨hr, rfl⟩
  · rintro ⟨hr, rfl⟩
    -- a request id that can be read is in the payload, and the payload in the answer
    have hid : (omResponse.get "payload").get "request_id" ≠ .null := by
      intro h0
      unfold requestIdOf at hr
      rw [h0] at hr
      cases hr
    have hpay : omResponse.get "payload" ≠ .null := by
      intro h0
      rw [h0] at hid
      exact hid rfl
    rw [Json.contains_of_get_ne_null hid, Json.contains_of_get_ne_null hpay, hr]
    rfl

/-- Some gateway is there to be told about the approved session. -/
def HasAddressee (b : Bridge) (s : ActiveSession) : Prop :=
  HasConnection b s.mgwcpComponentId ∨ s.assignedMecId ≠ "" ∧ HasConnection b s.assignedMecId

theorem handleSessionApproved_unknown {omResponse payload : Json} {r : String}
    (h : approvalOf omResponse = some (r, payload)) (hs : (b.approveSession r payload).1.getSession r = none)
    (env : Env) :
    b.handleSessionApproved omResponse env =
      ({ b with
          sessionManager := (b.approveSession r payload).1
          routingTable := (b.approveSession r payload).2 }, []) := by
  obtain ⟨hr, rfl⟩ := approvalOf_eq_some.mp h
  unfold approvalOf at h
  split_ifs at h with hshape
  simp only [handleSessionApproved, if_neg hshape, hr, hs]

theorem handleSessionApproved_known {omResponse payload : Json} {r : String} {s : ActiveSession}
    (h : approvalOf omResponse = some (r, payload)) (hs : (b.approveSession r payload).1.getSession r = some s)
    (env : Env) :
    b.handleSessionApproved omResponse env =
      let message := sessionApprovedMessage payload
      let vhc := b.forwardTo b.senders s.mgwcpComponentId message env
      let mec := if s.assignedMecId = "" then (vhc.1, []) else b.forwardTo vhc.1 s.assignedMecId message env
      ({ b with
          sessionManager := (b.approveSession r payload).1
          routingTable := (b.approveSession r payload).2
          senders := mec.1 }, vhc.2 ++ mec.2) := by
  obtain ⟨hr, rfl⟩ := approvalOf_eq_some.mp h
  unfold approvalOf at h
  split_ifs at h with hshape
  simp only [handleSessionApproved, if_neg hshape, hr, hs]

theorem handleSessionApproved_state {omResponse payload : Json} {r : String}
    (h : approvalOf omResponse = some (r, payload)) (env : Env) :
    (b.handleSessionApproved omResponse env).1.sessionManager = (b.approveSession r payload).1 ∧
      (b.handleSessionApproved omResponse env).1.routingTable = (b.approveSession r payload).2 ∧
      (b.handleSessionApproved omResponse env).1.transportHandlers = b.transportHandlers := by
  cases hs : (b.approveSession r payload).1.getSession r with
  | none =>
      rw [handleSessionApproved_unknown h hs]
      exact ⟨rfl, rfl, rfl⟩
  | some s =>
      rw [handleSessionApproved_known h hs]
      exact ⟨rfl, rfl, rfl⟩

theorem handleSessionApproved_forwards_iff {omResponse payload : Json} {r : String}
    (h : approvalOf omResponse = some (r, payload)) (env : Env) :
    (∃ t, Output.reliable t (sessionApprovedMessage payload) ∈ (b.handleSessionApproved omResponse env).2) ↔
      ∃ s, (b.approveSession r payload).1.getSession r = some s ∧ HasAddressee b s := by
  cases hs : (b.approveSession r payload).1.getSession r with
  | none =>
      rw [handleSessionApproved_unknown h hs]
      simp
  | some s =>
      rw [handleSessionApproved_known h hs]
      simp only [List.mem_append, exists_or, forwardTo_mem_iff, HasAddressee, Option.some.injEq, exists_eq_left']
      refine or_congr_right ?_
      split_ifs with h0
      · simp [h0]
      · simp [h0, forwardTo_mem_iff]

theorem hasItsRoutes_congr {b' : Bridge} (hhandlers : b'.transportHandlers = b.transportHandlers)
    (htable : b'.routingTable = b.routingTable) (s : ActiveSession) : HasItsRoutes b' s ↔ HasItsRoutes b s := by
  unfold HasItsRoutes
  rw [hhandlers, htable]

theorem hasItsRoutes_addRoutes {b' : Bridge} {s : ActiveSession} {vhc mec : TransportHandler}
    (hvalid : ∀ c h, b'.transportHandlers c = some h → isValidComponentId c = true)
    (hvhc : b'.transportHandlers s.mgwcpComponentId = some vhc) (hmec : b'.transportHandlers s.assignedMecId = some mec)
    (htable : b'.routingTable = b.routingTable.addRoutes (routesOf b'.transportHandlers s))
    (hflag : s.routingRulesCreated = true) : HasItsRoutes b' s := by
  obtain ⟨g, i, hp⟩ := isValidComponentId.parts (hvalid _ _ hvhc)
  obtain ⟨g', i', hp'⟩ := isValidComponentId.parts (hvalid _ _ hmec)
  refine ⟨hflag, fun msgType hty => ⟨(g, i), mec.inputQueue, hp, ⟨mec, hmec, rfl⟩, ?_⟩,
    fun msgType hty => ⟨(g', i'), vhc.inputQueue, hp', ⟨vhc, hvhc, rfl⟩, ?_⟩⟩
  · rw [htable, RoutingTable.mem_addRoutes]
    exact Or.inr ((mem_routesOf hvalid hvhc hmec _ _).mpr
      (Or.inl ⟨⟨(g, i), msgType, hp, hty, rfl⟩, mec, hmec, rfl⟩))
  · rw [htable, RoutingTable.mem_addRoutes]
    exact Or.inr ((mem_routesOf hvalid hvhc hmec _ _).mpr
      (Or.inr ⟨⟨(g', i'), msgType, hp', hty, rfl⟩, vhc, hvhc, rfl⟩))

/-- **A forwarded approval has its routes in place iff** the MEC it is for has a data-plane handler, or the session had
all its routes before, or there is nobody to forward it to. -/
theorem approval_forwarded_iff (hb : Reachable b) {omResponse payload : Json} {r : String}
    (h : approvalOf omResponse = some (r, payload)) (env : Env) :
    ((∃ t, Output.reliable t (sessionApprovedMessage payload) ∈ (b.handleSessionApproved omResponse env).2) →
        ∃ s, (b.handleSessionApproved omResponse env).1.sessionManager.getSession r = some s ∧
          HasItsRoutes (b.handleSessionApproved omResponse env).1 s) ↔
      ∀ s, b.sessionManager.getSession r = some s → HasAddressee b (assigned payload s) →
        (∃ handler, b.transportHandlers (assigned payload s).assignedMecId = some handler) ∨
          HasItsRoutes b (assigned payload s) := by
  have hwf := reachable_wellFormed hb
  obtain ⟨hsessions, htable, hhandlers⟩ := handleSessionApproved_state (b := b) h env
  rw [handleSessionApproved_forwards_iff h, hsessions]
  rcases hwf.approveSession_cases r payload with ⟨heq, hnone⟩ | ⟨s, vhc, mec, hs, hvhc, hmec, heq⟩
  · rw [heq] at htable
    rw [heq]
    dsimp only
    rw [getSession_assignMec, if_pos rfl] at hnone ⊢
    cases hs : b.sessionManager.getSession r with
    | none => simp
    | some s =>
        have hno := hnone (assigned payload s) (by rw [hs]; rfl)
        simp only [Option.map_some, Option.some.injEq, exists_eq_left', forall_eq', hno, reduceCtorEq, exists_false,
          false_or, hasItsRoutes_congr hhandlers htable]
  · have hroutes : HasItsRoutes (b.handleSessionApproved omResponse env).1 { s with routingRulesCreated := true } := by
      rw [heq] at htable
      rw [← hhandlers] at hvhc hmec
      refine hasItsRoutes_addRoutes (b := b) ?_ hvhc hmec ?_ rfl
      · rw [hhandlers]; exact hwf.handlerValid
      · rw [htable, hhandlers]; rfl
    constructor
    · intro _ s₀ hs₀ _
      rw [getSession_assignMec, if_pos rfl, hs₀] at hs
      cases hs
      exact Or.inl ⟨mec, hmec⟩
    · intro _ _
      refine ⟨_, ?_, hroutes⟩
      rw [heq]
      dsimp only [SessionManager.setRoutingRulesCreated]
      rw [SessionManager.getSession_modify, if_pos rfl, hs]
      rfl

/-- The answer to the request of `sampleRun`. -/
def sampleApproval (mecId : String) : Json := Protocol.sessionApproved 1 (.int 1) mecId (.int 7)

/-- The state in which the answer arrives. -/
def beforeApproval : Bridge := Run.run next (init sampleConfig) (sampleRun.take 5)

theorem approval_forwarded_sample :
    ∃ s, (beforeApproval.handleSessionApproved (sampleApproval "70:1") (allSent 2)).1.sessionManager.getSession "1" =
        some s ∧
      HasItsRoutes (beforeApproval.handleSessionApproved (sampleApproval "70:1") (allSent 2)).1 s := by
  refine (approval_forwarded_iff (b := beforeApproval) ⟨sampleConfig, sampleRun.take 5, rfl⟩ rfl (allSent 2)).mpr
    ?_ ⟨4, .head _⟩
  intro s _ _
  have h : (beforeApproval.transportHandlers "70:1").isSome = true := by decide +kernel
  exact Or.inl (Option.isSome_iff_exists.mp h)

/-- An approval for a MEC that never reported a data plane goes to the VHC without any route. -/
theorem not_approval_has_routes :
    ¬ ∀ (b : Bridge) (omResponse payload : Json) (r : String) (env : Env), Reachable b →
      approvalOf omResponse = some (r, payload) →
      (∃ t, Output.reliable t (sessionApprovedMessage payload) ∈ (b.handleSessionApproved omResponse env).2) →
        ∃ s, (b.handleSessionApproved omResponse env).1.sessionManager.getSession r = some s ∧
          HasItsRoutes (b.handleSessionApproved omResponse env).1 s := by
  intro hall
  obtain ⟨s, hs, hflag, -⟩ := hall beforeApproval (sampleApproval "70:9") _ "1" (allSent 2)
    ⟨sampleConfig, sampleRun.take 5, rfl⟩ rfl ⟨4, .head _⟩
  have hunflagged : ∀ s, (beforeApproval.handleSessionApproved (sampleApproval "70:9")
      (allSent 2)).1.sessionManager.getSession "1" = some s → s.routingRulesCreated = false := by decide +kernel
  rw [hunflagged s hs] at hflag
  cases hflag

/-! ## No queue twice under a key -/

/-- The approval that the Bridge acts on when this message of the OM arrives. -/
def approvalTaken (b : Bridge) (message : Json) : Option (String × Json) :=
  if b.terminated = false ∧ b.omConnected = true ∧ (message.get "message_code").asInt = some 200 then approvalOf message
  else none

theorem approvalOf_of_taken {message : Json} {p : String × Json} (h : approvalTaken b message = some p) :
    approvalOf message = some p := by
  unfold approvalTaken at h
  split_ifs at h
  exact h

theorem Effect.routingTable_eq {env : Env} {e : Event} {b' : Bridge} (he : b.Effect env e b')
    (hno : ∀ message, e = .omMessage message → approvalTaken b message = none) : b'.routingTable = b.routingTable := by
  cases he with
  | idle e senders omConnected terminated => rfl
  | connected t clientIp ht => rfl
  | threadEnded e t conn ht hconn => rfl
  | accepted t message conn c seqNum code payload b' hrecv hmsg hb' =>
      obtain ⟨ht, hconn⟩ := receiving_eq_some hrecv
      rw [← (b.identified_same t conn c).1]
      cases hb' with
      | none => rfl
      | ended dpHost dpPort => rfl
      | confirmed dpHost dpPort b₁ senders hcode hstate hb₁ => exact (createHandler_grow hb₁).1
      | requested r taskId taskName omConnected hcode hstate hreq htask => rfl
      | keptAlive r omConnected hcode hreq => rfl
      | forwarded omConnected hcode => rfl
  | disconnected t ht => exact (b.disconnection_sessions t).2.2.2
  | approved message r senders hlive hom hcode hid =>
      have := hno message rfl
      rw [approvalTaken, if_pos ⟨hlive, hom, hcode⟩, approvalOf_eq_some.mpr ⟨hid, rfl⟩] at this
      cases this
  | denied message r hlive hom hcode hid => rfl
  | worked c event handler hh => rfl

theorem step_approvalTaken {message payload : Json} {r : String} (h : approvalTaken b message = some (r, payload))
    (env : Env) : b.step env (.omMessage message) = b.handleSessionApproved message env := by
  unfold approvalTaken at h
  split_ifs at h with hguard
  obtain ⟨hlive, hom, hcode⟩ := hguard
  have hcont := Json.contains_of_asInt hcode
  have hpay : message.contains "payload" = true := by
    unfold approvalOf at h
    by_contra hp
    rw [Bool.not_eq_true] at hp
    rw [hp] at h
    cases h
  rw [step_omMessage, if_pos ⟨hlive, hom⟩]
  unfold handleOmMessage
  rw [if_neg (by rw [hcont, hpay]; simp), hcode]
  rfl

/-- An approval that installs routes finds no type listed twice, no type that a gateway would send to itself and get
back, and none of the two queues under a key of the session yet. -/
def FreshRoutes (b : Bridge) (input : Env × Event) : Prop :=
  match input.2 with
  | .omMessage message =>
    ∀ r payload s vhc mec, approvalTaken b message = some (r, payload) → b.sessionManager.getSession r = some s →
      b.transportHandlers s.mgwcpComponentId = some vhc →
      b.transportHandlers (assigned payload s).assignedMecId = some mec →
      s.inputMessageTypes.Nodup ∧ s.outputMessageTypes.Nodup ∧
        ((assigned payload s).assignedMecId = s.mgwcpComponentId →
          s.inputMessageTypes.Disjoint s.outputMessageTypes) ∧
        (∀ k, IsInputKey s k → mec.inputQueue ∉ b.routingTable.getDestinations k) ∧
        ∀ k, IsOutputKey (assigned payload s) k → vhc.inputQueue ∉ b.routingTable.getDestinations k
  | _ => True

theorem routingKeyOf_injective (parts : Int × Int) : Function.Injective (routingKeyOf parts) := by
  intro ty ty' h
  exact congrArg RoutingKey.messageType h

theorem WellFormed.nodup_routesOf (h : WellFormed b) {s : ActiveSession} {vhc mec : TransportHandler}
    (hvhc : b.transportHandlers s.mgwcpComponentId = some vhc)
    (hmec : b.transportHandlers s.assignedMecId = some mec) :
    (routesOf b.transportHandlers s).Nodup ↔ s.inputMessageTypes.Nodup ∧ s.outputMessageTypes.Nodup ∧
      (s.assignedMecId = s.mgwcpComponentId → s.inputMessageTypes.Disjoint s.outputMessageTypes) := by
  obtain ⟨g, i, hp⟩ := isValidComponentId.parts (h.handlerValid _ _ hvhc)
  obtain ⟨g', i', hp'⟩ := isValidComponentId.parts (h.handlerValid _ _ hmec)
  have hinj : ∀ (parts : Int × Int) (q : QueueId), Function.Injective fun ty => (routingKeyOf parts ty, q) :=
    fun parts q ty ty' heq => routingKeyOf_injective parts (congrArg Prod.fst heq)
  simp only [routesOf, hp, hp', hvhc, hmec]
  rw [List.nodup_append, List.nodup_map_iff (hinj _ _), List.nodup_map_iff (hinj _ _)]
  refine and_congr_right fun _ => and_congr_right fun _ => ?_
  constructor
  · intro hne heq ty hin hout
    rw [heq, hvhc] at hmec
    rw [heq, hp] at hp'
    cases hmec
    cases hp'
    exact hne _ (List.mem_map_of_mem hin) _ (List.mem_map_of_mem hout) rfl
  · intro hdis p hpin q hqout heq
    obtain ⟨ty, hin, rfl⟩ := List.mem_map.mp hpin
    obtain ⟨ty', hout, rfl⟩ := List.mem_map.mp hqout
    -- equal queues make the MEC and the VHC the same gateway, equal keys then the same type
    have hself := h.queueInj _ _ _ _ hmec hvhc (congrArg Prod.snd heq)
    rw [hself, hp] at hp'
    cases hp'
    have hty := routingKeyOf_injective _ (congrArg Prod.fst heq)
    exact hdis hself hin (hty ▸ hout)

theorem WellFormed.routesOf_new_iff (h : WellFormed b) {s : ActiveSession} {vhc mec : TransportHandler}
    (hvhc : b.transportHandlers s.mgwcpComponentId = some vhc)
    (hmec : b.transportHandlers s.assignedMecId = some mec) (table : RoutingTable) :
    (∀ route ∈ routesOf b.transportHandlers s, route.2 ∉ table.getDestinations route.1) ↔
      (∀ k, IsInputKey s k → mec.inputQueue ∉ table.getDestinations k) ∧
        ∀ k, IsOutputKey s k → vhc.inputQueue ∉ table.getDestinations k := by
  have hmem := mem_routesOf h.handlerValid hvhc hmec
  constructor
  · intro hnew
    refine ⟨fun k hk => ?_, fun k hk => ?_⟩
    · exact hnew (k, mec.inputQueue) ((hmem k _).mpr (Or.inl ⟨hk, mec, hmec, rfl⟩))
    · exact hnew (k, vhc.inputQueue) ((hmem k _).mpr (Or.inr ⟨hk, vhc, hvhc, rfl⟩))
  · rintro ⟨hin, hout⟩ ⟨k, q⟩ hroute
    rcases (hmem k q).mp hroute with ⟨hk, handler, hh, rfl⟩ | ⟨hk, handler, hh, rfl⟩
    · cases hmec.symm.trans hh
      exact hin k hk
    · cases hvhc.symm.trans hh
      exact hout k hk

theorem WellFormed.noDuplicates_approve_iff (hwf : WellFormed b) (hnd : b.routingTable.NoDuplicates) {env : Env}
    {message payload : Json} {r : String} (ht : approvalTaken b message = some (r, payload)) :
    (b.approveSession r payload).2.NoDuplicates ↔ FreshRoutes b (env, .omMessage message) := by
  rcases hwf.approveSession_cases r payload with ⟨heq, hnone⟩ | ⟨s, vhc, mec, hs, hvhc, hmec, heq⟩
  · -- nothing is installed: no handler of the MEC
    rw [heq]
    refine ⟨fun _ r' payload' s vhc mec hr hs _ hmec => ?_, fun _ => hnd⟩
    rw [ht] at hr
    cases hr
    rw [hnone (assigned payload s) (by rw [getSession_assignMec, if_pos rfl, hs]; rfl)] at hmec
    cases hmec
  · rw [getSession_assignMec, if_pos rfl] at hs
    obtain ⟨s₀, hs₀, rfl⟩ := Option.map_eq_some_iff.mp hs
    rw [heq]
    dsimp only
    rw [RoutingTable.noDuplicates_addRoutes hnd, hwf.nodup_routesOf hvhc hmec,
      hwf.routesOf_new_iff hvhc hmec, and_assoc, and_assoc]
    constructor
    · intro hfresh r' payload' s' vhc' mec' hr hs' hvhc' hmec'
      rw [ht] at hr
      cases hr
      cases hs₀.symm.trans hs'
      cases hvhc.symm.trans hvhc'
      cases hmec.symm.trans hmec'
      exact hfresh
    · intro hfresh
      exact hfresh r payload s₀ vhc mec ht hs₀ hvhc hmec

theorem noDuplicates_step_iff (hwf : WellFormed b) (hnd : b.routingTable.NoDuplicates) (input : Env × Event) :
    (next b input).routingTable.NoDuplicates ↔ FreshRoutes b input := by
  obtain ⟨env, e⟩ := input
  have hsame : (∀ message, e = .omMessage message → approvalTaken b message = none) →
      (next b (env, e)).routingTable.NoDuplicates := by
    intro hno
    rw [next, (step_effect env e).routingTable_eq hno]
    exact hnd
  cases e with
  | omMessage message =>
      cases ht : approvalTaken b message with
      | none =>
          constructor
          · intro _ r payload s vhc mec hr
            rw [ht] at hr
            cases hr
          · refine fun _ => hsame fun m hm => ?_
            cases hm
            exact ht
      | some p =>
          obtain ⟨r, payload⟩ := p
          rw [next, step_approvalTaken ht env, (handleSessionApproved_state (approvalOf_of_taken ht) env).2.1]
          exact hwf.noDuplicates_approve_iff hnd ht
  | _ => exact ⟨fun _ => trivial, fun _ => hsame (by rintro m hm; cases hm)⟩

/-- No key lists a queue twice, so no frame is enqueued twice to the queue of a gateway. -/
def DeliversOnce (b : Bridge) : Prop :=
  b.routingTable.NoDuplicates ∧
    ∀ env c event msg c' handler, Output.routed msg ∈ (b.step env (.worker c event)).2 →
      b.transportHandlers c' = some handler → msg.destinations.count handler.inputQueue ≤ 1

theorem deliversOnce_iff : DeliversOnce b ↔ b.routingTable.NoDuplicates := by
  refine ⟨fun h => h.1, fun h => ⟨h, ?_⟩⟩
  intro env c event msg c' handler hmsg _
  have hdest : msg.destinations = b.routingTable.getDestinations msg.routingKey := by
    unfold step at hmsg
    by_cases hterm : b.terminated = true
    · rw [if_pos hterm] at hmsg
      cases hmsg
    · rw [if_neg hterm] at hmsg
      dsimp only at hmsg
      cases hc : b.transportHandlers c with
      | none => rw [hc] at hmsg; cases hmsg
      | some worker =>
          rw [hc] at hmsg
          obtain ⟨m, hm, heq⟩ := List.mem_map.mp hmsg
          cases heq
          exact worker.destinations_of_mem_worker b.routingTable event hm
  rw [hdest]
  exact List.nodup_iff_count_le_one.mp (h msg.routingKey) handler.inputQueue

/-- **No frame is delivered twice anywhere in a run iff every approval of the run installs distinct, new routes.** -/
theorem deliversOnce_iff_along (g : GlobalConfig) (inputs : List (Env × Event)) :
    (∀ pre, pre <+: inputs → DeliversOnce (Run.run next (init g) pre)) ↔
      Run.Along next FreshRoutes (init g) inputs := by
  simp only [deliversOnce_iff]
  exact Run.forall_prefix_iff_along next (I := fun b => b.routingTable.NoDuplicates) (J := WellFormed)
    (fun b i hb => hb.step i.1 i.2) (fun b i hb hnd => noDuplicates_step_iff hb hnd i) inputs (init g)
    (wellFormed_init g) fun k => List.nodup_nil

/-- Approved a second time, the session's routes are in the table twice. -/
theorem not_deliversOnce_after_second_approval :
    ¬ ∀ (g : GlobalConfig) (inputs : List (Env × Event)), DeliversOnce (Run.run next (init g) inputs) := by
  intro hall
  have h := (hall sampleConfig (sampleRun ++ [atTime 3 (.omMessage (sampleApproval "70:1"))])).1 ⟨0x3C05, 201⟩
  exact absurd h (by decide +kernel)

end EdgeOffloading.Bridge
