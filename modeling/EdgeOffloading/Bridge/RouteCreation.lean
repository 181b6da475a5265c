import EdgeOffloading.Bridge.Routes

/-!
# Route creation is all or nothing

`create_routing_rules_for_session` has two ways to stop after its first loop, where the id of the MEC does not parse.
Neither is taken in a run of the Bridge: handlers are made for connections that become operational, under ids that
passed `is_valid_component_id`, and are never removed.

* `handler_wasOperational`: every key of the handlers is the id of a connection that was operational;
* `createRoutingRules_all_or_nothing`: what a call does to the sessions and to the destinations of every key.
-/

namespace EdgeOffloading.Bridge

variable {b : Bridge}

/-! ## Where handlers come from -/

/-- A connection with this component id is operational. -/
def HasOperational (b : Bridge) (c : String) : Prop :=
  ∃ t conn, b.mgwcpConnections t = some conn ∧ conn.componentId = c ∧ conn.state = .operational

/-- A connection with this component id was operational at some point of the run. -/
def WasOperational (g : GlobalConfig) (inputs : List (Env × Event)) (c : String) : Prop :=
  ∃ pre, pre <+: inputs ∧ HasOperational (Run.run next (init g) pre) c

theorem handler_origin_of_dispatch {t : ClientId} {conn : MGWCPConnection} {env : Env} {code : Int} {payload : Json}
    {b' : Bridge} (hb' : b.DispatchEffect t conn env code payload b') {c : String} (h : b'.transportHandlers c ≠ none) :
    b.transportHandlers c ≠ none ∨ HasOperational b' c := by
  cases hb' with
  | none => exact Or.inl h
  | ended dpHost dpPort => exact Or.inl h
  | confirmed dpHost dpPort b₁ senders hcode hstate hb₁ =>
      by_cases hc : c = conn.componentId
      · refine Or.inr ⟨t, { conn with dpHost := dpHost, dpPort := dpPort, state := .operational }, ?_, hc.symm, rfl⟩
        simp [Bridge.putConnection]
      · rcases createTransportHandlerForMgwdp_cases hb₁ with ⟨heq, -⟩ | ⟨handler, -, -, heq⟩
        · cases heq; exact Or.inl h
        · cases heq
          refine Or.inl fun hnone => h ?_
          show Function.update b.transportHandlers conn.componentId (some handler.start) c = none
          rw [Function.update_of_ne hc, hnone]
  | requested requestId taskId taskName omConnected hcode hstate hreq htask => exact Or.inl h
  | keptAlive requestId omConnected hcode hreq => exact Or.inl h
  | forwarded omConnected hcode => exact Or.inl h

theorem handler_origin_of_effect {env : Env} {e : Event} {b' : Bridge} (he : b.Effect env e b') {c : String}
    (h : b'.transportHandlers c ≠ none) : b.transportHandlers c ≠ none ∨ HasOperational b' c := by
  cases he with
  | idle e senders omConnected terminated => exact Or.inl h
  | connected t clientIp ht => exact Or.inl h
  | threadEnded e t conn ht hconn => exact Or.inl h
  | accepted t message conn c' seqNum code payload b' hrecv hmsg hb' =>
      rcases handler_origin_of_dispatch hb' h with h | h
      · rw [(identified_same t conn c').2.1] at h
        exact Or.inl h
      · exact Or.inr h
  | disconnected t ht =>
      have heq := (b.disconnection_sessions t).2.1
      exact Or.inl (heq ▸ h)
  | approved message r senders hlive hom hcode hid => exact Or.inl h
  | denied message r hlive hom hcode hid => exact Or.inl h
  | worked c' event handler hh =>
      refine Or.inl fun hnone => h ?_
      show Function.update b.transportHandlers c' _ c = none
      rw [Function.update_of_ne, hnone]
      rintro rfl
      rw [hnone] at hh
      cases hh

theorem handler_wasOperational (g : GlobalConfig) (inputs : List (Env × Event)) {c : String}
    (h : (Run.run next (init g) inputs).transportHandlers c ≠ none) : WasOperational g inputs c :=
  Run.exists_prefix_of_run next (P := fun b => b.transportHandlers c ≠ none) (Q := fun b => HasOperational b c)
    (fun h0 => h0 rfl) (fun _ input h => handler_origin_of_effect (step_effect input.1 input.2) h) inputs h

/-! ## What a call does -/

theorem getDestinations_addRoutes_routesOf (table : RoutingTable) {handlers : String → Option TransportHandler}
    {s : ActiveSession} {vhc mec : TransportHandler} {source mecParts : Int × Int}
    (hsource : componentIdParts s.mgwcpComponentId = some source)
    (hmecParts : componentIdParts s.assignedMecId = some mecParts) (hvhc : handlers s.mgwcpComponentId = some vhc)
    (hmec : handlers s.assignedMecId = some mec) (k : RoutingKey) :
    (table.addRoutes (routesOf handlers s)).getDestinations k =
      table.getDestinations k ++
        List.replicate ((s.inputMessageTypes.map (routingKeyOf source)).count k) mec.inputQueue ++
        List.replicate ((s.outputMessageTypes.map (routingKeyOf mecParts)).count k) vhc.inputQueue := by
  have hone : ∀ (types : List UInt8) (key : UInt8 → RoutingKey) (q : QueueId),
      ((types.map fun msgType => (key msgType, q)).filter fun p => p.1 = k).map Prod.snd =
        List.replicate ((types.map key).count k) q := by
    intro types key q
    induction types with
    | nil => rfl
    | cons ty types ih =>
        by_cases h : key ty = k
        · simp [h, List.replicate_succ, ih]
        · simp [h, ih]
  rw [RoutingTable.getDestinations_addRoutes]
  simp only [routesOf, hsource, hmecParts, hvhc, hmec, List.filter_append, List.map_append, hone, List.append_assoc]

/-- **Route creation is all or nothing in every reachable state**, also right after an answer assigned a MEC. The ids
that the call parses are valid because they are ids of connections that were operational. -/
theorem createRoutingRules_all_or_nothing (g : GlobalConfig) (inputs : List (Env × Event)) (r : String)
    (payload : Json) :
    let b := Run.run next (init g) inputs
    let m := assignMec b.sessionManager r payload
    let created := createRoutingRulesForSession m b.routingTable b.transportHandlers r
    ((∀ c, b.transportHandlers c ≠ none → isValidComponentId c = true ∧ WasOperational g inputs c) ∧
      ∀ r' s, m.getSession r' = some s →
        isValidComponentId s.mgwcpComponentId = true ∧ WasOperational g inputs s.mgwcpComponentId) ∧
      (created = (m, b.routingTable) ∨
        ∃ s vhc mec source mecParts, m.getSession r = some s ∧
          b.transportHandlers s.mgwcpComponentId = some vhc ∧ b.transportHandlers s.assignedMecId = some mec ∧
          componentIdParts s.mgwcpComponentId = some source ∧ componentIdParts s.assignedMecId = some mecParts ∧
          (∀ r', created.1.getSession r' =
            if r' = r then some { s with routingRulesCreated := true } else m.getSession r') ∧
          ∀ k, created.2.getDestinations k =
            b.routingTable.getDestinations k ++
              List.replicate ((s.inputMessageTypes.map (routingKeyOf source)).count k) mec.inputQueue ++
              List.replicate ((s.outputMessageTypes.map (routingKeyOf mecParts)).count k) vhc.inputQueue) := by
  intro b m created
  have hwf : WellFormed b := reachable_wellFormed ⟨g, inputs, rfl⟩
  have hids : ∀ c, b.transportHandlers c ≠ none → isValidComponentId c = true ∧ WasOperational g inputs c := by
    intro c hc
    obtain ⟨handler, hh⟩ := Option.ne_none_iff_exists'.mp hc
    exact ⟨hwf.handlerValid c handler hh, handler_wasOperational g inputs hc⟩
  refine ⟨⟨hids, ?_⟩, ?_⟩
  · intro r' s hs
    obtain ⟨s₀, hs₀, -, hvhc, -⟩ := descends_assignMec b.sessionManager r payload r' s hs
    obtain ⟨handler, hh⟩ := hwf.sessionHandler r' s₀ hs₀
    rw [hvhc]
    exact hids _ (by rw [hh]; exact Option.some_ne_none handler)
  · rcases createRoutingRulesForSession_cases m b.routingTable hwf.handlerValid r with ⟨heq, -⟩ | hinst
    · exact Or.inl heq
    · obtain ⟨s, vhc, mec, hs, hvhc, hmec, heq⟩ := hinst
      obtain ⟨g₁, i₁, hsource⟩ := isValidComponentId.parts (hwf.handlerValid _ _ hvhc)
      obtain ⟨g₂, i₂, hmecParts⟩ := isValidComponentId.parts (hwf.handlerValid _ _ hmec)
      refine Or.inr ⟨s, vhc, mec, _, _, hs, hvhc, hmec, hsource, hmecParts, ?_, ?_⟩
      · intro r'
        show (createRoutingRulesForSession m b.routingTable b.transportHandlers r).1.getSession r' = _
        rw [heq]
        dsimp only
        rw [SessionManager.setRoutingRulesCreated, SessionManager.getSession_modify, hs]
        rfl
      · intro k
        show (createRoutingRulesForSession m b.routingTable b.transportHandlers r).2.getDestinations k = _
        rw [heq]
        exact getDestinations_addRoutes_routesOf b.routingTable hsource hmecParts hvhc hmec k

end EdgeOffloading.Bridge
