import EdgeOffloading.Bridge.Routes

/-!
# Removing the routes of a session

`create_routing_rules_for_session` appends a queue to the keys of a session, `remove_routing_rules_for_session` erases
these keys with everything under them. Both read the ids of the session in the same way, so the keys are the same ones
(`sessionRoutes`), whatever parses and whatever does not.

* `removal_exact_iff`: a removal takes away what its own session has brought, and nothing else, exactly if none of its
  keys was in use before or is in use by the other session.
-/

namespace EdgeOffloading

namespace RoutingTable

def removeKeys (t : RoutingTable) (keys : List RoutingKey) : RoutingTable := ⟨Multimap.clearAll t.actualMap keys⟩

theorem removeKeys_append (t : RoutingTable) (ks ls : List RoutingKey) :
    t.removeKeys (ks ++ ls) = (t.removeKeys ks).removeKeys ls := by
  unfold removeKeys
  rw [Multimap.clearAll_append]

theorem foldl_removeRoutesForKey (key : UInt8 → RoutingKey) (types : List UInt8) (t : RoutingTable) :
    types.foldl (fun t msgType => t.removeRoutesForKey (key msgType)) t = t.removeKeys (types.map key) := by
  induction types generalizing t with
  | nil => rfl
  | cons msgType types ih =>
      rw [List.foldl_cons, ih]
      rfl

end RoutingTable

namespace Bridge

/-- The parts of the MEC's id: an empty id has none. -/
def mecParts (s : ActiveSession) : Option (Int × Int) :=
  if s.assignedMecId = "" then none else componentIdParts s.assignedMecId

/-- What the session makes of the queues of its two gateways. -/
def sessionRoutes (s : ActiveSession) (vhcQueue mecQueue : QueueId) : List (RoutingKey × QueueId) :=
  match componentIdParts s.mgwcpComponentId with
  | none => []
  | some source =>
    s.inputMessageTypes.map (fun msgType => (routingKeyOf source msgType, mecQueue)) ++
      match mecParts s with
      | none => []
      | some mec => s.outputMessageTypes.map fun msgType => (routingKeyOf mec msgType, vhcQueue)

/-- The keys of the session. -/
def sessionKeys (s : ActiveSession) : List RoutingKey := (sessionRoutes s 0 0).map Prod.fst

theorem map_fst_sessionRoutes (s : ActiveSession) (vhcQueue mecQueue : QueueId) :
    (sessionRoutes s vhcQueue mecQueue).map Prod.fst = sessionKeys s := by
  unfold sessionKeys sessionRoutes
  cases componentIdParts s.mgwcpComponentId with
  | none => rfl
  | some source => cases mecParts s <;> simp [Function.comp_def]

/-! ## The two calls -/

variable {m : SessionManager} {table : RoutingTable} {handlers : String → Option TransportHandler} {r : String}
  {s : ActiveSession} {vhc mec : TransportHandler}

theorem createRoutingRules_table (hs : m.getSession r = some s) (hvhc : handlers s.mgwcpComponentId = some vhc)
    (hmec : handlers s.assignedMecId = some mec) :
    (createRoutingRulesForSession m table handlers r).2 =
      table.addRoutes (sessionRoutes s vhc.inputQueue mec.inputQueue) := by
  unfold createRoutingRulesForSession sessionRoutes mecParts
  simp only [hs, hvhc, hmec, RoutingTable.foldl_addRoute]
  cases componentIdParts s.mgwcpComponentId with
  | none => rfl
  | some source =>
      dsimp only
      by_cases hempty : s.assignedMecId = ""
      · rw [if_pos hempty, if_pos hempty, List.append_nil]
      · rw [if_neg hempty, if_neg hempty]
        cases componentIdParts s.assignedMecId with
        | none => rw [List.append_nil]
        | some mecParts => rw [RoutingTable.addRoutes_append]

theorem removeRoutingRules_table (hs : m.getSession r = some s) :
    (removeRoutingRulesForSession m table r).2 = table.removeKeys (sessionKeys s) := by
  unfold removeRoutingRulesForSession sessionKeys sessionRoutes mecParts
  simp only [hs, RoutingTable.foldl_removeRoutesForKey]
  cases componentIdParts s.mgwcpComponentId with
  | none => rfl
  | some source =>
      dsimp only
      by_cases hempty : s.assignedMecId = ""
      · rw [if_pos hempty, if_pos hempty, List.append_nil, List.map_map]
        rfl
      · rw [if_neg hempty, if_neg hempty]
        cases hsplit : splitAtColon s.assignedMecId.toList with
        | none =>
            have hparts : componentIdParts s.assignedMecId = none := by
              unfold componentIdParts
              rw [hsplit]
            rw [hparts, List.append_nil, List.map_map]
            rfl
        | some parts =>
            cases componentIdParts s.assignedMecId with
            | none =>
                rw [List.append_nil, List.map_map]
                rfl
            | some mecParts =>
                rw [List.map_append, List.map_map, List.map_map, RoutingTable.removeKeys_append]
                rfl

theorem getSession_createRoutingRules (m : SessionManager) (table : RoutingTable)
    (handlers : String → Option TransportHandler) (r : String) {r' : String} (hs : m.getSession r' = some s) :
    ∃ flag, (createRoutingRulesForSession m table handlers r).1.getSession r' =
      some { s with routingRulesCreated := flag } := by
  have hkept : (createRoutingRulesForSession m table handlers r).1 = m ∨
      (createRoutingRulesForSession m table handlers r).1 = m.setRoutingRulesCreated r true := by
    unfold createRoutingRulesForSession
    repeat' first | exact .inl rfl | exact .inr rfl | split
  rcases hkept with heq | heq <;> rw [heq]
  · exact ⟨s.routingRulesCreated, hs⟩
  · rw [SessionManager.setRoutingRulesCreated, SessionManager.getSession_modify]
    split_ifs with hr
    · rw [← hr, hs]
      exact ⟨true, rfl⟩
    · exact ⟨s.routingRulesCreated, hs⟩

/-! ## Exact removals -/

/-- The routes of `a` are created, then those of `b`, then those of `a` are removed. -/
def createBothRemoveFirst (m : SessionManager) (table : RoutingTable) (handlers : String → Option TransportHandler)
    (a b : String) : SessionManager × RoutingTable :=
  let first := createRoutingRulesForSession m table handlers a
  let second := createRoutingRulesForSession first.1 first.2 handlers b
  removeRoutingRulesForSession second.1 second.2 a

/-- The routes of `a` are created and removed. -/
def createRemove (m : SessionManager) (table : RoutingTable) (handlers : String → Option TransportHandler)
    (a : String) : SessionManager × RoutingTable :=
  let first := createRoutingRulesForSession m table handlers a
  removeRoutingRulesForSession first.1 first.2 a

/-- What is left is what `b` alone makes, and `a` alone leaves nothing. -/
structure RemovesExactly (m : SessionManager) (table : RoutingTable) (handlers : String → Option TransportHandler)
    (a b : String) : Prop where
  other : ∀ k, (createBothRemoveFirst m table handlers a b).2.getDestinations k =
    (createRoutingRulesForSession m table handlers b).2.getDestinations k
  single : ∀ k, (createRemove m table handlers a).2.getDestinations k = table.getDestinations k

theorem createRemove_table (hs : m.getSession r = some s) (hvhc : handlers s.mgwcpComponentId = some vhc)
    (hmec : handlers s.assignedMecId = some mec) :
    (createRemove m table handlers r).2 =
      (table.addRoutes (sessionRoutes s vhc.inputQueue mec.inputQueue)).removeKeys (sessionKeys s) := by
  obtain ⟨flag, hflag⟩ := getSession_createRoutingRules m table handlers r hs
  unfold createRemove
  dsimp only
  rw [removeRoutingRules_table hflag, createRoutingRules_table hs hvhc hmec]
  rfl

theorem createBothRemoveFirst_table {r' : String} {s' : ActiveSession} {vhc' mec' : TransportHandler}
    (hs : m.getSession r = some s) (hvhc : handlers s.mgwcpComponentId = some vhc)
    (hmec : handlers s.assignedMecId = some mec) (hs' : m.getSession r' = some s')
    (hvhc' : handlers s'.mgwcpComponentId = some vhc') (hmec' : handlers s'.assignedMecId = some mec') :
    (createBothRemoveFirst m table handlers r r').2 =
      ((table.addRoutes (sessionRoutes s vhc.inputQueue mec.inputQueue)).addRoutes
        (sessionRoutes s' vhc'.inputQueue mec'.inputQueue)).removeKeys (sessionKeys s) := by
  obtain ⟨flag, hflag⟩ := getSession_createRoutingRules m table handlers r hs
  obtain ⟨flag', hflag'⟩ := getSession_createRoutingRules m table handlers r hs'
  unfold createBothRemoveFirst
  dsimp only
  obtain ⟨flag'', hflag''⟩ := getSession_createRoutingRules (createRoutingRulesForSession m table handlers r).1
    (createRoutingRulesForSession m table handlers r).2 handlers r' hflag
  rw [removeRoutingRules_table hflag'', createRoutingRules_table hflag' hvhc' hmec',
    createRoutingRules_table hs hvhc hmec]
  rfl

/-- **Removing the routes of a session.** -/
theorem removal_exact_iff {a b : String} {sa sb : ActiveSession} {vhca meca vhcb mecb : TransportHandler}
    (ha : m.getSession a = some sa) (hvhca : handlers sa.mgwcpComponentId = some vhca)
    (hmeca : handlers sa.assignedMecId = some meca) (hb : m.getSession b = some sb)
    (hvhcb : handlers sb.mgwcpComponentId = some vhcb) (hmecb : handlers sb.assignedMecId = some mecb) :
    RemovesExactly m table handlers a b ↔
      ∀ k ∈ sessionKeys sa, table.getDestinations k = [] ∧ k ∉ sessionKeys sb := by
  have hboth := Multimap.clearAll_pushAll_iff table.actualMap (sessionRoutes sa vhca.inputQueue meca.inputQueue)
    (sessionRoutes sb vhcb.inputQueue mecb.inputQueue)
  have hsingle := Multimap.clearAll_pushAll_iff table.actualMap (sessionRoutes sa vhca.inputQueue meca.inputQueue) []
  rw [map_fst_sessionRoutes, map_fst_sessionRoutes] at hboth
  simp only [map_fst_sessionRoutes, List.map_nil, Multimap.pushAll_nil] at hsingle
  constructor
  · intro h
    apply hboth.mp
    intro k
    have hk := h.other k
    rw [createBothRemoveFirst_table ha hvhca hmeca hb hvhcb hmecb, createRoutingRules_table hb hvhcb hmecb] at hk
    exact hk
  · intro h
    constructor
    · intro k
      rw [createBothRemoveFirst_table ha hvhca hmeca hb hvhcb hmecb, createRoutingRules_table hb hvhcb hmecb]
      exact hboth.mpr h k
    · intro k
      rw [createRemove_table ha hvhca hmeca]
      apply hsingle.mpr
      intro k hk
      exact ⟨(h k hk).1, List.not_mem_nil⟩

/-- A session of a VHC with a MEC: type 201 there, type 202 back. -/
def sessionWith (requestId vhcId mecId : String) : ActiveSession where
  requestId := requestId
  mgwcpComponentId := vhcId
  taskId := 7
  taskName := "string_test"
  inputMessageTypes := [201]
  outputMessageTypes := [202]
  assignedMecId := mecId
  lastKeepalive := 0
  createdAt := 0

/-- Session `1` of `60:5` with `70:1`, session `2` of `61:5` with `71:1`, and session `3` of `60:5` with `71:1`. -/
def threeSessions : SessionManager :=
  ⟨fun r =>
    if r = "1" then some (sessionWith "1" "60:5" "70:1")
    else if r = "2" then some (sessionWith "2" "61:5" "71:1")
    else if r = "3" then some (sessionWith "3" "60:5" "71:1")
    else none⟩

/-- Four gateways with a handler, each with a queue of its own. -/
def fourHandlers (c : String) : Option TransportHandler :=
  if c = "60:5" then TransportHandler.create c "10.0.0.5" 6000 0 default
  else if c = "70:1" then TransportHandler.create c "10.0.0.7" 6000 1 default
  else if c = "61:5" then TransportHandler.create c "10.0.0.6" 6000 2 default
  else if c = "71:1" then TransportHandler.create c "10.0.0.8" 6000 3 default
  else none

/-- Sessions of different gateways. -/
theorem removal_exact_of_different : RemovesExactly threeSessions .empty fourHandlers "1" "2" := by
  have hkeys : ∀ k ∈ sessionKeys (sessionWith "1" "60:5" "70:1"), k ∉ sessionKeys (sessionWith "2" "61:5" "71:1") := by
    decide +kernel
  apply (removal_exact_iff (show threeSessions.getSession "1" = some (sessionWith "1" "60:5" "70:1") from rfl) rfl rfl
    (show threeSessions.getSession "2" = some (sessionWith "2" "61:5" "71:1") from rfl) rfl rfl).mpr
  exact fun k hk => ⟨rfl, hkeys k hk⟩

/-- Two sessions of the same VHC: the removal of the first leaves nothing of the route of the second. -/
theorem not_removal_exact_of_shared :
    (createBothRemoveFirst threeSessions .empty fourHandlers "1" "3").2.getDestinations
        (routingKeyOf (60, 5) 201) = [] ∧
      (createRoutingRulesForSession threeSessions .empty fourHandlers "3").2.getDestinations
        (routingKeyOf (60, 5) 201) = [3] ∧
      ¬RemovesExactly threeSessions .empty fourHandlers "1" "3" := by
  have hremoved : (createBothRemoveFirst threeSessions .empty fourHandlers "1" "3").2.getDestinations
      (routingKeyOf (60, 5) 201) = [] := by
    decide +kernel
  have halone : (createRoutingRulesForSession threeSessions .empty fourHandlers "3").2.getDestinations
      (routingKeyOf (60, 5) 201) = [3] := by
    decide +kernel
  refine ⟨hremoved, halone, ?_⟩
  intro h
  have hother := h.other (routingKeyOf (60, 5) 201)
  rw [hremoved, halone] at hother
  cases hother

end Bridge

end EdgeOffloading
