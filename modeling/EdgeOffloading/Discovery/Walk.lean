import EdgeOffloading.Discovery.Naming
import EdgeOffloading.Discovery.Startup

/-!
# Steps of the service in both modes

`registry_by_client_id_` is an unordered map, and the purge walks it. `step` walks it in one order; in `stepIn` the
surroundings choose the order. What is shown here holds for every order, and for the networked and the matchmaking mode
alike.

* `registering_handleRegistration`: a registration adds one record or leaves them all;
* `find_handleKeepalive`: a ping sets the time of the client it names;
* `find_of_onClientDisconnected`: a disconnect only takes records;
* `stepped_stepIn`: the ways a step goes;
* `evolves_stepIn`: whatever the service does to the registry, it does by the calls of the registry;
* `named_run_stepIn`: so no two records have one id.
-/

namespace EdgeOffloading.Discovery

open Run

/-- An event; a purge walks the clients in the order of the ids. -/
structure WalkedEvent where
  event : ServiceEvent
  order : List Nat := []
  deriving DecidableEq, Repr

namespace DiscoveryService

variable {s : DiscoveryService} {env : ServiceEnv} {c : Nat} {req : RegistrationRequest}

/-- `purgeStaleClients` with the ids that `get_all_client_ids` has returned. -/
def purgeIn (order : List Nat) (now : Nat) (s : DiscoveryService) : DiscoveryService :=
  order.foldl (purgeClient now) s

def stepIn (s : DiscoveryService) (w : WalkedEvent) : DiscoveryService :=
  match w.event with
  | .purge now => if s.shuttingDown then s else s.purgeIn w.order now
  | e => s.step e

/-- The order of `step` is one of them. -/
theorem stepIn_getAllClientIds (s : DiscoveryService) (e : ServiceEvent) :
    s.stepIn ⟨e, s.registry.getAllClientIds⟩ = s.step e := by
  cases e <;> rfl

/-! ## Registrations -/

/-- What a registration makes of the service: it sends its answer, and it adds the record of the client or leaves the
records as they are. -/
structure Registering (s : DiscoveryService) (env : ServiceEnv) (c : Nat) (req : RegistrationRequest)
    (s' : DiscoveryService) : Prop where
  state : ∃ r config, s' = { s with
    registry := s'.registry
    globalConfiguration := config
    sent := s.sent ++ [(c, .registrationResponse r)] }
  registry : s'.registry = s.registry ∨ s'.registry = (s.registry.search req.componentType).1 ∨
    ∃ searched port, (searched = s.registry ∨ searched = (s.registry.search req.componentType).1) ∧
      searched.registerComponent (s.registeredInfo env c req port) = some s'.registry

theorem registering_registerCommon (s : DiscoveryService) (env : ServiceEnv) (c : Nat) (req : RegistrationRequest)
    (resp : RegistrationResponse) : Registering s env c req (s.registerCommon env c req resp) := by
  rcases registerCommon_cases s env c req resp with ⟨r, -, heq⟩ | ⟨port, registry, -, hregister, heq⟩
  · rw [heq]
    exact ⟨⟨r, s.globalConfiguration, rfl⟩, .inl rfl⟩
  · rw [heq]
    refine ⟨⟨s.registeredResponse c resp, s.globalConfiguration, rfl⟩, .inr (.inr ?_)⟩
    exact ⟨s.registry, port, .inl rfl, hregister⟩

theorem registering_handleP2pRegistration (s : DiscoveryService) (env : ServiceEnv) (c : Nat)
    (req : RegistrationRequest) : Registering s env c req (s.handleP2pRegistration env c req) := by
  have hsent : ∀ r, Registering s env c req (s.sendRegistration c r) := fun r =>
    ⟨⟨r, s.globalConfiguration, rfl⟩, .inl rfl⟩
  unfold handleP2pRegistration
  dsimp only
  split
  · split <;> exact hsent _
  · exact registering_registerCommon s env c req _
  · exact hsent _

/-- **A registration**, in either mode. -/
theorem registering_handleRegistration (s : DiscoveryService) (env : ServiceEnv) (c : Nat)
    (req : RegistrationRequest) : Registering s env c req (s.handleRegistration env c req) := by
  cases hmode : s.p2pMode with
  | true =>
      have hp2p : s.handleRegistration env c req = s.handleP2pRegistration env c req := by
        unfold handleRegistration
        rw [if_pos hmode]
      rw [hp2p]
      exact registering_handleP2pRegistration s env c req
  | false =>
      obtain ⟨r, hstate, hregistry⟩ := outcome_handleRegistration hmode env c req
      refine ⟨⟨r, _, hstate⟩, ?_⟩
      rcases hregistry with ⟨-, hsame | hsearch⟩ | haccepts
      · exact .inl hsame
      · exact .inr (.inl hsearch)
      · obtain ⟨port, -, hregister⟩ := haccepts.info
        exact .inr (.inr ⟨_, port, .inr rfl, hregister⟩)

theorem isIdTaken_search (r : ComponentRegistry) (type : ComponentType) (groupId idInGroup : UInt8) :
    (r.search type).1.isIdTaken groupId idInGroup = r.isIdTaken groupId idInGroup := by
  unfold ComponentRegistry.search
  split <;> rfl

/-- The records after a registration: a new one has an id that was free. -/
theorem Registering.find {s' : DiscoveryService} (h : Registering s env c req s') :
    (∀ c', s'.registry.findByClientId c' = s.registry.findByClientId c') ∨
      s.registry.isIdTaken req.groupId req.idInGroup = false ∧
        ∃ port, ∀ c', s'.registry.findByClientId c' =
          if c' = c then some (s.registeredInfo env c req port) else s.registry.findByClientId c' := by
  rcases h.registry with hsame | hsearch | ⟨searched, port, hsearched, hregister⟩
  · exact .inl fun c' => by rw [hsame]
  · exact .inl fun c' => by rw [hsearch, ComponentRegistry.findByClientId_search]
  · right
    obtain ⟨hfree, hmap, -⟩ := ComponentRegistry.registerComponent_some hregister
    have hfind := ComponentRegistry.findByClientId_insert hmap
    rcases hsearched with rfl | rfl
    · exact ⟨hfree, port, hfind⟩
    · rw [isIdTaken_search] at hfree
      refine ⟨hfree, port, fun c' => ?_⟩
      rw [hfind, ComponentRegistry.findByClientId_search]
      rfl

/-- A record after a registration is that of the client, or it was there. -/
theorem Registering.record {s' : DiscoveryService} (h : Registering s env c req s') {c' : Nat} {info : ComponentInfo}
    (hinfo : s'.registry.findByClientId c' = some info) :
    (c' = c ∧ ∃ port, info = s.registeredInfo env c req port) ∨ s.registry.findByClientId c' = some info := by
  rcases h.find with hsame | ⟨-, port, hfind⟩
  · rw [hsame] at hinfo
    exact .inr hinfo
  · rw [hfind] at hinfo
    split at hinfo
    · rename_i hc
      exact .inl ⟨hc, port, (Option.some.inj hinfo).symm⟩
    · exact .inr hinfo

theorem stepIn_of_registration {w : WalkedEvent} (h : s.registration w.event = some (c, env, req)) :
    s.stepIn w = s.handleRegistration env c req := by
  rw [← step_of_registration h]
  obtain ⟨e, order⟩ := w
  cases e with
  | purge now => cases h
  | connected c ip => rfl
  | disconnected c => rfl
  | data c available env => rfl

/-! ## Pings -/

/-- The keepalive ping that the service handles in the step. -/
def pinging (s : DiscoveryService) : ServiceEvent → Option (Nat × ServiceEnv × KeepalivePing)
  | .data c available env =>
      if s.shuttingDown = false ∧ (s.clientIpAddresses.lookup c).isSome = true ∧ available.take bufferSize ≠ [] then
        match decodeMessage (received available) with
        | .ok (.keepalivePing ping) => some (c, env, ping)
        | _ => none
      else none
  | _ => none

/-- The client that `update_keepalive` finds under the id in the ping. -/
def pinged (s : DiscoveryService) (ping : KeepalivePing) : Option Nat :=
  (parseComponentId ping.componentId).bind fun id =>
    s.registry.clientIdByComponentId.lookup (UInt8.ofInt id.1, UInt8.ofInt id.2)

theorem shuttingDown_of_pinging {e : ServiceEvent} {ping : KeepalivePing} (h : s.pinging e = some (c, env, ping)) :
    s.shuttingDown = false := by
  unfold pinging at h
  split at h
  · split at h
    · rename_i hread
      exact hread.1
    · cases h
  · cases h

theorem step_of_pinging {e : ServiceEvent} {ping : KeepalivePing} (h : s.pinging e = some (c, env, ping)) :
    s.step e = s.handleKeepalive env c ping := by
  unfold pinging at h
  split at h
  · split at h
    · rename_i c' available env' hread
      split at h
      · rename_i ping' hdecode
        obtain ⟨rfl, rfl, rfl⟩ := by simpa using h
        unfold step
        rw [if_neg (by rw [hread.1]; decide)]
        dsimp only
        rw [if_pos hread.2]
        unfold onDataReceived
        unfold received at hdecode
        rw [hdecode]
      · cases h
    · cases h
  · cases h

theorem pinging_data {available : List Char} {ping : KeepalivePing}
    (hrun : s.shuttingDown = false)
    (hread : (s.clientIpAddresses.lookup c).isSome = true ∧ available.take bufferSize ≠ [])
    (hdecode : decodeMessage (received available) = .ok (.keepalivePing ping)) :
    s.pinging (.data c available env) = some (c, env, ping) := by
  simp only [pinging, hrun, hread.1, hdecode, true_and]
  rw [if_pos hread.2]

theorem stepIn_of_pinging {w : WalkedEvent} {ping : KeepalivePing}
    (h : s.pinging w.event = some (c, env, ping)) : s.stepIn w = s.handleKeepalive env c ping := by
  rw [← step_of_pinging h]
  obtain ⟨e, order⟩ := w
  cases e with
  | purge now => cases h
  | connected c ip => rfl
  | disconnected c => rfl
  | data c available env => rfl

theorem updateKeepalive_of_false {r : ComponentRegistry} {g i : UInt8} {now : Nat}
    (h : (r.updateKeepalive g i now).2 = false) : (r.updateKeepalive g i now).1 = r := by
  unfold ComponentRegistry.updateKeepalive at h ⊢
  split
  · rfl
  · rename_i target hlookup
    rw [hlookup] at h
    dsimp only at h ⊢
    split
    · rfl
    · rename_i info hinfo
      rw [hinfo] at h
      cases h

theorem find_updateKeepalive (r : ComponentRegistry) (g i : UInt8) (now c : Nat) :
    (r.updateKeepalive g i now).1.findByClientId c =
      if r.clientIdByComponentId.lookup (g, i) = some c then
        (r.findByClientId c).map fun info => { info with lastSeen := now }
      else r.findByClientId c := by
  unfold ComponentRegistry.updateKeepalive
  split
  · rename_i hlookup
    rw [hlookup, if_neg (by simp)]
  · rename_i target hlookup
    rw [hlookup]
    split
    · rename_i hinfo
      split
      · rename_i hc
        rw [← Option.some.inj hc, hinfo]
        rfl
      · rfl
    · rename_i info hinfo
      show (insertKey r.registryByClientId target { info with lastSeen := now }).lookup c = _
      rw [lookup_insertKey]
      by_cases hc : c = target
      · rw [if_pos hc, if_pos (congrArg some hc.symm), hc, hinfo]
        rfl
      · rw [if_neg hc, if_neg fun heq => hc (Option.some.inj heq).symm]
        rfl

/-- **A ping** sets the time of the client it names, and nothing else in the records. -/
theorem find_handleKeepalive (s : DiscoveryService) (env : ServiceEnv) (c : Nat) (ping : KeepalivePing) (c' : Nat) :
    (s.handleKeepalive env c ping).registry.findByClientId c' =
      if s.pinged ping = some c' then
        (s.registry.findByClientId c').map fun info => { info with lastSeen := env.now }
      else s.registry.findByClientId c' := by
  unfold handleKeepalive pinged
  split
  · rename_i hid
    rw [hid, Option.bind_none, if_neg (by simp)]
  · rename_i g i hid
    rw [hid, Option.bind_some, ← find_updateKeepalive]
    dsimp only
    split
    · rfl
    · rename_i hnot
      rw [updateKeepalive_of_false (Bool.eq_false_iff.mpr hnot)]

/-! ## Removals -/

theorem find_of_foldl_unregister (ids : List Nat) {r : ComponentRegistry} {info : ComponentInfo} {c : Nat}
    (h : (ids.foldl ComponentRegistry.unregisterComponent r).findByClientId c = some info) :
    r.findByClientId c = some info := by
  induction ids generalizing r with
  | nil => exact h
  | cons c' ids ih =>
      exact (ComponentRegistry.findByClientId_unregister_eq_some.mp (ih h)).2

/-- A disconnect adds no record and changes none. -/
theorem find_of_onClientDisconnected {c' : Nat} {info : ComponentInfo}
    (h : (s.onClientDisconnected c).registry.findByClientId c' = some info) :
    s.registry.findByClientId c' = some info := by
  have hone : (s.registry.unregisterComponent c).findByClientId c' = some info →
      s.registry.findByClientId c' = some info := fun hu =>
    (ComponentRegistry.findByClientId_unregister_eq_some.mp hu).2
  unfold onClientDisconnected at h
  dsimp only at h
  split at h
  · exact h
  · split at h
    · exact hone (find_of_foldl_unregister _ h)
    · exact hone h

theorem find_of_purgeIn {order : List Nat} {now c' : Nat} {info : ComponentInfo}
    (h : (s.purgeIn order now).registry.findByClientId c' = some info) :
    s.registry.findByClientId c' = some info := by
  have hdisconnect : ∀ (t : DiscoveryService) c,
      (t.registry.findByClientId c' = some info → s.registry.findByClientId c' = some info) →
      (t.onClientDisconnected c).registry.findByClientId c' = some info → s.registry.findByClientId c' = some info :=
    fun _ _ ht hafter => ht (find_of_onClientDisconnected hafter)
  exact foldl_purgeClient hdisconnect now order id h

/-! ## One step -/

/-- The ways a step goes, each with what it does to the service. -/
inductive Stepped (s : DiscoveryService) (w : WalkedEvent) : DiscoveryService → Prop
  | idle (hreg : s.registration w.event = none) (hping : s.pinging w.event = none) : Stepped s w s
  | connected (c : Nat) (ip : Ipv4) (hrun : s.shuttingDown = false) (hevent : w.event = .connected c ip) :
      Stepped s w (s.onClientConnected c ip)
  | disconnected (c : Nat) (hrun : s.shuttingDown = false) (hevent : w.event = .disconnected c) :
      Stepped s w (s.onClientDisconnected c)
  | purged (now : Nat) (hrun : s.shuttingDown = false) (hevent : w.event = .purge now) :
      Stepped s w (s.purgeIn w.order now)
  | registered (c : Nat) (env : ServiceEnv) (req : RegistrationRequest)
      (hreg : s.registration w.event = some (c, env, req)) : Stepped s w (s.handleRegistration env c req)
  | pinged (c : Nat) (env : ServiceEnv) (ping : KeepalivePing) (hreg : s.registration w.event = none)
      (hping : s.pinging w.event = some (c, env, ping)) : Stepped s w (s.handleKeepalive env c ping)
  | answered (c : Nat) (m : Message) (hreg : s.registration w.event = none) (hping : s.pinging w.event = none) :
      Stepped s w (s.sendResponse c m)

/-- **Every step goes one of these ways.** -/
theorem stepped_stepIn (s : DiscoveryService) (w : WalkedEvent) : Stepped s w (s.stepIn w) := by
  cases hreg : s.registration w.event with
  | some x =>
      obtain ⟨c, env, req⟩ := x
      rw [stepIn_of_registration hreg]
      exact .registered c env req hreg
  | none =>
    cases hping : s.pinging w.event with
    | some x =>
        obtain ⟨c, env, ping⟩ := x
        rw [stepIn_of_pinging hping]
        exact .pinged c env ping hreg hping
    | none =>
      obtain ⟨e, order⟩ := w
      by_cases hdown : s.shuttingDown = true
      · have hsame : s.stepIn ⟨e, order⟩ = s := by cases e <;> simp only [stepIn, step, hdown, if_true]
        rw [hsame]
        exact .idle hreg hping
      · have hrun : s.shuttingDown = false := Bool.eq_false_iff.mpr hdown
        cases e with
        | connected c ip =>
            simp only [stepIn, step, if_neg hdown]
            exact .connected c ip hrun rfl
        | disconnected c =>
            simp only [stepIn, step, if_neg hdown]
            exact .disconnected c hrun rfl
        | purge now =>
            simp only [stepIn, if_neg hdown]
            exact .purged now hrun rfl
        | data c available env =>
            simp only [stepIn, step, if_neg hdown]
            split
            · rename_i hread
              rcases s.onDataReceived_cases env c (available.take bufferSize) with
                ⟨m, -, heq⟩ | ⟨req, hdecode, -⟩ | ⟨ping, hdecode, -⟩ | heq
              · rw [heq]
                exact .answered c m hreg hping
              · rw [registration_data hrun hread.1 hdecode] at hreg
                cases hreg
              · rw [pinging_data hrun hread hdecode] at hping
                cases hping
              · rw [heq]
                exact .idle hreg hping
            · exact .idle hreg hping

/-! ## The calls of the registry -/

/-- `r'` comes out of `r` by calls. -/
def Evolves (r r' : ComponentRegistry) : Prop := ∃ calls, r' = run ComponentRegistry.call r calls

theorem Evolves.refl (r : ComponentRegistry) : Evolves r r := ⟨[], rfl⟩

theorem Evolves.trans {r r' r'' : ComponentRegistry} (h : Evolves r r') (h' : Evolves r' r'') : Evolves r r'' := by
  obtain ⟨calls, rfl⟩ := h
  obtain ⟨calls', rfl⟩ := h'
  exact ⟨calls ++ calls', (run_append ComponentRegistry.call r calls calls').symm⟩

theorem evolves_call (r : ComponentRegistry) (e : RegistryCall) : Evolves r (r.call e) := ⟨[e], rfl⟩

theorem evolves_unregister (r : ComponentRegistry) (ids : List Nat) :
    Evolves r (ids.foldl ComponentRegistry.unregisterComponent r) := by
  induction ids generalizing r with
  | nil => exact .refl r
  | cons c ids ih => exact (evolves_call r (.unregisterComponent c)).trans (ih _)

theorem evolves_search (r : ComponentRegistry) (type : ComponentType) : Evolves r (r.search type).1 := by
  unfold ComponentRegistry.search
  split
  · exact evolves_call r .findAvailableBridge
  · exact evolves_call r .findAvailableBridge
  · exact evolves_call r .findAvailableOm
  · exact .refl r

theorem evolves_onClientDisconnected (s : DiscoveryService) (c : Nat) :
    Evolves s.registry (s.onClientDisconnected c).registry := by
  unfold onClientDisconnected
  dsimp only
  split
  · exact .refl _
  · split
    · exact (evolves_call s.registry (.unregisterComponent c)).trans (evolves_unregister _ _)
    · exact evolves_call s.registry (.unregisterComponent c)

theorem Registering.evolves {s' : DiscoveryService} (h : Registering s env c req s') :
    Evolves s.registry s'.registry := by
  rcases h.registry with hsame | hsearch | ⟨searched, port, hsearched, hregister⟩
  · rw [hsame]
    exact .refl _
  · rw [hsearch]
    exact evolves_search _ _
  · have hcall : s'.registry = searched.call (.registerComponent (s.registeredInfo env c req port)) := by
      show _ = (searched.registerComponent _).getD searched
      rw [hregister]
      rfl
    have hlast : Evolves searched s'.registry := by
      rw [hcall]
      exact evolves_call searched _
    rcases hsearched with rfl | rfl
    · exact hlast
    · exact (evolves_search _ _).trans hlast

theorem evolves_handleKeepalive (s : DiscoveryService) (env : ServiceEnv) (c : Nat) (ping : KeepalivePing) :
    Evolves s.registry (s.handleKeepalive env c ping).registry := by
  rcases s.handleKeepalive_cases env c ping with hsame | ⟨g, i, pong, heq⟩
  · rw [hsame]
    exact .refl _
  · rw [heq]
    exact evolves_call s.registry (.updateKeepalive g i env.now)

theorem evolves_purgeIn (order : List Nat) (now : Nat) (s : DiscoveryService) :
    Evolves s.registry (s.purgeIn order now).registry := by
  have hdisconnect : ∀ (t : DiscoveryService) c, Evolves s.registry t.registry →
      Evolves s.registry (t.onClientDisconnected c).registry :=
    fun t c ht => ht.trans (evolves_onClientDisconnected t c)
  exact foldl_purgeClient hdisconnect now order (.refl _)

/-- **A step changes the registry by its calls only.** -/
theorem evolves_stepIn (s : DiscoveryService) (w : WalkedEvent) : Evolves s.registry (s.stepIn w).registry := by
  have hstep := stepped_stepIn s w
  generalize s.stepIn w = s' at hstep ⊢
  cases hstep with
  | idle hreg hping => exact .refl _
  | connected c ip hrun hevent => exact .refl _
  | disconnected c hrun hevent => exact evolves_onClientDisconnected s c
  | purged now hrun hevent => exact evolves_purgeIn w.order now s
  | registered c env req hreg => exact (registering_handleRegistration s env c req).evolves
  | pinged c env ping hreg hping => exact evolves_handleKeepalive s env c ping
  | answered c m hreg hping => exact .refl _

theorem Evolves.named {r r' : ComponentRegistry} (h : Evolves r r') (hr : r.Named) : r'.Named := by
  obtain ⟨calls, rfl⟩ := h
  exact run_invariant_of_step ComponentRegistry.call (fun _ e hr => hr.call e) calls r hr

/-- **No two records have one id**, in every state of every run. -/
theorem named_run_stepIn (p2pMode : Bool) (ws : List WalkedEvent) : (run stepIn (init p2pMode) ws).registry.Named :=
  run_invariant_of_step (I := fun s => s.registry.Named) stepIn (fun s w h => (evolves_stepIn s w).named h) ws
    (init p2pMode) ComponentRegistry.named_empty

end DiscoveryService

end EdgeOffloading.Discovery
