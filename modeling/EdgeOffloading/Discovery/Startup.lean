import EdgeOffloading.Discovery.Configuration
import EdgeOffloading.Discovery.Rejection

/-!
# The order of the start

In the networked mode the OM comes first, then the Bridges, then the vehicles and MECs. The order rests on the searches
of `handleRegistration` and on the shutdown with which the service answers the loss of the OM.

* `Ordered.step`: what holds between the registry and the connections until the shutdown;
* `globalConfiguration_run`: the configuration is the text of the last OM registration that was received;
* `startsInOrder`: the order of the start over all runs.
-/

namespace EdgeOffloading.Discovery

open Run

namespace ComponentRegistry

variable {r r' r'' : ComponentRegistry} {info : ComponentInfo} {c : Nat} {type : ComponentType}

/-! ## Records -/

/-- The records of `r'` were in `r`, up to the time of their last sign of life. -/
def Kept (r r' : ComponentRegistry) : Prop :=
  ∀ c info, r'.findByClientId c = some info → ∃ old, r.findByClientId c = some old ∧
    info = { old with lastSeen := info.lastSeen }

theorem Kept.refl (r : ComponentRegistry) : Kept r r := fun _ info h => ⟨info, h, rfl⟩

theorem Kept.trans (h : Kept r r') (h' : Kept r' r'') : Kept r r'' := by
  intro c info hinfo
  obtain ⟨mid, hmid, heq⟩ := h' c info hinfo
  obtain ⟨old, hold, heq'⟩ := h c mid hmid
  refine ⟨old, hold, ?_⟩
  rw [heq, heq']

theorem kept_of_find (h : ∀ c info, r'.findByClientId c = some info → r.findByClientId c = some info) : Kept r r' :=
  fun c info hinfo => ⟨info, h c info hinfo, rfl⟩

theorem kept_unregister (r : ComponentRegistry) (c : Nat) : Kept r (r.unregisterComponent c) := by
  apply kept_of_find
  intro c' info hinfo
  exact (findByClientId_unregister_eq_some.mp hinfo).2

theorem kept_updateKeepalive (r : ComponentRegistry) (groupId idInGroup : UInt8) (now : Nat) :
    Kept r (r.updateKeepalive groupId idInGroup now).1 := by
  intro c info hinfo
  rcases findByClientId_updateKeepalive r groupId idInGroup now c with hsame | ⟨old, hold, hnew⟩
  · exact ⟨info, hsame ▸ hinfo, rfl⟩
  · rw [hnew] at hinfo
    exact ⟨old, hold, by rw [← Option.some.inj hinfo]⟩

theorem findByClientId_search (r : ComponentRegistry) (type : ComponentType) (c : Nat) :
    (r.search type).1.findByClientId c = r.findByClientId c := by
  unfold search
  split <;> rfl

theorem Represents.search (h : r.Represents) (type : ComponentType) : (r.search type).1.Represents := by
  unfold ComponentRegistry.search
  split
  · exact h.moved _ r.nextOmIdx
  · exact h.moved _ r.nextOmIdx
  · exact h.moved r.nextBridgeIdx _
  · exact h

/-! ## Peers -/

/-- The type a component of the type is connected to. -/
def peerType : ComponentType → Option ComponentType
  | .vehicle | .mec => some .bridge
  | .bridge => some .offloadManager
  | _ => none

theorem Lists.found {ids : List Nat} {idx : Nat} (h : r.Lists type ids)
    (hfound : (r.searchIds ids idx).2 = some info) :
    ∃ c, r.findByClientId c = some info ∧ info.componentType = type := by
  obtain ⟨c, hc, hinfo⟩ := mem_of_searchIds hfound
  obtain ⟨info', hinfo', htype⟩ := (h.2 c).mp hc
  rw [hinfo'] at hinfo
  rw [← Option.some.inj hinfo]
  exact ⟨c, hinfo', htype⟩

theorem Lists.missed {ids : List Nat} {idx : Nat} (h : r.Lists type ids) (hnone : ¬ ∃ c, r.Registered type c) :
    r.searchIds ids idx = (idx, none) := by
  have hids : ids = [] := by
    apply List.eq_nil_iff_forall_not_mem.mpr
    intro c hc
    exact hnone ⟨c, (h.2 c).mp hc⟩
  rw [hids]
  rfl

theorem Represents.search_some {peer : ComponentType} (h : r.Represents) (hpeer : peerType type = some peer)
    (hfound : (r.search type).2 ≠ some none) :
    ∃ c info, (r.search type).2 = some (some info) ∧ r.findByClientId c = some info ∧ info.componentType = peer := by
  cases type with
  | vehicle | mec =>
      cases hb : r.findAvailableBridge.2 with
      | none => exact absurd (congrArg some hb) hfound
      | some info =>
          obtain ⟨c, hc, htype⟩ := h.bridges.found hb
          exact ⟨c, info, congrArg some hb, hc, htype.trans (Option.some.inj hpeer)⟩
  | bridge =>
      cases ho : r.findAvailableOm.2 with
      | none => exact absurd (congrArg some ho) hfound
      | some info =>
          obtain ⟨c, hc, htype⟩ := h.oms.found ho
          exact ⟨c, info, congrArg some ho, hc, htype.trans (Option.some.inj hpeer)⟩
  | offloadManager | test => cases hpeer

/-- Where no component of the needed type is registered, the search finds none and moves nothing. -/
theorem Represents.search_none {peer : ComponentType} (h : r.Represents) (hpeer : peerType type = some peer)
    (hnone : ¬ ∃ c, r.Registered peer c) : r.search type = (r, some none) := by
  cases type with
  | vehicle | mec =>
      rw [← Option.some.inj hpeer] at hnone
      rw [ComponentRegistry.search, ComponentRegistry.findAvailableBridge, h.bridges.missed hnone]
  | bridge =>
      rw [← Option.some.inj hpeer] at hnone
      rw [ComponentRegistry.search, ComponentRegistry.findAvailableOm, h.oms.missed hnone]
  | offloadManager | test => cases hpeer

end ComponentRegistry

namespace DiscoveryService

variable {s : DiscoveryService} {env : ServiceEnv} {c : Nat} {req : RegistrationRequest}

/-! ## Registrations in the networked mode -/

/-- A registration that is answered with SUCCESS: the answer names what the search found, and the component is in the
registry. -/
structure Accepts (s : DiscoveryService) (env : ServiceEnv) (c : Nat) (req : RegistrationRequest)
    (s' : DiscoveryService) (r : RegistrationResponse) : Prop where
  code : r.responseCode = .success
  needed : (s.registry.search req.componentType).2 ≠ some none
  target : ∀ t, (s.registry.search req.componentType).2 = some (some t) →
    r.connectionTargetAddress = t.listenAddress ∧ r.connectionTargetPort = toString t.listenPort.toNat
  config : some r.configJson = s'.globalConfiguration
  info : ∃ port, stoi req.listenPort.toList = some port ∧
    (s.registry.search req.componentType).1.registerComponent (s.registeredInfo env c req port) = some s'.registry

/-- What a registration makes of the service: a refusal registers nothing. -/
structure Outcome (s : DiscoveryService) (env : ServiceEnv) (c : Nat) (req : RegistrationRequest)
    (s' : DiscoveryService) (r : RegistrationResponse) : Prop where
  state : s' = { s with
    registry := s'.registry
    globalConfiguration := s.refusedConfiguration req
    sent := s.sent ++ [(c, .registrationResponse r)] }
  registry : (r.responseCode ≠ .success ∧
      (s'.registry = s.registry ∨ s'.registry = (s.registry.search req.componentType).1)) ∨
    Accepts s env c req s' r

theorem outcome_refused {registry : ComponentRegistry} {config : Option String} {r : RegistrationResponse}
    (hregistry : registry = s.registry ∨ registry = (s.registry.search req.componentType).1)
    (hconfig : config = s.refusedConfiguration req) (hcode : r.responseCode ≠ .success) :
    Outcome s env c req ({ s with registry := registry, globalConfiguration := config }.sendRegistration c r) r := by
  refine ⟨?_, .inl ⟨hcode, hregistry⟩⟩
  rw [hconfig]
  rfl

theorem outcome_proceed {config : String} (hconfig : some config = s.refusedConfiguration req) (env : ServiceEnv)
    (c : Nat) {waiting : RegistrationResponse} (hwaiting : waiting.responseCode = .wait) :
    ∃ r, Outcome s env c req
      ({ s with globalConfiguration := some config }.proceed env c req waiting (s.registry.search req.componentType))
      r := by
  have hcommon : ∀ registry resp, registry = (s.registry.search req.componentType).1 →
      (s.registry.search req.componentType).2 ≠ some none →
      (∀ t, (s.registry.search req.componentType).2 = some (some t) → resp = withTarget (newResponse env req) t) →
      ∃ r, Outcome s env c req
        ({ s with globalConfiguration := some config, registry := registry }.registerCommon env c req resp) r := by
    intro registry resp hregistry hneeded htarget
    rcases registerCommon_cases { s with globalConfiguration := some config, registry := registry } env c req resp with
      ⟨r, hcode, heq⟩ | ⟨port, registry', hport, hregister, heq⟩
    · have hne : r.responseCode ≠ .success := by rcases hcode with hcode | hcode <;> rw [hcode] <;> decide
      rw [heq]
      exact ⟨r, outcome_refused (.inr hregistry) hconfig hne⟩
    · refine ⟨{ s with globalConfiguration := some config, registry := registry }.registeredResponse c resp, ?_,
        .inr ⟨rfl, hneeded, fun t ht => ?_, ?_, port, hport, ?_⟩⟩
      · rw [heq, ← hconfig]
        rfl
      · rw [htarget t ht]
        exact ⟨rfl, rfl⟩
      · rw [heq]
        rfl
      · rw [heq, ← hregistry]
        exact hregister
  rcases hsearch : s.registry.search req.componentType with ⟨registry, _ | _ | target⟩
  · apply hcommon registry _ (by rw [hsearch]) (by rw [hsearch]; simp)
    intro t ht
    rw [hsearch] at ht
    cases ht
  · have hregistry : registry = (s.registry.search req.componentType).1 := by rw [hsearch]
    exact ⟨waiting, outcome_refused (.inr hregistry) hconfig (by rw [hwaiting]; decide)⟩
  · apply hcommon registry _ (by rw [hsearch]) (by rw [hsearch]; simp)
    intro t ht
    rw [hsearch] at ht
    rw [Option.some.inj (Option.some.inj ht)]

theorem outcome_handleTarget {config : String} (hconfig : some config = s.refusedConfiguration req) (env : ServiceEnv)
    (c : Nat) :
    ∃ r, Outcome s env c req ({ s with globalConfiguration := some config }.handleTarget env c req) r := by
  by_cases htaken : s.registry.isIdTaken req.groupId req.idInGroup = true
  · obtain ⟨r, hcode, heq⟩ :=
      handleTarget_of_taken (s := { s with globalConfiguration := some config }) env c htaken
    rw [heq]
    exact ⟨r, outcome_refused (.inl rfl) hconfig (by rw [hcode]; decide)⟩
  · obtain ⟨waiting, hwaiting, heq⟩ := handleTarget_of_free (s := { s with globalConfiguration := some config }) env c
      (Bool.eq_false_iff.mpr htaken)
    rw [heq]
    exact outcome_proceed hconfig env c hwaiting

/-- **A registration in the networked mode.** -/
theorem outcome_handleRegistration (hmode : s.p2pMode = false) (env : ServiceEnv) (c : Nat)
    (req : RegistrationRequest) : ∃ r, Outcome s env c req (s.handleRegistration env c req) r := by
  by_cases hom : req.componentType = .offloadManager
  · rw [handleRegistration_of_om hmode hom]
    refine outcome_handleTarget ?_ env c
    unfold refusedConfiguration
    rw [if_pos ⟨hmode, hom⟩]
  · have hconfig : s.globalConfiguration = s.refusedConfiguration req := by
      unfold refusedConfiguration
      rw [if_neg (fun h => hom h.2)]
    cases hsome : s.globalConfiguration with
    | none =>
        obtain ⟨r, hcode, heq⟩ := handleRegistration_of_unconfigured hmode hom hsome env c
        rw [heq]
        exact ⟨r, outcome_refused (.inl rfl) hconfig (by rw [hcode]; decide)⟩
    | some config =>
        have hself : s = { s with globalConfiguration := some config } := by rw [← hsome]
        rw [handleRegistration_of_configured hmode hom (by simp [hsome])]
        rw [hsome] at hconfig
        obtain ⟨r, hr⟩ := outcome_handleTarget hconfig env c
        rw [← hself] at hr
        exact ⟨r, hr⟩

/-! ## The invariant -/

/-- What holds until the shutdown: a registered client is connected, from the address its record has, and there is a
Bridge only with an OM. -/
structure Ordered (s : DiscoveryService) : Prop where
  represents : s.registry.Represents
  address : ∀ c info, s.registry.findByClientId c = some info →
    s.clientIpAddresses.lookup c = some info.listenAddress
  order : (∃ b, s.registry.Registered .bridge b) → ∃ o, s.registry.Registered .offloadManager o

theorem ordered_init : Ordered (init false) := by
  refine ⟨ComponentRegistry.represents_empty, fun c info hinfo => ?_, ?_⟩
  · cases hinfo
  · rintro ⟨b, info, hinfo, -⟩
    cases hinfo

theorem Ordered.congr {s' : DiscoveryService} (h : Ordered s) (hrepresents : s'.registry.Represents)
    (hips : s'.clientIpAddresses = s.clientIpAddresses)
    (hfind : ∀ c, (s'.registry.findByClientId c).map (fun i => (i.componentType, i.listenAddress)) =
      (s.registry.findByClientId c).map fun i => (i.componentType, i.listenAddress)) : Ordered s' := by
  have hback : ∀ c info', s'.registry.findByClientId c = some info' → ∃ info,
      s.registry.findByClientId c = some info ∧ info.componentType = info'.componentType ∧
        info.listenAddress = info'.listenAddress := by
    intro c info' hinfo'
    have hc := hfind c
    rw [hinfo', Option.map_some] at hc
    obtain ⟨info, hinfo, heq⟩ := Option.map_eq_some_iff.mp hc.symm
    exact ⟨info, hinfo, (Prod.mk.inj heq).1, (Prod.mk.inj heq).2⟩
  have hforth : ∀ type c, s.registry.Registered type c → s'.registry.Registered type c := by
    rintro type c ⟨info, hinfo, htype⟩
    have hc := hfind c
    rw [hinfo, Option.map_some] at hc
    obtain ⟨info', hinfo', heq⟩ := Option.map_eq_some_iff.mp hc
    exact ⟨info', hinfo', (Prod.mk.inj heq).1.trans htype⟩
  refine ⟨hrepresents, fun c info' hinfo' => ?_, ?_⟩
  · obtain ⟨info, hinfo, -, haddress⟩ := hback c info' hinfo'
    rw [hips, h.address c info hinfo, haddress]
  · rintro ⟨b, info', hinfo', htype'⟩
    obtain ⟨info, hinfo, htype, -⟩ := hback b info' hinfo'
    obtain ⟨o, ho⟩ := h.order ⟨b, info, hinfo, htype.trans htype'⟩
    exact ⟨o, hforth _ o ho⟩

theorem Ordered.onClientConnected (h : Ordered s) (hnew : s.clientIpAddresses.lookup c = none) (ip : Ipv4) :
    Ordered (s.onClientConnected c ip) := by
  refine ⟨h.represents, fun c' info hinfo => ?_, h.order⟩
  have hlookup := h.address c' info hinfo
  show (insertKey s.clientIpAddresses c ip.ntoa).lookup c' = _
  rw [lookup_insertKey, if_neg, hlookup]
  rintro rfl
  rw [hnew] at hlookup
  cases hlookup

/-- A disconnect takes the record of the client, or shuts down the service with the OM. -/
theorem Ordered.onClientDisconnected (h : Ordered s) (hmode : s.p2pMode = false) (c : Nat)
    (hrun : (s.onClientDisconnected c).shuttingDown = false) : Ordered (s.onClientDisconnected c) := by
  have haddress : ∀ c' info, c' ≠ c → s.registry.findByClientId c' = some info →
      (eraseKey s.clientIpAddresses c).lookup c' = some info.listenAddress := by
    intro c' info hc' hinfo
    rw [lookup_eraseKey, if_neg hc']
    exact h.address c' info hinfo
  unfold DiscoveryService.onClientDisconnected at hrun ⊢
  cases hc : s.registry.findByClientId c with
  | none =>
      refine ⟨h.represents, fun c' info hinfo => haddress c' info ?_ hinfo, h.order⟩
      rintro rfl
      rw [hc] at hinfo
      cases hinfo
  | some component =>
      rw [hc] at hrun
      dsimp only at hrun ⊢
      by_cases hstop : (!s.p2pMode) = true ∧ component.componentType = .offloadManager ∧ (!s.shuttingDown) = true
      · rw [if_pos hstop] at hrun
        cases hrun
      · rw [if_neg hstop] at hrun ⊢
        have hnotOm : component.componentType ≠ .offloadManager := by
          intro hom
          refine hstop ⟨?_, hom, ?_⟩
          · rw [hmode]
            rfl
          · rw [show s.shuttingDown = false from hrun]
            rfl
        refine ⟨h.represents.unregisterComponent c, fun c' info hinfo => ?_, ?_⟩
        · obtain ⟨hc', hinfo⟩ := ComponentRegistry.findByClientId_unregister_eq_some.mp hinfo
          exact haddress c' info hc' hinfo
        · rintro ⟨b, info, hinfo, htype⟩
          obtain ⟨-, hinfo⟩ := ComponentRegistry.findByClientId_unregister_eq_some.mp hinfo
          obtain ⟨o, info', hinfo', hom⟩ := h.order ⟨b, info, hinfo, htype⟩
          refine ⟨o, info', ComponentRegistry.findByClientId_unregister_eq_some.mpr ⟨?_, hinfo'⟩, hom⟩
          rintro rfl
          rw [hc] at hinfo'
          rw [← Option.some.inj hinfo'] at hom
          exact hnotOm hom

theorem shuttingDown_onClientDisconnected (c : Nat) (h : s.shuttingDown = true) :
    (s.onClientDisconnected c).shuttingDown = true := by
  unfold onClientDisconnected
  dsimp only
  split
  · exact h
  · split
    · rfl
    · exact h

/-- The invariant of the networked mode; nothing is left to show of a service that shuts down. -/
structure Started (s : DiscoveryService) : Prop where
  mode : s.p2pMode = false
  ordered : s.shuttingDown = false → Ordered s

theorem Started.onClientDisconnected (h : Started s) (c : Nat) : Started (s.onClientDisconnected c) := by
  refine ⟨(p2pMode_onClientDisconnected c).trans h.mode, fun hrun => ?_⟩
  have hbefore : s.shuttingDown = false := by
    rw [Bool.eq_false_iff]
    intro hdown
    rw [shuttingDown_onClientDisconnected c hdown] at hrun
    cases hrun
  exact (h.ordered hbefore).onClientDisconnected h.mode c hrun

theorem Started.purgeStaleClients (h : Started s) (now : Nat) : Started (s.purgeStaleClients now) := by
  have hdisconnect : ∀ t c, Started t → Started (t.onClientDisconnected c) := fun _ c ht => ht.onClientDisconnected c
  exact foldl_purgeClient hdisconnect now _ h

theorem Ordered.handleKeepalive (h : Ordered s) (env : ServiceEnv) (c : Nat) (ping : KeepalivePing) :
    Ordered (s.handleKeepalive env c ping) := by
  rcases s.handleKeepalive_cases env c ping with hsame | ⟨groupId, idInGroup, pong, heq⟩
  · rw [hsame]
    exact h
  · rw [heq]
    refine h.congr (h.represents.updateKeepalive _ _ _) rfl fun c' => ?_
    rcases ComponentRegistry.findByClientId_updateKeepalive s.registry groupId idInGroup env.now c' with
      hsame | ⟨info, hinfo, hnew⟩
    · exact congrArg _ hsame
    · rw [hinfo]
      exact (congrArg (Option.map fun i => (i.componentType, i.listenAddress)) hnew).trans rfl

theorem Ordered.sendResponse (h : Ordered s) (c : Nat) (m : Message) : Ordered (s.sendResponse c m) :=
  ⟨h.represents, h.address, h.order⟩

theorem Ordered.accepts {s' : DiscoveryService} {r : RegistrationResponse} (h : Ordered s)
    (hclient : (s.clientIpAddresses.lookup c).isSome = true) (hnew : s.registry.findByClientId c = none)
    (hips : s'.clientIpAddresses = s.clientIpAddresses) (ha : Accepts s env c req s' r) : Ordered s' := by
  obtain ⟨port, -, hregister⟩ := ha.info
  obtain ⟨-, hmap, -⟩ := ComponentRegistry.registerComponent_some hregister
  have hfind : ∀ c', s'.registry.findByClientId c' =
      if c' = c then some (s.registeredInfo env c req port) else s.registry.findByClientId c' := by
    intro c'
    rw [ComponentRegistry.findByClientId_insert hmap, ComponentRegistry.findByClientId_search]
    rfl
  have hkeep : ∀ type c', s.registry.Registered type c' → s'.registry.Registered type c' := by
    rintro type c' ⟨info, hinfo, htype⟩
    refine ⟨info, ?_, htype⟩
    rw [hfind, if_neg, hinfo]
    rintro rfl
    rw [hnew] at hinfo
    cases hinfo
  refine ⟨(h.represents.search _).registerComponent ?_ hregister, fun c' info hinfo => ?_, ?_⟩
  · rw [ComponentRegistry.findByClientId_search]
    exact hnew
  · rw [hfind] at hinfo
    rw [hips]
    split at hinfo
    · rename_i hc'
      obtain ⟨ip, hip⟩ := Option.isSome_iff_exists.mp hclient
      rw [← Option.some.inj hinfo, hc', hip]
      unfold registeredInfo
      rw [hip]
      rfl
    · exact h.address c' info hinfo
  · rintro ⟨b, info, hinfo, htype⟩
    rw [hfind] at hinfo
    split at hinfo
    · -- the new component is a Bridge, so the search has found an OM
      have hbridge : req.componentType = .bridge := by
        rw [← Option.some.inj hinfo] at htype
        exact htype
      obtain ⟨o, om, -, hom, hotype⟩ :=
        h.represents.search_some (congrArg ComponentRegistry.peerType hbridge) ha.needed
      exact ⟨o, hkeep _ o ⟨om, hom, hotype⟩⟩
    · obtain ⟨o, ho⟩ := h.order ⟨b, info, hinfo, htype⟩
      exact ⟨o, hkeep _ o ho⟩

theorem Ordered.handleRegistration (h : Ordered s) (hmode : s.p2pMode = false)
    (hclient : (s.clientIpAddresses.lookup c).isSome = true)
    (hfirst : ∀ r, s.Answered env c req r → r.responseCode = .success → s.registry.findByClientId c = none) :
    Ordered (s.handleRegistration env c req) := by
  obtain ⟨r, hstate, hregistry⟩ := outcome_handleRegistration hmode env c req
  have hips : (s.handleRegistration env c req).clientIpAddresses = s.clientIpAddresses := by rw [hstate]
  have hsent : s.Answered env c req r := by
    unfold Answered
    rw [hstate]
  rcases hregistry with ⟨-, hsame | hsearch⟩ | haccepts
  · refine h.congr (hsame ▸ h.represents) hips fun c' => ?_
    rw [hsame]
  · refine h.congr (hsearch ▸ h.represents.search _) hips fun c' => ?_
    rw [hsearch, ComponentRegistry.findByClientId_search]
  · exact h.accepts hclient (hfirst r hsent haccepts.code) hips haccepts

/-! ## Steps -/

/-- The registration request that the service handles in the step. -/
def registration (s : DiscoveryService) : ServiceEvent → Option (Nat × ServiceEnv × RegistrationRequest)
  | .data c available env =>
      if s.shuttingDown = false ∧ (s.clientIpAddresses.lookup c).isSome = true then
        match decodeMessage (received available) with
        | .ok (.registrationRequest req) => some (c, env, req)
        | _ => none
      else none
  | _ => none

theorem registration_eq_some {e : ServiceEvent} (h : s.registration e = some (c, env, req)) :
    s.shuttingDown = false ∧ (s.clientIpAddresses.lookup c).isSome = true ∧
      ∃ available, e = .data c available env ∧ decodeMessage (received available) = .ok (.registrationRequest req) := by
  unfold registration at h
  split at h
  · split at h
    · rename_i hread
      split at h
      · rename_i hdecode
        obtain ⟨rfl, rfl, rfl⟩ := by simpa using h
        exact ⟨hread.1, hread.2, _, rfl, hdecode⟩
      · cases h
    · cases h
  · cases h

theorem registration_data (hrun : s.shuttingDown = false) (hclient : (s.clientIpAddresses.lookup c).isSome = true)
    {available : List Char} (hdecode : decodeMessage (received available) = .ok (.registrationRequest req))
    (env : ServiceEnv) : s.registration (.data c available env) = some (c, env, req) := by
  simp only [registration, hrun, hclient, hdecode, and_self, if_true]

theorem step_of_registration {e : ServiceEvent} (h : s.registration e = some (c, env, req)) :
    s.step e = s.handleRegistration env c req := by
  obtain ⟨hrun, hclient, available, rfl, hdecode⟩ := registration_eq_some h
  exact step_registration hrun env hclient hdecode

/-- The service answers the registration request of the client with `r`. -/
structure Registers (s : DiscoveryService) (e : ServiceEvent) (c : Nat) (req : RegistrationRequest)
    (r : RegistrationResponse) : Prop where
  request : ∃ env, s.registration e = some (c, env, req)
  answer : (s.step e).sent = s.sent ++ [(c, .registrationResponse r)]

theorem kept_onClientDisconnected (s : DiscoveryService) (c : Nat) :
    ComponentRegistry.Kept s.registry (s.onClientDisconnected c).registry := by
  have hfold : ∀ (ids : List Nat) (r : ComponentRegistry),
      ComponentRegistry.Kept r (ids.foldl ComponentRegistry.unregisterComponent r) := by
    intro ids
    induction ids with
    | nil => exact fun r => .refl r
    | cons c ids ih => exact fun r => (ComponentRegistry.kept_unregister r c).trans (ih _)
  unfold onClientDisconnected
  dsimp only
  split
  · exact .refl _
  · split
    · exact (ComponentRegistry.kept_unregister _ c).trans (hfold _ _)
    · exact ComponentRegistry.kept_unregister _ c

theorem config_onClientDisconnected (s : DiscoveryService) (c : Nat) :
    (s.onClientDisconnected c).globalConfiguration = s.globalConfiguration := by
  unfold onClientDisconnected
  dsimp only
  split
  · rfl
  · split <;> rfl

theorem quiet_purgeStaleClients (s : DiscoveryService) (now : Nat) :
    (s.purgeStaleClients now).globalConfiguration = s.globalConfiguration ∧
      ComponentRegistry.Kept s.registry (s.purgeStaleClients now).registry := by
  have hdisconnect : ∀ (t : DiscoveryService) c,
      t.globalConfiguration = s.globalConfiguration ∧ ComponentRegistry.Kept s.registry t.registry →
      (t.onClientDisconnected c).globalConfiguration = s.globalConfiguration ∧
        ComponentRegistry.Kept s.registry (t.onClientDisconnected c).registry := by
    rintro t c ⟨hconfig, hkept⟩
    exact ⟨(config_onClientDisconnected t c).trans hconfig, hkept.trans (kept_onClientDisconnected t c)⟩
  exact foldl_purgeClient hdisconnect now _ ⟨rfl, .refl _⟩

/-- **A step without a registration** brings no record and leaves the configuration. -/
theorem quiet_step {e : ServiceEvent} (h : s.registration e = none) :
    (s.step e).globalConfiguration = s.globalConfiguration ∧
      ComponentRegistry.Kept s.registry (s.step e).registry := by
  unfold step
  by_cases hdown : s.shuttingDown = true
  · rw [if_pos hdown]
    exact ⟨rfl, .refl _⟩
  · rw [if_neg hdown]
    cases e with
    | connected c ip => exact ⟨rfl, .refl _⟩
    | disconnected c => exact ⟨config_onClientDisconnected s c, kept_onClientDisconnected s c⟩
    | purge now => exact quiet_purgeStaleClients s now
    | data c available env =>
        dsimp only
        split
        · rename_i hread
          rcases s.onDataReceived_cases env c (available.take bufferSize) with
            ⟨m, -, heq⟩ | ⟨req, hdecode, -⟩ | ⟨ping, -, heq⟩ | heq
          · rw [heq]
            exact ⟨rfl, .refl _⟩
          · rw [registration_data (Bool.eq_false_iff.mpr hdown) hread.1 hdecode] at h
            cases h
          · rw [heq]
            rcases s.handleKeepalive_cases env c ping with hsame | ⟨groupId, idInGroup, pong, hping⟩
            · rw [hsame]
              exact ⟨rfl, .refl _⟩
            · rw [hping]
              exact ⟨rfl, ComponentRegistry.kept_updateKeepalive _ _ _ _⟩
          · rw [heq]
            exact ⟨rfl, .refl _⟩
        · exact ⟨rfl, .refl _⟩

theorem step_record (hmode : s.p2pMode = false) {e : ServiceEvent} {info : ComponentInfo}
    (hinfo : (s.step e).registry.findByClientId c = some info) :
    (∃ old, s.registry.findByClientId c = some old ∧ info = { old with lastSeen := info.lastSeen }) ∨
      ∃ env req r port, s.registration e = some (c, env, req) ∧ Registers s e c req r ∧ r.responseCode = .success ∧
        stoi req.listenPort.toList = some port ∧ info = s.registeredInfo env c req port := by
  cases hreg : s.registration e with
  | none => exact .inl ((quiet_step hreg).2 c info hinfo)
  | some x =>
      obtain ⟨c', env, req⟩ := x
      obtain ⟨r, hstate, hregistry⟩ := outcome_handleRegistration hmode env c' req
      have hstep := step_of_registration hreg
      rw [hstep] at hinfo
      have hanswer : (s.step e).sent = s.sent ++ [(c', .registrationResponse r)] := by rw [hstep, hstate]
      rcases hregistry with ⟨-, hsame | hsearch⟩ | haccepts
      · rw [hsame] at hinfo
        exact .inl ⟨info, hinfo, rfl⟩
      · rw [hsearch, ComponentRegistry.findByClientId_search] at hinfo
        exact .inl ⟨info, hinfo, rfl⟩
      · obtain ⟨port, hport, hregister⟩ := haccepts.info
        obtain ⟨-, hmap, -⟩ := ComponentRegistry.registerComponent_some hregister
        rw [ComponentRegistry.findByClientId_insert hmap, ComponentRegistry.findByClientId_search] at hinfo
        split at hinfo
        · rename_i hc
          obtain rfl : c = c' := hc
          obtain rfl := Option.some.inj hinfo
          exact .inr ⟨env, req, r, port, rfl, ⟨⟨env, hreg⟩, hanswer⟩, haccepts.code, hport, rfl⟩
        · exact .inl ⟨info, hinfo, rfl⟩

/-- **One step** keeps the order where a new connection has a new id and a client registers once. -/
theorem Started.step {e : ServiceEvent} (h : Started s)
    (hfresh : ∀ c ip, e = .connected c ip → s.clientIpAddresses.lookup c = none)
    (hfirst : ∀ c req r, Registers s e c req r → r.responseCode = .success → s.registry.findByClientId c = none) :
    Started (s.step e) := by
  by_cases hdown : s.shuttingDown = true
  · unfold DiscoveryService.step
    rw [if_pos hdown]
    exact h
  · have hrun : s.shuttingDown = false := Bool.eq_false_iff.mpr hdown
    have hordered := h.ordered hrun
    refine ⟨(p2pMode_step e).trans h.mode, fun hrun' => ?_⟩
    cases e with
    | connected c ip =>
        unfold DiscoveryService.step
        rw [if_neg hdown]
        exact hordered.onClientConnected (hfresh c ip rfl) ip
    | disconnected c =>
        unfold DiscoveryService.step at hrun' ⊢
        rw [if_neg hdown] at hrun' ⊢
        exact (h.onClientDisconnected c).ordered hrun'
    | purge now =>
        unfold DiscoveryService.step at hrun' ⊢
        rw [if_neg hdown] at hrun' ⊢
        exact (h.purgeStaleClients now).ordered hrun'
    | data c available env =>
        by_cases hread : (s.clientIpAddresses.lookup c).isSome = true ∧ available.take bufferSize ≠ []
        · have hstep : s.step (.data c available env) = s.onDataReceived env c (available.take bufferSize) := by
            unfold DiscoveryService.step
            rw [if_neg hdown]
            exact if_pos hread
          rw [hstep]
          rcases s.onDataReceived_cases env c (available.take bufferSize) with
            ⟨m, -, heq⟩ | ⟨req, hdecode, heq⟩ | ⟨ping, -, heq⟩ | heq
          · rw [heq]
            exact hordered.sendResponse c m
          · rw [heq]
            apply hordered.handleRegistration h.mode hread.1
            intro r hanswer hcode
            have hreg := registration_data hrun hread.1 hdecode env
            refine hfirst c req r ⟨⟨env, hreg⟩, ?_⟩ hcode
            rw [step_of_registration hreg]
            exact hanswer
          · rw [heq]
            exact hordered.handleKeepalive env c ping
          · rw [heq]
            exact hordered
        · have hstep : s.step (.data c available env) = s := by
            unfold DiscoveryService.step
            rw [if_neg hdown]
            exact if_neg hread
          rw [hstep]
          exact hordered

/-! ## The configuration -/

/-- The text of the OM registration that the service receives in the step. -/
def omText (s : DiscoveryService) (e : ServiceEvent) : Option String :=
  match s.registration e with
  | some (_, _, req) => if req.componentType = .offloadManager then some req.humanReadableMessage else none
  | none => none

/-- The texts of the OM registrations that the service receives over the events. -/
def omTexts : DiscoveryService → List ServiceEvent → List String
  | _, [] => []
  | s, e :: es => (s.omText e).toList ++ omTexts (s.step e) es

theorem globalConfiguration_step (hmode : s.p2pMode = false) (e : ServiceEvent) :
    (s.step e).globalConfiguration = (s.omText e).or s.globalConfiguration := by
  unfold omText
  cases hreg : s.registration e with
  | none => exact (quiet_step hreg).1
  | some x =>
      obtain ⟨c, env, req⟩ := x
      obtain ⟨r, hstate, -⟩ := outcome_handleRegistration hmode env c req
      rw [step_of_registration hreg, hstate]
      show s.refusedConfiguration req = _
      unfold refusedConfiguration
      by_cases hom : req.componentType = .offloadManager
      · simp [hmode, hom]
      · simp [hom]

theorem globalConfiguration_run (hmode : s.p2pMode = false) (es : List ServiceEvent) :
    (run step s es).globalConfiguration = (omTexts s es).getLast?.or s.globalConfiguration := by
  induction es generalizing s with
  | nil => rfl
  | cons e es ih =>
      rw [run_cons, ih ((p2pMode_step e).trans hmode), globalConfiguration_step hmode]
      show _ = ((s.omText e).toList ++ omTexts (s.step e) es).getLast?.or s.globalConfiguration
      cases s.omText e with
      | none => rfl
      | some text =>
          rw [Option.toList_some, List.getLast?_append]
          cases (omTexts (s.step e) es).getLast? <;> rfl

/-! ## Runs -/

/-- The state after the events in the networked mode. -/
def after (es : List ServiceEvent) : DiscoveryService := run step (init false) es

theorem after_append (es : List ServiceEvent) (e : ServiceEvent) : after (es ++ [e]) = (after es).step e := by
  unfold after
  rw [run_append, run_cons, run_nil]

/-- The transport gives a connection an id that no other connection has. -/
def FreshIds (es : List ServiceEvent) : Prop :=
  ∀ pre c ip, pre ++ [.connected c ip] <+: es → (after pre).clientIpAddresses.lookup c = none

/-- Between two successful registrations of a client it has connected again. -/
def OnePerConnection (es : List ServiceEvent) : Prop :=
  ∀ pre e mid e' c req req' r r', pre ++ e :: mid ++ [e'] <+: es →
    Registers (after pre) e c req r → r.responseCode = .success →
    Registers (after (pre ++ e :: mid)) e' c req' r' → r'.responseCode = .success → ∃ ip, .connected c ip ∈ mid

/-- The record is that of the registration that was answered with SUCCESS on the connection the client has now. -/
def RegisteredOn (es : List ServiceEvent) (c : Nat) (info : ComponentInfo) : Prop :=
  ∃ pre e mid req r port, es = pre ++ e :: mid ∧ (∀ ip, .connected c ip ∉ mid) ∧ Registers (after pre) e c req r ∧
    r.responseCode = .success ∧ stoi req.listenPort.toList = some port ∧ info.listenPort = UInt16.ofInt port ∧
    info.componentType = req.componentType ∧ info.componentIdPair = (req.groupId, req.idInGroup)

theorem RegisteredOn.append {es : List ServiceEvent} {info info' : ComponentInfo} {e : ServiceEvent}
    (h : RegisteredOn es c info) (he : ∀ ip, e ≠ .connected c ip)
    (hsame : info' = { info with lastSeen := info'.lastSeen }) : RegisteredOn (es ++ [e]) c info' := by
  obtain ⟨pre, e₀, mid, req, r, port, rfl, hmid, hreg, hcode, hport, hlisten, htype, hid⟩ := h
  refine ⟨pre, e₀, mid ++ [e], req, r, port, by simp, fun ip hmem => ?_, hreg, hcode, hport, ?_, ?_, ?_⟩
  · rcases List.mem_append.mp hmem with hmem | hmem
    · exact hmid ip hmem
    · exact he ip (List.mem_singleton.mp hmem).symm
  · rw [hsame]
    exact hlisten
  · rw [hsame]
    exact htype
  · rw [hsame]
    exact hid

/-- **The invariant over runs**: the order, and where each record comes from. -/
theorem started_after {es : List ServiceEvent} (hfresh : FreshIds es) (hone : OnePerConnection es) :
    Started (after es) ∧
      ((after es).shuttingDown = false → ∀ c info, (after es).registry.findByClientId c = some info →
        RegisteredOn es c info) := by
  induction es using List.reverseRecOn with
  | nil =>
      refine ⟨⟨rfl, fun _ => ordered_init⟩, fun _ c info hinfo => ?_⟩
      cases hinfo
  | append_singleton es e ih =>
      obtain ⟨hstarted, hrecords⟩ := ih
        (fun pre c ip hpre => hfresh pre c ip (hpre.trans (List.prefix_append es [e])))
        (fun pre e₁ mid e₂ c req req' r r' hpre =>
          hone pre e₁ mid e₂ c req req' r r' (hpre.trans (List.prefix_append es [e])))
      have hids : ∀ c ip, e = .connected c ip → (after es).clientIpAddresses.lookup c = none := by
        rintro c ip rfl
        exact hfresh es c ip List.prefix_rfl
      have hfirst : ∀ c req r, Registers (after es) e c req r → r.responseCode = .success →
          (after es).registry.findByClientId c = none := by
        intro c req r hreg hcode
        obtain ⟨env, henv⟩ := hreg.request
        have hrun := (registration_eq_some henv).1
        by_contra hne
        obtain ⟨info, hinfo⟩ := Option.ne_none_iff_exists'.mp hne
        obtain ⟨pre, e₀, mid, req₀, r₀, -, rfl, hmid, hreg₀, hcode₀, -⟩ := hrecords hrun c info hinfo
        obtain ⟨ip, hip⟩ := hone pre e₀ mid e c req₀ req r₀ r List.prefix_rfl hreg₀ hcode₀ hreg hcode
        exact hmid ip hip
      rw [after_append]
      refine ⟨hstarted.step hids hfirst, fun hrun c info hinfo => ?_⟩
      have hbefore : (after es).shuttingDown = false := by
        rw [Bool.eq_false_iff]
        intro hdown
        unfold DiscoveryService.step at hrun
        rw [if_pos hdown, hdown] at hrun
        cases hrun
      rcases step_record hstarted.mode hinfo with ⟨old, hold, hsame⟩ | ⟨env, req, r, port, -, hreg, hcode, hport, rfl⟩
      · refine (hrecords hbefore c old hold).append (fun ip he => ?_) hsame
        have haddress := (hstarted.ordered hbefore).address c old hold
        rw [hids c ip he] at haddress
        cases haddress
      · exact ⟨es, e, [], req, r, port, rfl, fun ip => List.not_mem_nil, hreg, hcode, hport, rfl, rfl, rfl⟩

/-- The response names a component of the type that is registered after the events: the address from which it is
connected, and the port of its registration. -/
def PointsTo (type : ComponentType) (es : List ServiceEvent) (r : RegistrationResponse) : Prop :=
  ∃ c info, (after es).registry.findByClientId c = some info ∧ info.componentType = type ∧
    (after es).clientIpAddresses.lookup c = some r.connectionTargetAddress ∧ RegisteredOn es c info ∧
    r.connectionTargetPort = toString info.listenPort.toNat

/-- Something that a component other than the OM needs is missing. -/
def Premature (s : DiscoveryService) (req : RegistrationRequest) : Prop :=
  s.globalConfiguration = none ∨
    ∃ peer, ComponentRegistry.peerType req.componentType = some peer ∧ ¬ ∃ c, s.registry.Registered peer c

/-- The order of the start, over the run of the events. -/
structure StartsInOrder (es : List ServiceEvent) : Prop where
  order : ∀ pre, pre <+: es → (after pre).shuttingDown = false →
    (∃ b, (after pre).registry.Registered .bridge b) → ∃ o, (after pre).registry.Registered .offloadManager o
  endpoint : ∀ pre e c req r, pre ++ [e] <+: es → Registers (after pre) e c req r → r.responseCode = .success →
    req.componentType = .vehicle ∨ req.componentType = .mec →
      PointsTo .bridge pre r ∧ (omTexts (init false) pre).getLast? = some r.configJson
  bridge : ∀ pre e c req r, pre ++ [e] <+: es → Registers (after pre) e c req r → r.responseCode = .success →
    req.componentType = .bridge → PointsTo .offloadManager pre r
  premature : ∀ pre e c env req, pre ++ [e] <+: es → (after pre).registration e = some (c, env, req) →
    req.componentType ≠ .offloadManager → (after pre).Premature req →
      ∃ r, Registers (after pre) e c req r ∧ (r.responseCode = .wait ∨ r.responseCode = .idConflict) ∧
        (after (pre ++ [e])).registry = (after pre).registry

theorem Registers.accepts {e : ServiceEvent} {r : RegistrationResponse} (hmode : s.p2pMode = false)
    (h : Registers s e c req r) (hcode : r.responseCode = .success) : ∃ env, Accepts s env c req (s.step e) r := by
  obtain ⟨env, henv⟩ := h.request
  obtain ⟨r', hstate, hregistry⟩ := outcome_handleRegistration hmode env c req
  have hsent := h.answer
  rw [step_of_registration henv, hstate] at hsent
  obtain rfl : r' = r := by simpa using hsent
  rw [step_of_registration henv]
  rcases hregistry with ⟨hne, -⟩ | haccepts
  · exact absurd hcode hne
  · exact ⟨env, haccepts⟩

theorem pointsTo_of_accepts {es : List ServiceEvent} {s' : DiscoveryService} {r : RegistrationResponse}
    {peer : ComponentType} (hordered : Ordered (after es))
    (hrecords : ∀ c info, (after es).registry.findByClientId c = some info → RegisteredOn es c info)
    (hpeer : ComponentRegistry.peerType req.componentType = some peer) (ha : Accepts (after es) env c req s' r) :
    PointsTo peer es r := by
  obtain ⟨t, info, hfound, hinfo, htype⟩ := hordered.represents.search_some hpeer ha.needed
  obtain ⟨haddress, hport⟩ := ha.target info hfound
  refine ⟨t, info, hinfo, htype, ?_, hrecords t info hinfo, hport⟩
  rw [haddress]
  exact hordered.address t info hinfo

theorem premature_refused (hmode : s.p2pMode = false) (hrepresents : s.registry.Represents)
    (hom : req.componentType ≠ .offloadManager) (hearly : s.Premature req) (env : ServiceEnv) (c : Nat) :
    ∃ r, (r.responseCode = .wait ∨ r.responseCode = .idConflict) ∧
      s.handleRegistration env c req = s.sendRegistration c r := by
  by_cases hnone : s.globalConfiguration = none
  · obtain ⟨r, hcode, heq⟩ := handleRegistration_of_unconfigured hmode hom hnone env c
    exact ⟨r, .inl hcode, heq⟩
  · obtain ⟨peer, hpeer, hmissing⟩ := hearly.resolve_left hnone
    rw [handleRegistration_of_configured hmode hom hnone]
    by_cases htaken : s.registry.isIdTaken req.groupId req.idInGroup = true
    · obtain ⟨r, hcode, heq⟩ := handleTarget_of_taken env c htaken
      exact ⟨r, .inr hcode, heq⟩
    · obtain ⟨waiting, hwaiting, heq⟩ := handleTarget_of_free env c (Bool.eq_false_iff.mpr htaken)
      refine ⟨waiting, .inl hwaiting, ?_⟩
      rw [heq, hrepresents.search_none hpeer hmissing]
      rfl

/-- **The order of the start**: in every run in which connections have ids of their own and at most one successful
registration each. -/
theorem startsInOrder {es : List ServiceEvent} (hfresh : FreshIds es) (hone : OnePerConnection es) :
    StartsInOrder es := by
  have hall : ∀ pre, pre <+: es → Started (after pre) ∧
      ((after pre).shuttingDown = false → ∀ c info, (after pre).registry.findByClientId c = some info →
        RegisteredOn pre c info) := by
    intro pre hpre
    exact started_after (fun pre' c ip h => hfresh pre' c ip (h.trans hpre))
      (fun pre' e mid e' c req req' r r' h => hone pre' e mid e' c req req' r r' (h.trans hpre))
  have hstart : ∀ {pre e}, pre ++ [e] <+: es → pre <+: es := fun h => (List.prefix_append _ _).trans h
  have hpoints : ∀ pre e c req r peer, pre ++ [e] <+: es → Registers (after pre) e c req r →
      r.responseCode = .success → ComponentRegistry.peerType req.componentType = some peer → PointsTo peer pre r := by
    intro pre e c req r peer hpre hreg hcode hpeer
    obtain ⟨hstarted, hrecords⟩ := hall pre (hstart hpre)
    obtain ⟨env, henv⟩ := hreg.request
    have hrun := (registration_eq_some henv).1
    obtain ⟨env', haccepts⟩ := hreg.accepts hstarted.mode hcode
    exact pointsTo_of_accepts (hstarted.ordered hrun) (hrecords hrun) hpeer haccepts
  refine ⟨fun pre hpre hrun => ((hall pre hpre).1.ordered hrun).order, ?_, ?_, ?_⟩
  · intro pre e c req r hpre hreg hcode htype
    have hpeer : ComponentRegistry.peerType req.componentType = some .bridge := by
      rcases htype with htype | htype <;> rw [htype] <;> rfl
    refine ⟨hpoints pre e c req r .bridge hpre hreg hcode hpeer, ?_⟩
    obtain ⟨hstarted, -⟩ := hall pre (hstart hpre)
    obtain ⟨env, henv⟩ := hreg.request
    obtain ⟨env', haccepts⟩ := hreg.accepts hstarted.mode hcode
    have hsame : ((after pre).step e).globalConfiguration = (after pre).globalConfiguration := by
      rw [globalConfiguration_step hstarted.mode]
      unfold omText
      rw [henv]
      rcases htype with htype | htype <;> simp [htype]
    rw [haccepts.config, hsame]
    have hrun := globalConfiguration_run (s := init false) rfl pre
    rw [show (init false).globalConfiguration = none from rfl, Option.or_none] at hrun
    exact hrun.symm
  · intro pre e c req r hpre hreg hcode htype
    apply hpoints pre e c req r .offloadManager hpre hreg hcode
    rw [htype]
    rfl
  · intro pre e c env req hpre henv hom hearly
    obtain ⟨hstarted, -⟩ := hall pre (hstart hpre)
    have hordered := hstarted.ordered (registration_eq_some henv).1
    obtain ⟨r, hcode, heq⟩ := premature_refused hstarted.mode hordered.represents hom hearly env c
    have hstep := (step_of_registration henv).trans heq
    refine ⟨r, ⟨⟨env, henv⟩, ?_⟩, hcode, ?_⟩
    · rw [hstep]
      rfl
    · rw [after_append, hstep]
      rfl

/-- The client whose data an event brings. -/
def dataClient : ServiceEvent → Option Nat
  | .data c _ _ => some c
  | _ => none

theorem onePerConnection_of_nodup {es : List ServiceEvent} (h : (es.filterMap dataClient).Nodup) :
    OnePerConnection es := by
  intro pre e mid e' c req req' r r' hpre hreg _ hreg' _
  obtain ⟨env, henv⟩ := hreg.request
  obtain ⟨env', henv'⟩ := hreg'.request
  obtain ⟨-, -, available, rfl, -⟩ := registration_eq_some henv
  obtain ⟨-, -, available', rfl, -⟩ := registration_eq_some henv'
  obtain ⟨post, rfl⟩ := hpre
  have hone : ∀ bytes env, dataClient (.data c bytes env) = some c := fun _ _ => rfl
  simp only [List.append_assoc, List.cons_append, List.filterMap_append, List.filterMap_cons_some (hone _ _)] at h
  have hnot := (List.nodup_cons.mp (List.nodup_append.mp h).2.1).1
  exact absurd (List.mem_append_right _ List.mem_cons_self) hnot

/-- An OM, a Bridge and a vehicle connect and register. -/
def startRun : List ServiceEvent :=
  [.connected 5 ⟨10, 0, 0, 1⟩, .connected 6 ⟨10, 0, 0, 2⟩, .connected 7 ⟨10, 0, 0, 3⟩,
    .data 5 "DISC:REG;O;S;1;1;OffloadManager;0.0.0.0;8100;config".toList { now := 0 },
    .data 6 "DISC:REG;B;S;5;1;Bridge;0.0.0.0;7000;bridge".toList { now := 0 },
    .data 7 "DISC:REG;V;S;2;10;Vehicle;0.0.0.0;6000;vehicle".toList { now := 0 }]

theorem startsInOrder_startRun :
    FreshIds startRun ∧ OnePerConnection startRun ∧ StartsInOrder startRun ∧
      ((after startRun).sent.map Prod.fst = [5, 6, 7] ∧ (after startRun).registry.Registered .vehicle 7) := by
  have hfresh : FreshIds startRun := by
    intro pre c ip hpre
    have hevent : startRun[pre.length]? = some (.connected c ip) := by
      obtain ⟨post, h⟩ := hpre
      rw [← h]
      simp
    have hlength : pre.length < 6 := by
      have h := hpre.length_le
      rw [List.length_append, List.length_singleton] at h
      exact h
    have hpre' : pre = startRun.take pre.length :=
      List.prefix_iff_eq_take.mp ((List.prefix_append _ _).trans hpre)
    generalize pre.length = k at hevent hlength hpre'
    subst hpre'
    -- only the first three events are connections
    interval_cases k <;> cases hevent
    · rfl
    · rfl
    · rfl
  have hone : OnePerConnection startRun := onePerConnection_of_nodup (by decide)
  have hafter : (after startRun).sent.map Prod.fst = [5, 6, 7] ∧
      ((after startRun).registry.findByClientId 7).map ComponentInfo.componentType = some .vehicle := by
    decide +kernel
  exact ⟨hfresh, hone, startsInOrder hfresh hone, hafter.1, Option.map_eq_some_iff.mp hafter.2⟩

end DiscoveryService

end EdgeOffloading.Discovery
