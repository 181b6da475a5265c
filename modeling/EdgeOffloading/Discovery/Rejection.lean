import EdgeOffloading.Discovery.Registry

/-!
# Rejected registrations

`handleRegistration` can refuse a request at seven points, and some of them lie behind writes to the state: an OM has
replaced the configuration, and the search for a Bridge or an OM has moved a position of the round robin.

* `handleTarget_cases`, `registerCommon_cases`: the ways through a registration;
* `run_withSent`: what the service does later depends on everything but what it has sent;
* `changesNothing_iff_leftAlone`: the rejected requests that leave no trace.
-/

namespace EdgeOffloading.Discovery

open Run

namespace ComponentRegistry

variable {r : ComponentRegistry}

/-- A search leaves the position of the round robin where it was. -/
def Rests (ids : List Nat) (idx : Nat) : Prop := ids = [] ∨ ids.length = 1 ∧ idx = 1

theorem rotate_lt {ids : List Nat} (hne : ids ≠ []) (idx : Nat) : rotate ids idx < ids.length := by
  have hpos := List.length_pos_iff.mpr hne
  unfold rotate
  split <;> omega

theorem rotate_succ_eq_iff {ids : List Nat} (hne : ids ≠ []) {idx : Nat} :
    rotate ids idx + 1 = idx ↔ Rests ids idx := by
  have hpos := List.length_pos_iff.mpr hne
  unfold rotate Rests
  simp only [hne, false_or]
  split <;> omega

theorem searchIds_eq_self_iff {ids : List Nat} {idx : Nat} : (r.searchIds ids idx).1 = idx ↔ Rests ids idx := by
  unfold searchIds
  by_cases hne : ids = []
  · refine iff_of_true ?_ (.inl hne)
    simp [hne]
  · rw [← rotate_succ_eq_iff hne, List.getElem?_eq_getElem (rotate_lt hne _)]

theorem findAvailableBridge_eq_self_iff :
    r.findAvailableBridge.1 = r ↔ Rests r.bridgeClientIds r.nextBridgeIdx := by
  rw [← searchIds_eq_self_iff (r := r)]
  exact ⟨congrArg nextBridgeIdx, fun h => by rw [findAvailableBridge, h]⟩

theorem findAvailableOm_eq_self_iff : r.findAvailableOm.1 = r ↔ Rests r.omClientIds r.nextOmIdx := by
  rw [← searchIds_eq_self_iff (r := r)]
  exact ⟨congrArg nextOmIdx, fun h => by rw [findAvailableOm, h]⟩

/-- The search of the networked branch: the registry behind it and, where the type needs one, what it found. -/
def search (r : ComponentRegistry) : ComponentType → ComponentRegistry × Option (Option ComponentInfo)
  | .vehicle | .mec => (r.findAvailableBridge.1, some r.findAvailableBridge.2)
  | .bridge => (r.findAvailableOm.1, some r.findAvailableOm.2)
  | _ => (r, none)

end ComponentRegistry

namespace DiscoveryService

variable {s : DiscoveryService} {env : ServiceEnv} {c : Nat} {req : RegistrationRequest}

/-! ## The ways through a registration -/

/-- The record of a component that is registered. -/
def registeredInfo (s : DiscoveryService) (env : ServiceEnv) (c : Nat) (req : RegistrationRequest) (port : Int) :
    ComponentInfo where
  clientId := c
  componentType := req.componentType
  groupId := req.groupId
  idInGroup := req.idInGroup
  name := req.componentName
  listenAddress := (s.clientIpAddresses.lookup c).getD req.listenAddress
  listenPort := UInt16.ofInt port
  lastSeen := env.now

/-- The answer to a component that is registered. -/
def registeredResponse (s : DiscoveryService) (c : Nat) (resp : RegistrationResponse) : RegistrationResponse :=
  { resp with
    detectedClientAddress := (s.clientIpAddresses.lookup c).getD "unknown"
    responseCode := .success
    configJson := s.globalConfiguration.getD ""
    humanReadableMessage := "Registration successful." }

theorem responseCode_detect (s : DiscoveryService) (c : Nat) (resp : RegistrationResponse) :
    (s.detect c resp).responseCode = resp.responseCode := by
  unfold detect
  split <;> rfl

/-- The common end refuses the request as it is or registers the component. -/
theorem registerCommon_cases (s : DiscoveryService) (env : ServiceEnv) (c : Nat) (req : RegistrationRequest)
    (resp : RegistrationResponse) :
    (∃ r, (r.responseCode = .idConflict ∨ r.responseCode = .invalidRequest) ∧
        s.registerCommon env c req resp = s.sendRegistration c r) ∨
      ∃ port registry, stoi req.listenPort.toList = some port ∧
        s.registry.registerComponent (s.registeredInfo env c req port) = some registry ∧
        s.registerCommon env c req resp =
          { s with registry := registry }.sendRegistration c (s.registeredResponse c resp) := by
  unfold registerCommon
  by_cases htaken : s.registry.isIdTaken req.groupId req.idInGroup = true
  · rw [if_pos htaken]
    exact .inl ⟨_, .inl (responseCode_detect s c _), rfl⟩
  · rw [if_neg htaken]
    cases hport : stoi req.listenPort.toList with
    | none => exact .inl ⟨_, .inr rfl, rfl⟩
    | some port =>
        right
        cases hregister : s.registry.registerComponent (s.registeredInfo env c req port) with
        | none => exact absurd (ComponentRegistry.registerComponent_eq_none_iff.mp hregister) htaken
        | some registry =>
            refine ⟨port, registry, rfl, hregister, ?_⟩
            unfold registeredInfo at hregister
            dsimp only
            rw [hregister]
            rfl

/-- The networked branch behind the search. -/
def proceed (s : DiscoveryService) (env : ServiceEnv) (c : Nat) (req : RegistrationRequest)
    (waiting : RegistrationResponse) : ComponentRegistry × Option (Option ComponentInfo) → DiscoveryService
  | (registry, some none) => { s with registry := registry }.sendRegistration c waiting
  | (registry, some (some target)) =>
      { s with registry := registry }.registerCommon env c req (withTarget (newResponse env req) target)
  | (registry, none) => { s with registry := registry }.registerCommon env c req (newResponse env req)

theorem handleTarget_of_free (env : ServiceEnv) (c : Nat)
    (hfree : s.registry.isIdTaken req.groupId req.idInGroup = false) :
    ∃ waiting, waiting.responseCode = .wait ∧
      s.handleTarget env c req = s.proceed env c req waiting (s.registry.search req.componentType) := by
  have hwaiting : ∀ text,
      { newResponse env req with responseCode := .wait, humanReadableMessage := text }.responseCode = .wait :=
    fun _ => rfl
  unfold handleTarget
  rw [if_neg (Bool.eq_false_iff.mp hfree)]
  unfold ComponentRegistry.search
  cases req.componentType with
  | vehicle | mec =>
      refine ⟨_, hwaiting "No Bridge component is currently available.", ?_⟩
      dsimp only
      cases s.registry.findAvailableBridge.2 <;> rfl
  | bridge =>
      refine ⟨_, hwaiting "No Offloading Manager is currently available.", ?_⟩
      dsimp only
      cases s.registry.findAvailableOm.2 <;> rfl
  | offloadManager | test => exact ⟨_, hwaiting "", rfl⟩

theorem handleTarget_of_taken (env : ServiceEnv) (c : Nat)
    (htaken : s.registry.isIdTaken req.groupId req.idInGroup = true) :
    ∃ r, r.responseCode = .idConflict ∧ s.handleTarget env c req = s.sendRegistration c r := by
  unfold handleTarget
  rw [if_pos htaken]
  exact ⟨_, rfl, rfl⟩

theorem handleRegistration_of_om (hmode : s.p2pMode = false) (hom : req.componentType = .offloadManager)
    (env : ServiceEnv) (c : Nat) :
    s.handleRegistration env c req =
      { s with globalConfiguration := some req.humanReadableMessage }.handleTarget env c req := by
  unfold handleRegistration
  rw [if_neg (by simp [hmode]), if_pos hom]

theorem handleRegistration_of_unconfigured (hmode : s.p2pMode = false) (hom : req.componentType ≠ .offloadManager)
    (hnone : s.globalConfiguration = none) (env : ServiceEnv) (c : Nat) :
    ∃ r, r.responseCode = .wait ∧ s.handleRegistration env c req = s.sendRegistration c r := by
  unfold handleRegistration
  rw [if_neg (by simp [hmode]), if_neg hom, if_pos (by simp [hnone])]
  exact ⟨_, rfl, rfl⟩

theorem handleRegistration_of_configured (hmode : s.p2pMode = false) (hom : req.componentType ≠ .offloadManager)
    (hsome : s.globalConfiguration ≠ none) (env : ServiceEnv) (c : Nat) :
    s.handleRegistration env c req = s.handleTarget env c req := by
  unfold handleRegistration
  rw [if_neg (by simp [hmode]), if_neg hom, if_neg (by simpa using hsome)]

/-! ## What a registration leaves -/

/-- The registry of a request that is refused, or of one that is registered behind the search. -/
theorem proceed_cases (s : DiscoveryService) (env : ServiceEnv) (c : Nat) (req : RegistrationRequest)
    {waiting : RegistrationResponse} (hwaiting : waiting.responseCode = .wait)
    (found : ComponentRegistry × Option (Option ComponentInfo)) :
    (∃ r, r.responseCode ≠ .success ∧
        s.proceed env c req waiting found = { s with registry := found.1 }.sendRegistration c r) ∨
      ∃ r registry, r.responseCode = .success ∧
        s.proceed env c req waiting found = { s with registry := registry }.sendRegistration c r := by
  have hcommon : ∀ registry resp,
      (∃ r, r.responseCode ≠ .success ∧ { s with registry := registry }.registerCommon env c req resp =
          { s with registry := registry }.sendRegistration c r) ∨
        ∃ r registry', r.responseCode = .success ∧ { s with registry := registry }.registerCommon env c req resp =
          { s with registry := registry' }.sendRegistration c r := by
    intro registry resp
    rcases registerCommon_cases { s with registry := registry } env c req resp with
      ⟨r, hcode, heq⟩ | ⟨port, registry', -, -, heq⟩
    · refine .inl ⟨r, ?_, heq⟩
      rcases hcode with hcode | hcode <;> rw [hcode] <;> decide
    · exact .inr ⟨_, registry', rfl, heq⟩
  rcases found with ⟨registry, _ | _ | target⟩
  · exact hcommon registry _
  · refine .inl ⟨waiting, ?_, rfl⟩
    rw [hwaiting]
    decide
  · exact hcommon registry _

/-- The answer of the service to a registration. -/
def Answered (s : DiscoveryService) (env : ServiceEnv) (c : Nat) (req : RegistrationRequest)
    (r : RegistrationResponse) : Prop :=
  (s.handleRegistration env c req).sent = s.sent ++ [(c, .registrationResponse r)]

/-- The registry behind a request that is refused. -/
def refusedRegistry (s : DiscoveryService) (req : RegistrationRequest) : ComponentRegistry :=
  if s.p2pMode = true ∨ req.componentType ≠ .offloadManager ∧ s.globalConfiguration = none ∨
      s.registry.isIdTaken req.groupId req.idInGroup = true then s.registry
  else (s.registry.search req.componentType).1

/-- The configuration behind a request that is refused. -/
def refusedConfiguration (s : DiscoveryService) (req : RegistrationRequest) : Option String :=
  if s.p2pMode = false ∧ req.componentType = .offloadManager then some req.humanReadableMessage
  else s.globalConfiguration

/-- A registration that is refused leaves the state at the point it had reached. -/
def Refused (s : DiscoveryService) (c : Nat) (req : RegistrationRequest) (s' : DiscoveryService) : Prop :=
  ∀ r, s'.sent = s.sent ++ [(c, .registrationResponse r)] → r.responseCode ≠ .success →
    s' = { s with
      registry := s.refusedRegistry req
      globalConfiguration := s.refusedConfiguration req
      sent := s.sent ++ [(c, .registrationResponse r)] }

theorem refused_send {registry : ComponentRegistry} {config : Option String} {r : RegistrationResponse}
    (hregistry : r.responseCode ≠ .success → registry = s.refusedRegistry req)
    (hconfig : config = s.refusedConfiguration req) :
    s.Refused c req ({ s with registry := registry, globalConfiguration := config }.sendRegistration c r) := by
  intro r' hsent hcode
  have hr : r = r' := by
    have hlast := List.append_cancel_left hsent
    simpa using hlast
  rw [← hr] at hcode
  rw [← hsent, ← hregistry hcode, ← hconfig]
  rfl

theorem refused_handleP2pRegistration (hmode : s.p2pMode = true) (env : ServiceEnv) (c : Nat)
    (req : RegistrationRequest) : s.Refused c req (s.handleP2pRegistration env c req) := by
  have hregistry : s.registry = s.refusedRegistry req := by
    unfold refusedRegistry
    rw [if_pos (.inl hmode)]
  have hconfig : s.globalConfiguration = s.refusedConfiguration req := by
    unfold refusedConfiguration
    rw [if_neg (by simp [hmode])]
  have hsend : ∀ r, s.Refused c req (s.sendRegistration c r) := fun r => refused_send (fun _ => hregistry) hconfig
  unfold handleP2pRegistration
  dsimp only
  split
  · split
    · exact hsend _
    · exact hsend _
  · rcases registerCommon_cases s env c req
      { newResponse env req with responseCode := .success, humanReadableMessage := "MEC registered in P2P mode." } with
      ⟨r, -, heq⟩ | ⟨port, registry, -, -, heq⟩
    · rw [heq]
      exact hsend r
    · rw [heq]
      exact refused_send (fun hcode => absurd rfl hcode) hconfig
  · exact hsend _

/-- The networked branch, with the configuration it goes on with. -/
theorem refused_handleTarget (hmode : s.p2pMode = false) {config : Option String}
    (hsome : req.componentType ≠ .offloadManager → s.globalConfiguration ≠ none)
    (hconfig : config = s.refusedConfiguration req) (env : ServiceEnv) (c : Nat) :
    s.Refused c req ({ s with globalConfiguration := config }.handleTarget env c req) := by
  by_cases htaken : s.registry.isIdTaken req.groupId req.idInGroup = true
  · obtain ⟨r, -, heq⟩ :=
      handleTarget_of_taken (s := { s with globalConfiguration := config }) env c htaken
    rw [heq]
    refine refused_send (fun _ => ?_) hconfig
    unfold refusedRegistry
    rw [if_pos (.inr (.inr htaken))]
  · have hregistry : (s.registry.search req.componentType).1 = s.refusedRegistry req := by
      unfold refusedRegistry
      rw [if_neg]
      rintro (hp2p | ⟨hom, hnone⟩ | htaken')
      · rw [hmode] at hp2p
        cases hp2p
      · exact hsome hom hnone
      · exact htaken htaken'
    obtain ⟨waiting, hwaiting, heq⟩ := handleTarget_of_free (s := { s with globalConfiguration := config }) env c
      (Bool.eq_false_iff.mpr htaken)
    rw [heq]
    rcases proceed_cases { s with globalConfiguration := config } env c req hwaiting
      (s.registry.search req.componentType) with ⟨r, -, heq⟩ | ⟨r, registry, hcode, heq⟩
    · rw [heq]
      exact refused_send (fun _ => hregistry) hconfig
    · rw [heq]
      exact refused_send (fun hne => absurd hcode hne) hconfig

theorem refused_handleRegistration (s : DiscoveryService) (env : ServiceEnv) (c : Nat) (req : RegistrationRequest) :
    s.Refused c req (s.handleRegistration env c req) := by
  by_cases hmode : s.p2pMode = true
  · unfold handleRegistration
    rw [if_pos hmode]
    exact refused_handleP2pRegistration hmode env c req
  · have hmode : s.p2pMode = false := Bool.eq_false_iff.mpr hmode
    by_cases hom : req.componentType = .offloadManager
    · rw [handleRegistration_of_om hmode hom]
      refine refused_handleTarget hmode (fun hne => absurd hom hne) ?_ env c
      unfold refusedConfiguration
      rw [if_pos ⟨hmode, hom⟩]
    · have hconfig : s.globalConfiguration = s.refusedConfiguration req := by
        unfold refusedConfiguration
        rw [if_neg (fun h => hom h.2)]
      by_cases hnone : s.globalConfiguration = none
      · obtain ⟨r, -, heq⟩ := handleRegistration_of_unconfigured hmode hom hnone env c
        rw [heq]
        refine refused_send (fun _ => ?_) hconfig
        unfold refusedRegistry
        rw [if_pos (.inr (.inl ⟨hom, hnone⟩))]
      · rw [handleRegistration_of_configured hmode hom hnone]
        exact refused_handleTarget hmode (fun _ => hnone) hconfig env c

/-! ## What the service has sent -/

/-- The service with another record of what it has sent. -/
def withSent (s : DiscoveryService) (l : List (Nat × Message)) : DiscoveryService := { s with sent := l }

/-- What the operation sends and does depends on everything but what was sent before. -/
def AppendsOnly (f : DiscoveryService → DiscoveryService) : Prop :=
  ∀ s l, ∃ out, (f s).sent = s.sent ++ out ∧ f (s.withSent l) = (f s).withSent (l ++ out)

theorem appends_nothing {s s' s'' : DiscoveryService} {l : List (Nat × Message)} (hsent : s'.sent = s.sent)
    (heq : s'' = s'.withSent l) : ∃ out, s'.sent = s.sent ++ out ∧ s'' = s'.withSent (l ++ out) := by
  refine ⟨[], ?_, ?_⟩
  · rw [List.append_nil, hsent]
  · rw [List.append_nil, heq]

theorem appendsOnly_id : AppendsOnly id := fun _ _ => appends_nothing rfl rfl

theorem AppendsOnly.comp {f g : DiscoveryService → DiscoveryService} (hf : AppendsOnly f) (hg : AppendsOnly g) :
    AppendsOnly fun s => g (f s) := by
  intro s l
  obtain ⟨out, hsent, hout⟩ := hf s l
  obtain ⟨out', hsent', hout'⟩ := hg (f s) (l ++ out)
  refine ⟨out ++ out', ?_, ?_⟩
  · rw [hsent', hsent, List.append_assoc]
  · show g (f (s.withSent l)) = _
    rw [hout, hout', List.append_assoc]

theorem appendsOnly_registerCommon (env : ServiceEnv) (c : Nat) (req : RegistrationRequest)
    (resp : RegistrationResponse) : AppendsOnly fun s => s.registerCommon env c req resp := by
  intro s l
  unfold registerCommon withSent
  dsimp only
  split
  · exact ⟨_, rfl, rfl⟩
  · split
    · exact ⟨_, rfl, rfl⟩
    · split <;> exact ⟨_, rfl, rfl⟩

theorem appendsOnly_handleP2pRegistration (env : ServiceEnv) (c : Nat) (req : RegistrationRequest) :
    AppendsOnly fun s => s.handleP2pRegistration env c req := by
  intro s l
  unfold handleP2pRegistration
  cases req.componentType with
  | vehicle =>
      dsimp only [withSent]
      split
      · exact ⟨_, rfl, rfl⟩
      · exact ⟨_, rfl, rfl⟩
  | mec => exact appendsOnly_registerCommon env c req _ s l
  | bridge | offloadManager | test => exact ⟨_, rfl, rfl⟩

theorem appendsOnly_handleTarget (env : ServiceEnv) (c : Nat) (req : RegistrationRequest) :
    AppendsOnly fun s => s.handleTarget env c req := by
  intro s l
  have hcommon : ∀ registry resp, ∃ out,
      ({ s with registry := registry }.registerCommon env c req resp).sent = s.sent ++ out ∧
        { s.withSent l with registry := registry }.registerCommon env c req resp =
          ({ s with registry := registry }.registerCommon env c req resp).withSent (l ++ out) :=
    fun registry resp => appendsOnly_registerCommon env c req resp { s with registry := registry } l
  unfold handleTarget
  dsimp only [withSent] at hcommon ⊢
  split
  · exact ⟨_, rfl, rfl⟩
  · split
    · split
      · exact ⟨_, rfl, rfl⟩
      · exact hcommon _ _
    · split
      · exact ⟨_, rfl, rfl⟩
      · exact hcommon _ _
    · split
      · exact ⟨_, rfl, rfl⟩
      · exact hcommon _ _
    · exact hcommon s.registry _

theorem appendsOnly_handleRegistration (env : ServiceEnv) (c : Nat) (req : RegistrationRequest) :
    AppendsOnly fun s => s.handleRegistration env c req := by
  intro s l
  unfold handleRegistration
  dsimp only [withSent]
  split
  · exact appendsOnly_handleP2pRegistration env c req s l
  · split
    · exact appendsOnly_handleTarget env c req { s with globalConfiguration := some req.humanReadableMessage } l
    · split
      · exact ⟨_, rfl, rfl⟩
      · exact appendsOnly_handleTarget env c req s l

theorem appendsOnly_onDataReceived (env : ServiceEnv) (c : Nat) (data : List Char) :
    AppendsOnly fun s => s.onDataReceived env c data := by
  intro s l
  unfold onDataReceived
  cases decodeMessage (String.ofList data) with
  | error status => exact ⟨_, rfl, rfl⟩
  | ok message =>
      cases message with
      | registrationRequest req => exact appendsOnly_handleRegistration env c req s l
      | keepalivePing ping =>
          dsimp only [handleKeepalive, withSent]
          split
          · exact appendsOnly_id s l
          · split
            · exact ⟨_, rfl, rfl⟩
            · exact appendsOnly_id s l
      | componentQuery query =>
          dsimp only [handleComponentQuery, withSent]
          split <;> exact ⟨_, rfl, rfl⟩
      | registrationResponse | keepaliveResponse | componentList | error => exact appendsOnly_id s l

theorem appendsOnly_onClientDisconnected (c : Nat) : AppendsOnly fun s => s.onClientDisconnected c := by
  intro s l
  unfold onClientDisconnected
  dsimp only [withSent]
  split
  · exact appends_nothing rfl rfl
  · split
    · exact appends_nothing rfl rfl
    · exact appends_nothing rfl rfl

theorem appendsOnly_purgeStaleClients (now : Nat) : AppendsOnly fun s => s.purgeStaleClients now := by
  have hclient : ∀ c, AppendsOnly fun s => purgeClient now s c := by
    intro c s l
    unfold purgeClient
    dsimp only [withSent]
    split
    · exact appendsOnly_id s l
    · split
      · exact appendsOnly_onClientDisconnected c s l
      · exact appendsOnly_id s l
  have hfold : ∀ ids : List Nat, AppendsOnly fun s => ids.foldl (purgeClient now) s := by
    intro ids
    induction ids with
    | nil => exact appendsOnly_id
    | cons c ids ih => exact (hclient c).comp ih
  exact fun s l => hfold s.registry.getAllClientIds s l

theorem appendsOnly_step (e : ServiceEvent) : AppendsOnly fun s => s.step e := by
  intro s l
  unfold step
  dsimp only [withSent]
  split
  · exact appendsOnly_id s l
  · cases e with
    | connected c ip => exact appends_nothing rfl rfl
    | disconnected c => exact appendsOnly_onClientDisconnected c s l
    | data c available env =>
        dsimp only
        split
        · exact appendsOnly_onDataReceived env c _ s l
        · exact appendsOnly_id s l
    | purge now => exact appendsOnly_purgeStaleClients now s l

/-- **What was sent has no bearing on what follows.** -/
theorem appendsOnly_run (es : List ServiceEvent) : AppendsOnly fun s => run step s es := by
  induction es with
  | nil => exact appendsOnly_id
  | cons e es ih => exact (appendsOnly_step e).comp ih

/-! ## Requests that leave no trace -/

/-- The registry with its positions and the configuration are as before, and so is everything the service sends from
now on. -/
structure ChangesNothing (s s' : DiscoveryService) : Prop where
  registry : s'.registry = s.registry
  config : s'.globalConfiguration = s.globalConfiguration
  later : ∀ es, ∃ out, (run step s es).sent = s.sent ++ out ∧ (run step s' es).sent = s'.sent ++ out

/-- What a request needs for its refusal to leave no trace: an OM sends the configuration that is there, any other
component is refused before the search or the search stays where it is. -/
def LeftAlone (s : DiscoveryService) (req : RegistrationRequest) : Prop :=
  s.p2pMode = true ∨
    match req.componentType with
    | .offloadManager => s.globalConfiguration = some req.humanReadableMessage
    | .vehicle | .mec =>
        s.globalConfiguration = none ∨ s.registry.isIdTaken req.groupId req.idInGroup = true ∨
          ComponentRegistry.Rests s.registry.bridgeClientIds s.registry.nextBridgeIdx
    | .bridge =>
        s.globalConfiguration = none ∨ s.registry.isIdTaken req.groupId req.idInGroup = true ∨
          ComponentRegistry.Rests s.registry.omClientIds s.registry.nextOmIdx
    | .test => True

theorem refused_eq_iff_leftAlone (s : DiscoveryService) (req : RegistrationRequest) :
    s.refusedRegistry req = s.registry ∧ s.refusedConfiguration req = s.globalConfiguration ↔ s.LeftAlone req := by
  have hregistry : s.refusedRegistry req = s.registry ↔
      s.p2pMode = true ∨ (req.componentType ≠ .offloadManager ∧ s.globalConfiguration = none) ∨
        s.registry.isIdTaken req.groupId req.idInGroup = true ∨
          (s.registry.search req.componentType).1 = s.registry := by
    unfold refusedRegistry
    split_ifs with h
    · apply iff_of_true rfl
      rcases h with hmode | hnone | htaken
      · exact .inl hmode
      · exact .inr (.inl hnone)
      · exact .inr (.inr (.inl htaken))
    · rw [not_or, not_or] at h
      rw [or_iff_right h.1, or_iff_right h.2.1, or_iff_right h.2.2]
  have hconfig : s.refusedConfiguration req = s.globalConfiguration ↔
      s.p2pMode = true ∨ req.componentType ≠ .offloadManager ∨
        s.globalConfiguration = some req.humanReadableMessage := by
    unfold refusedConfiguration
    split_ifs with h
    · simp [h.1, h.2, eq_comm]
    · apply iff_of_true rfl
      cases hp : s.p2pMode with
      | true => exact .inl rfl
      | false => exact .inr (.inl fun hom => h ⟨hp, hom⟩)
  rw [hregistry, hconfig]
  unfold LeftAlone ComponentRegistry.search
  cases req.componentType <;>
    simp [ComponentRegistry.findAvailableBridge_eq_self_iff, ComponentRegistry.findAvailableOm_eq_self_iff]

theorem changesNothing_iff {s' : DiscoveryService} {registry : ComponentRegistry} {config : Option String}
    {l : List (Nat × Message)}
    (heq : s' = { s with registry := registry, globalConfiguration := config, sent := l }) :
    s.ChangesNothing s' ↔ registry = s.registry ∧ config = s.globalConfiguration := by
  rw [heq]
  refine ⟨fun h => ⟨h.registry, h.config⟩, ?_⟩
  rintro ⟨rfl, rfl⟩
  refine ⟨rfl, rfl, fun es => ?_⟩
  obtain ⟨out, hsent, hrun⟩ := appendsOnly_run es s l
  refine ⟨out, hsent, ?_⟩
  exact congrArg sent hrun

/-- **A rejected registration** leaves no trace exactly if its request meets `LeftAlone`. -/
theorem changesNothing_iff_leftAlone (s : DiscoveryService) (env : ServiceEnv) (c : Nat) (req : RegistrationRequest)
    (r : RegistrationResponse) (hanswer : s.Answered env c req r) (hcode : r.responseCode ≠ .success) :
    s.ChangesNothing (s.handleRegistration env c req) ↔ s.LeftAlone req := by
  have hrefused := refused_handleRegistration s env c req r hanswer hcode
  rw [changesNothing_iff hrefused]
  exact refused_eq_iff_leftAlone s req

/-- A request of a component that listens on the port. -/
def sampleRequest (type : ComponentType) (groupId idInGroup : UInt8) (port text : String) : RegistrationRequest where
  componentType := type
  idRequestType := .static
  groupId := groupId
  idInGroup := idInGroup
  componentName := "component"
  listenAddress := "0.0.0.0"
  listenPort := port
  humanReadableMessage := text

/-- An OM with the configuration `A` and a Bridge are registered. -/
def withOmAndBridge : DiscoveryService :=
  ((((init false).onClientConnected 1 ⟨10, 0, 0, 1⟩).handleRegistration { now := 0 } 1
    (sampleRequest .offloadManager 1 1 "8100" "A")).onClientConnected 2 ⟨10, 0, 0, 2⟩).handleRegistration { now := 0 } 2
    (sampleRequest .bridge 5 1 "7000" "bridge")

/-- A second OM with the id of the first is refused, and its configuration `B` stays; a vehicle whose port is no number
is refused, and the round robin has moved on. -/
theorem refused_om_and_vehicle_change_state :
    (∃ r, withOmAndBridge.Answered { now := 1 } 3 (sampleRequest .offloadManager 1 1 "8100" "B") r ∧
        r.responseCode = .idConflict ∧
        ¬ withOmAndBridge.ChangesNothing
          (withOmAndBridge.handleRegistration { now := 1 } 3 (sampleRequest .offloadManager 1 1 "8100" "B"))) ∧
      ∃ r, withOmAndBridge.Answered { now := 1 } 3 (sampleRequest .vehicle 2 10 "port" "vehicle") r ∧
        r.responseCode = .invalidRequest ∧
        ¬ withOmAndBridge.ChangesNothing
          (withOmAndBridge.handleRegistration { now := 1 } 3 (sampleRequest .vehicle 2 10 "port" "vehicle")) := by
  refine ⟨⟨_, rfl, rfl, fun h => ?_⟩, ⟨_, rfl, rfl, fun h => ?_⟩⟩
  · exact absurd h.config (by decide)
  · exact absurd h.registry (by decide)

/-- A vehicle with the id of the Bridge is refused without a trace. -/
theorem refused_vehicle_changes_nothing : ∃ r,
    withOmAndBridge.Answered { now := 1 } 3 (sampleRequest .vehicle 5 1 "6000" "vehicle") r ∧
      r.responseCode ≠ .success ∧
      withOmAndBridge.ChangesNothing
        (withOmAndBridge.handleRegistration { now := 1 } 3 (sampleRequest .vehicle 5 1 "6000" "vehicle")) := by
  have hleft : withOmAndBridge.LeftAlone (sampleRequest .vehicle 5 1 "6000" "vehicle") :=
    .inr (.inr (.inl (by decide)))
  have hanswer : withOmAndBridge.Answered { now := 1 } 3 (sampleRequest .vehicle 5 1 "6000" "vehicle")
      { newResponse { now := 1 } (sampleRequest .vehicle 5 1 "6000" "vehicle") with
        responseCode := .idConflict
        humanReadableMessage := "Component ID is already in use." } := rfl
  have hcode : ResponseCode.idConflict ≠ .success := by decide
  exact ⟨_, hanswer, hcode, (changesNothing_iff_leftAlone _ _ _ _ _ hanswer hcode).mpr hleft⟩

end DiscoveryService

end EdgeOffloading.Discovery
