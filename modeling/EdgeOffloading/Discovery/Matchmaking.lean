import EdgeOffloading.Discovery.Walk

/-!
# Matchmaking

In the p2p mode the service keeps a list of MECs and looks up, for a vehicle, the MEC of the same id. The look-up scans
the registry in whatever order its map is walked; that there is at most one match is no merit of the scan.

* `Matchmaker.stepIn`: what a step keeps of the registry and the connections;
* `answersVehicle`: the answer to a vehicle is the same in every order of the scan;
* `p2p_matchmaking`: the answers to the vehicles, in every run.
-/

namespace EdgeOffloading.Discovery

open Run

theorem find?_eq_some_of_perm {α : Type} {p : α → Bool} {l l' : List α} {a : α} (hl : l'.Perm l) (ha : a ∈ l)
    (hpa : p a = true) (hone : ∀ b ∈ l, p b = true → b = a) : l'.find? p = some a := by
  cases hfind : l'.find? p with
  | none => exact absurd hpa (List.find?_eq_none.mp hfind a (hl.mem_iff.mpr ha))
  | some b =>
      have hb := hl.mem_iff.mp (List.mem_of_find?_eq_some hfind)
      rw [hone b hb (List.find?_some hfind)]

namespace DiscoveryService

variable {s : DiscoveryService} {env : ServiceEnv} {c : Nat} {req : RegistrationRequest}

/-! ## The ways through a registration -/

/-- The component is the MEC that the vehicle looks for. -/
def isPeer (req : RegistrationRequest) (comp : ComponentInfo) : Bool :=
  decide (comp.componentType = .mec ∧ comp.groupId = req.groupId ∧ comp.idInGroup = req.idInGroup)

/-- The answer to a vehicle for which the scan found a MEC. -/
def matchResponse (env : ServiceEnv) (req : RegistrationRequest) (comp : ComponentInfo) : RegistrationResponse :=
  { newResponse env req with
    responseCode := .success
    connectionTargetType := "MEC"
    connectionTargetAddress := comp.listenAddress
    connectionTargetPort := toString comp.listenPort.toNat
    humanReadableMessage := "P2P Match found." }

/-- The answer to a vehicle for which it found none. -/
def waitResponse (s : DiscoveryService) (env : ServiceEnv) (c : Nat) (req : RegistrationRequest) :
    RegistrationResponse :=
  s.detect c
    { newResponse env req with
      responseCode := .wait, humanReadableMessage := "Waiting for peer MEC to register." }

theorem handleRegistration_of_p2p (hmode : s.p2pMode = true) (env : ServiceEnv) (c : Nat)
    (req : RegistrationRequest) : s.handleRegistration env c req = s.handleP2pRegistration env c req := by
  unfold handleRegistration
  rw [if_pos hmode]

theorem handleRegistration_of_vehicle (hmode : s.p2pMode = true) (htype : req.componentType = .vehicle)
    (env : ServiceEnv) (c : Nat) :
    s.handleRegistration env c req = s.sendRegistration c
      ((s.registry.getAllComponents.find? (isPeer req)).elim (s.waitResponse env c req) (matchResponse env req)) := by
  rw [handleRegistration_of_p2p hmode]
  unfold handleP2pRegistration isPeer
  rw [htype]
  dsimp only
  split
  · rename_i hfind
    rw [hfind]
    rfl
  · rename_i hfind
    rw [hfind]
    rfl

theorem handleRegistration_of_not_mec (hmode : s.p2pMode = true) (htype : req.componentType ≠ .mec)
    (env : ServiceEnv) (c : Nat) : ∃ r, s.handleRegistration env c req = s.sendRegistration c r := by
  rw [handleRegistration_of_p2p hmode]
  unfold handleP2pRegistration
  dsimp only
  split
  · split
    · exact ⟨_, rfl⟩
    · exact ⟨_, rfl⟩
  · rename_i hmec
    exact absurd hmec htype
  · exact ⟨_, rfl⟩

theorem onClientDisconnected_of_p2p (hmode : s.p2pMode = true) (c : Nat) :
    s.onClientDisconnected c =
      { s with
        clientIpAddresses := eraseKey s.clientIpAddresses c
        registry := s.registry.unregisterComponent c } := by
  unfold onClientDisconnected
  cases hc : s.registry.findByClientId c with
  | none => rw [ComponentRegistry.unregisterComponent_of_none hc]
  | some component =>
      have hno : ¬((!s.p2pMode) = true ∧ component.componentType = .offloadManager ∧ (!s.shuttingDown) = true) := by
        intro h
        rw [hmode] at h
        exact absurd h.1 (by decide)
      dsimp only
      rw [if_neg hno]

/-! ## The invariant -/

/-- A new connection has an id that no other connection has. -/
def FreshConnection (s : DiscoveryService) (w : WalkedEvent) : Prop :=
  ∀ c ip, w.event = .connected c ip → s.clientIpAddresses.lookup c = none

/-- What holds between the registry and the connections in the p2p mode: the records are MECs, each under an id of its
own, and each with the address from which its client is connected. -/
structure Matchmaker (s : DiscoveryService) : Prop where
  mode : s.p2pMode = true
  named : s.registry.Named
  mecs : ∀ c info, s.registry.findByClientId c = some info → info.componentType = .mec
  address : ∀ c info, s.registry.findByClientId c = some info → s.clientIpAddresses.lookup c = some info.listenAddress

theorem matchmaker_init : Matchmaker (init true) := by
  refine ⟨rfl, ComponentRegistry.named_empty, fun c info hinfo => ?_, fun c info hinfo => ?_⟩
  · cases hinfo
  · cases hinfo

theorem Matchmaker.sendResponse (h : Matchmaker s) (c : Nat) (m : Message) : Matchmaker (s.sendResponse c m) :=
  ⟨h.mode, h.named, h.mecs, h.address⟩

theorem Matchmaker.onClientConnected (h : Matchmaker s) (hnew : s.clientIpAddresses.lookup c = none) (ip : Ipv4) :
    Matchmaker (s.onClientConnected c ip) := by
  refine ⟨h.mode, h.named, h.mecs, fun c' info hinfo => ?_⟩
  have hlookup := h.address c' info hinfo
  show (insertKey s.clientIpAddresses c ip.ntoa).lookup c' = _
  rw [lookup_insertKey, if_neg, hlookup]
  rintro rfl
  rw [hnew] at hlookup
  cases hlookup

theorem Matchmaker.onClientDisconnected (h : Matchmaker s) (c : Nat) : Matchmaker (s.onClientDisconnected c) := by
  have hrest : ∀ c' info, (s.registry.unregisterComponent c).findByClientId c' = some info →
      c' ≠ c ∧ s.registry.findByClientId c' = some info :=
    fun _ _ => ComponentRegistry.findByClientId_unregister_eq_some.mp
  rw [onClientDisconnected_of_p2p h.mode]
  refine ⟨h.mode, h.named.unregisterComponent c, fun c' info hinfo => ?_, fun c' info hinfo => ?_⟩
  · exact h.mecs c' info (hrest c' info hinfo).2
  · obtain ⟨hne, hbefore⟩ := hrest c' info hinfo
    show (eraseKey s.clientIpAddresses c).lookup c' = _
    rw [lookup_eraseKey, if_neg hne]
    exact h.address c' info hbefore

theorem Matchmaker.purgeIn (h : Matchmaker s) (order : List Nat) (now : Nat) : Matchmaker (s.purgeIn order now) := by
  have hdisconnect : ∀ t c, Matchmaker t → Matchmaker (t.onClientDisconnected c) :=
    fun _ c ht => ht.onClientDisconnected c
  exact foldl_purgeClient hdisconnect now order h

theorem Matchmaker.handleKeepalive (h : Matchmaker s) (env : ServiceEnv) (c : Nat) (ping : KeepalivePing) :
    Matchmaker (s.handleKeepalive env c ping) := by
  rcases s.handleKeepalive_cases env c ping with hsame | ⟨groupId, idInGroup, pong, heq⟩
  · rw [hsame]
    exact h
  · have hback : ∀ c' info, (s.registry.updateKeepalive groupId idInGroup env.now).1.findByClientId c' = some info →
        ∃ old, s.registry.findByClientId c' = some old ∧
          info.componentType = old.componentType ∧ info.listenAddress = old.listenAddress := by
      intro c' info hinfo
      rcases ComponentRegistry.findByClientId_updateKeepalive s.registry groupId idInGroup env.now c' with
        hsame | ⟨old, hold, hnew⟩
      · exact ⟨info, hsame ▸ hinfo, rfl, rfl⟩
      · rw [hnew] at hinfo
        rw [← Option.some.inj hinfo]
        exact ⟨old, hold, rfl, rfl⟩
    rw [heq]
    refine ⟨h.mode, h.named.updateKeepalive _ _ _, fun c' info hinfo => ?_, fun c' info hinfo => ?_⟩
    · obtain ⟨old, hold, htype, -⟩ := hback c' info hinfo
      rw [htype]
      exact h.mecs c' old hold
    · obtain ⟨old, hold, -, haddress⟩ := hback c' info hinfo
      rw [haddress]
      exact h.address c' old hold

theorem Matchmaker.handleRegistration (h : Matchmaker s) (hclient : (s.clientIpAddresses.lookup c).isSome = true)
    (env : ServiceEnv) (req : RegistrationRequest) : Matchmaker (s.handleRegistration env c req) := by
  by_cases hmec : req.componentType = .mec
  · have hreg := registering_handleRegistration s env c req
    obtain ⟨r, config, hstate⟩ := hreg.state
    have hips : (s.handleRegistration env c req).clientIpAddresses = s.clientIpAddresses := by rw [hstate]
    have hmode : (s.handleRegistration env c req).p2pMode = true := by
      rw [hstate]
      exact h.mode
    refine ⟨hmode, hreg.evolves.named h.named, fun c' info hinfo => ?_, fun c' info hinfo => ?_⟩
    · rcases hreg.record hinfo with ⟨-, port, rfl⟩ | hold
      · exact hmec
      · exact h.mecs c' info hold
    · rw [hips]
      rcases hreg.record hinfo with ⟨rfl, port, rfl⟩ | hold
      · -- the record has the address that the transport has seen
        obtain ⟨ip, hip⟩ := Option.isSome_iff_exists.mp hclient
        unfold registeredInfo
        rw [hip]
        rfl
      · exact h.address c' info hold
  · obtain ⟨r, heq⟩ := handleRegistration_of_not_mec h.mode hmec env c
    rw [heq]
    exact h.sendResponse c _

/-- **One step** keeps the records and the connections in agreement. -/
theorem Matchmaker.stepIn {w : WalkedEvent} (h : Matchmaker s) (hfresh : FreshConnection s w) :
    Matchmaker (s.stepIn w) := by
  have hstep := stepped_stepIn s w
  generalize s.stepIn w = s' at hstep ⊢
  cases hstep with
  | idle hreg hping => exact h
  | connected c ip hrun hevent => exact h.onClientConnected (hfresh c ip hevent) ip
  | disconnected c hrun hevent => exact h.onClientDisconnected c
  | purged now hrun hevent => exact h.purgeIn w.order now
  | registered c env req hreg => exact h.handleRegistration (registration_eq_some hreg).2.1 env req
  | pinged c env ping hreg hping => exact h.handleKeepalive env c ping
  | answered c m hreg hping => exact h.sendResponse c m

/-! ## Vehicles -/

/-- The service with the map of its registry in another order. -/
def walkedIn (s : DiscoveryService) (entries : List (Nat × ComponentInfo)) : DiscoveryService :=
  { s with registry := { s.registry with registryByClientId := entries } }

/-- The answer to a vehicle: it is the same in every order of the registry, it is SUCCESS exactly if a MEC of the same
id is registered, and then it names the address from which this MEC is connected and the port of its registration. -/
structure AnswersVehicle (s : DiscoveryService) (env : ServiceEnv) (c : Nat) (req : RegistrationRequest)
    (r : RegistrationResponse) : Prop where
  order : ∀ entries : List (Nat × ComponentInfo), entries.Perm s.registry.registryByClientId →
    (s.walkedIn entries).handleRegistration env c req = (s.walkedIn entries).sendRegistration c r
  success : r.responseCode = .success ↔ ∃ m info, s.registry.findByClientId m = some info ∧
    info.componentType = .mec ∧ info.componentIdPair = (req.groupId, req.idInGroup)
  target : ∀ m info, s.registry.findByClientId m = some info → info.componentType = .mec →
    info.componentIdPair = (req.groupId, req.idInGroup) →
      s.clientIpAddresses.lookup m = some r.connectionTargetAddress ∧
        r.connectionTargetPort = toString info.listenPort.toNat

theorem isPeer_iff {comp : ComponentInfo} : isPeer req comp = true ↔
    comp.componentType = .mec ∧ comp.componentIdPair = (req.groupId, req.idInGroup) := by
  unfold isPeer ComponentInfo.componentIdPair
  rw [decide_eq_true_iff, Prod.mk.injEq]

theorem Matchmaker.eq_of_isPeer (h : Matchmaker s) {comp comp' : ComponentInfo}
    (hmem : comp ∈ s.registry.getAllComponents) (hmem' : comp' ∈ s.registry.getAllComponents)
    (hpeer : isPeer req comp = true) (hpeer' : isPeer req comp' = true) : comp' = comp := by
  obtain ⟨m, hm⟩ := h.named.mem_getAllComponents_iff.mp hmem
  obtain ⟨m', hm'⟩ := h.named.mem_getAllComponents_iff.mp hmem'
  have hpair := (isPeer_iff.mp hpeer').2.trans (isPeer_iff.mp hpeer).2.symm
  rw [h.named.eq_of_pair hm' hm hpair, hm] at hm'
  exact (Option.some.inj hm').symm

/-- **The answer to a vehicle.** -/
theorem Matchmaker.answersVehicle (h : Matchmaker s) (htype : req.componentType = .vehicle) (env : ServiceEnv)
    (c : Nat) : ∃ r, AnswersVehicle s env c req r := by
  have hmode : ∀ entries, (s.walkedIn entries).p2pMode = true := fun _ => h.mode
  by_cases hex : ∃ comp ∈ s.registry.getAllComponents, isPeer req comp = true
  · obtain ⟨comp, hmem, hpeer⟩ := hex
    have hone : ∀ comp' ∈ s.registry.getAllComponents, isPeer req comp' = true → comp' = comp :=
      fun comp' hmem' hpeer' => h.eq_of_isPeer hmem hmem' hpeer hpeer'
    refine ⟨matchResponse env req comp, fun entries hentries => ?_, ?_, fun m info hinfo hmec hpair => ?_⟩
    · have hfind : (s.walkedIn entries).registry.getAllComponents.find? (isPeer req) = some comp :=
        find?_eq_some_of_perm (hentries.map Prod.snd) hmem hpeer hone
      rw [handleRegistration_of_vehicle (hmode entries) htype, hfind]
      rfl
    · obtain ⟨m, hm⟩ := h.named.mem_getAllComponents_iff.mp hmem
      exact ⟨fun _ => ⟨m, comp, hm, isPeer_iff.mp hpeer⟩, fun _ => rfl⟩
    · have hcomp := hone info (h.named.mem_getAllComponents_iff.mpr ⟨m, hinfo⟩) (isPeer_iff.mpr ⟨hmec, hpair⟩)
      rw [hcomp] at hinfo ⊢
      exact ⟨h.address m comp hinfo, rfl⟩
  · have hnone : ¬∃ m info, s.registry.findByClientId m = some info ∧ info.componentType = .mec ∧
        info.componentIdPair = (req.groupId, req.idInGroup) := by
      rintro ⟨m, info, hinfo, hpeer⟩
      exact hex ⟨info, h.named.mem_getAllComponents_iff.mpr ⟨m, hinfo⟩, isPeer_iff.mpr hpeer⟩
    have hwait : (s.waitResponse env c req).responseCode = .wait := responseCode_detect s c _
    refine ⟨s.waitResponse env c req, fun entries hentries => ?_, ?_, fun m info hinfo hmec hpair => ?_⟩
    · have hfind : (s.walkedIn entries).registry.getAllComponents.find? (isPeer req) = none := by
        apply List.find?_eq_none.mpr
        intro comp hcomp hpeer
        exact hex ⟨comp, (hentries.map Prod.snd).mem_iff.mp hcomp, hpeer⟩
      rw [handleRegistration_of_vehicle (hmode entries) htype, hfind]
      rfl
    · rw [hwait]
      exact ⟨fun hcode => absurd hcode (by decide), fun hex => absurd hex hnone⟩
    · exact absurd ⟨m, info, hinfo, hmec, hpair⟩ hnone

/-- The service after a run in the p2p mode. -/
def p2pAfter (ws : List WalkedEvent) : DiscoveryService := run stepIn (init true) ws

/-- **P2P matchmaking.** In every run, whatever connects, registers, pings, leaves or is purged, and in whatever order:
the registry holds MECs only, no two of them with one id, and a vehicle that registers is answered as `AnswersVehicle`
says. -/
theorem p2p_matchmaking (ws : List WalkedEvent) (hfresh : Along stepIn FreshConnection (init true) ws) :
    (∀ c info, (p2pAfter ws).registry.findByClientId c = some info → info.componentType = .mec) ∧
    (∀ c c' info info', (p2pAfter ws).registry.findByClientId c = some info →
      (p2pAfter ws).registry.findByClientId c' = some info' → info.componentIdPair = info'.componentIdPair → c = c') ∧
    ∀ e c env req, (p2pAfter ws).registration e = some (c, env, req) → req.componentType = .vehicle →
      ∃ r, Registers (p2pAfter ws) e c req r ∧ AnswersVehicle (p2pAfter ws) env c req r ∧
        ((p2pAfter ws).step e).registry = (p2pAfter ws).registry := by
  have hmatch : Matchmaker (p2pAfter ws) :=
    run_invariant stepIn (fun s w h hw => h.stepIn hw) ws (init true) matchmaker_init hfresh
  refine ⟨hmatch.mecs, fun c c' info info' hc hc' hpair => hmatch.named.eq_of_pair hc hc' hpair, ?_⟩
  intro e c env req hreg htype
  obtain ⟨r, hr⟩ := hmatch.answersVehicle htype env c
  have hstep : (p2pAfter ws).step e = (p2pAfter ws).sendRegistration c r := by
    rw [step_of_registration hreg]
    exact hr.order _ (List.Perm.refl _)
  refine ⟨r, ⟨⟨env, hreg⟩, ?_⟩, hr, ?_⟩
  · rw [hstep]
    rfl
  · rw [hstep]
    rfl

/-- A MEC connects and registers, and a vehicle connects. -/
def peerRun : List WalkedEvent :=
  [⟨.connected 5 ⟨10, 0, 0, 7⟩, []⟩,
    ⟨.data 5 "DISC:REG;M;S;1;2;Mec;0.0.0.0;9000;mec".toList { now := 0 }, []⟩, ⟨.connected 6 ⟨10, 0, 0, 8⟩, []⟩]

/-- The vehicle registers with the id of the MEC. -/
def peerEvent : ServiceEvent := .data 6 "DISC:REG;V;S;1;2;Vehicle;0.0.0.0;6000;vehicle".toList { now := 1 }

def peerRequest : RegistrationRequest where
  componentType := .vehicle
  idRequestType := .static
  groupId := 1
  idInGroup := 2
  componentName := "Vehicle"
  listenAddress := "0.0.0.0"
  listenPort := "6000"
  humanReadableMessage := "vehicle"

theorem p2p_matchmaking_peerRun :
    ∃ r, Registers (p2pAfter peerRun) peerEvent 6 peerRequest r ∧ r.responseCode = .success ∧
      r.connectionTargetAddress = "10.0.0.7" ∧ r.connectionTargetPort = "9000" := by
  have hfresh : Along stepIn FreshConnection (init true) peerRun := by
    refine ⟨?_, ?_, ?_, trivial⟩
    · rintro c ip ⟨⟩
      rfl
    · rintro c ip ⟨⟩
    · rintro c ip ⟨⟩
      decide +kernel
  have hreg : (p2pAfter peerRun).registration peerEvent = some (6, { now := 1 }, peerRequest) := by decide +kernel
  have hmec : ∃ info, (p2pAfter peerRun).registry.findByClientId 5 = some info ∧ info.componentType = .mec ∧
      info.componentIdPair = (1, 2) ∧ info.listenPort = 9000 := by
    have h : ((p2pAfter peerRun).registry.findByClientId 5).map (fun info =>
        (info.componentType, info.componentIdPair, info.listenPort)) = some (.mec, (1, 2), 9000) := by decide +kernel
    obtain ⟨info, hinfo, heq⟩ := Option.map_eq_some_iff.mp h
    obtain ⟨htype, hpair, hport⟩ := by simpa only [Prod.mk.injEq] using heq
    exact ⟨info, hinfo, htype, hpair, hport⟩
  have haddress : (p2pAfter peerRun).clientIpAddresses.lookup 5 = some "10.0.0.7" := by decide +kernel
  obtain ⟨-, -, hvehicles⟩ := p2p_matchmaking peerRun hfresh
  obtain ⟨r, hregisters, hr, -⟩ := hvehicles peerEvent 6 _ peerRequest hreg rfl
  obtain ⟨info, hinfo, htype, hpair, hport⟩ := hmec
  obtain ⟨hlookup, htarget⟩ := hr.target 5 info hinfo htype hpair
  rw [haddress] at hlookup
  refine ⟨r, hregisters, hr.success.mpr ⟨5, info, hinfo, htype, hpair⟩, (Option.some.inj hlookup).symm, ?_⟩
  rw [htarget, hport]
  rfl

end DiscoveryService

end EdgeOffloading.Discovery
