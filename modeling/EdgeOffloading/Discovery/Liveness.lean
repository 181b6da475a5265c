import EdgeOffloading.Discovery.Walk

/-!
# Signs of life

The purge goes by `last_seen`. `handleKeepalive` sets it for the component whose id is in the ping, without a look at
the connection the ping came over. In the p2p mode a vehicle has the id of its MEC and is not in the registry itself, so
the pings of the vehicle are signs of life of the MEC.

* `lastSeen_of_pinging_none`: nothing but a ping changes the time of a component;
* `keepsItself_iff`: one step, exactly;
* `along_keepsItself_iff`: a run, in either mode.
-/

namespace EdgeOffloading.Discovery

open Run

namespace DiscoveryService

variable {s : DiscoveryService} {w : WalkedEvent}

/-- If the step changes the time of a component that stays registered, it is a ping over the connection of this
component. -/
def KeepsItself (s : DiscoveryService) (w : WalkedEvent) : Prop :=
  ∀ c info info', s.registry.findByClientId c = some info → (s.stepIn w).registry.findByClientId c = some info' →
    info'.componentIdPair = info.componentIdPair → info'.lastSeen ≠ info.lastSeen →
      ∃ env ping, s.pinging w.event = some (c, env, ping)

/-- A ping that names a component of another connection does not differ in time from what the record has. -/
def OwnPings (s : DiscoveryService) (w : WalkedEvent) : Prop :=
  ∀ c env ping target info, s.pinging w.event = some (c, env, ping) → s.pinged ping = some target →
    s.registry.findByClientId target = some info → target = c ∨ env.now = info.lastSeen

theorem lastSeen_handleRegistration (h : s.registry.Named) (env : ServiceEnv) (c : Nat) (req : RegistrationRequest)
    {c' : Nat} {info info' : ComponentInfo} (hinfo : s.registry.findByClientId c' = some info)
    (hinfo' : (s.handleRegistration env c req).registry.findByClientId c' = some info')
    (hpair : info'.componentIdPair = info.componentIdPair) : info'.lastSeen = info.lastSeen := by
  rcases (registering_handleRegistration s env c req).find with hsame | ⟨hfree, port, hfind⟩
  · rw [hsame, hinfo] at hinfo'
    rw [Option.some.inj hinfo']
  · rw [hfind] at hinfo'
    split at hinfo'
    · have hnew : info'.componentIdPair = (req.groupId, req.idInGroup) := by
        rw [← Option.some.inj hinfo']
        rfl
      have htaken := h.lookup c' info hinfo
      rw [← hpair, hnew] at htaken
      rw [ComponentRegistry.isIdTaken_iff.mpr ⟨c', htaken⟩] at hfree
      cases hfree
    · rw [hinfo] at hinfo'
      rw [Option.some.inj hinfo']

/-- **Without a ping** no component has a new time. -/
theorem lastSeen_of_pinging_none (h : s.registry.Named) (hping : s.pinging w.event = none) {c : Nat}
    {info info' : ComponentInfo} (hinfo : s.registry.findByClientId c = some info)
    (hinfo' : (s.stepIn w).registry.findByClientId c = some info')
    (hpair : info'.componentIdPair = info.componentIdPair) : info'.lastSeen = info.lastSeen := by
  -- a step that only takes records leaves this one as it was
  have hkept : s.registry.findByClientId c = some info' → info'.lastSeen = info.lastSeen := by
    intro h
    rw [hinfo] at h
    rw [Option.some.inj h]
  have hstep := stepped_stepIn s w
  generalize s.stepIn w = s' at hstep hinfo'
  cases hstep with
  | idle hreg _ => exact hkept hinfo'
  | connected c' ip hrun hevent => exact hkept hinfo'
  | disconnected c' hrun hevent => exact hkept (find_of_onClientDisconnected hinfo')
  | purged now hrun hevent => exact hkept (find_of_purgeIn hinfo')
  | registered c' env req hreg => exact lastSeen_handleRegistration h env c' req hinfo hinfo' hpair
  | pinged c' env ping hreg hpinged =>
      rw [hping] at hpinged
      cases hpinged
  | answered c' m hreg _ => exact hkept hinfo'

/-- **One step** leaves the times to the components exactly if a ping for another component comes at no new time. -/
theorem keepsItself_iff (h : s.registry.Named) : KeepsItself s w ↔ OwnPings s w := by
  constructor
  · intro hkeeps c env ping target info hping htarget hinfo
    by_contra hnot
    obtain ⟨hne, htime⟩ := not_or.mp hnot
    have hinfo' : (s.stepIn w).registry.findByClientId target = some { info with lastSeen := env.now } := by
      rw [stepIn_of_pinging hping, find_handleKeepalive, if_pos htarget, hinfo]
      rfl
    obtain ⟨env', ping', hping'⟩ := hkeeps target info _ hinfo hinfo' rfl htime
    rw [hping] at hping'
    exact hne (Prod.mk.inj (Option.some.inj hping')).1.symm
  · intro hown c info info' hinfo hinfo' hpair hne
    cases hping : s.pinging w.event with
    | none => exact absurd (lastSeen_of_pinging_none h hping hinfo hinfo' hpair) hne
    | some x =>
        obtain ⟨c', env, ping⟩ := x
        rw [stepIn_of_pinging hping, find_handleKeepalive, hinfo] at hinfo'
        split at hinfo'
        · rename_i htarget
          rcases hown c' env ping c info hping htarget hinfo with rfl | htime
          · exact ⟨env, ping, rfl⟩
          · rw [← Option.some.inj hinfo'] at hne
            exact absurd htime hne
        · rw [Option.some.inj hinfo'] at hne
          exact absurd rfl hne

/-- **Only a component keeps itself alive**, all along a run, exactly if no ping of the run that names a component of
another connection comes at a time other than the last one of this component. -/
theorem along_keepsItself_iff (p2pMode : Bool) (ws : List WalkedEvent) :
    Along stepIn KeepsItself (init p2pMode) ws ↔ Along stepIn OwnPings (init p2pMode) ws :=
  along_congr (I := fun s => s.registry.Named) stepIn (fun s w h => (evolves_stepIn s w).named h)
    (fun _ _ h => keepsItself_iff h) ws (init p2pMode) ComponentRegistry.named_empty

/-- The MEC registers and is not heard of again. Its vehicle, which has the same id, pings after ten seconds, and the
purge comes after sixteen. -/
def foreignPingRun : List WalkedEvent :=
  [⟨.connected 5 ⟨10, 0, 0, 7⟩, []⟩,
    ⟨.data 5 "DISC:REG;M;S;1;2;Mec;0.0.0.0;9000;mec".toList { now := 0 }, []⟩,
    ⟨.connected 6 ⟨10, 0, 0, 8⟩, []⟩,
    ⟨.data 6 "DISC:REG;V;S;1;2;Vehicle;0.0.0.0;6000;vehicle".toList { now := 1 }, []⟩,
    ⟨.data 6 "DISC:PNG;1.2;OK;Keepalive".toList { now := 10000000000 }, []⟩, ⟨.purge 16000000000, [5]⟩]

theorem foreignPingRun_not_keepsItself :
    ¬ Along stepIn KeepsItself (init true) foreignPingRun ∧
      ((run stepIn (init true) foreignPingRun).registry.findByClientId 5).map ComponentInfo.lastSeen =
        some 10000000000 := by
  have hpings : ¬ Along stepIn OwnPings (init true) foreignPingRun := by
    rw [along_iff_forall_step]
    intro hall
    have hown := hall (foreignPingRun.take 4) _ ⟨foreignPingRun.drop 5, rfl⟩
    have hping : (run stepIn (init true) (foreignPingRun.take 4)).pinging
        (.data 6 "DISC:PNG;1.2;OK;Keepalive".toList { now := 10000000000 }) =
          some (6, { now := 10000000000 }, ⟨"1.2", "OK", "Keepalive"⟩) := by decide +kernel
    have htarget : (run stepIn (init true) (foreignPingRun.take 4)).pinged ⟨"1.2", "OK", "Keepalive"⟩ = some 5 := by
      decide +kernel
    have hseen : ((run stepIn (init true) (foreignPingRun.take 4)).registry.findByClientId 5).map
        ComponentInfo.lastSeen = some 0 := by decide +kernel
    obtain ⟨info, hinfo, htime⟩ := Option.map_eq_some_iff.mp hseen
    rcases hown 6 _ _ 5 info hping htarget hinfo with hsame | hnow
    · exact absurd hsame (by decide)
    · rw [htime] at hnow
      exact absurd hnow (by decide)
  refine ⟨fun h => hpings ?_, by decide +kernel⟩
  rw [along_iff_forall_step] at h ⊢
  intro pre e hpre
  exact (keepsItself_iff (named_run_stepIn true pre)).mp (h pre e hpre)

end DiscoveryService

end EdgeOffloading.Discovery
