import EdgeOffloading.Discovery.Walk

/-!
# The purge

Every few seconds the service walks over the clients of its registry and disconnects those that have not been heard of.
A disconnect calls back, and the callback of the OM shuts the service down in the middle of the walk.

* `find_purgeIn`, `find_purgeIn_of_om`: what is left of the records, for every order of the walk;
* `Watched.stepIn`: what a step keeps: registered clients are connected, and their times are those of the last sign of
  life;
* `purge_exact`: a purge after any run.
-/

namespace EdgeOffloading.Discovery

open Run

namespace DiscoveryService

variable {s : DiscoveryService} {now : Nat}

/-! ## One client -/

/-- The records and the connections of a running service. -/
structure Linked (s : DiscoveryService) : Prop where
  running : s.shuttingDown = false
  connected : ∀ c info, s.registry.findByClientId c = some info → (s.clientIpAddresses.lookup c).isSome = true

/-- The client has a record whose time is more than the timeout ago. -/
def Stale (s : DiscoveryService) (now c : Nat) : Prop :=
  ∃ info, s.registry.findByClientId c = some info ∧ info.lastSeen + keepaliveTimeout < now

/-- The service shuts down with this client. -/
def Critical (s : DiscoveryService) (c : Nat) : Prop :=
  s.p2pMode = false ∧ s.registry.Registered .offloadManager c

theorem find_purgeIn_none {order : List Nat} {c : Nat} (h : s.registry.findByClientId c = none) :
    (s.purgeIn order now).registry.findByClientId c = none := by
  by_contra hne
  obtain ⟨info, hinfo⟩ := Option.ne_none_iff_exists'.mp hne
  rw [find_of_purgeIn hinfo] at h
  cases h

theorem onClientDisconnected_of_not_critical {c : Nat} (hc : ¬ s.Critical c) :
    s.onClientDisconnected c =
      { s with
        clientIpAddresses := eraseKey s.clientIpAddresses c
        registry := s.registry.unregisterComponent c } := by
  unfold onClientDisconnected
  cases hinfo : s.registry.findByClientId c with
  | none => rw [ComponentRegistry.unregisterComponent_of_none hinfo]
  | some info =>
      have hno : ¬((!s.p2pMode) = true ∧ info.componentType = .offloadManager ∧ (!s.shuttingDown) = true) := by
        rintro ⟨hmode, htype, -⟩
        exact hc ⟨by simpa using hmode, info, hinfo, htype⟩
      dsimp only
      rw [if_neg hno]

theorem Linked.onClientDisconnected (h : Linked s) {c : Nat} (hc : ¬ s.Critical c) :
    Linked (s.onClientDisconnected c) := by
  rw [onClientDisconnected_of_not_critical hc]
  refine ⟨h.running, fun c' info hinfo => ?_⟩
  obtain ⟨hne, hbefore⟩ := ComponentRegistry.findByClientId_unregister_eq_some.mp hinfo
  show ((eraseKey s.clientIpAddresses c).lookup c').isSome = true
  rw [lookup_eraseKey, if_neg hne]
  exact h.connected c' info hbefore

theorem find_foldl_unregister_of_mem {ids : List Nat} {c : Nat} (hc : c ∈ ids) (r : ComponentRegistry) :
    (ids.foldl ComponentRegistry.unregisterComponent r).findByClientId c = none := by
  induction ids generalizing r with
  | nil => exact absurd hc List.not_mem_nil
  | cons c' ids ih =>
      rcases List.mem_cons.mp hc with rfl | hc
      · by_contra hne
        obtain ⟨info, hinfo⟩ := Option.ne_none_iff_exists'.mp hne
        have hbefore := find_of_foldl_unregister ids hinfo
        exact (ComponentRegistry.findByClientId_unregister_eq_some.mp hbefore).1 rfl
      · exact ih hc _

theorem find_onClientDisconnected_of_critical (h : Linked s) {c : Nat} (hc : s.Critical c) (c' : Nat) :
    (s.onClientDisconnected c).registry.findByClientId c' = none ∧ (s.onClientDisconnected c).shuttingDown = true := by
  obtain ⟨hmode, info, hinfo, htype⟩ := hc
  have hstop : (!s.p2pMode) = true ∧ info.componentType = .offloadManager ∧ (!s.shuttingDown) = true := by
    rw [hmode, h.running]
    exact ⟨rfl, htype, rfl⟩
  unfold onClientDisconnected
  rw [hinfo]
  dsimp only
  rw [if_pos hstop]
  refine ⟨?_, rfl⟩
  show (((eraseKey s.clientIpAddresses c).map Prod.fst).foldl ComponentRegistry.unregisterComponent
    (s.registry.unregisterComponent c)).findByClientId c' = none
  by_contra hne
  obtain ⟨info', hinfo'⟩ := Option.ne_none_iff_exists'.mp hne
  obtain ⟨hne, hbefore⟩ :=
    ComponentRegistry.findByClientId_unregister_eq_some.mp (find_of_foldl_unregister _ hinfo')
  -- the client is connected, so `stop` has disconnected it
  have hlookup : ((eraseKey s.clientIpAddresses c).lookup c').isSome = true := by
    rw [lookup_eraseKey, if_neg hne]
    exact h.connected c' info' hbefore
  obtain ⟨e, he, heq⟩ := List.lookup_isSome_iff.mp hlookup
  have hmem : c' ∈ (eraseKey s.clientIpAddresses c).map Prod.fst :=
    List.mem_map.mpr ⟨e, he, (eq_of_beq heq).symm⟩
  rw [find_foldl_unregister_of_mem hmem] at hinfo'
  cases hinfo'

/-! ## The walk -/

theorem purgeClient_of_not_stale {c : Nat} (hc : ¬ s.Stale now c) : purgeClient now s c = s := by
  unfold purgeClient
  split
  · rfl
  · rename_i info hinfo
    rw [if_neg]
    rintro ⟨hstale, -⟩
    exact hc ⟨info, hinfo, hstale⟩

theorem purgeClient_of_stale (h : Linked s) {c : Nat} (hc : s.Stale now c) :
    purgeClient now s c = s.onClientDisconnected c := by
  obtain ⟨info, hinfo, hstale⟩ := hc
  unfold purgeClient
  rw [hinfo]
  dsimp only
  rw [if_pos ⟨hstale, h.connected c info hinfo⟩]

theorem purgeClient_spec (h : Linked s) {c : Nat} (hc : ¬(s.Stale now c ∧ s.Critical c)) :
    Linked (purgeClient now s c) ∧ (purgeClient now s c).p2pMode = s.p2pMode ∧
      (s.Stale now c → (purgeClient now s c).registry.findByClientId c = none) ∧
      ∀ c', ¬(c' = c ∧ s.Stale now c) →
        (purgeClient now s c).registry.findByClientId c' = s.registry.findByClientId c' := by
  by_cases hstale : s.Stale now c
  · have hcritical : ¬ s.Critical c := fun h => hc ⟨hstale, h⟩
    have hfind : ∀ c', (s.onClientDisconnected c).registry.findByClientId c' =
        if c' = c then none else s.registry.findByClientId c' := by
      intro c'
      rw [onClientDisconnected_of_not_critical hcritical]
      exact ComponentRegistry.findByClientId_unregister s.registry c c'
    rw [purgeClient_of_stale h hstale]
    refine ⟨h.onClientDisconnected hcritical, p2pMode_onClientDisconnected c, fun _ => ?_, fun c' hc' => ?_⟩
    · rw [hfind, if_pos rfl]
    · rw [hfind, if_neg fun heq => hc' ⟨heq, hstale⟩]
  · rw [purgeClient_of_not_stale hstale]
    exact ⟨h, rfl, fun h => absurd h hstale, fun _ _ => rfl⟩

theorem stale_congr {s' : DiscoveryService} {c : Nat}
    (h : s'.registry.findByClientId c = s.registry.findByClientId c) : s'.Stale now c ↔ s.Stale now c := by
  unfold Stale
  rw [h]

theorem critical_congr {s' : DiscoveryService} {c : Nat} (hmode : s'.p2pMode = s.p2pMode)
    (h : s'.registry.findByClientId c = s.registry.findByClientId c) : s'.Critical c ↔ s.Critical c := by
  unfold Critical ComponentRegistry.Registered
  rw [hmode, h]

/-- **The walk without a stale OM** takes the stale clients and leaves the others, in whatever order it meets them. -/
theorem find_purgeIn {order : List Nat} (h : Linked s) (hom : ∀ c ∈ order, ¬(s.Stale now c ∧ s.Critical c)) :
    Linked (s.purgeIn order now) ∧
      (∀ c ∈ order, s.Stale now c → (s.purgeIn order now).registry.findByClientId c = none) ∧
      ∀ c, ¬ s.Stale now c → (s.purgeIn order now).registry.findByClientId c = s.registry.findByClientId c := by
  induction order generalizing s with
  | nil => exact ⟨h, fun c hc => absurd hc List.not_mem_nil, fun _ _ => rfl⟩
  | cons c₀ order ih =>
      obtain ⟨hlinked, hmode, hgone, hkept⟩ := purgeClient_spec h (hom c₀ List.mem_cons_self)
      -- for every other client nothing has changed
      have hsame : ∀ c, (purgeClient now s c₀).Stale now c →
          (purgeClient now s c₀).registry.findByClientId c = s.registry.findByClientId c := by
        rintro c ⟨info, hinfo, -⟩
        apply hkept c
        rintro ⟨rfl, hstale⟩
        rw [hgone hstale] at hinfo
        cases hinfo
      obtain ⟨hlinked', hgone', hkept'⟩ := ih hlinked (fun c hc hbad => by
        have hfind := hsame c hbad.1
        exact hom c (List.mem_cons_of_mem _ hc)
          ⟨(stale_congr hfind).mp hbad.1, (critical_congr hmode hfind).mp hbad.2⟩)
      refine ⟨hlinked', fun c hc hstale => ?_, fun c hc => ?_⟩
      · by_cases hcc : c = c₀
        · rw [hcc] at hstale ⊢
          show ((purgeClient now s c₀).purgeIn order now).registry.findByClientId c₀ = none
          exact find_purgeIn_none (hgone hstale)
        · have hfind := hkept c fun h => hcc h.1
          rcases List.mem_cons.mp hc with heq | hmem
          · exact absurd heq hcc
          · exact hgone' c hmem ((stale_congr hfind).mpr hstale)
      · have hfind := hkept c (by
          rintro ⟨rfl, hstale⟩
          exact hc hstale)
        exact (hkept' c fun hstale => hc ((stale_congr hfind).mp hstale)).trans hfind

/-- **The walk with a stale OM** ends with an empty registry. -/
theorem find_purgeIn_of_om {order : List Nat} (h : Linked s) {om : Nat} (hmem : om ∈ order)
    (hstale : s.Stale now om) (hom : s.Critical om) :
    (s.purgeIn order now).shuttingDown = true ∧
      ∀ c, (s.purgeIn order now).registry.findByClientId c = none := by
  induction order generalizing s with
  | nil => exact absurd hmem List.not_mem_nil
  | cons c₀ order ih =>
      by_cases hc₀ : s.Stale now c₀ ∧ s.Critical c₀
      · have hempty := find_onClientDisconnected_of_critical h hc₀.2
        have hfirst : s.purgeIn (c₀ :: order) now = (s.onClientDisconnected c₀).purgeIn order now := by
          rw [← purgeClient_of_stale h hc₀.1]
          rfl
        rw [hfirst]
        refine ⟨?_, fun c => find_purgeIn_none (hempty c).1⟩
        -- the rest of the walk finds no record
        have hrest : ∀ ids, (s.onClientDisconnected c₀).purgeIn ids now = s.onClientDisconnected c₀ := by
          intro ids
          induction ids with
          | nil => rfl
          | cons c ids ih' =>
              have hskip : purgeClient now (s.onClientDisconnected c₀) c = s.onClientDisconnected c₀ := by
                apply purgeClient_of_not_stale
                rintro ⟨info, hinfo, -⟩
                rw [(hempty c).1] at hinfo
                cases hinfo
              show (purgeClient now (s.onClientDisconnected c₀) c).purgeIn ids now = _
              rw [hskip]
              exact ih'
        rw [hrest]
        exact (hempty c₀).2
      · obtain ⟨hlinked, hmode, -, hkept⟩ := purgeClient_spec h hc₀
        have hfind := hkept om (by
          rintro ⟨rfl, -⟩
          exact hc₀ ⟨hstale, hom⟩)
        have hrest : om ∈ order := by
          rcases List.mem_cons.mp hmem with rfl | hmem
          · exact absurd ⟨hstale, hom⟩ hc₀
          · exact hmem
        exact ih hlinked hrest ((stale_congr hfind).mpr hstale) ((critical_congr hmode hfind).mpr hom)

/-! ## Signs of life -/

/-- The client that the step hears of, and when: it registers, or it sends a ping for its own id. -/
def sign (s : DiscoveryService) (w : WalkedEvent) : Option (Nat × Nat) :=
  match s.registration w.event, s.pinging w.event with
  | some (c, env, _), _ => some (c, env.now)
  | none, some (c, env, ping) => if s.pinged ping = some c then some (c, env.now) else none
  | none, none => none

/-- When a client was last heard of. -/
def lastSign (signs : List (Nat × Nat)) (c : Nat) : Option Nat :=
  ((signs.filter fun x => x.1 = c).getLast?).map Prod.snd

/-- The signs of life in a run. -/
def signs (p2pMode : Bool) (ws : List WalkedEvent) : List (Nat × Nat) :=
  collect stepIn (fun s w => (s.sign w).toList) (init p2pMode) ws

/-- The events of the schedule: a registration comes from a client that is not registered, a ping that names a
component comes from it, and a purge walks the clients of the registry. -/
structure Scheduled (s : DiscoveryService) (w : WalkedEvent) : Prop where
  registration : ∀ c env req, s.registration w.event = some (c, env, req) → s.registry.findByClientId c = none
  ping : ∀ c env ping target, s.pinging w.event = some (c, env, ping) → s.pinged ping = some target → target = c
  purge : ∀ now, w.event = .purge now → w.order.Perm s.registry.getAllClientIds

theorem lastSign_concat (l : List (Nat × Nat)) (c t c' : Nat) :
    lastSign (l ++ [(c, t)]) c' = if c' = c then some t else lastSign l c' := by
  unfold lastSign
  rw [List.filter_append]
  by_cases hc : c' = c
  · rw [if_pos hc, List.filter_cons_of_pos (by simp [hc]), List.filter_nil, List.getLast?_concat]
    rfl
  · rw [if_neg hc, List.filter_cons_of_neg (by simp [Ne.symm hc]), List.filter_nil, List.append_nil]

/-- What the service knows of its clients: the containers agree, a running service has the clients of its records
connected and their last signs of life, and one that shuts down has no records. -/
structure Watched (s : DiscoveryService) (heard : List (Nat × Nat)) : Prop where
  represents : s.registry.Represents
  linked : s.shuttingDown = false → Linked s
  heard : ∀ c info, s.registry.findByClientId c = some info → lastSign heard c = some info.lastSeen
  empty : s.shuttingDown = true → ∀ c, s.registry.findByClientId c = none

theorem watched_init (p2pMode : Bool) : Watched (init p2pMode) [] := by
  have hnone : ∀ c, (init p2pMode).registry.findByClientId c = none := fun _ => rfl
  refine ⟨ComponentRegistry.represents_empty, fun _ => ⟨rfl, fun c info hinfo => ?_⟩, fun c info hinfo => ?_,
    fun _ => hnone⟩
  · rw [hnone] at hinfo
    cases hinfo
  · rw [hnone] at hinfo
    cases hinfo

theorem represents_foldl_unregister {r : ComponentRegistry} (h : r.Represents) (ids : List Nat) :
    (ids.foldl ComponentRegistry.unregisterComponent r).Represents := by
  induction ids generalizing r with
  | nil => exact h
  | cons c ids ih => exact ih (h.unregisterComponent c)

theorem represents_onClientDisconnected (h : s.registry.Represents) (c : Nat) :
    (s.onClientDisconnected c).registry.Represents := by
  unfold onClientDisconnected
  dsimp only
  split
  · exact h
  · split
    · exact represents_foldl_unregister (h.unregisterComponent c) _
    · exact h.unregisterComponent c

theorem represents_purgeIn (h : s.registry.Represents) (order : List Nat) :
    (s.purgeIn order now).registry.Represents := by
  have hdisconnect : ∀ (t : DiscoveryService) c,
      t.registry.Represents → (t.onClientDisconnected c).registry.Represents :=
    fun _ c ht => represents_onClientDisconnected ht c
  exact foldl_purgeClient hdisconnect now order h

theorem Registering.represents {env : ServiceEnv} {c : Nat} {req : RegistrationRequest} {s' : DiscoveryService}
    (h : Registering s env c req s') (hr : s.registry.Represents) (hnew : s.registry.findByClientId c = none) :
    s'.registry.Represents := by
  rcases h.registry with hsame | hsearch | ⟨searched, port, hsearched, hregister⟩
  · rw [hsame]
    exact hr
  · rw [hsearch]
    exact hr.search _
  · rcases hsearched with rfl | rfl
    · exact hr.registerComponent hnew hregister
    · refine (hr.search _).registerComponent ?_ hregister
      rw [ComponentRegistry.findByClientId_search]
      exact hnew

variable {heard : List (Nat × Nat)}

theorem Watched.sendResponse (h : Watched s heard) (c : Nat) (m : Message) : Watched (s.sendResponse c m) heard :=
  ⟨h.represents, fun hrun => ⟨hrun, (h.linked hrun).connected⟩, h.heard, h.empty⟩

theorem Watched.onClientDisconnected (h : Watched s heard) (hrun : s.shuttingDown = false) (c : Nat) :
    Watched (s.onClientDisconnected c) heard := by
  have hlinked := h.linked hrun
  refine ⟨represents_onClientDisconnected h.represents c, fun hrun' => ?_, fun c' info hinfo => ?_, fun hdown => ?_⟩
  · apply hlinked.onClientDisconnected
    intro hcritical
    rw [(find_onClientDisconnected_of_critical hlinked hcritical c).2] at hrun'
    cases hrun'
  · exact h.heard c' info (find_of_onClientDisconnected hinfo)
  · by_cases hcritical : s.Critical c
    · exact fun c' => (find_onClientDisconnected_of_critical hlinked hcritical c').1
    · rw [(hlinked.onClientDisconnected hcritical).running] at hdown
      cases hdown

theorem Watched.purgeIn (h : Watched s heard) (hrun : s.shuttingDown = false) (order : List Nat) (now : Nat) :
    Watched (s.purgeIn order now) heard := by
  have hlinked := h.linked hrun
  have hboth : Linked (s.purgeIn order now) ∨ (s.purgeIn order now).shuttingDown = true ∧
      ∀ c, (s.purgeIn order now).registry.findByClientId c = none := by
    by_cases hom : ∀ c ∈ order, ¬(s.Stale now c ∧ s.Critical c)
    · exact .inl (find_purgeIn hlinked hom).1
    · push Not at hom
      obtain ⟨om, hmem, hstale, hcritical⟩ := hom
      exact .inr (find_purgeIn_of_om hlinked hmem hstale hcritical)
  refine ⟨represents_purgeIn h.represents order, fun hrun' => ?_, fun c info hinfo => ?_, fun hdown => ?_⟩
  · rcases hboth with hl | ⟨hdown, -⟩
    · exact hl
    · rw [hrun'] at hdown
      cases hdown
  · exact h.heard c info (find_of_purgeIn hinfo)
  · rcases hboth with hl | ⟨-, hempty⟩
    · rw [hl.running] at hdown
      cases hdown
    · exact hempty

theorem Watched.handleRegistration (h : Watched s heard) (hrun : s.shuttingDown = false) {c : Nat}
    (hclient : (s.clientIpAddresses.lookup c).isSome = true) (hnew : s.registry.findByClientId c = none)
    (env : ServiceEnv) (req : RegistrationRequest) :
    Watched (s.handleRegistration env c req) (heard ++ [(c, env.now)]) := by
  have hreg := registering_handleRegistration s env c req
  obtain ⟨r, config, hstate⟩ := hreg.state
  have hrun' : (s.handleRegistration env c req).shuttingDown = false := by
    rw [hstate]
    exact hrun
  have hips : (s.handleRegistration env c req).clientIpAddresses = s.clientIpAddresses := by rw [hstate]
  have hother : ∀ c' info, s.registry.findByClientId c' = some info → c' ≠ c := by
    rintro c' info hold rfl
    rw [hnew] at hold
    cases hold
  refine ⟨hreg.represents h.represents hnew, fun _ => ⟨hrun', fun c' info hinfo => ?_⟩, fun c' info hinfo => ?_,
    fun hdown => ?_⟩
  · rw [hips]
    rcases hreg.record hinfo with ⟨rfl, -⟩ | hold
    · exact hclient
    · exact (h.linked hrun).connected c' info hold
  · rw [lastSign_concat]
    rcases hreg.record hinfo with ⟨rfl, port, rfl⟩ | hold
    · exact if_pos rfl
    · rw [if_neg (hother c' info hold)]
      exact h.heard c' info hold
  · rw [hrun'] at hdown
    cases hdown

theorem frame_handleKeepalive (h : s.registry.Represents) (env : ServiceEnv) (c : Nat) (ping : KeepalivePing) :
    (s.handleKeepalive env c ping).registry.Represents ∧
      (s.handleKeepalive env c ping).clientIpAddresses = s.clientIpAddresses ∧
      (s.handleKeepalive env c ping).shuttingDown = s.shuttingDown := by
  rcases s.handleKeepalive_cases env c ping with hsame | ⟨g, i, pong, heq⟩
  · rw [hsame]
    exact ⟨h, rfl, rfl⟩
  · rw [heq]
    exact ⟨h.updateKeepalive g i env.now, rfl, rfl⟩

theorem Watched.handleKeepalive (h : Watched s heard) (hrun : s.shuttingDown = false) {c : Nat} {ping : KeepalivePing}
    (hown : ∀ target, s.pinged ping = some target → target = c) (env : ServiceEnv) :
    Watched (s.handleKeepalive env c ping)
      (heard ++ (if s.pinged ping = some c then some (c, env.now) else none).toList) := by
  obtain ⟨hrepresents, hips, hdown⟩ := frame_handleKeepalive h.represents env c ping
  have hrecord : ∀ c' info, (s.handleKeepalive env c ping).registry.findByClientId c' = some info →
      ∃ old, s.registry.findByClientId c' = some old ∧
        info.lastSeen = if s.pinged ping = some c ∧ c' = c then env.now else old.lastSeen := by
    intro c' info hinfo
    rw [find_handleKeepalive] at hinfo
    split at hinfo
    · rename_i htarget
      obtain ⟨old, hold, rfl⟩ := Option.map_eq_some_iff.mp hinfo
      have hc := hown c' htarget
      rw [hc] at htarget
      exact ⟨old, hold, by rw [if_pos ⟨htarget, hc⟩]⟩
    · rename_i hnot
      refine ⟨info, hinfo, ?_⟩
      rw [if_neg]
      rintro ⟨htarget, rfl⟩
      exact hnot htarget
  refine ⟨hrepresents, fun _ => ⟨hdown.trans hrun, fun c' info hinfo => ?_⟩,
    fun c' info hinfo => ?_, fun hdown' => ?_⟩
  · rw [hips]
    obtain ⟨old, hold, -⟩ := hrecord c' info hinfo
    exact (h.linked hrun).connected c' old hold
  · obtain ⟨old, hold, htime⟩ := hrecord c' info hinfo
    have hheard := h.heard c' old hold
    rw [htime]
    by_cases htarget : s.pinged ping = some c
    · rw [if_pos htarget, Option.toList_some, lastSign_concat]
      by_cases hc : c' = c
      · rw [if_pos hc, if_pos ⟨htarget, hc⟩]
      · rw [if_neg hc, if_neg fun h => hc h.2, hheard]
    · rw [if_neg htarget, if_neg fun h => htarget h.1, Option.toList_none, List.append_nil, hheard]
  · rw [hdown, hrun] at hdown'
    cases hdown'

/-! ## Runs -/

theorem Watched.onClientConnected (h : Watched s heard) (hrun : s.shuttingDown = false) (c : Nat) (ip : Ipv4) :
    Watched (s.onClientConnected c ip) heard := by
  refine ⟨h.represents, fun _ => ⟨hrun, fun c' info hinfo => ?_⟩, h.heard, h.empty⟩
  show ((insertKey s.clientIpAddresses c ip.ntoa).lookup c').isSome = true
  rw [lookup_insertKey]
  split
  · rfl
  · exact (h.linked hrun).connected c' info hinfo

theorem sign_of_none {w : WalkedEvent} (hreg : s.registration w.event = none) (hping : s.pinging w.event = none) :
    s.sign w = none := by
  unfold sign
  rw [hreg, hping]

/-- **One step** of the schedule. -/
theorem Watched.stepIn {w : WalkedEvent} (h : Watched s heard) (hw : Scheduled s w) :
    Watched (s.stepIn w) (heard ++ (s.sign w).toList) := by
  have hquiet : ∀ {s' : DiscoveryService}, s.registration w.event = none → s.pinging w.event = none →
      Watched s' heard → Watched s' (heard ++ (s.sign w).toList) := by
    intro s' hreg hping hs'
    rw [sign_of_none hreg hping, Option.toList_none, List.append_nil]
    exact hs'
  have hstep := stepped_stepIn s w
  generalize s.stepIn w = s' at hstep ⊢
  cases hstep with
  | idle hreg hping => exact hquiet hreg hping h
  | connected c ip hrun hevent =>
      exact hquiet (by rw [hevent]; rfl) (by rw [hevent]; rfl) (h.onClientConnected hrun c ip)
  | disconnected c hrun hevent =>
      exact hquiet (by rw [hevent]; rfl) (by rw [hevent]; rfl) (h.onClientDisconnected hrun c)
  | purged now hrun hevent =>
      exact hquiet (by rw [hevent]; rfl) (by rw [hevent]; rfl) (h.purgeIn hrun w.order now)
  | registered c env req hreg =>
      obtain ⟨hrun, hclient, -⟩ := registration_eq_some hreg
      unfold sign
      rw [hreg]
      exact h.handleRegistration hrun hclient (hw.registration c env req hreg) env req
  | pinged c env ping hreg hping =>
      unfold sign
      rw [hreg, hping]
      exact h.handleKeepalive (shuttingDown_of_pinging hping) (fun target => hw.ping c env ping target hping) env
  | answered c m hreg hping => exact hquiet hreg hping (h.sendResponse c m)

/-- **Every run** of the schedule. -/
theorem watched_run (p2pMode : Bool) (ws : List WalkedEvent) (hws : Along stepIn Scheduled (init p2pMode) ws) :
    Watched (run stepIn (init p2pMode) ws) (signs p2pMode ws) := by
  induction ws using List.reverseRecOn with
  | nil => exact watched_init p2pMode
  | append_singleton ws w ih =>
      obtain ⟨hpre, hlast⟩ := (Along.append stepIn Scheduled (init p2pMode) ws [w]).mp hws
      have hsigns : signs p2pMode (ws ++ [w]) =
          signs p2pMode ws ++ ((run stepIn (init p2pMode) ws).sign w).toList := by
        unfold signs
        rw [collect_append]
        exact congrArg _ (List.append_nil _)
      rw [run_append, hsigns]
      exact (ih hpre).stepIn hlast.1

/-- The component was last heard of more than the timeout ago. -/
def TimedOut (s : DiscoveryService) (heard : List (Nat × Nat)) (now c : Nat) : Prop :=
  ∃ info t, s.registry.findByClientId c = some info ∧ lastSign heard c = some t ∧ t + keepaliveTimeout < now

theorem TimedOut.recorded {s : DiscoveryService} {heard : List (Nat × Nat)} {now c : Nat} (h : s.TimedOut heard now c) :
    ∃ info, s.registry.findByClientId c = some info := by
  obtain ⟨info, -, hinfo, -⟩ := h
  exact ⟨info, hinfo⟩

/-- The service shuts down with a component that has timed out. -/
def LosesOm (s : DiscoveryService) (heard : List (Nat × Nat)) (now : Nat) : Prop :=
  s.p2pMode = false ∧ ∃ om, s.TimedOut heard now om ∧ s.registry.Registered .offloadManager om

/-- What a purge makes of the registry. -/
structure PurgesExactly (s : DiscoveryService) (heard : List (Nat × Nat)) (now : Nat) (s' : DiscoveryService) :
    Prop where
  /-- The components that have timed out are in no container. -/
  timedOut : ∀ c, s.TimedOut heard now c → s'.registry.Forgets c
  /-- With the OM, all components are gone. -/
  om : s.LosesOm heard now → ∀ c, s'.registry.Forgets c
  /-- Without it, the others are left as they are. -/
  others : ¬ s.LosesOm heard now → ∀ c info, s.registry.findByClientId c = some info → ¬ s.TimedOut heard now c →
    s'.registry.findByClientId c = some info ∧
      s'.registry.clientIdByComponentId.lookup info.componentIdPair = some c ∧
      (c ∈ s'.registry.bridgeClientIds ↔ c ∈ s.registry.bridgeClientIds) ∧
      (c ∈ s'.registry.omClientIds ↔ c ∈ s.registry.omClientIds)
  /-- Nothing is added. -/
  adds : ∀ c info, s'.registry.findByClientId c = some info → s.registry.findByClientId c = some info

theorem Watched.timedOut_iff (h : Watched s heard) (now c : Nat) : s.TimedOut heard now c ↔ s.Stale now c := by
  constructor
  · rintro ⟨info, t, hinfo, ht, hlate⟩
    rw [h.heard c info hinfo] at ht
    exact ⟨info, hinfo, by rw [Option.some.inj ht]; exact hlate⟩
  · rintro ⟨info, hinfo, hlate⟩
    exact ⟨info, info.lastSeen, hinfo, h.heard c info hinfo, hlate⟩

theorem mem_lists_congr {r r' : ComponentRegistry} {c : Nat} {type : ComponentType} {ids ids' : List Nat}
    (hl : r.Lists type ids) (hl' : r'.Lists type ids') (h : r'.findByClientId c = r.findByClientId c) :
    c ∈ ids' ↔ c ∈ ids := by
  rw [hl.2 c, hl'.2 c]
  unfold ComponentRegistry.Registered
  rw [h]

/-- **A purge**, in whatever order it walks the clients. -/
theorem Watched.purges (h : Watched s heard) (hnamed : s.registry.Named) {order : List Nat}
    (horder : order.Perm s.registry.getAllClientIds) (now : Nat) :
    PurgesExactly s heard now (s.stepIn ⟨.purge now, order⟩) := by
  by_cases hdown : s.shuttingDown = true
  · -- the loop has ended, and there is nothing left
    have hstep : s.stepIn ⟨.purge now, order⟩ = s := by
      simp only [DiscoveryService.stepIn, if_pos hdown]
    have hforgets : ∀ c, s.registry.Forgets c := fun c => h.represents.forgets (h.empty hdown c)
    rw [hstep]
    refine ⟨fun c _ => hforgets c, fun _ => hforgets, fun _ c info hinfo => ?_, fun c info hinfo => hinfo⟩
    rw [h.empty hdown c] at hinfo
    cases hinfo
  · have hlinked := h.linked (Bool.eq_false_iff.mpr hdown)
    have hstep : s.stepIn ⟨.purge now, order⟩ = s.purgeIn order now := by
      simp only [DiscoveryService.stepIn, if_neg hdown]
    have hmem : ∀ c info, s.registry.findByClientId c = some info → c ∈ order := by
      intro c info hinfo
      rw [horder.mem_iff]
      exact List.mem_map.mpr ⟨(c, info), hnamed.mem_registry_iff.mpr hinfo, rfl⟩
    have hrep : (s.purgeIn order now).registry.Represents := represents_purgeIn h.represents order
    rw [hstep]
    by_cases hlost : s.LosesOm heard now
    · obtain ⟨hmode, om, hom, hregistered⟩ := hlost
      have hstale := (h.timedOut_iff now om).mp hom
      obtain ⟨info, hinfo⟩ := hom.recorded
      have hempty := (find_purgeIn_of_om hlinked (hmem om info hinfo) hstale ⟨hmode, hregistered⟩).2
      refine ⟨fun c _ => hrep.forgets (hempty c), fun _ c => hrep.forgets (hempty c),
        fun hnot => absurd ⟨hmode, om, hom, hregistered⟩ hnot, fun c info hinfo => ?_⟩
      rw [hempty c] at hinfo
      cases hinfo
    · have hno : ∀ c ∈ order, ¬(s.Stale now c ∧ s.Critical c) := by
        rintro c - ⟨hstale, hmode, hregistered⟩
        exact hlost ⟨hmode, c, (h.timedOut_iff now c).mpr hstale, hregistered⟩
      obtain ⟨-, hgone, hkept⟩ := find_purgeIn hlinked hno
      refine ⟨fun c hc => ?_, fun hyes => absurd hyes hlost, fun _ c info hinfo hc => ?_,
        fun c info hinfo => find_of_purgeIn hinfo⟩
      · have hstale := (h.timedOut_iff now c).mp hc
        obtain ⟨info, hinfo⟩ := hc.recorded
        exact hrep.forgets (hgone c (hmem c info hinfo) hstale)
      · have hsame := hkept c fun hstale => hc ((h.timedOut_iff now c).mpr hstale)
        have hinfo' := hsame.trans hinfo
        refine ⟨hinfo', (hrep.ids _ c).mpr ⟨info, hinfo', rfl⟩, ?_, ?_⟩
        · exact mem_lists_congr h.represents.bridges hrep.bridges hsame
        · exact mem_lists_congr h.represents.oms hrep.oms hsame

/-- **Purging is exact.** After every run of the schedule, in either mode and whatever the times are, and for every
order in which the purge walks the clients. -/
theorem purge_exact (p2pMode : Bool) (ws : List WalkedEvent) (hws : Along stepIn Scheduled (init p2pMode) ws)
    (now : Nat) (order : List Nat)
    (horder : order.Perm (run stepIn (init p2pMode) ws).registry.getAllClientIds) :
    PurgesExactly (run stepIn (init p2pMode) ws) (signs p2pMode ws) now
      ((run stepIn (init p2pMode) ws).stepIn ⟨.purge now, order⟩) :=
  (watched_run p2pMode ws hws).purges (named_run_stepIn p2pMode ws) horder now

/-- Two MECs register, and one of them pings. -/
def twoMecsRun : List WalkedEvent :=
  [⟨.connected 5 ⟨10, 0, 0, 7⟩, []⟩,
    ⟨.data 5 "DISC:REG;M;S;1;2;Mec;0.0.0.0;9000;mec".toList { now := 0 }, []⟩,
    ⟨.connected 6 ⟨10, 0, 0, 8⟩, []⟩,
    ⟨.data 6 "DISC:REG;M;S;1;3;Mec;0.0.0.0;9000;mec".toList { now := 0 }, []⟩,
    ⟨.data 6 "DISC:PNG;1.3;OK;Keepalive".toList { now := 10000000000 }, []⟩]

theorem Scheduled.of_event {w : WalkedEvent}
    (hreg : ∀ x ∈ s.registration w.event, s.registry.findByClientId x.1 = none)
    (hping : ∀ x ∈ s.pinging w.event, ∀ target ∈ s.pinged x.2.2, target = x.1)
    (hpurge : ∀ now, w.event ≠ .purge now) : Scheduled s w :=
  ⟨fun c env req h => hreg (c, env, req) h, fun c env ping target h htarget => hping (c, env, ping) h target htarget,
    fun now h => absurd h (hpurge now)⟩

theorem purge_exact_twoMecsRun :
    ((run stepIn (init true) twoMecsRun).stepIn ⟨.purge 16000000000, [6, 5]⟩).registry.Forgets 5 ∧
      (((run stepIn (init true) twoMecsRun).stepIn ⟨.purge 16000000000, [6, 5]⟩).registry.findByClientId 6).map
        ComponentInfo.lastSeen = some 10000000000 := by
  have hscheduled : Along stepIn Scheduled (init true) twoMecsRun := by
    refine ⟨?_, ?_, ?_, ?_, ?_, trivial⟩
    all_goals exact .of_event (by decide +kernel) (by decide +kernel) (by rintro now ⟨⟩)
  have horder : [6, 5].Perm (run stepIn (init true) twoMecsRun).registry.getAllClientIds := by decide +kernel
  have hpurged := purge_exact true twoMecsRun hscheduled 16000000000 [6, 5] horder
  have hseen : ∀ c t, ((run stepIn (init true) twoMecsRun).registry.findByClientId c).map ComponentInfo.lastSeen =
      some t → ∃ info, (run stepIn (init true) twoMecsRun).registry.findByClientId c = some info ∧
        info.lastSeen = t := fun c t h => Option.map_eq_some_iff.mp h
  have hfinal : ((run stepIn (init true) twoMecsRun).registry.findByClientId 5).map ComponentInfo.lastSeen = some 0 ∧
      ((run stepIn (init true) twoMecsRun).registry.findByClientId 6).map ComponentInfo.lastSeen =
        some 10000000000 ∧
      (run stepIn (init true) twoMecsRun).p2pMode = true := by decide +kernel
  have hsigns : lastSign (signs true twoMecsRun) 5 = some 0 ∧
      lastSign (signs true twoMecsRun) 6 = some 10000000000 := by decide +kernel
  obtain ⟨hfirst, hsecond, hmode⟩ := hfinal
  obtain ⟨hfive, hsix⟩ := hsigns
  obtain ⟨mec, hmec, -⟩ := hseen 5 0 hfirst
  obtain ⟨other, hother, htime⟩ := hseen 6 10000000000 hsecond
  constructor
  · exact hpurged.timedOut 5 ⟨mec, 0, hmec, hfive, by decide⟩
  · have hsafe : ¬ (run stepIn (init true) twoMecsRun).LosesOm (signs true twoMecsRun) 16000000000 := by
      rintro ⟨hnetworked, -⟩
      rw [hmode] at hnetworked
      cases hnetworked
    have hkept := hpurged.others hsafe 6 other hother ?_
    · rw [hkept.1]
      exact congrArg some htime
    · rintro ⟨-, t, -, ht, hlate⟩
      rw [hsix] at ht
      rw [← Option.some.inj ht] at hlate
      exact absurd hlate (by decide)

end DiscoveryService

end EdgeOffloading.Discovery
