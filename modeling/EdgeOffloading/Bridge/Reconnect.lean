import EdgeOffloading.Bridge.Reentry

/-!
# Gateways that connect again

A connection is live from when it is stored until its disconnect is reported. The entry of a component id goes to the
connection that registered it last, and once a disconnect holds the mutex no connection can register any more.

* `resolves_step_iff`: a step keeps every identified live connection resolved iff it meets `KeepsLive`;
* `resolves_iff_along`: so do all steps of a run.
-/

namespace EdgeOffloading.BridgeProcess

open Bridge

variable {p : BridgeProcess} {input : ProcessInput} {t : ClientId}

/-- The connection is stored, and its disconnect has not been reported. -/
structure Live (p : BridgeProcess) (t : ClientId) (conn : MGWCPConnection) : Prop where
  stored : p.bridge.mgwcpConnections t = some conn
  notClosing : p.closing t = false

/-- Every identified live connection's component id resolves to a live connection. -/
def Resolves (p : BridgeProcess) : Prop :=
  ∀ t conn, Live p t conn → conn.componentId ≠ "" →
    ∃ t' conn', p.bridge.componentIdToTransportId conn.componentId = some t' ∧ Live p t' conn'

/-- A disconnect leaves the entries and the sessions of all other identified live connections in place. -/
def NotUndone (p : BridgeProcess) (input : ProcessInput) : Prop :=
  ∀ t, input.event = .disconnect t → ∀ t' conn', t' ≠ t → Live p t' conn' → conn'.componentId ≠ "" →
    (p.next input).bridge.componentIdToTransportId conn'.componentId =
        p.bridge.componentIdToTransportId conn'.componentId ∧
      ∀ r s, p.bridge.sessionManager.getSession r = some s → s.mgwcpComponentId = conn'.componentId →
        (p.next input).bridge.sessionManager.getSession r = some s

/-- No connection is disconnected that has the entry of a component id which another live connection has as well, and
none that is live identifies itself while the mutex is held, unless its component id resolves already. -/
structure KeepsLive (p : BridgeProcess) (input : ProcessInput) : Prop where
  closes : ∀ t c, Closes p input t → p.bridge.componentIdToTransportId c = some t →
    ∀ t' conn', t' ≠ t → Live p t' conn' → conn'.componentId ≠ c
  binds : ∀ t conn c, BindsLate p input t conn c → p.closing t = false →
    ∃ t' conn', p.bridge.componentIdToTransportId c = some t' ∧ Live p t' conn'

/-! ## A map and the ids of live connections -/

section

variable {m : String → Option ClientId} {l : ClientId → Option String} {c : String}

/-- Every id that is not empty is found at a connection that has it. -/
def ResolvesIn (m : String → Option ClientId) (l : ClientId → Option String) : Prop :=
  ∀ t c, l t = some c → c ≠ "" → ∃ t', m c = some t' ∧ l t' = some c

theorem update_eq_some {o : Option String} {t' : ClientId} (hl : l t' = some c) (hne : l t ≠ some c) :
    Function.update l t o t' = some c := by
  rw [Function.update_apply, if_neg, hl]
  rintro rfl
  exact hne hl

theorem ResolvesIn.connected (h : ResolvesIn m l) (ht : l t = none) :
    ResolvesIn m (Function.update l t (some "")) := by
  intro t₀ c₀ hid hc
  rw [Function.update_apply] at hid
  split_ifs at hid
  · cases hid
    exact absurd rfl hc
  · obtain ⟨t', hm, hl⟩ := h t₀ c₀ hid hc
    exact ⟨t', hm, update_eq_some hl (by simp [ht])⟩

theorem ResolvesIn.identified (h : ResolvesIn m l) (ht : l t = some "") :
    ResolvesIn (Function.update m c (some t)) (Function.update l t (some c)) := by
  intro t₀ c₀ hid hc
  by_cases hcc : c₀ = c
  · rw [hcc]
    exact ⟨t, Function.update_self .., Function.update_self ..⟩
  · rw [Function.update_apply] at hid
    split_ifs at hid
    · cases hid
      exact absurd rfl hcc
    · obtain ⟨t', hm, hl⟩ := h t₀ c₀ hid hc
      exact ⟨t', by rw [Function.update_apply, if_neg hcc, hm], update_eq_some hl (by simp [ht, hc.symm])⟩

theorem ResolvesIn.bound_iff (h : ResolvesIn m l) (ht : l t = some "") (hc : c ≠ "") (hm : m c ≠ some t) :
    ResolvesIn m (Function.update l t (some c)) ↔ ∃ t', m c = some t' ∧ l t' = some c := by
  constructor
  · intro h'
    obtain ⟨t', hm', hl⟩ := h' t c (Function.update_self ..) hc
    have htt' : t' ≠ t := by
      rintro rfl
      exact hm hm'
    exact ⟨t', hm', by rwa [Function.update_apply, if_neg htt'] at hl⟩
  · rintro ⟨t', hm', hl⟩ t₀ c₀ hid hc₀
    rw [Function.update_apply] at hid
    split_ifs at hid
    · cases hid
      exact ⟨t', hm', update_eq_some hl (by simp [ht, hc.symm])⟩
    · obtain ⟨t₁, hm₁, hl₁⟩ := h t₀ c₀ hid hc₀
      exact ⟨t₁, hm₁, update_eq_some hl₁ (by simp [ht, hc₀.symm])⟩

theorem ResolvesIn.closed_iff (h : ResolvesIn m l) :
    ResolvesIn m (Function.update l t none) ↔ ∀ c t', t' ≠ t → l t' = some c → c ≠ "" → m c ≠ some t := by
  constructor
  · intro h' c t' htt' hl hc hm
    obtain ⟨t'', hm', hl'⟩ := h' t' c (by rw [Function.update_apply, if_neg htt', hl]) hc
    rw [Function.update_apply, if_pos (Option.some.inj (hm'.symm.trans hm))] at hl'
    cases hl'
  · intro hno t₀ c₀ hid hc
    rw [Function.update_apply] at hid
    split_ifs at hid with htt₀
    obtain ⟨t', hm, hl⟩ := h t₀ c₀ hid hc
    refine ⟨t', hm, ?_⟩
    rw [Function.update_apply, if_neg, hl]
    rintro rfl
    exact hno c₀ t₀ htt₀ hid hc hm

end

/-! ## One step -/

/-- The id of the connection of a client, if it is live. -/
def liveIdOf (p : BridgeProcess) (t : ClientId) : Option String := if p.closing t then none else p.bridge.idOf t

theorem liveIdOf_eq_some {c : String} : p.liveIdOf t = some c ↔ ∃ conn, Live p t conn ∧ conn.componentId = c := by
  unfold liveIdOf
  constructor
  · intro h
    split_ifs at h with hclosing
    obtain ⟨conn, hconn, hc⟩ := Option.map_eq_some_iff.mp h
    exact ⟨conn, ⟨hconn, by simpa using hclosing⟩, hc⟩
  · rintro ⟨conn, ⟨hconn, hclosing⟩, hc⟩
    rw [if_neg (by rw [hclosing]; exact Bool.false_ne_true), idOf, hconn, Option.map_some, hc]

theorem liveIdOf_of_map (hmap : MapSound p.bridge) {c : String}
    (h : p.bridge.componentIdToTransportId c = some t) {conn : MGWCPConnection} (hlive : Live p t conn) :
    p.liveIdOf t = some c := by
  obtain ⟨-, conn', hconn', hc⟩ := hmap c t h
  cases hlive.stored.symm.trans hconn'
  exact liveIdOf_eq_some.mpr ⟨conn, hlive, hc⟩

theorem resolves_iff (hmap : MapSound p.bridge) :
    Resolves p ↔ ResolvesIn p.bridge.componentIdToTransportId p.liveIdOf := by
  constructor
  · intro h t c hid hc
    obtain ⟨conn, hlive, rfl⟩ := liveIdOf_eq_some.mp hid
    obtain ⟨t', conn', ht', hlive'⟩ := h t conn hlive hc
    exact ⟨t', ht', liveIdOf_of_map hmap ht' hlive'⟩
  · intro h t conn hlive hc
    obtain ⟨t', ht', hid⟩ := h t conn.componentId (liveIdOf_eq_some.mpr ⟨conn, hlive, rfl⟩) hc
    obtain ⟨conn', hlive', -⟩ := liveIdOf_eq_some.mp hid
    exact ⟨t', conn', ht', hlive'⟩

theorem resolves_same {p' : BridgeProcess} (hmap : MapSound p.bridge) (hmap' : MapSound p'.bridge)
    (hsame : SameAddresses p.bridge p'.bridge) (hclosing : p'.closing = p.closing) (hres : Resolves p) :
    Resolves p' := by
  have hids : p'.liveIdOf = p.liveIdOf := by
    funext t
    rw [liveIdOf, liveIdOf, hclosing, idOf, idOf, hsame.ids t]
  rw [resolves_iff hmap']
  rw [resolves_iff hmap] at hres
  rwa [hsame.map, hids]

theorem closes_unique {t' : ClientId} (h : Closes p input t) (h' : Closes p input t') : t' = t := by
  cases h.event.symm.trans h'.event
  rfl

theorem bindsLate_unique {conn conn' : MGWCPConnection} {c c' : String} {t' : ClientId}
    (h : BindsLate p input t conn c) (h' : BindsLate p input t' conn' c') : t' = t ∧ c' = c := by
  obtain ⟨message, hevent, hreg⟩ := h.message
  obtain ⟨message', hevent', hreg'⟩ := h'.message
  cases hevent.symm.trans hevent'
  cases hreg.symm.trans hreg'
  exact ⟨rfl, rfl⟩

theorem not_bindsLate {conn : MGWCPConnection} {c : String} {t' : ClientId} (h : Closes p input t) :
    ¬ BindsLate p input t' conn c := by
  intro hlate
  obtain ⟨message, hevent, -⟩ := hlate.message
  cases h.event.symm.trans hevent

/-- **A disconnect** keeps everything resolved exactly if no other live connection has an id whose entry it held. -/
theorem resolves_closes_iff (h : Inv p) (hres : Resolves p) (hcloses : Closes p input t) :
    Resolves (p.next input) ↔ KeepsLive p input := by
  have hspec := closes_spec h hcloses
  have hids : (p.next input).liveIdOf = Function.update p.liveIdOf t none := by
    funext t'
    rw [liveIdOf, hspec.closing, hspec.ids, Function.update_apply, Function.update_apply]
    by_cases htt' : t' = t
    · rw [if_pos htt', if_pos htt']
      rfl
    · rw [if_neg htt', if_neg htt']
      rfl
  rw [resolves_iff h.sound] at hres
  rw [resolves_iff (h.step input).sound, hspec.map, hids, hres.closed_iff]
  constructor
  · intro hno
    refine ⟨fun t₁ c hcloses₁ hm t' conn' htt' hlive hc => ?_,
      fun t' conn c hlate => absurd hlate (not_bindsLate hcloses)⟩
    obtain rfl := closes_unique hcloses hcloses₁
    exact hno c t' htt' (liveIdOf_eq_some.mpr ⟨conn', hlive, hc⟩) (h.sound c t₁ hm).1 hm
  · intro hkeeps c t' htt' hid _ hm
    obtain ⟨conn', hlive, hc⟩ := liveIdOf_eq_some.mp hid
    exact hkeeps.closes t c hcloses hm t' conn' htt' hlive hc

theorem next_of_bindsLate {conn : MGWCPConnection} {c : String} (h : BindsLate p input t conn c) :
    p.next input =
      { p with
        bridge := p.bridge.putConnection t { conn with componentId := c }
        connectionBlocked := Function.update p.connectionBlocked t true } := by
  obtain ⟨message, hevent, hreg⟩ := h.message
  unfold next step
  rw [if_neg (by rw [h.live]; exact Bool.false_ne_true), hevent]
  dsimp only
  rw [if_neg (by rw [h.runs]; exact Bool.false_ne_true), hreg]

/-- **A connection that identifies itself while the mutex is held** is resolved exactly if its component id was. -/
theorem resolves_bindsLate_iff (h : Inv p) (hres : Resolves p) {conn : MGWCPConnection} {c : String}
    (hlate : BindsLate p input t conn c) : Resolves (p.next input) ↔ KeepsLive p input := by
  obtain ⟨message, -, hreg⟩ := hlate.message
  obtain ⟨-, hrecv, hempty, seqNum, code, payload, hmsg⟩ := registration_eq_some.mp hreg
  have hconn := (receiving_eq_some hrecv).2
  have hsound := (h.step input).sound
  have hcloses : ∀ t', ¬ Closes p input t' := fun t' hcloses => not_bindsLate hcloses hlate
  have hc : c ≠ "" := by
    rcases MGWCPConnection.acceptsComponentId_iff.mp (MGWCPConnection.receive_accepted hmsg) with ⟨-, hvalid⟩ | ⟨hne, -⟩
    · exact isValidComponentId.ne_empty hvalid
    · exact absurd hempty hne
  have hids (t' : ClientId) : (p.next input).liveIdOf t' =
      if p.closing t' then none else if t' = t then some c else p.bridge.idOf t' := by
    rw [next_of_bindsLate hlate]
    show (if p.closing t' then none else (p.bridge.putConnection t { conn with componentId := c }).idOf t') = _
    unfold idOf
    rw [putConnection_apply]
    split_ifs <;> rfl
  have hmap : (p.next input).bridge.componentIdToTransportId = p.bridge.componentIdToTransportId := by
    rw [next_of_bindsLate hlate]
    rfl
  rw [resolves_iff h.sound] at hres
  rw [resolves_iff hsound, hmap]
  cases hclosing : p.closing t with
  | true =>
      have hsame : (p.next input).liveIdOf = p.liveIdOf := by
        funext t'
        rw [hids, liveIdOf]
        by_cases htt' : t' = t
        · rw [htt', hclosing]
          rfl
        · rw [if_neg htt']
      rw [hsame]
      refine iff_of_true hres ⟨fun t' _ hcloses' => absurd hcloses' (hcloses t'), fun t' conn' c' hlate' hopen => ?_⟩
      obtain ⟨rfl, -⟩ := bindsLate_unique hlate hlate'
      cases hclosing.symm.trans hopen
  | false =>
      have hid : p.liveIdOf t = some "" := liveIdOf_eq_some.mpr ⟨conn, ⟨hconn, hclosing⟩, hempty⟩
      have hm : p.bridge.componentIdToTransportId c ≠ some t := by
        intro hm
        obtain ⟨-, conn', hconn', hc'⟩ := h.sound c t hm
        cases hconn.symm.trans hconn'
        exact hc (hc'.symm.trans hempty)
      have hupdate : (p.next input).liveIdOf = Function.update p.liveIdOf t (some c) := by
        funext t'
        rw [hids, Function.update_apply]
        by_cases htt' : t' = t
        · rw [htt', hclosing, if_neg Bool.false_ne_true, if_pos rfl, if_pos rfl]
        · rw [if_neg htt', if_neg htt', liveIdOf]
      rw [hupdate, hres.bound_iff hid hc hm]
      constructor
      · rintro ⟨t', hm', hid'⟩
        obtain ⟨conn', hlive', -⟩ := liveIdOf_eq_some.mp hid'
        refine ⟨fun t' _ hcloses' => absurd hcloses' (hcloses t'), fun t₁ conn₁ c₁ hlate' _ => ?_⟩
        obtain ⟨rfl, rfl⟩ := bindsLate_unique hlate hlate'
        exact ⟨t', conn', hm', hlive'⟩
      · intro hkeeps
        obtain ⟨t', conn', hm', hlive'⟩ := hkeeps.binds t conn c hlate hclosing
        exact ⟨t', hm', liveIdOf_of_map h.sound hm' hlive'⟩

theorem resolvesIn_addressEffect {b b' : Bridge} {e : Event} (heffect : AddressEffect b e b')
    (hdisconnect : ∀ t, e ≠ .disconnect t) (hres : ResolvesIn b.componentIdToTransportId b.idOf) :
    ResolvesIn b'.componentIdToTransportId b'.idOf := by
  cases heffect with
  | same e b' hsame =>
      have hids : b'.idOf = b.idOf := funext hsame.ids
      rwa [hsame.map, hids]
  | connected t ip b' ht hm hids =>
      have hupdate : b'.idOf = Function.update b.idOf t (some "") := by
        funext t'
        rw [hids, Function.update_apply]
      rw [hm, hupdate]
      exact hres.connected (by rw [idOf, ht]; rfl)
  | identified t message c b' ht hc hm hids =>
      have hupdate : b'.idOf = Function.update b.idOf t (some c) := by
        funext t'
        rw [hids, Function.update_apply]
      rw [hm, hupdate]
      exact hres.identified ht
  | disconnected t b' c ht hm hids => exact absurd rfl (hdisconnect t)

theorem resolves_other (h : Inv p) (hres : Resolves p) (hcloses : ∀ t, ¬ Closes p input t)
    (hlate : ∀ t conn c, ¬ BindsLate p input t conn c) : Resolves (p.next input) := by
  have hsound := (h.step input).sound
  have hstepped := step_stepped p input
  generalize p.next input = p' at hstepped hsound ⊢
  cases hstepped with
  | same => exact hres
  | took hconnect hdisconnect hbound =>
      by_cases hheld : p.mutexHeld = true
      · exact resolves_same h.sound hsound (sameAddresses_took hheld hconnect hdisconnect hbound) rfl hres
      · have hheld : p.mutexHeld = false := by simpa using hheld
        have hclosing : ∀ t, p.closing t = false := fun t => by rw [(h.free hheld).1]
        have hids (p₀ : BridgeProcess) (h₀ : p₀.closing = p.closing) : p₀.liveIdOf = p₀.bridge.idOf := by
          funext t
          rw [liveIdOf, h₀, hclosing t]
          rfl
        rw [resolves_iff h.sound, hids p rfl] at hres
        rw [resolves_iff hsound, hids { p with bridge := p.bridge.next (input.env, input.event) } rfl]
        exact resolvesIn_addressEffect ((h.wellFormed hheld).addressEffect (step_effect input.env input.event))
          hdisconnect hres
  | waited t hcloses' hheld => exact absurd hcloses' (hcloses t)
  | stopped t conn hcloses' hfree hconn => exact absurd hcloses' (hcloses t)
  | unknown t hcloses' hnone => exact absurd hcloses' (hcloses t)
  | bound t conn c hlate' => exact absurd hlate' (hlate t conn c)
  | _ => exact resolves_same h.sound hsound ⟨rfl, fun _ => rfl⟩ rfl hres

/-- **One step.** -/
theorem resolves_step_iff (h : Inv p) (hres : Resolves p) (input : ProcessInput) :
    Resolves (p.next input) ↔ KeepsLive p input := by
  by_cases hcloses : ∃ t, Closes p input t
  · obtain ⟨t, hcloses⟩ := hcloses
    exact resolves_closes_iff h hres hcloses
  · by_cases hlate : ∃ t conn c, BindsLate p input t conn c
    · obtain ⟨t, conn, c, hlate⟩ := hlate
      exact resolves_bindsLate_iff h hres hlate
    · push Not at hcloses hlate
      refine iff_of_true (resolves_other h hres hcloses hlate) ⟨fun t _ hcloses' => ?_, fun t conn c hlate' => ?_⟩
      · exact absurd hcloses' (hcloses t)
      · exact absurd hlate' (hlate t conn c)

theorem notUndone (h : Inv p) (input : ProcessInput) : NotUndone p input := by
  intro t hevent t' conn' _ _ _
  by_cases hcloses : Closes p input t
  · have hspec := closes_spec h hcloses
    exact ⟨by rw [hspec.map], fun r s hs _ => by rw [hspec.sessions, hs]⟩
  · have hidle : p.next input = p := by
      unfold next step
      by_cases hterm : p.bridge.terminated = true
      · rw [if_pos hterm]
      · rw [if_neg hterm, hevent]
        dsimp only
        rw [if_neg fun hreports => hcloses ⟨hevent, by simpa using hterm, hreports.1, hreports.2⟩]
    rw [hidle]
    exact ⟨rfl, fun r s hs _ => hs⟩

theorem resolves_init (g : GlobalConfig) : Resolves (init g) := fun t conn h => by cases h.stored

/-- **A reconnect survives the end of the old connection iff** every step meets `KeepsLive`: then, and only then, all
component ids resolve all along the run and no disconnect takes the entry or the sessions of another live connection. -/
theorem resolves_iff_along (g : GlobalConfig) (inputs : List ProcessInput) :
    ((∀ pre, pre <+: inputs → Resolves (Run.run next (init g) pre)) ∧
        ∀ pre input, pre ++ [input] <+: inputs → NotUndone (Run.run next (init g) pre) input) ↔
      Run.Along next KeepsLive (init g) inputs := by
  have hres := Run.forall_prefix_iff_along next (I := Resolves) (C := KeepsLive) (fun _ i h => Inv.step h i)
    (fun p i h hp => resolves_step_iff h hp i) inputs (init g) (inv_init g) (resolves_init g)
  constructor
  · rintro ⟨h, -⟩
    exact hres.mp h
  · intro h
    exact ⟨hres.mpr h, fun pre input _ => notUndone (inv_run g pre) input⟩

/-- The gateway `60:5` connects again, its first connection is disconnected, and it identifies itself on the second. -/
def reconnects : List ProcessInput :=
  (joins 4 "60:5" "10.0.0.5" ++ [atTime 1 (.connect 6 "10.0.0.5"), atTime 2 (.disconnect 4),
    atTime 3 (.message 6 (Protocol.dpInfo "60:5" "0.0.0.0" 6000 1))]).map fun i => { env := i.1, event := i.2 }

/-- The id of the live connection 6 resolves to connection 4, which is gone. -/
theorem not_resolves_after_reconnect :
    ¬ ∀ (g : GlobalConfig) (inputs : List ProcessInput), Resolves (Run.run next (init g) inputs) := by
  intro hall
  have hid : ((Run.run next (init sampleConfig) reconnects).bridge.mgwcpConnections 6).map
      MGWCPConnection.componentId = some "60:5" := by decide +kernel
  have hmap : (Run.run next (init sampleConfig) reconnects).bridge.componentIdToTransportId "60:5" = some 4 := by
    decide +kernel
  have hclosing : (Run.run next (init sampleConfig) reconnects).closing 6 = false ∧
      (Run.run next (init sampleConfig) reconnects).closing 4 = true := by decide +kernel
  obtain ⟨conn, hconn, hc⟩ := Option.map_eq_some_iff.mp hid
  obtain ⟨t', conn', ht', hlive⟩ := hall sampleConfig reconnects 6 conn ⟨hconn, hclosing.1⟩ (by rw [hc]; decide)
  rw [hc, hmap] at ht'
  cases ht'
  cases hclosing.2.symm.trans hlive.notClosing

end EdgeOffloading.BridgeProcess
