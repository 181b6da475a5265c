import EdgeOffloading.Discovery.Registry

/-!
# Every component has its id to itself

`register_component` refuses an id that is taken, to whomever it is taken and also to a client that is registered. So
whatever is called in whatever order, the map of the ids leads from the id of a record back to its client, and this is
all that the uniqueness of ids rests on. It is weaker than `Represents`, which a second registration of a client breaks.

* `named_run`: it holds after every sequence of calls;
* `Named.mem_getAllComponents_iff`: the list of the components has the records in it and nothing else;
* `Named.nodup_pairs`: no two components of the list have one id;
* `Named.length_getAllComponents_le`: there are no more components than ids.
-/

namespace EdgeOffloading.Discovery

open Run

section Map

variable {κ α : Type} [DecidableEq κ]

theorem mem_iff_lookup_eq_some [BEq κ] [LawfulBEq κ] {m : List (κ × α)} (hm : (m.map Prod.fst).Nodup) {k : κ} {v : α} :
    (k, v) ∈ m ↔ m.lookup k = some v := by
  induction m with
  | nil => simp
  | cons e m ih =>
      obtain ⟨hnew, hm⟩ := List.nodup_cons.mp hm
      rw [List.lookup_cons, List.mem_cons]
      by_cases hk : k = e.1
      · rw [hk]
        constructor
        · rintro (heq | hmem)
          · rw [← heq]
            simp
          · exact absurd (List.mem_map.mpr ⟨_, hmem, rfl⟩) hnew
        · intro h
          left
          simpa [eq_comm, Prod.ext_iff] using h
      · rw [beq_false_of_ne hk, ← ih hm]
        refine or_iff_right ?_
        rintro rfl
        exact hk rfl

theorem nodup_eraseKey {m : List (κ × α)} (hm : (m.map Prod.fst).Nodup) (k : κ) :
    ((eraseKey m k).map Prod.fst).Nodup :=
  hm.sublist (List.filter_sublist.map Prod.fst)

theorem nodup_insertKey {m : List (κ × α)} (hm : (m.map Prod.fst).Nodup) (k : κ) (v : α) :
    ((insertKey m k v).map Prod.fst).Nodup := by
  unfold insertKey
  rw [List.map_cons]
  refine List.nodup_cons.mpr ⟨?_, nodup_eraseKey hm k⟩
  intro hmem
  obtain ⟨e, he, hk⟩ := List.mem_map.mp hmem
  unfold eraseKey at he
  simp [hk] at he

end Map

namespace ComponentRegistry

variable {r r' : ComponentRegistry} {info : ComponentInfo} {c c' : Nat}

/-- The id of a record leads back to its client. -/
structure Named (r : ComponentRegistry) : Prop where
  lookup : ∀ c info, r.findByClientId c = some info → r.clientIdByComponentId.lookup info.componentIdPair = some c
  keys : r.getAllClientIds.Nodup

theorem named_empty : Named {} := ⟨fun c info h => by simp [findByClientId] at h, List.nodup_nil⟩

/-- **No two clients have one id.** -/
theorem Named.eq_of_pair (h : r.Named) {info' : ComponentInfo} (hc : r.findByClientId c = some info)
    (hc' : r.findByClientId c' = some info') (hpair : info.componentIdPair = info'.componentIdPair) : c = c' := by
  have hlookup := h.lookup c info hc
  rw [hpair, h.lookup c' info' hc'] at hlookup
  exact (Option.some.inj hlookup).symm

theorem Named.registerComponent (h : r.Named) (hr : r.registerComponent info = some r') : r'.Named := by
  obtain ⟨hfree, hmap, hids, -, -⟩ := registerComponent_some hr
  refine ⟨fun c info' hc => ?_, ?_⟩
  · rw [hids, lookup_insertKey]
    rw [findByClientId_insert hmap] at hc
    by_cases heq : c = info.clientId
    · rw [if_pos heq] at hc
      rw [if_pos (congrArg _ (Option.some.inj hc).symm), heq]
    · -- the id of another client is taken
      rw [if_neg heq] at hc
      have hother := h.lookup c info' hc
      rw [if_neg, hother]
      intro hpair
      rw [hpair] at hother
      rw [isIdTaken_iff.mpr ⟨c, hother⟩] at hfree
      cases hfree
  · unfold getAllClientIds
    rw [hmap]
    exact nodup_insertKey h.keys _ _

theorem Named.unregisterComponent (h : r.Named) (c : Nat) : (r.unregisterComponent c).Named := by
  cases hinfo : r.findByClientId c with
  | none => rwa [unregisterComponent_of_none hinfo]
  | some info =>
      obtain ⟨hmap, hids, -, -⟩ := unregisterComponent_of_some hinfo
      refine ⟨fun c' info' hc' => ?_, ?_⟩
      · rw [findByClientId_unregister] at hc'
        split at hc'
        · cases hc'
        · rename_i hne
          rw [hids, lookup_eraseKey, if_neg, h.lookup c' info' hc']
          exact fun hpair => hne (h.eq_of_pair hc' hinfo hpair)
      · unfold getAllClientIds
        rw [hmap]
        exact nodup_eraseKey h.keys c

/-- What the registry says about ids is in its two maps. -/
theorem Named.congr (h : r.Named) (hmap : r'.registryByClientId = r.registryByClientId)
    (hids : r'.clientIdByComponentId = r.clientIdByComponentId) : r'.Named := by
  refine ⟨fun c info hc => ?_, ?_⟩
  · rw [hids]
    unfold findByClientId at hc
    rw [hmap] at hc
    exact h.lookup c info hc
  · unfold getAllClientIds
    rw [hmap]
    exact h.keys

theorem Named.updateKeepalive (h : r.Named) (groupId idInGroup : UInt8) (now : Nat) :
    (r.updateKeepalive groupId idInGroup now).1.Named := by
  refine ⟨fun c info hc => ?_, ?_⟩
  · rw [(updateKeepalive_frame r groupId idInGroup now).1]
    rcases findByClientId_updateKeepalive r groupId idInGroup now c with hsame | ⟨old, hold, hnew⟩
    · rw [hsame] at hc
      exact h.lookup c info hc
    · -- the id of a record is not in its time
      rw [hnew] at hc
      rw [← Option.some.inj hc]
      exact h.lookup c old hold
  · unfold ComponentRegistry.updateKeepalive
    split
    · exact h.keys
    · split
      · exact h.keys
      · exact nodup_insertKey h.keys _ _

/-- **One call** leaves every component its id. -/
theorem Named.call (h : r.Named) (e : RegistryCall) : (r.call e).Named := by
  cases e with
  | registerComponent info =>
      show ((r.registerComponent info).getD r).Named
      cases hr : r.registerComponent info with
      | none => exact h
      | some r' => exact h.registerComponent hr
  | unregisterComponent c => exact h.unregisterComponent c
  | updateKeepalive g i now => exact h.updateKeepalive g i now
  | findAvailableBridge | findAvailableOm => exact h.congr rfl rfl

/-- **Every sequence of calls** does. -/
theorem named_run (calls : List RegistryCall) : (run call {} calls).Named :=
  run_invariant_of_step call (fun _ e h => h.call e) calls {} named_empty

/-! ## The list of the components -/

theorem Named.mem_registry_iff (h : r.Named) : (c, info) ∈ r.registryByClientId ↔ r.findByClientId c = some info :=
  mem_iff_lookup_eq_some h.keys

theorem Named.mem_getAllComponents_iff (h : r.Named) :
    info ∈ r.getAllComponents ↔ ∃ c, r.findByClientId c = some info := by
  unfold getAllComponents
  rw [List.mem_map]
  constructor
  · rintro ⟨e, he, rfl⟩
    exact ⟨e.1, h.mem_registry_iff.mp he⟩
  · rintro ⟨c, hc⟩
    exact ⟨(c, info), h.mem_registry_iff.mpr hc, rfl⟩

/-- **No two components of the list have one id.** -/
theorem Named.nodup_pairs (h : r.Named) : (r.getAllComponents.map ComponentInfo.componentIdPair).Nodup := by
  unfold getAllComponents
  rw [List.map_map]
  refine List.Nodup.map_on ?_ (List.Nodup.of_map Prod.fst h.keys)
  intro e he e' he' hpair
  have hc := h.mem_registry_iff.mp he
  have hc' := h.mem_registry_iff.mp he'
  have hclient : e.1 = e'.1 := h.eq_of_pair hc hc' hpair
  rw [hclient, hc'] at hc
  exact Prod.ext hclient (Option.some.inj hc).symm

/-- The id as `connection_target_id` has it. -/
def pairNumber (id : UInt8 × UInt8) : Nat := id.1.toNat * 256 + id.2.toNat

theorem pairNumber_lt (id : UInt8 × UInt8) : pairNumber id < 65536 := by
  have h1 := id.1.toNat_lt
  have h2 := id.2.toNat_lt
  unfold pairNumber
  omega

theorem pairNumber_injective : Function.Injective pairNumber := by
  intro id id' h
  have h2 := id.2.toNat_lt
  have h2' := id'.2.toNat_lt
  unfold pairNumber at h
  apply Prod.ext
  · apply UInt8.toNat.inj
    omega
  · apply UInt8.toNat.inj
    omega

/-- **There are no more components than ids.** -/
theorem Named.length_getAllComponents_le (h : r.Named) : r.getAllComponents.length ≤ 65536 := by
  have hnodup : ((r.getAllComponents.map ComponentInfo.componentIdPair).map pairNumber).Nodup :=
    h.nodup_pairs.map pairNumber_injective
  have hsub : (r.getAllComponents.map ComponentInfo.componentIdPair).map pairNumber ⊆ List.range 65536 := by
    intro n hn
    obtain ⟨id, -, rfl⟩ := List.mem_map.mp hn
    exact List.mem_range.mpr (pairNumber_lt id)
  have hlen := (hnodup.subperm hsub).length_le
  rwa [List.length_map, List.length_map, List.length_range] at hlen

end ComponentRegistry

end EdgeOffloading.Discovery
