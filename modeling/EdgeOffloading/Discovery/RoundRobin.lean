import EdgeOffloading.Discovery.Naming
import EdgeOffloading.Lib.RoundRobin

/-!
# The round robin of the registry

`find_available_bridge` and `find_available_om` serve the lists of the Bridges and of the OMs in turn. Registrations
make a list longer behind the index, removals make it shorter and leave the index where it is.

* `Searches.found_eq`: what consecutive searches find are the turns of the list;
* `FairShare`: among the components found, each registered one is there equally often, and nothing else is;
* `roundRobin_fair`: so it is after every sequence of calls that registers no client a second time.
-/

namespace EdgeOffloading.Discovery.ComponentRegistry

open Run RoundRobin

variable {r : ComponentRegistry} {type : ComponentType} {ids : List Nat}

/-! ## Searches -/

/-- The results of consecutive `find_available_bridge` calls. -/
def bridgesFound (r : ComponentRegistry) (searches : Nat) : List (Option ComponentInfo) :=
  collect call (fun r _ => [r.findAvailableBridge.2]) r (List.replicate searches .findAvailableBridge)

/-- The results of consecutive `find_available_om` calls. -/
def omsFound (r : ComponentRegistry) (searches : Nat) : List (Option ComponentInfo) :=
  collect call (fun r _ => [r.findAvailableOm.2]) r (List.replicate searches .findAvailableOm)

/-- The search `find` serves the clients `ids` in turn, by the index `idx`. -/
structure Searches (e : RegistryCall) (find : ComponentRegistry → ComponentRegistry × Option ComponentInfo)
    (ids : ComponentRegistry → List Nat) (idx : ComponentRegistry → Nat) : Prop where
  call : ∀ r, r.call e = (find r).1
  found : ∀ r, (find r).2 = (turn (ids r) (idx r)).2.bind r.findByClientId
  idx : ∀ r, idx (find r).1 = (turn (ids r) (idx r)).1
  ids : ∀ r, ids (find r).1 = ids r
  records : ∀ r, (find r).1.registryByClientId = r.registryByClientId

theorem searchIds_eq (r : ComponentRegistry) (ids : List Nat) (idx : Nat) :
    r.searchIds ids idx = ((turn ids idx).1, (turn ids idx).2.bind r.findByClientId) := by
  unfold searchIds
  by_cases hl : ids = []
  · have hnone : ids[rotate ids idx]? = none := by
      rw [hl, List.getElem?_nil]
    rw [turn, if_pos hl, hnone]
    rfl
  · have hat : ids[rotate ids idx]? = some _ := List.getElem?_eq_getElem (start_lt hl idx)
    rw [turn, if_neg hl]
    show _ = (_, (ids[rotate ids idx]?).bind _)
    rw [hat]
    rfl

theorem searches_bridge :
    Searches .findAvailableBridge findAvailableBridge bridgeClientIds nextBridgeIdx where
  call _ := rfl
  found r := congrArg Prod.snd (searchIds_eq r r.bridgeClientIds r.nextBridgeIdx)
  idx r := congrArg Prod.fst (searchIds_eq r r.bridgeClientIds r.nextBridgeIdx)
  ids _ := rfl
  records _ := rfl

theorem searches_om : Searches .findAvailableOm findAvailableOm omClientIds nextOmIdx where
  call _ := rfl
  found r := congrArg Prod.snd (searchIds_eq r r.omClientIds r.nextOmIdx)
  idx r := congrArg Prod.fst (searchIds_eq r r.omClientIds r.nextOmIdx)
  ids _ := rfl
  records _ := rfl

/-- **Consecutive searches** find the clients that have their turns. -/
theorem Searches.found_eq {e : RegistryCall} {find : ComponentRegistry → ComponentRegistry × Option ComponentInfo}
    {ids : ComponentRegistry → List Nat} {idx : ComponentRegistry → Nat} (h : Searches e find ids idx) (m : Nat) :
    ∀ r, collect ComponentRegistry.call (fun r _ => [(find r).2]) r (List.replicate m e) =
      (turns (ids r) (idx r) m).map fun o => o.bind r.findByClientId := by
  induction m with
  | zero => intro r; rfl
  | succ m ih =>
      intro r
      have hrecords : (find r).1.findByClientId = r.findByClientId := by
        funext c
        unfold findByClientId
        rw [h.records]
      rw [List.replicate_succ, collect, h.call, ih, h.ids, h.idx, hrecords, turns, List.map_cons, h.found]
      rfl

/-! ## Shares -/

/-- The number of registered components of the type. -/
def registeredCount (r : ComponentRegistry) (type : ComponentType) : Nat :=
  (r.getAllComponents.filter fun component => component.componentType = type).length

/-- Each registered component of the type is among the results `k` times, and they are all there is. -/
structure FairShare (r : ComponentRegistry) (type : ComponentType) (k : Nat) (found : List (Option ComponentInfo)) :
    Prop where
  each : ∀ c info, r.findByClientId c = some info → info.componentType = type → found.count (some info) = k
  others : ∀ o ∈ found, ∃ c info, r.findByClientId c = some info ∧ info.componentType = type ∧ o = some info

theorem Lists.length_eq (hl : r.Lists type ids) (hn : r.Named) : ids.length = r.registeredCount type := by
  have hperm : ids.Perm ((r.registryByClientId.filter fun e => e.2.componentType = type).map Prod.fst) := by
    refine (List.perm_ext_iff_of_nodup hl.1 (hn.keys.sublist (List.filter_sublist.map Prod.fst))).mpr ?_
    intro c
    rw [hl.2 c, List.mem_map]
    constructor
    · rintro ⟨info, hinfo, htype⟩
      exact ⟨(c, info), List.mem_filter.mpr ⟨hn.mem_registry_iff.mpr hinfo, decide_eq_true htype⟩, rfl⟩
    · rintro ⟨e, he, rfl⟩
      obtain ⟨hmem, htype⟩ := List.mem_filter.mp he
      exact ⟨e.2, hn.mem_registry_iff.mp hmem, of_decide_eq_true htype⟩
  rw [hperm.length_eq, List.length_map, registeredCount, getAllComponents, List.filter_map, List.length_map]
  rfl

theorem Lists.fairShare (hl : r.Lists type ids) (hn : r.Named) (idx k : Nat) :
    FairShare r type k ((turns ids idx (k * r.registeredCount type)).map fun o => o.bind r.findByClientId) := by
  rw [← hl.length_eq hn]
  have hmem : ∀ o ∈ turns ids idx (k * ids.length), ∃ c ∈ ids, o = some c := by
    intro o ho
    rcases eq_or_ne ids [] with rfl | hne
    · rw [List.length_nil, Nat.mul_zero] at ho
      cases ho
    · exact mem_of_mem_turns hne ho
  constructor
  · intro c info hinfo htype
    have hc : c ∈ ids := (hl.2 c).mpr ⟨info, hinfo, htype⟩
    rw [List.count_eq_countP, List.countP_map]
    refine (List.countP_congr ?_).trans (count_turns hl.1 hc idx k)
    intro o ho
    obtain ⟨c', hc', rfl⟩ := hmem o ho
    obtain ⟨info', hinfo', -⟩ := (hl.2 c').mp hc'
    show ((some c').bind r.findByClientId == some info) = true ↔ (some c' == some c) = true
    rw [Option.bind_some, hinfo', beq_iff_eq, beq_iff_eq]
    constructor
    · intro heq
      rw [Option.some.inj heq] at hinfo'
      exact congrArg some (hn.eq_of_pair hinfo' hinfo rfl)
    · intro heq
      rw [Option.some.inj heq, hinfo] at hinfo'
      exact hinfo'.symm
  · intro o ho
    obtain ⟨o', ho', rfl⟩ := List.mem_map.mp ho
    obtain ⟨c, hc, rfl⟩ := hmem o' ho'
    obtain ⟨info, hinfo, htype⟩ := (hl.2 c).mp hc
    exact ⟨c, info, hinfo, htype, hinfo⟩

/-! ## Runs -/

/-- The client that a call registers. -/
def registering : RegistryCall → Option Nat
  | .registerComponent info => some info.clientId
  | _ => none

theorem findByClientId_call (r : ComponentRegistry) (e : RegistryCall) {c : Nat}
    (h : (r.call e).findByClientId c ≠ none) : r.findByClientId c ≠ none ∨ registering e = some c := by
  cases e with
  | registerComponent info =>
      have hcall : r.call (.registerComponent info) = (r.registerComponent info).getD r := rfl
      rw [hcall] at h
      cases hr : r.registerComponent info with
      | none =>
          rw [hr] at h
          exact .inl h
      | some r' =>
          rw [hr, Option.getD_some, findByClientId_insert (registerComponent_some hr).2.1] at h
          by_cases hc : c = info.clientId
          · exact .inr (congrArg some hc.symm)
          · rw [if_neg hc] at h
            exact .inl h
  | unregisterComponent c' =>
      left
      intro hnone
      apply h
      show (r.unregisterComponent c').findByClientId c = none
      rw [findByClientId_unregister, hnone, ite_self]
  | updateKeepalive g i now =>
      left
      intro hnone
      rcases findByClientId_updateKeepalive r g i now c with hsame | ⟨info, hinfo, -⟩
      · exact h (hsame.trans hnone)
      · rw [hnone] at hinfo
        cases hinfo
  | findAvailableBridge | findAvailableOm => exact .inl h

theorem mem_registering_of_run {calls : List RegistryCall} {c : Nat}
    (h : (run call {} calls).findByClientId c ≠ none) : c ∈ calls.filterMap registering := by
  induction calls using List.reverseRecOn with
  | nil => exact absurd rfl h
  | append_singleton calls e ih =>
      rw [run_append] at h
      rw [List.filterMap_append, List.mem_append]
      rcases findByClientId_call _ e h with hbefore | he
      · exact .inl (ih hbefore)
      · exact .inr (List.mem_filterMap.mpr ⟨e, List.mem_singleton_self e, he⟩)

theorem along_firstRegistration_of_nodup {calls : List RegistryCall} (h : (calls.filterMap registering).Nodup) :
    Along call FirstRegistration {} calls := by
  rw [along_iff_forall_step]
  intro pre e hpre
  cases e with
  | registerComponent info =>
      right
      by_contra hknown
      have hmem := mem_registering_of_run hknown
      have hnodup := h.sublist (hpre.sublist.filterMap registering)
      rw [List.filterMap_append] at hnodup
      exact List.disjoint_of_nodup_append hnodup hmem (by simp [registering])
  | _ => trivial

/-- **The round robin is fair.** After every sequence of calls in which no client registers a second time, in `k` times
as many searches as there are Bridges each of them is found `k` times, wherever the index stands; so with the OMs. -/
theorem roundRobin_fair (calls : List RegistryCall) (hcalls : Along call FirstRegistration {} calls) (k : Nat) :
    FairShare (run call {} calls) .bridge k
        ((run call {} calls).bridgesFound (k * (run call {} calls).registeredCount .bridge)) ∧
      FairShare (run call {} calls) .offloadManager k
        ((run call {} calls).omsFound (k * (run call {} calls).registeredCount .offloadManager)) := by
  have hrep : (run call {} calls).Represents :=
    ((consistent_iff_along calls).mpr hcalls).represents calls List.prefix_rfl
  have hnamed := named_run calls
  constructor
  · rw [bridgesFound, searches_bridge.found_eq]
    exact hrep.bridges.fairShare hnamed _ k
  · rw [omsFound, searches_om.found_eq]
    exact hrep.oms.fairShare hnamed _ k

/-- Three Bridges, the index moved behind the last of them, and a removal that leaves it there. -/
def staleIndexCalls : List RegistryCall :=
  [.registerComponent (exampleInfo 5 .bridge 1 2), .registerComponent (exampleInfo 6 .bridge 1 3),
    .registerComponent (exampleInfo 7 .bridge 1 4), .findAvailableBridge, .findAvailableBridge, .findAvailableBridge,
    .unregisterComponent 6]

theorem roundRobin_fair_staleIndexCalls :
    (run call {} staleIndexCalls).bridgeClientIds = [5, 7] ∧ (run call {} staleIndexCalls).nextBridgeIdx = 3 ∧
      FairShare (run call {} staleIndexCalls) .bridge 4 ((run call {} staleIndexCalls).bridgesFound (4 * 2)) := by
  have hcalls : Along call FirstRegistration {} staleIndexCalls :=
    along_firstRegistration_of_nodup (by decide)
  exact ⟨by decide, by decide, (roundRobin_fair staleIndexCalls hcalls 4).1⟩

end EdgeOffloading.Discovery.ComponentRegistry
