import EdgeOffloading.Discovery.Service

/-!
# The containers of the registry

`ComponentRegistry` describes one set of components four times: by client, by component id, and in the lists of the
Bridges and of the OMs. `Represents` says that the four agree.

* `Represents.call`: every call keeps it, except the registration of a client that is registered already;
* `consistent_iff_along`: over a sequence of calls the containers agree all the time exactly if there is no such call.
-/

namespace EdgeOffloading.Discovery

open Run

/-! ## Lookups -/

section Map

variable {κ α : Type} [DecidableEq κ] [BEq κ] [LawfulBEq κ]

theorem lookup_eraseKey (m : List (κ × α)) (k k' : κ) :
    (eraseKey m k).lookup k' = if k' = k then none else m.lookup k' := by
  induction m with
  | nil => simp [eraseKey]
  | cons e m ih =>
      unfold eraseKey at ih ⊢
      by_cases he : e.1 = k
      · rw [List.filter_cons_of_neg (by simp [he]), ih, List.lookup_cons, he]
        split
        · rfl
        · rename_i hne
          rw [beq_false_of_ne hne]
      · rw [List.filter_cons_of_pos (by simp [he]), List.lookup_cons, List.lookup_cons, ih]
        by_cases hk : k' = e.1
        · simp [hk, he]
        · rw [beq_false_of_ne hk]

theorem lookup_insertKey (m : List (κ × α)) (k : κ) (v : α) (k' : κ) :
    (insertKey m k v).lookup k' = if k' = k then some v else m.lookup k' := by
  unfold insertKey
  rw [List.lookup_cons, lookup_eraseKey]
  by_cases hk : k' = k
  · simp [hk]
  · simp [hk, beq_false_of_ne hk]

end Map

/-! ## Calls -/

/-- The calls of the registry that can change it. -/
inductive RegistryCall where
  | registerComponent (info : ComponentInfo)
  | unregisterComponent (clientId : Nat)
  | updateKeepalive (groupId idInGroup : UInt8) (now : Nat)
  | findAvailableBridge
  | findAvailableOm
  deriving DecidableEq, Repr

/-- The pair under which `client_id_by_component_id_` has the component. -/
def ComponentInfo.componentIdPair (info : ComponentInfo) : UInt8 × UInt8 := (info.groupId, info.idInGroup)

namespace ComponentRegistry

def call (r : ComponentRegistry) : RegistryCall → ComponentRegistry
  | .registerComponent info => (r.registerComponent info).getD r
  | .unregisterComponent clientId => r.unregisterComponent clientId
  | .updateKeepalive groupId idInGroup now => (r.updateKeepalive groupId idInGroup now).1
  | .findAvailableBridge => r.findAvailableBridge.1
  | .findAvailableOm => r.findAvailableOm.1

variable {r r' : ComponentRegistry} {info : ComponentInfo} {c : Nat}

/-- A registered client of the type. -/
def Registered (r : ComponentRegistry) (type : ComponentType) (c : Nat) : Prop :=
  ∃ info, r.findByClientId c = some info ∧ info.componentType = type

/-- The list names the registered clients of the type, each of them once. -/
def Lists (r : ComponentRegistry) (type : ComponentType) (ids : List Nat) : Prop :=
  ids.Nodup ∧ ∀ c, c ∈ ids ↔ r.Registered type c

/-- The containers agree on what is registered. -/
structure Represents (r : ComponentRegistry) : Prop where
  /-- The two maps are inverse to each other. -/
  ids : ∀ id c, r.clientIdByComponentId.lookup id = some c ↔
    ∃ info, r.findByClientId c = some info ∧ info.componentIdPair = id
  bridges : r.Lists .bridge r.bridgeClientIds
  oms : r.Lists .offloadManager r.omClientIds

/-- Nothing in the registry names the client. -/
structure Forgets (r : ComponentRegistry) (c : Nat) : Prop where
  record : r.findByClientId c = none
  ids : ∀ id, r.clientIdByComponentId.lookup id ≠ some c
  bridges : c ∉ r.bridgeClientIds
  oms : c ∉ r.omClientIds

theorem represents_empty : Represents {} := by
  have hlists : ∀ type, Lists {} type [] := by
    intro type
    refine ⟨List.nodup_nil, fun c => ?_⟩
    simp [Registered, findByClientId]
  refine ⟨fun id c => ?_, hlists .bridge, hlists .offloadManager⟩
  simp [findByClientId]

theorem isIdTaken_iff {groupId idInGroup : UInt8} :
    r.isIdTaken groupId idInGroup = true ↔ ∃ c, r.clientIdByComponentId.lookup (groupId, idInGroup) = some c :=
  Option.isSome_iff_exists

/-! ## Registration -/

/-- The list of the type after the registration. -/
def appendIf (ids : List Nat) (type : ComponentType) (info : ComponentInfo) : List Nat :=
  if info.componentType = type then ids ++ [info.clientId] else ids

theorem registerComponent_some (h : r.registerComponent info = some r') :
    r.isIdTaken info.groupId info.idInGroup = false ∧
      r'.registryByClientId = insertKey r.registryByClientId info.clientId info ∧
      r'.clientIdByComponentId = insertKey r.clientIdByComponentId info.componentIdPair info.clientId ∧
      r'.bridgeClientIds = appendIf r.bridgeClientIds .bridge info ∧
      r'.omClientIds = appendIf r.omClientIds .offloadManager info := by
  unfold registerComponent at h
  split at h
  · cases h
  · rename_i hfree
    rw [← Option.some.inj h]
    unfold appendIf
    cases info.componentType <;> exact ⟨by simpa using hfree, rfl, rfl, rfl, rfl⟩

theorem registerComponent_eq_none_iff :
    r.registerComponent info = none ↔ r.isIdTaken info.groupId info.idInGroup = true := by
  unfold registerComponent
  split
  · rename_i htaken
    exact ⟨fun _ => htaken, fun _ => rfl⟩
  · rename_i hfree
    simp [hfree]

theorem findByClientId_insert (hmap : r'.registryByClientId = insertKey r.registryByClientId info.clientId info)
    (c : Nat) : r'.findByClientId c = if c = info.clientId then some info else r.findByClientId c := by
  unfold findByClientId
  rw [hmap, lookup_insertKey]

theorem Lists.register {type : ComponentType} {ids : List Nat} (h : r.Lists type ids)
    (hnew : r.findByClientId info.clientId = none)
    (hfind : ∀ c, r'.findByClientId c = if c = info.clientId then some info else r.findByClientId c) :
    r'.Lists type (appendIf ids type info) := by
  have hnotMem : info.clientId ∉ ids := by
    intro hmem
    obtain ⟨info', hinfo', -⟩ := (h.2 _).mp hmem
    rw [hnew] at hinfo'
    cases hinfo'
  have hself : r'.Registered type info.clientId ↔ info.componentType = type := by
    unfold Registered
    rw [hfind, if_pos rfl]
    simp
  have hother : ∀ c, c ≠ info.clientId → (r'.Registered type c ↔ r.Registered type c) := by
    intro c hc
    unfold Registered
    rw [hfind, if_neg hc]
  unfold appendIf
  by_cases htype : info.componentType = type
  · rw [if_pos htype]
    refine ⟨List.nodup_append.mpr ⟨h.1, List.nodup_singleton _, ?_⟩, fun c => ?_⟩
    · intro a ha b hb hab
      rw [List.mem_singleton.mp hb] at hab
      exact hnotMem (hab ▸ ha)
    · rw [List.mem_append, List.mem_singleton]
      by_cases hc : c = info.clientId
      · rw [hc, hself]
        exact ⟨fun _ => htype, fun _ => .inr rfl⟩
      · rw [hother c hc, ← h.2 c]
        simp [hc]
  · rw [if_neg htype]
    refine ⟨h.1, fun c => ?_⟩
    by_cases hc : c = info.clientId
    · rw [hc, hself]
      exact ⟨fun hmem => absurd hmem hnotMem, fun ht => absurd ht htype⟩
    · rw [hother c hc, h.2 c]

theorem Represents.registerComponent (h : r.Represents) (hnew : r.findByClientId info.clientId = none)
    (hr : r.registerComponent info = some r') : r'.Represents := by
  obtain ⟨hfree, hmap, hids, hbridges, homs⟩ := registerComponent_some hr
  have hfind := findByClientId_insert hmap
  refine ⟨fun id c => ?_, ?_, ?_⟩
  · rw [hids, lookup_insertKey, hfind]
    by_cases hid : id = info.componentIdPair
    · rw [if_pos hid]
      by_cases hc : c = info.clientId
      · simp [hc, hid]
      · -- the id was free, so no other client has it
        rw [if_neg hc]
        constructor
        · intro heq
          exact absurd (Option.some.inj heq).symm hc
        · rintro ⟨info', hinfo', hid'⟩
          have htaken := (h.ids id c).mpr ⟨info', hinfo', hid'⟩
          rw [hid] at htaken
          rw [isIdTaken_iff.mpr ⟨c, htaken⟩] at hfree
          cases hfree
    · rw [if_neg hid]
      by_cases hc : c = info.clientId
      · -- the client was new, so no other id names it
        rw [if_pos hc]
        constructor
        · intro hlookup
          obtain ⟨info', hinfo', -⟩ := (h.ids id c).mp hlookup
          rw [hc, hnew] at hinfo'
          cases hinfo'
        · rintro ⟨info', hinfo', hid'⟩
          rw [← Option.some.inj hinfo'] at hid'
          exact absurd hid'.symm hid
      · rw [if_neg hc]
        exact h.ids id c
  · rw [hbridges]
    exact h.bridges.register hnew hfind
  · rw [homs]
    exact h.oms.register hnew hfind

theorem Represents.not_registerComponent (h : r.Represents) {old : ComponentInfo}
    (hold : r.findByClientId info.clientId = some old) (hr : r.registerComponent info = some r') : ¬ r'.Represents := by
  intro h'
  obtain ⟨hfree, hmap, hids, -, -⟩ := registerComponent_some hr
  have hmine : r.clientIdByComponentId.lookup old.componentIdPair = some info.clientId :=
    (h.ids _ _).mpr ⟨old, hold, rfl⟩
  have hne : old.componentIdPair ≠ info.componentIdPair := by
    intro heq
    rw [heq] at hmine
    rw [isIdTaken_iff.mpr ⟨_, hmine⟩] at hfree
    cases hfree
  have hstill : r'.clientIdByComponentId.lookup old.componentIdPair = some info.clientId := by
    rw [hids, lookup_insertKey, if_neg hne]
    exact hmine
  obtain ⟨info', hinfo', hid'⟩ := (h'.ids _ _).mp hstill
  rw [findByClientId_insert hmap, if_pos rfl] at hinfo'
  rw [← Option.some.inj hinfo'] at hid'
  exact hne hid'.symm

/-! ## The other calls -/

/-- The list of the type after the removal. -/
def removeIf (ids : List Nat) (type : ComponentType) (info : ComponentInfo) (c : Nat) : List Nat :=
  if info.componentType = type then ids.filter fun id => id ≠ c else ids

theorem unregisterComponent_of_none (h : r.findByClientId c = none) : r.unregisterComponent c = r := by
  simp only [unregisterComponent, h]

theorem unregisterComponent_of_some (h : r.findByClientId c = some info) :
    (r.unregisterComponent c).registryByClientId = eraseKey r.registryByClientId c ∧
      (r.unregisterComponent c).clientIdByComponentId = eraseKey r.clientIdByComponentId info.componentIdPair ∧
      (r.unregisterComponent c).bridgeClientIds = removeIf r.bridgeClientIds .bridge info c ∧
      (r.unregisterComponent c).omClientIds = removeIf r.omClientIds .offloadManager info c := by
  unfold removeIf
  simp only [unregisterComponent, h]
  cases info.componentType <;> exact ⟨rfl, rfl, rfl, rfl⟩

theorem findByClientId_unregister (r : ComponentRegistry) (c c' : Nat) :
    (r.unregisterComponent c).findByClientId c' = if c' = c then none else r.findByClientId c' := by
  cases h : r.findByClientId c with
  | none =>
      rw [unregisterComponent_of_none h]
      split
      · rename_i heq
        rw [heq, h]
      · rfl
  | some info =>
      unfold findByClientId
      rw [(unregisterComponent_of_some h).1, lookup_eraseKey]

theorem findByClientId_unregister_eq_some {c' : Nat} {info' : ComponentInfo} :
    (r.unregisterComponent c).findByClientId c' = some info' ↔ c' ≠ c ∧ r.findByClientId c' = some info' := by
  rw [findByClientId_unregister]
  by_cases hc : c' = c
  · simp [hc]
  · simp [hc]

theorem Lists.unregister {type : ComponentType} {ids : List Nat} (h : r.Lists type ids)
    (hinfo : r.findByClientId c = some info) : (r.unregisterComponent c).Lists type (removeIf ids type info c) := by
  have hself : ¬ (r.unregisterComponent c).Registered type c := by
    rintro ⟨info', hinfo', -⟩
    rw [findByClientId_unregister, if_pos rfl] at hinfo'
    cases hinfo'
  have hother : ∀ c', c' ≠ c → ((r.unregisterComponent c).Registered type c' ↔ r.Registered type c') := by
    intro c' hc'
    unfold Registered
    rw [findByClientId_unregister, if_neg hc']
  unfold removeIf
  by_cases htype : info.componentType = type
  · rw [if_pos htype]
    refine ⟨h.1.filter _, fun c' => ?_⟩
    rw [List.mem_filter, h.2 c']
    by_cases hc : c' = c
    · rw [hc]
      simp [hself]
    · rw [hother c' hc]
      simp [hc]
  · rw [if_neg htype]
    refine ⟨h.1, fun c' => ?_⟩
    rw [h.2 c']
    by_cases hc : c' = c
    · rw [hc]
      refine ⟨?_, fun hreg => absurd hreg hself⟩
      rintro ⟨info', hinfo', ht⟩
      rw [hinfo] at hinfo'
      rw [← Option.some.inj hinfo'] at ht
      exact absurd ht htype
    · rw [hother c' hc]

theorem Represents.unregisterComponent (h : r.Represents) (c : Nat) : (r.unregisterComponent c).Represents := by
  cases hinfo : r.findByClientId c with
  | none => rwa [unregisterComponent_of_none hinfo]
  | some info =>
      obtain ⟨-, hids, hbridges, homs⟩ := unregisterComponent_of_some hinfo
      refine ⟨fun id c' => ?_, ?_, ?_⟩
      · rw [hids, lookup_eraseKey, findByClientId_unregister]
        have hmine := h.ids info.componentIdPair c'
        by_cases hid : id = info.componentIdPair
        · -- only the removed client has the id
          rw [if_pos hid]
          constructor
          · intro hlookup
            cases hlookup
          · rintro ⟨info', hinfo', hid'⟩
            have hc : c' ≠ c := by
              intro hc
              rw [if_pos hc] at hinfo'
              cases hinfo'
            rw [if_neg hc] at hinfo'
            have hother := hmine.mpr ⟨info', hinfo', hid'.trans hid⟩
            rw [(h.ids _ _).mpr ⟨info, hinfo, rfl⟩] at hother
            exact absurd (Option.some.inj hother).symm hc
        · rw [if_neg hid, h.ids id c']
          by_cases hc : c' = c
          · rw [if_pos hc, hc, hinfo]
            simp [Ne.symm hid]
          · rw [if_neg hc]
      · rw [hbridges]
        exact h.bridges.unregister hinfo
      · rw [homs]
        exact h.oms.unregister hinfo

theorem Represents.forgets (h : r.Represents) (hc : r.findByClientId c = none) : r.Forgets c := by
  have hnot : ∀ type, ¬ r.Registered type c := by
    rintro type ⟨info, hinfo, -⟩
    rw [hc] at hinfo
    cases hinfo
  refine ⟨hc, fun id hid => ?_, fun hmem => ?_, fun hmem => ?_⟩
  · obtain ⟨info, hinfo, -⟩ := (h.ids id c).mp hid
    rw [hc] at hinfo
    cases hinfo
  · exact hnot _ ((h.bridges.2 c).mp hmem)
  · exact hnot _ ((h.oms.2 c).mp hmem)

/-- What the containers say about a client is in the id and the type of its record. -/
theorem Represents.congr (h : r.Represents) (hids : r'.clientIdByComponentId = r.clientIdByComponentId)
    (hbridges : r'.bridgeClientIds = r.bridgeClientIds) (homs : r'.omClientIds = r.omClientIds)
    (hfind : ∀ c, (r'.findByClientId c).map (fun i => (i.componentIdPair, i.componentType)) =
      (r.findByClientId c).map fun i => (i.componentIdPair, i.componentType)) : r'.Represents := by
  have hsame : ∀ (p : (UInt8 × UInt8) × ComponentType → Prop) (c : Nat),
      (∃ info, r'.findByClientId c = some info ∧ p (info.componentIdPair, info.componentType)) ↔
        ∃ info, r.findByClientId c = some info ∧ p (info.componentIdPair, info.componentType) := by
    intro p c
    have hc := hfind c
    cases h' : r'.findByClientId c with
    | none =>
        cases hr : r.findByClientId c with
        | none => simp
        | some info => rw [h', hr] at hc; cases hc
    | some info' =>
        cases hr : r.findByClientId c with
        | none => rw [h', hr] at hc; cases hc
        | some info =>
            rw [h', hr] at hc
            simp [Option.some.inj hc]
  refine ⟨fun id c => ?_, ⟨?_, fun c => ?_⟩, ?_, fun c => ?_⟩
  · rw [hids, h.ids id c]
    exact (hsame (fun x => x.1 = id) c).symm
  · rw [hbridges]
    exact h.bridges.1
  · rw [hbridges, h.bridges.2 c]
    exact (hsame (fun x => x.2 = .bridge) c).symm
  · rw [homs]
    exact h.oms.1
  · rw [homs, h.oms.2 c]
    exact (hsame (fun x => x.2 = .offloadManager) c).symm

theorem findByClientId_updateKeepalive (r : ComponentRegistry) (groupId idInGroup : UInt8) (now c : Nat) :
    (r.updateKeepalive groupId idInGroup now).1.findByClientId c = r.findByClientId c ∨
      ∃ info, r.findByClientId c = some info ∧
        (r.updateKeepalive groupId idInGroup now).1.findByClientId c = some { info with lastSeen := now } := by
  unfold updateKeepalive
  split
  · exact .inl rfl
  · rename_i clientId _
    split
    · exact .inl rfl
    · rename_i info hinfo
      unfold findByClientId at hinfo ⊢
      by_cases hc : c = clientId
      · right
        refine ⟨info, hc ▸ hinfo, ?_⟩
        dsimp only
        rw [lookup_insertKey, if_pos hc]
      · left
        dsimp only
        rw [lookup_insertKey, if_neg hc]

theorem updateKeepalive_frame (r : ComponentRegistry) (groupId idInGroup : UInt8) (now : Nat) :
    (r.updateKeepalive groupId idInGroup now).1.clientIdByComponentId = r.clientIdByComponentId ∧
      (r.updateKeepalive groupId idInGroup now).1.bridgeClientIds = r.bridgeClientIds ∧
      (r.updateKeepalive groupId idInGroup now).1.omClientIds = r.omClientIds := by
  unfold updateKeepalive
  split
  · exact ⟨rfl, rfl, rfl⟩
  · split <;> exact ⟨rfl, rfl, rfl⟩

theorem Represents.updateKeepalive (h : r.Represents) (groupId idInGroup : UInt8) (now : Nat) :
    (r.updateKeepalive groupId idInGroup now).1.Represents := by
  obtain ⟨hids, hbridges, homs⟩ := updateKeepalive_frame r groupId idInGroup now
  refine h.congr hids hbridges homs fun c => ?_
  rcases findByClientId_updateKeepalive r groupId idInGroup now c with hsame | ⟨info, hinfo, hnew⟩
  · rw [hsame]
  · rw [hnew, hinfo]
    rfl

theorem mem_of_searchIds {ids : List Nat} {idx : Nat} {info : ComponentInfo}
    (h : (r.searchIds ids idx).2 = some info) : ∃ c ∈ ids, r.findByClientId c = some info := by
  unfold searchIds at h
  split at h
  · cases h
  · rename_i c hc
    exact ⟨c, List.mem_of_getElem? hc, h⟩

theorem Represents.moved (h : r.Represents) (nextBridgeIdx nextOmIdx : Nat) :
    ComponentRegistry.Represents { r with nextBridgeIdx := nextBridgeIdx, nextOmIdx := nextOmIdx } :=
  h.congr rfl rfl rfl fun _ => rfl

/-! ## Sequences of calls -/

/-- A registration under a free id is the first one of its client. -/
def FirstRegistration (r : ComponentRegistry) : RegistryCall → Prop
  | .registerComponent info =>
      r.isIdTaken info.groupId info.idInGroup = true ∨ r.findByClientId info.clientId = none
  | _ => True

/-- **One call** keeps the containers in agreement exactly if it registers no client a second time. -/
theorem Represents.call (h : r.Represents) (c : RegistryCall) : (r.call c).Represents ↔ r.FirstRegistration c := by
  cases c with
  | registerComponent info =>
      show ((r.registerComponent info).getD r).Represents ↔
        r.isIdTaken info.groupId info.idInGroup = true ∨ r.findByClientId info.clientId = none
      cases hr : r.registerComponent info with
      | none => exact ⟨fun _ => .inl (registerComponent_eq_none_iff.mp hr), fun _ => h⟩
      | some r' =>
          have hfree := (registerComponent_some hr).1
          rw [Option.getD_some]
          cases hold : r.findByClientId info.clientId with
          | none => exact ⟨fun _ => .inr rfl, fun _ => h.registerComponent hold hr⟩
          | some old => simp [hfree, h.not_registerComponent hold hr]
  | unregisterComponent c => exact ⟨fun _ => trivial, fun _ => h.unregisterComponent c⟩
  | updateKeepalive g i now => exact ⟨fun _ => trivial, fun _ => h.updateKeepalive g i now⟩
  | findAvailableBridge => exact ⟨fun _ => trivial, fun _ => h.moved _ r.nextOmIdx⟩
  | findAvailableOm => exact ⟨fun _ => trivial, fun _ => h.moved r.nextBridgeIdx _⟩

/-- The containers agree after each of the calls, and what is unregistered is gone from all of them. -/
structure Consistent (calls : List RegistryCall) : Prop where
  represents : ∀ pre, pre <+: calls → (run call {} pre).Represents
  forgets : ∀ pre c, pre ++ [.unregisterComponent c] <+: calls →
    (run call {} (pre ++ [.unregisterComponent c])).Forgets c

/-- **The containers agree** after every call of a sequence exactly if no call of it registers a client, under an id
that is free, while the client is registered. -/
theorem consistent_iff_along (calls : List RegistryCall) :
    Consistent calls ↔ Along call FirstRegistration {} calls := by
  have hiff := forall_prefix_iff_along call (I := Represents) (J := fun _ => True) (C := FirstRegistration)
    (fun _ _ _ => trivial) (fun _ c _ h => h.call c) calls {} trivial represents_empty
  refine ⟨fun h => hiff.mp h.represents, fun h => ⟨hiff.mpr h, fun pre c hpre => ?_⟩⟩
  apply (hiff.mpr h _ hpre).forgets
  rw [run_append, run_cons, run_nil]
  show ((run call {} pre).unregisterComponent c).findByClientId c = none
  rw [findByClientId_unregister, if_pos rfl]

/-- A component of a client. -/
def exampleInfo (clientId : Nat) (type : ComponentType) (groupId idInGroup : UInt8) : ComponentInfo where
  clientId := clientId
  componentType := type
  groupId := groupId
  idInGroup := idInGroup
  name := ""
  listenAddress := "10.0.0.7"
  listenPort := 9000
  lastSeen := 0

/-- The client registers as a Bridge, again as a MEC, and leaves: `1.2` stays taken and the client stays in the list of
the Bridges. -/
def registersAgain : List RegistryCall :=
  [.registerComponent (exampleInfo 5 .bridge 1 2), .registerComponent (exampleInfo 5 .mec 70 1), .unregisterComponent 5]

theorem registersAgain_not_consistent :
    ¬ Consistent registersAgain ∧ (run call {} registersAgain).isIdTaken 1 2 = true ∧
      (run call {} registersAgain).bridgeClientIds = [5] ∧ (run call {} registersAgain).findByClientId 5 = none := by
  refine ⟨fun h => ?_, by decide, by decide, by decide⟩
  have hforgets := h.forgets
    [.registerComponent (exampleInfo 5 .bridge 1 2), .registerComponent (exampleInfo 5 .mec 70 1)] 5 List.prefix_rfl
  exact hforgets.bridges (by decide)

end ComponentRegistry

end EdgeOffloading.Discovery
