import EdgeOffloading.Discovery.Naming
import EdgeOffloading.Manager.Text

/-!
# Component queries

The service answers a query with the components of one type, each of them a list of fields within the list of fields of
the line. The OM reads the line with `_parse_query_response`, a C++ client with the decoder of the protocol and
`parse_component_data`; both skip what they cannot read.

* `parseQueryResponse_componentsReply`: the OM reads back every component and nothing else;
* `componentQuery_understood`: so do both readers, for every registry and every order its map is walked in.
-/

namespace EdgeOffloading

open Discovery Run

/-! ## A component on its way -/

/-- The id of a component as the OM writes it. -/
def Discovery.ComponentInfo.omId (component : ComponentInfo) : String :=
  toString component.groupId.toNat ++ ":" ++ toString component.idInGroup.toNat

/-- A component of a list as the OM reads it. -/
def Discovery.ComponentInfo.asDiscovered (component : ComponentInfo) : DiscoveredComponent where
  componentType := componentTypeToString component.componentType
  groupId := component.groupId.toNat
  idInGroup := component.idInGroup.toNat
  componentSubtype := component.componentSubtype.toNat
  componentId := component.omId

/-- A component of a list as `parse_component_data` reads it. -/
def Discovery.ComponentInfo.asData (component : ComponentInfo) : ComponentData where
  componentType := componentTypeToString component.componentType
  groupId := component.groupId
  idInGroup := component.idInGroup
  subtype := component.componentSubtype

theorem formatComponent_eq (component : ComponentInfo) :
    DiscoveryService.formatComponent component = formatComponentData component.asData := rfl

theorem colon_notMem_componentTypeToString (type : Discovery.ComponentType) :
    ':' ∉ (componentTypeToString type).toList := by
  cases type <;> decide

theorem parseComponentData_formatComponent (uninitialized : UInt8 × UInt8) (component : ComponentInfo) :
    parseComponentData uninitialized (DiscoveryService.formatComponent component) = component.asData := by
  rw [formatComponent_eq]
  exact parseComponentData_formatComponentData uninitialized
    (colon_notMem_componentTypeToString component.componentType)

theorem fromDiscoveryData_formatComponent (component : ComponentInfo) :
    DiscoveredComponent.fromDiscoveryData (DiscoveryService.formatComponent component).toList =
      some component.asDiscovered := by
  have hcolon : ∀ n : Nat, ':' ∉ (toString n).toList := fun n => by
    rw [toList_toString]
    exact colon_notMem_toDigits n
  have hsplit : (DiscoveryService.formatComponent component).toList.splitOn ':' =
      [(componentTypeToString component.componentType).toList, (toString component.groupId.toNat).toList,
        (toString component.idInGroup.toNat).toList, (toString component.componentSubtype.toNat).toList] := by
    rw [DiscoveryService.formatComponent, String.toList_intercalate]
    refine List.splitOn_intercalate ':' (fun l hl => ?_) (List.cons_ne_nil _ _)
    simp only [List.map_cons, List.map_nil, List.mem_cons, List.not_mem_nil, or_false] at hl
    rcases hl with rfl | rfl | rfl | rfl
    · exact colon_notMem_componentTypeToString component.componentType
    · exact hcolon _
    · exact hcolon _
    · exact hcolon _
  unfold DiscoveredComponent.fromDiscoveryData
  rw [hsplit]
  simp only [String.ofList_toList, pyInt_toString_nat]
  rfl

theorem semicolon_notMem_formatComponent (component : ComponentInfo) :
    ';' ∉ (DiscoveryService.formatComponent component).toList := by
  have htype : ';' ∉ (componentTypeToString component.componentType).toList := by
    cases component.componentType <;> decide
  rw [DiscoveryService.formatComponent, String.toList_intercalate]
  simp [List.intercalate_cons_cons, htype]

theorem formatComponent_ne_nil (component : ComponentInfo) :
    (DiscoveryService.formatComponent component).toList ≠ [] := by
  intro hnil
  have h := fromDiscoveryData_formatComponent component
  rw [hnil] at h
  exact absurd h (by simp [DiscoveredComponent.fromDiscoveryData])

theorem length_le_intercalate (d : Char) (ls : List (List Char)) : ls.length ≤ ([d].intercalate ls).length + 1 := by
  induction ls with
  | nil => exact Nat.zero_le _
  | cons l ls ih =>
      cases ls with
      | nil => simp
      | cons l' ls =>
          rw [List.intercalate_cons_cons, List.length_append, List.length_append]
          simp only [List.length_cons, List.length_nil] at ih ⊢
          omega

/-! ## The reply -/

/-- The reply to a query that finds these components. -/
def componentsReply (components : List ComponentInfo) : Message :=
  .componentList {
    componentCount := UInt32.ofNat components.length
    componentDataList := components.map DiscoveryService.formatComponent
    humanReadableMessage := "Component query successful" }

/-- The number of components as the service writes it. -/
def countText (components : List ComponentInfo) : String := toString (UInt32.ofNat components.length).toNat

section Reply

variable {components : List ComponentInfo}

theorem componentsReply_fields (components : List ComponentInfo) :
    (encodeMessage (componentsReply components)).toList =
      [';'].intercalate ("DISC:LST".toList :: (countText components).toList ::
        (components.map (fun c => (DiscoveryService.formatComponent c).toList) ++
          ["Component query successful".toList])) := by
  show (";".intercalate _).toList = _
  rw [String.toList_intercalate]
  simp only [List.map_append, List.map_cons, List.map_nil, List.map_map, List.cons_append, List.nil_append]
  rfl

theorem componentsReply_ends (components : List ComponentInfo) :
    ∃ mid, (encodeMessage (componentsReply components)).toList =
      "DISC:LST;".toList ++ (mid ++ ";Component query successful".toList) := by
  refine ⟨(";".intercalate (countText components :: components.map DiscoveryService.formatComponent)).toList, ?_⟩
  have hline : encodeMessage (componentsReply components) = ";".intercalate (("DISC:LST" :: countText components ::
      components.map DiscoveryService.formatComponent) ++ ["Component query successful"]) := rfl
  rw [hline, String.intercalate_append_of_ne_nil (List.cons_ne_nil _ _) (List.cons_ne_nil _ _),
    String.intercalate_singleton, String.intercalate_cons_of_ne_nil (List.cons_ne_nil _ _)]
  simp [String.toList_append]

theorem pyStrip_componentsReply (components : List ComponentInfo) :
    pyStrip (encodeMessage (componentsReply components)).toList =
      (encodeMessage (componentsReply components)).toList := by
  obtain ⟨mid, hline⟩ := componentsReply_ends components
  have hends : (encodeMessage (componentsReply components)).toList =
      'D' :: ("ISC:LST;".toList ++ (mid ++ ";Component query successfu".toList) ++ ['l']) := by
    rw [hline]
    simp
  rw [hends]
  exact stripBy_of_ends _ (by decide) (by decide)

/-- **The OM reads back the components of a reply**, if the service can count them. -/
theorem parseQueryResponse_componentsReply (hlen : components.length < 2 ^ 32) :
    parseQueryResponse (encodeMessage (componentsReply components)).toList =
      components.map Discovery.ComponentInfo.asDiscovered := by
  have hsplit : (encodeMessage (componentsReply components)).toList.splitOn ';' =
      "DISC:LST".toList :: (countText components).toList ::
        (components.map (fun c => (DiscoveryService.formatComponent c).toList) ++
          ["Component query successful".toList]) := by
    rw [componentsReply_fields]
    refine List.splitOn_intercalate ';' (fun l hl => ?_) (List.cons_ne_nil _ _)
    rcases List.mem_cons.mp hl with rfl | hl
    · decide
    rcases List.mem_cons.mp hl with rfl | hl
    · rw [countText, toList_toString]
      exact semicolon_notMem_toDigits _
    rcases List.mem_append.mp hl with hl | hl
    · obtain ⟨c, -, rfl⟩ := List.mem_map.mp hl
      exact semicolon_notMem_formatComponent c
    · obtain rfl := List.mem_singleton.mp hl
      decide
  have hcount : pyInt (countText components) = some (components.length : Int) := by
    rw [countText, pyInt_toString_nat, UInt32.toNat_ofNat_of_lt' hlen]
  have hhead : "DISC:LST;".toList.isPrefixOf (encodeMessage (componentsReply components)).toList = true := by
    obtain ⟨mid, hline⟩ := componentsReply_ends components
    rw [hline, List.isPrefixOf_iff_prefix]
    exact List.prefix_append _ _
  unfold parseQueryResponse
  rw [hhead, hsplit]
  simp only [Bool.not_true, Bool.false_eq_true, if_false, String.ofList_toList, hcount, Int.toNat_natCast]
  rw [List.take_append_of_le_length (by simp), List.take_of_length_le (by simp), List.filterMap_map]
  rw [← List.filterMap_eq_map]
  apply List.filterMap_congr
  intro c _
  simp only [Function.comp_apply, if_neg (formatComponent_ne_nil c), fromDiscoveryData_formatComponent]

theorem decodeMessage_componentsReply (hlen : components.length < 2 ^ 31) :
    decodeMessage (encodeMessage (componentsReply components)) = .ok (componentsReply components) := by
  have hcount : (UInt32.ofNat components.length).toNat = components.length :=
    UInt32.toNat_ofNat_of_lt' (hlen.trans (by decide))
  refine decodeMessage_encodeMessage trivial ⟨?_, ?_, ?_⟩
  · intro f hf
    rcases List.mem_append.mp hf with hf | hf
    · obtain ⟨c, -, rfl⟩ := List.mem_map.mp hf
      exact semicolon_notMem_formatComponent c
    · rw [List.mem_singleton.mp hf]
      show ';' ∉ "Component query successful".toList
      decide
  · show "Component query successful" ≠ ""
    decide
  · refine ⟨?_, ?_⟩
    · show (UInt32.ofNat components.length).toNat = (components.map DiscoveryService.formatComponent).length
      rw [hcount, List.length_map]
    · show (UInt32.ofNat components.length).toNat ≤ 2 ^ 31 - 1
      rw [hcount]
      omega

theorem length_le_of_componentsReply {n : Nat} (h : (encodeMessage (componentsReply components)).toList.length ≤ n) :
    components.length ≤ n := by
  have hle := length_le_intercalate ';' ("DISC:LST".toList :: (countText components).toList ::
    (components.map (fun c => (DiscoveryService.formatComponent c).toList) ++
      ["Component query successful".toList]))
  rw [← componentsReply_fields] at hle
  simp only [List.length_cons, List.length_append, List.length_map, List.length_nil] at hle
  omega

end Reply

/-! ## Queries -/

theorem handleComponentQuery_eq (s : DiscoveryService) (clientId : Nat) (type : Discovery.ComponentType)
    (text : String) :
    s.handleComponentQuery clientId
        { componentTypeFilter := componentTypeToString type, humanReadableMessage := text } =
      s.sendResponse clientId
        (componentsReply (s.registry.getAllComponents.filter fun component => component.componentType = type)) := by
  have hfilter : ¬(componentTypeToString type = "ALL" ∨ componentTypeToString type = "") := by
    cases type <;> decide
  unfold DiscoveryService.handleComponentQuery
  rw [if_neg hfilter]
  dsimp only
  rw [stringToComponentType_componentTypeToString]
  rfl

/-- **Component queries are answered and understood exactly.** Whatever was called on the registry and in whatever order
its map is walked, a query for one type is answered with the registered components of that type, each of them once. The
OM reads exactly these components off the line, and so do the decoder of the protocol and `parse_component_data`, which
undoes `format_component_data`. -/
theorem componentQuery_understood (calls : List RegistryCall) (s : DiscoveryService)
    (horder : s.registry.registryByClientId.Perm (run ComponentRegistry.call {} calls).registryByClientId)
    (clientId : Nat) (type : Discovery.ComponentType) (text : String) (uninitialized : UInt8 × UInt8) :
    (∃ components : List ComponentInfo,
      (components.map ComponentInfo.componentIdPair).Nodup ∧
      (∀ info, info ∈ components ↔
        (∃ c, (run ComponentRegistry.call {} calls).findByClientId c = some info) ∧ info.componentType = type) ∧
      s.handleComponentQuery clientId
          { componentTypeFilter := componentTypeToString type, humanReadableMessage := text } =
        s.sendResponse clientId (componentsReply components) ∧
      pyStrip (encodeMessage (componentsReply components)).toList =
        (encodeMessage (componentsReply components)).toList ∧
      parseQueryResponse (encodeMessage (componentsReply components)).toList =
        components.map ComponentInfo.asDiscovered ∧
      ∃ list, decodeMessage (encodeMessage (componentsReply components)) = .ok (.componentList list) ∧
        list.componentDataList.map (parseComponentData uninitialized) = components.map ComponentInfo.asData) ∧
    ∀ data : ComponentData, ':' ∉ data.componentType.toList →
      parseComponentData uninitialized (formatComponentData data) = data := by
  have hnamed := ComponentRegistry.named_run calls
  have hall : s.registry.getAllComponents.Perm (run ComponentRegistry.call {} calls).getAllComponents :=
    horder.map Prod.snd
  have hlen : s.registry.getAllComponents.length ≤ 65536 := by
    rw [hall.length_eq]
    exact hnamed.length_getAllComponents_le
  have hfiltered : (s.registry.getAllComponents.filter fun component => component.componentType = type).length ≤
      65536 := (List.length_filter_le _ _).trans hlen
  refine ⟨⟨s.registry.getAllComponents.filter fun component => component.componentType = type, ?_, ?_, ?_, ?_, ?_,
    _, decodeMessage_componentsReply (by omega), ?_⟩, fun data hdata => ?_⟩
  · have hnodup := (hall.map ComponentInfo.componentIdPair).nodup_iff.mpr hnamed.nodup_pairs
    exact hnodup.sublist (List.filter_sublist.map _)
  · intro info
    rw [List.mem_filter, hall.mem_iff, hnamed.mem_getAllComponents_iff, decide_eq_true_iff]
  · exact handleComponentQuery_eq s clientId type text
  · exact pyStrip_componentsReply _
  · exact parseQueryResponse_componentsReply (by omega)
  · rw [List.map_map]
    exact List.map_congr_left fun c _ => parseComponentData_formatComponent uninitialized c
  · exact parseComponentData_formatComponentData uninitialized hdata

/-- A MEC, a Bridge that leaves again, and a second MEC. -/
def queriedCalls : List RegistryCall :=
  [.registerComponent (ComponentRegistry.exampleInfo 5 .mec 1 2),
    .registerComponent (ComponentRegistry.exampleInfo 6 .bridge 70 1), .unregisterComponent 6,
    .registerComponent (ComponentRegistry.exampleInfo 7 .mec 1 3)]

/-- The registry after these calls, its map in the other order. -/
def queriedRegistry : ComponentRegistry :=
  let r := run ComponentRegistry.call {} queriedCalls
  { r with registryByClientId := r.registryByClientId.reverse }

theorem componentQuery_understood_queriedCalls :
    queriedRegistry.getAllClientIds = [5, 7] ∧
      ∃ components : List ComponentInfo,
        (∀ info, info ∈ components ↔
          (∃ c, (run ComponentRegistry.call {} queriedCalls).findByClientId c = some info) ∧
            info.componentType = .mec) ∧
        parseQueryResponse (encodeMessage (componentsReply components)).toList =
          components.map ComponentInfo.asDiscovered := by
  obtain ⟨⟨components, -, hmem, -, -, hparse, -⟩, -⟩ := componentQuery_understood queriedCalls
    { p2pMode := false, registry := queriedRegistry } (List.reverse_perm _) 5 .mec "" (0, 0)
  exact ⟨by decide, components, hmem, hparse⟩

end EdgeOffloading
