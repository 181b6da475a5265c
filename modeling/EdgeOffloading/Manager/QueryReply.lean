import EdgeOffloading.Manager.DiscoveryClient
import EdgeOffloading.Manager.Exclusive

/-!
# The reply to a component query

The ids on a list replace the discovered ones, and the decision engine hears of it when the MECs have changed. The
parser returns an empty list for a text that it cannot read, which is also what it returns when there are no components,
and skips the entries that it cannot read. Without a reply, nothing is replaced.

* `mem_idsOf_parseQueryResponse`: the ids that the client takes from a text;
* `badReply_leavesAll_iff`: when a text that is no list leaves the client and the engine as they are.
-/

namespace EdgeOffloading

/-- The client, the decision engine, and whether the client has been given its callback. -/
structure Resources where
  client : DiscoveryClient := {}
  engine : OffloadingManager
  callbackSet : Bool := true

def DiscoveryClient.discovered (c : DiscoveryClient) : QueryType → Finset String
  | .mec => c.discoveredMecs
  | .vehicle => c.discoveredVhcs

/-- The ids of the components of one type, each of them once. -/
def idList (type : QueryType) (components : List DiscoveredComponent) : List String :=
  ((components.filter fun component => component.componentType = type.letter).map
    DiscoveredComponent.componentId).dedup

theorem toFinset_idList (type : QueryType) (components : List DiscoveredComponent) :
    (idList type components).toFinset = DiscoveryClient.idsOf type components := by
  ext id
  simp [idList, DiscoveryClient.idsOf]

/-- `_query_components` from the reply on. -/
def Resources.queryComponents (s : Resources) (type : QueryType) (response : List Char) : Resources :=
  if response = [] then s
  else
    let components := parseQueryResponse response
    let client := s.client.updateComponents components type
    match type with
    | .mec =>
      { s with
        client := client
        engine :=
          if s.client.discoveredMecs ≠ client.discoveredMecs ∧ s.callbackSet = true then
            s.engine.updateAvailableMecs (idList type components)
          else s.engine }
    | .vehicle => { s with client := client }

theorem DiscoveryClient.queryReceive_eq {s : Resources} {bytes : List Char} {type : QueryType}
    (hq : s.client.query = .receiving type) (hc : s.client.connected = true) (hne : bytes ≠ []) :
    s.client.queryReceive (.data bytes) = (s.queryComponents type (pyStrip bytes)).client.nextQuery type := by
  unfold Resources.queryComponents
  by_cases hstripped : pyStrip bytes = []
  · simp [queryReceive, hq, receiveMessage, hc, hne, hstripped]
  · rw [s.client.queryReceive_of_data hq hc hne hstripped, if_neg hstripped]
    cases type <;> rfl

/-! ## What is on a list -/

/-- One of the entries that the reply counts. -/
def Counts (response data : List Char) : Prop :=
  "DISC:LST;".toList.isPrefixOf response = true ∧
    ∃ tag count parts n, response.splitOn ';' = tag :: count :: parts ∧ pyInt (String.ofList count) = some n ∧
      data ∈ parts.take n.toNat

/-- The reply has an entry that reads as a component of the type with the id. -/
def Names (type : QueryType) (response : List Char) (id : String) : Prop :=
  ∃ data component, Counts response data ∧ DiscoveredComponent.fromDiscoveryData data = some component ∧
    component.componentType = type.letter ∧ component.componentId = id

/-- A component list: it begins as one, counts its entries, and every entry that it counts is there and reads as a
component. -/
def WellFormed (response : List Char) : Prop :=
  "DISC:LST;".toList.isPrefixOf response = true ∧
    ∃ tag count parts n, response.splitOn ';' = tag :: count :: parts ∧ pyInt (String.ofList count) = some n ∧
      0 ≤ n ∧ n ≤ parts.length ∧
        ∀ data ∈ parts.take n.toNat, (DiscoveredComponent.fromDiscoveryData data).isSome = true

theorem fromDiscoveryData_nil : DiscoveredComponent.fromDiscoveryData [] = none := by
  simp [DiscoveredComponent.fromDiscoveryData]

theorem counts_iff {response tag count data : List Char} {parts : List (List Char)}
    (hhead : "DISC:LST;".toList.isPrefixOf response = true) (hparts : response.splitOn ';' = tag :: count :: parts) :
    Counts response data ↔ ∃ n, pyInt (String.ofList count) = some n ∧ data ∈ parts.take n.toNat := by
  constructor
  · rintro ⟨-, tag', count', parts', n, hparts', hcount, hdata⟩
    rw [hparts] at hparts'
    cases hparts'
    exact ⟨n, hcount, hdata⟩
  · rintro ⟨n, hcount, hdata⟩
    exact ⟨hhead, tag, count, parts, n, hparts, hcount, hdata⟩

/-- **What the parser returns**: the components of the entries that the text counts and that can be read. -/
theorem mem_parseQueryResponse {response : List Char} {component : DiscoveredComponent} :
    component ∈ parseQueryResponse response ↔
      ∃ data, Counts response data ∧ DiscoveredComponent.fromDiscoveryData data = some component := by
  unfold parseQueryResponse
  by_cases hhead : "DISC:LST;".toList.isPrefixOf response = true
  · rw [if_neg (by rw [hhead]; decide)]
    split
    · rename_i tag count parts hparts
      cases hcount : pyInt (String.ofList count) with
      | none =>
          refine iff_of_false List.not_mem_nil ?_
          rintro ⟨data, hdata, -⟩
          obtain ⟨n, hn, -⟩ := (counts_iff hhead hparts).mp hdata
          rw [hcount] at hn
          cases hn
      | some n =>
          dsimp only
          rw [List.mem_filterMap]
          constructor
          · rintro ⟨data, hdata, hread⟩
            split at hread
            · cases hread
            · exact ⟨data, (counts_iff hhead hparts).mpr ⟨n, hcount, hdata⟩, hread⟩
          · rintro ⟨data, hdata, hread⟩
            obtain ⟨n', hn, hmem⟩ := (counts_iff hhead hparts).mp hdata
            rw [hcount] at hn
            cases hn
            refine ⟨data, hmem, ?_⟩
            -- an empty entry reads as no component
            rw [if_neg]
            · exact hread
            · rintro rfl
              rw [fromDiscoveryData_nil] at hread
              cases hread
    · rename_i hparts
      refine iff_of_false List.not_mem_nil ?_
      rintro ⟨data, ⟨-, tag, count, parts, n, hsplit, -⟩, -⟩
      exact hparts tag count parts hsplit
  · rw [if_pos (by rw [Bool.eq_false_iff.mpr hhead]; rfl)]
    refine iff_of_false List.not_mem_nil ?_
    rintro ⟨data, ⟨hlist, -⟩, -⟩
    exact hhead hlist

theorem mem_idsOf_parseQueryResponse {type : QueryType} {response : List Char} {id : String} :
    id ∈ DiscoveryClient.idsOf type (parseQueryResponse response) ↔ Names type response id := by
  unfold DiscoveryClient.idsOf
  rw [List.mem_toFinset, List.mem_map]
  constructor
  · rintro ⟨component, hcomponent, hid⟩
    obtain ⟨hmem, htype⟩ := List.mem_filter.mp hcomponent
    obtain ⟨data, hdata, hread⟩ := mem_parseQueryResponse.mp hmem
    exact ⟨data, component, hdata, hread, of_decide_eq_true htype, hid⟩
  · rintro ⟨data, component, hdata, hread, htype, hid⟩
    refine ⟨component, List.mem_filter.mpr ⟨?_, decide_eq_true htype⟩, hid⟩
    exact mem_parseQueryResponse.mpr ⟨data, hdata, hread⟩

/-! ## What a reply changes -/

/-- The discovered components, the available MECs and the assignments are what they were. -/
structure LeavesAll (s s' : Resources) : Prop where
  mecs : s'.client.discoveredMecs = s.client.discoveredMecs
  vhcs : s'.client.discoveredVhcs = s.client.discoveredVhcs
  available : s'.engine.availableMecs = s.engine.availableMecs
  assignments : s'.engine.mecAssignments = s.engine.mecAssignments

theorem leavesAll_queryComponents_iff (s : Resources) (type : QueryType) (response : List Char) :
    LeavesAll s (s.queryComponents type response) ↔
      response = [] ∨ ∀ id, Names type response id ↔ id ∈ s.client.discovered type := by
  have hids : (∀ id, Names type response id ↔ id ∈ s.client.discovered type) ↔
      DiscoveryClient.idsOf type (parseQueryResponse response) = s.client.discovered type := by
    rw [Finset.ext_iff]
    simp only [mem_idsOf_parseQueryResponse]
  rw [hids]
  unfold Resources.queryComponents
  by_cases hempty : response = []
  · rw [if_pos hempty]
    exact iff_of_true ⟨rfl, rfl, rfl, rfl⟩ (.inl hempty)
  · rw [if_neg hempty, or_iff_right hempty]
    cases type with
    | mec =>
        refine ⟨fun h => h.mecs, fun h => ?_⟩
        have hsame : ¬(s.client.discoveredMecs ≠
            (s.client.updateComponents (parseQueryResponse response) .mec).discoveredMecs ∧ s.callbackSet = true) :=
          fun hchanged => hchanged.1 h.symm
        dsimp only
        rw [if_neg hsame]
        exact ⟨h, rfl, rfl, rfl⟩
    | vehicle => exact ⟨fun h => h.vhcs, fun h => ⟨rfl, h, rfl, rfl⟩⟩

/-- **A reply that is no component list** changes nothing exactly if it is empty, or if the entries of it that can be
read name just the components that are known. -/
theorem badReply_leavesAll_iff (s : Resources) (type : QueryType) (response : List Char) :
    (¬ WellFormed response → LeavesAll s (s.queryComponents type response)) ↔
      WellFormed response ∨ response = [] ∨ ∀ id, Names type response id ↔ id ∈ s.client.discovered type := by
  rw [leavesAll_queryComponents_iff]
  exact or_iff_not_imp_left.symm

/-- The OM has heard of a MEC and gives it a session. -/
def busyResources : Resources :=
  let s := ({ engine := OffloadingManager.init [0] 10 } : Resources).queryComponents .mec
    "DISC:LST;1;M:20:1:0;Component query successful".toList
  { s with engine := (s.engine.makeDecision (.int 1) (.int 0) (.str "10:1") ⟨0, 0, fun _ => ""⟩).1 }

/-- The answer to a ping, which the query thread may receive. -/
def pongReply : List Char := "DISC:PON;OK;5000;Keepalive acknowledged.".toList

theorem busyResources_not_leavesAll :
    ¬ WellFormed pongReply ∧ ¬ LeavesAll busyResources (busyResources.queryComponents .mec pongReply) ∧
      busyResources.engine.mecAssignments "20:1" = some (.str "10:1") ∧
      (busyResources.queryComponents .mec pongReply).engine.mecAssignments "20:1" = none := by
  have hmecs : busyResources.client.discoveredMecs = {"20:1"} := by decide +kernel
  have hgone : (busyResources.queryComponents .mec pongReply).client.discoveredMecs = ∅ := by decide +kernel
  refine ⟨fun h => absurd h.1 (by decide), fun h => ?_, ?_, ?_⟩
  · have hsame := h.mecs
    rw [hgone, hmecs] at hsame
    exact absurd hsame (by decide)
  · rfl
  · decide +kernel

end EdgeOffloading
