import EdgeOffloading.Bridge.Routes

/-!
# The two spellings of a gateway's identity

A gateway has one identity, a group and an identifier in the group. The control plane sees it as the text
`group:identifier`, from which the Bridge builds the keys of the routes; the data plane sees it as two bytes in every
header, from which the Bridge builds the key of the frame.

* `componentIdParts_componentId`: the Bridge reads the identity back from the text;
* `frames_meet_routes`: the frames of both gateways of a session are parsed to keys under which the routes of the
  session are installed.
-/

namespace EdgeOffloading

/-- The parameters `identity.group_id` and `identity.id_in_group` of a gateway. -/
structure Identity where
  idGroup : Int
  identifierInGroup : Int
  deriving DecidableEq, Repr

namespace Identity

variable (identity : Identity)

/-- `component_id_`: `std::to_string` of both numbers around a colon. -/
def componentId : String := toString identity.idGroup ++ ":" ++ toString identity.identifierInGroup

/-- Both numbers fit into a byte. -/
def InRange : Prop :=
  0 ≤ identity.idGroup ∧ identity.idGroup ≤ 255 ∧ 0 ≤ identity.identifierInGroup ∧ identity.identifierInGroup ≤ 255

instance : Decidable identity.InRange := inferInstanceAs (Decidable (_ ∧ _))

/-- The bytes that `RosGateway::send_message` enqueues, the identity cast by `set_identity`. -/
def sendMessage (topic : List UInt8) (type : MessageType) (data : List UInt8) (options : MessageOptions) :
    List UInt8 :=
  createHeaderInBuffer topic type (UInt8.ofInt identity.idGroup) (UInt8.ofInt identity.identifierInGroup) data.length
    options ++ data

/-- The key that the Bridge reads from the header of the gateway's messages of a type. -/
def routingKey (msgType : UInt8) : RoutingKey :=
  constructRoutingKey (UInt8.ofInt identity.idGroup) (UInt8.ofInt identity.identifierInGroup) msgType

theorem parse_sendMessage (topic : List UInt8) (type : MessageType) {data : List UInt8} (hdata : data.length < 2 ^ 32)
    (options : MessageOptions) (rest : List UInt8) :
    ∃ h, parseMessageHeader (identity.sendMessage topic type data options ++ rest) = some h ∧
      h.routingKey = identity.routingKey type.toUInt8 := by
  let f : Frame :=
    ⟨topic, type, UInt8.ofInt identity.idGroup, UInt8.ofInt identity.identifierInGroup, options, data⟩
  exact ⟨_, f.parse_frame hdata rest, rfl⟩

variable {identity}

theorem toList_componentId (g i : Nat) :
    (componentId ⟨g, i⟩).toList = Nat.toDigits 10 g ++ ':' :: Nat.toDigits 10 i := by
  unfold componentId
  rw [String.toList_append, String.toList_append, show toString (g : Int) = toString g from rfl,
    show toString (i : Int) = toString i from rfl, toList_toString, toList_toString, List.append_assoc]
  rfl

/-- **The Bridge reads the identity back from the component id.** -/
theorem componentIdParts_componentId (h : identity.InRange) :
    componentIdParts identity.componentId = some (identity.idGroup, identity.identifierInGroup) := by
  obtain ⟨hg, hg255, hi, hi255⟩ := h
  obtain ⟨g, hgroup⟩ := Int.eq_ofNat_of_zero_le hg
  obtain ⟨i, hid⟩ := Int.eq_ofNat_of_zero_le hi
  rw [hgroup] at hg255
  rw [hid] at hi255
  have htext : identity.componentId.toList = Nat.toDigits 10 g ++ ':' :: Nat.toDigits 10 i := by
    rw [← toList_componentId g i, show identity = ⟨(g : Int), (i : Int)⟩ by rw [← hgroup, ← hid]]
  unfold componentIdParts
  rw [htext, splitAtColon_append (colon_notMem_toDigits g)]
  simp only [stoi_toDigits (show g < 2 ^ 31 by omega), stoi_toDigits (show i < 2 ^ 31 by omega), hgroup, hid]

end Identity

open Bridge

theorem mem_createRoutingRules {m : SessionManager} (table : RoutingTable)
    {handlers : String → Option TransportHandler} {r : String} {s : ActiveSession} {vhc mec : Identity}
    {vhcHandler mecHandler : TransportHandler} (hs : m.getSession r = some s) (hvhcRange : vhc.InRange)
    (hmecRange : mec.InRange) (hvhcId : s.mgwcpComponentId = vhc.componentId)
    (hmecId : s.assignedMecId = mec.componentId) (hvhc : handlers vhc.componentId = some vhcHandler)
    (hmec : handlers mec.componentId = some mecHandler) :
    (createRoutingRulesForSession m table handlers r).1 = m.setRoutingRulesCreated r true ∧
      (∀ msgType ∈ s.inputMessageTypes, mecHandler.inputQueue ∈
        (createRoutingRulesForSession m table handlers r).2.getDestinations (vhc.routingKey msgType)) ∧
      ∀ msgType ∈ s.outputMessageTypes, vhcHandler.inputQueue ∈
        (createRoutingRulesForSession m table handlers r).2.getDestinations (mec.routingKey msgType) := by
  have hne : mec.componentId ≠ "" := by
    intro h0
    have hparts := Identity.componentIdParts_componentId hmecRange
    rw [h0] at hparts
    cases hparts
  unfold createRoutingRulesForSession
  simp only [hs, hvhcId, hmecId, Identity.componentIdParts_componentId hvhcRange, hvhc, hmec, if_neg hne,
    Identity.componentIdParts_componentId hmecRange, RoutingTable.foldl_addRoute, RoutingTable.mem_addRoutes,
    List.mem_map, Prod.mk.injEq]
  refine ⟨trivial, fun msgType hty => ?_, fun msgType hty => ?_⟩
  · exact Or.inl (Or.inr ⟨msgType, hty, rfl, trivial⟩)
  · exact Or.inr ⟨msgType, hty, rfl, trivial⟩

/-- **Installed routes match the frames that gateways send.** The call succeeds where both gateways have a handler;
afterwards every message of the VHC with an input type of the task reaches the MEC's queue and every message of the MEC
with an output type reaches the VHC's queue, whatever bytes follow it in the stream. -/
theorem frames_meet_routes (vhc mec : Identity) (hvhcRange : vhc.InRange) (hmecRange : mec.InRange) (m : SessionManager)
    (table : RoutingTable) (handlers : String → Option TransportHandler) {r : String} {s : ActiveSession}
    {vhcHandler mecHandler : TransportHandler} (hs : m.getSession r = some s)
    (hvhcId : s.mgwcpComponentId = vhc.componentId) (hmecId : s.assignedMecId = mec.componentId)
    (hvhc : handlers vhc.componentId = some vhcHandler) (hmec : handlers mec.componentId = some mecHandler) :
    let created := createRoutingRulesForSession m table handlers r
    created.1 = m.setRoutingRulesCreated r true ∧
      (∀ topic type data options rest, data.length < 2 ^ 32 → type.toUInt8 ∈ s.inputMessageTypes →
        ∃ h, parseMessageHeader (vhc.sendMessage topic type data options ++ rest) = some h ∧
          mecHandler.inputQueue ∈ created.2.getDestinations h.routingKey) ∧
      ∀ topic type data options rest, data.length < 2 ^ 32 → type.toUInt8 ∈ s.outputMessageTypes →
        ∃ h, parseMessageHeader (mec.sendMessage topic type data options ++ rest) = some h ∧
          vhcHandler.inputQueue ∈ created.2.getDestinations h.routingKey := by
  intro created
  obtain ⟨hflag, hinputs, houtputs⟩ :=
    mem_createRoutingRules table hs hvhcRange hmecRange hvhcId hmecId hvhc hmec
  refine ⟨hflag, ?_, ?_⟩
  · intro topic type data options rest hdata hty
    obtain ⟨h, hparse, hkey⟩ := vhc.parse_sendMessage topic type hdata options rest
    exact ⟨h, hparse, hkey ▸ hinputs _ hty⟩
  · intro topic type data options rest hdata hty
    obtain ⟨h, hparse, hkey⟩ := mec.parse_sendMessage topic type hdata options rest
    exact ⟨h, hparse, hkey ▸ houtputs _ hty⟩

/-- The sessions of the sample run when its approval has assigned the MEC. -/
def sampleAssigned : SessionManager := beforeApproval.sessionManager.setAssignedMec "1" "70:1"

theorem frames_meet_routes_sample :
    ∃ mecHandler, beforeApproval.transportHandlers "70:1" = some mecHandler ∧
      ∃ h, parseMessageHeader (Identity.sendMessage ⟨60, 5⟩ [0x2F] .stringTestInput [1, 2, 3] {} ++ []) = some h ∧
        mecHandler.inputQueue ∈ (createRoutingRulesForSession sampleAssigned beforeApproval.routingTable
          beforeApproval.transportHandlers "1").2.getDestinations h.routingKey := by
  have hsession : (sampleAssigned.getSession "1").map
      (fun s => (s.mgwcpComponentId, s.assignedMecId, s.inputMessageTypes)) = some ("60:5", "70:1", [201]) := by
    decide +kernel
  obtain ⟨s, hs, hfields⟩ := Option.map_eq_some_iff.mp hsession
  obtain ⟨hvhcId, hmecId, hinputs⟩ : s.mgwcpComponentId = "60:5" ∧ s.assignedMecId = "70:1" ∧
      s.inputMessageTypes = [201] := by
    simpa using hfields
  have hvhcSome : (beforeApproval.transportHandlers "60:5").isSome = true := by decide +kernel
  have hmecSome : (beforeApproval.transportHandlers "70:1").isSome = true := by decide +kernel
  obtain ⟨vhcHandler, hvhc⟩ := Option.isSome_iff_exists.mp hvhcSome
  obtain ⟨mecHandler, hmec⟩ := Option.isSome_iff_exists.mp hmecSome
  have hroutes := frames_meet_routes ⟨60, 5⟩ ⟨70, 1⟩ (by decide) (by decide) sampleAssigned beforeApproval.routingTable
    beforeApproval.transportHandlers hs hvhcId hmecId hvhc hmec
  exact ⟨mecHandler, hmec, hroutes.2.1 _ _ _ _ _ (by decide) (by rw [hinputs]; decide)⟩

end EdgeOffloading
