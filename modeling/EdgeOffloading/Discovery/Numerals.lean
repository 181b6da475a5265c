import EdgeOffloading.Cpp.Numerals
import EdgeOffloading.Discovery.Startup

/-!
# The numbers of a registration line

The group id and the id in the group go through `std::stoi` and a cast to `uint8_t` when the line is decoded, the port
through `std::stoi` and a cast to `uint16_t` when the component is registered. Neither checks that the whole field is a
number or that the number fits.

* `echoed_handleRegistration`: what a registration does with the numbers of its request, in both modes;
* `readAsWritten_iff`: a SUCCESS stands for the numbers of the line exactly if the three fields are digits alone and
  what `std::stoi` reads there is in range.
-/

namespace EdgeOffloading.Discovery

/-! ## The request of a line -/

/-- The fields of a registration line that are read as numbers, and the type. -/
structure NumberFields where
  type : String
  group : String
  id : String
  port : String
  deriving DecidableEq

def numberFields (line : String) : Option NumberFields :=
  match splitString line ';' with
  | [_, type, _, group, id, _, _, port, _] => some { type := type, group := group, id := id, port := port }
  | _ => none

/-- What `decode_registration_request` makes of the fields. -/
structure ReadFrom (req : RegistrationRequest) (f : NumberFields) : Prop where
  type : req.componentType = stringToComponentType f.type
  group : ∃ n, stoi f.group.toList = some n ∧ req.groupId = UInt8.ofInt n
  id : ∃ n, stoi f.id.toList = some n ∧ req.idInGroup = UInt8.ofInt n
  port : req.listenPort = f.port

theorem readFrom_of_decode {line : String} {req : RegistrationRequest} (h : decodeRegistrationRequest line = .ok req) :
    ∃ f, numberFields line = some f ∧ ReadFrom req f := by
  unfold decodeRegistrationRequest at h
  split at h
  · rename_i tag type idType group id name address port text hparts
    obtain ⟨g, hg, h⟩ := bind_eq_ok h
    obtain ⟨i, hi, h⟩ := bind_eq_ok h
    cases h
    have hfields : numberFields line = some { type := type, group := group, id := id, port := port } := by
      rw [numberFields, hparts]
    exact ⟨_, hfields, rfl, ⟨g, readInt_eq_ok hg, rfl⟩, ⟨i, readInt_eq_ok hi, rfl⟩, rfl⟩
  · cases h

theorem decodeRegistrationRequest_of_message {line : String} {req : RegistrationRequest}
    (h : decodeMessage line = .ok (.registrationRequest req)) : decodeRegistrationRequest line = .ok req := by
  unfold decodeMessage at h
  split at h
  · cases h
  dsimp only at h
  split at h
  · obtain ⟨req', hreq, heq⟩ := map_eq_ok h
    cases heq
    exact hreq
  -- every other kind of message has another constructor
  all_goals
    repeat' split at h
    all_goals first
      | (obtain ⟨_, -, heq⟩ := map_eq_ok h; cases heq)
      | cases h

/-! ## The record and the answer -/

namespace DiscoveryService

variable {s t : DiscoveryService} {env : ServiceEnv} {c : Nat} {req : RegistrationRequest} {r : RegistrationResponse}

/-- A vehicle that looks for its peer is not registered. -/
def Seeks (s : DiscoveryService) (type : ComponentType) : Prop := s.p2pMode = true ∧ type = .vehicle

def HasIds (req : RegistrationRequest) (r : RegistrationResponse) : Prop :=
  r.assignedGroupId = req.groupId ∧ r.assignedIdInGroup = req.idInGroup

/-- The record of the client has the numbers of the request. -/
def Recorded (t : DiscoveryService) (c : Nat) (req : RegistrationRequest) : Prop :=
  ∃ port info, stoi req.listenPort.toList = some port ∧ t.registry.findByClientId c = some info ∧
    info.groupId = req.groupId ∧ info.idInGroup = req.idInGroup ∧ info.listenPort = UInt16.ofInt port

/-- A SUCCESS has the ids of the request, and it has brought a record. -/
structure Echoed (s : DiscoveryService) (c : Nat) (req : RegistrationRequest) (t : DiscoveryService)
    (r : RegistrationResponse) : Prop where
  answer : t.sent = s.sent ++ [(c, .registrationResponse r)]
  ids : r.responseCode = .success → HasIds req r
  record : r.responseCode = .success → s.Seeks req.componentType ∨ t.Recorded c req

theorem echoed_refusal (hsent : t.sent = s.sent) (hcode : r.responseCode ≠ .success) :
    Echoed s c req (t.sendRegistration c r) r := by
  refine ⟨?_, fun h => absurd h hcode, fun h => absurd h hcode⟩
  rw [← hsent]
  rfl

theorem echoed_registerCommon (hsent : t.sent = s.sent) (env : ServiceEnv) (c : Nat) {resp : RegistrationResponse}
    (hids : HasIds req resp) : ∃ r, Echoed s c req (t.registerCommon env c req resp) r := by
  rcases registerCommon_cases t env c req resp with ⟨r, hcode, heq⟩ | ⟨port, registry, hport, hregister, heq⟩
  · rw [heq]
    refine ⟨r, echoed_refusal hsent ?_⟩
    rcases hcode with hcode | hcode <;> rw [hcode] <;> decide
  · rw [heq]
    obtain ⟨-, hmap, -⟩ := ComponentRegistry.registerComponent_some hregister
    refine ⟨t.registeredResponse c resp, ?_, fun _ => hids,
      fun _ => .inr ⟨port, t.registeredInfo env c req port, hport, ?_, rfl, rfl, rfl⟩⟩
    · rw [← hsent]
      rfl
    · exact (ComponentRegistry.findByClientId_insert hmap c).trans (if_pos rfl)

theorem echoed_handleTarget (hsent : t.sent = s.sent) (env : ServiceEnv) (c : Nat) (req : RegistrationRequest) :
    ∃ r, Echoed s c req (t.handleTarget env c req) r := by
  by_cases htaken : t.registry.isIdTaken req.groupId req.idInGroup = true
  · obtain ⟨r, hcode, heq⟩ := handleTarget_of_taken env c htaken
    rw [heq]
    exact ⟨r, echoed_refusal hsent (by rw [hcode]; decide)⟩
  · obtain ⟨waiting, hwaiting, heq⟩ := handleTarget_of_free env c (Bool.eq_false_iff.mpr htaken)
    rw [heq]
    rcases t.registry.search req.componentType with ⟨registry, _ | _ | target⟩
    · exact echoed_registerCommon (t := { t with registry := registry }) hsent env c ⟨rfl, rfl⟩
    · exact ⟨waiting, echoed_refusal (t := { t with registry := registry }) hsent (by rw [hwaiting]; decide)⟩
    · exact echoed_registerCommon (t := { t with registry := registry }) hsent env c ⟨rfl, rfl⟩

theorem echoed_handleP2pRegistration (hmode : s.p2pMode = true) (env : ServiceEnv) (c : Nat)
    (req : RegistrationRequest) : ∃ r, Echoed s c req (s.handleP2pRegistration env c req) r := by
  unfold handleP2pRegistration
  dsimp only
  split
  · rename_i htype
    split
    · exact ⟨_, rfl, fun _ => ⟨rfl, rfl⟩, fun _ => .inl ⟨hmode, htype⟩⟩
    · refine ⟨_, echoed_refusal rfl ?_⟩
      rw [responseCode_detect]
      simp
  · exact echoed_registerCommon rfl env c ⟨rfl, rfl⟩
  · exact ⟨_, echoed_refusal rfl (by simp)⟩

/-- **The numbers of a request** go into the answer and the record as they are. -/
theorem echoed_handleRegistration (s : DiscoveryService) (env : ServiceEnv) (c : Nat) (req : RegistrationRequest) :
    ∃ r, Echoed s c req (s.handleRegistration env c req) r := by
  by_cases hmode : s.p2pMode = true
  · unfold handleRegistration
    rw [if_pos hmode]
    exact echoed_handleP2pRegistration hmode env c req
  · have hmode : s.p2pMode = false := Bool.eq_false_iff.mpr hmode
    by_cases hom : req.componentType = .offloadManager
    · rw [handleRegistration_of_om hmode hom]
      exact echoed_handleTarget (s := s) (t := { s with globalConfiguration := some req.humanReadableMessage }) rfl env
        c req
    · by_cases hnone : s.globalConfiguration = none
      · obtain ⟨r, hcode, heq⟩ := handleRegistration_of_unconfigured hmode hom hnone env c
        rw [heq]
        exact ⟨r, echoed_refusal rfl (by rw [hcode]; decide)⟩
      · rw [handleRegistration_of_configured hmode hom hnone]
        exact echoed_handleTarget rfl env c req

/-! ## Numbers that are read as they are written -/

theorem registration_of_answer {available : List Char} {r : RegistrationResponse}
    (h : (s.step (.data c available env)).sent = s.sent ++ [(c, .registrationResponse r)]) :
    ∃ req, decodeMessage (received available) = .ok (.registrationRequest req) ∧
      s.step (.data c available env) = s.handleRegistration env c req := by
  have hsilent : ∀ {m : Message}, m ≠ .registrationResponse r →
      s.sent ++ [(c, m)] ≠ s.sent ++ [(c, .registrationResponse r)] := by
    intro m hne hm
    have hlast := List.append_cancel_left hm
    simp at hlast
    exact hne hlast
  have hnothing : s.sent ≠ s.sent ++ [(c, .registrationResponse r)] := by simp
  unfold step at h
  by_cases hdown : s.shuttingDown = true
  · rw [if_pos hdown] at h
    exact absurd h hnothing
  rw [if_neg hdown] at h
  dsimp only at h
  by_cases hread : (s.clientIpAddresses.lookup c).isSome = true ∧ available.take bufferSize ≠ []
  · rw [if_pos hread] at h
    rcases s.onDataReceived_cases env c (available.take bufferSize) with
      ⟨m, hm, heq⟩ | ⟨req, hdecode, -⟩ | ⟨ping, -, heq⟩ | heq
    · rw [heq] at h
      exact absurd h (hsilent (hm r))
    · refine ⟨req, hdecode, ?_⟩
      exact step_of_registration (registration_data (Bool.eq_false_iff.mpr hdown) hread.1 hdecode env)
    · rw [heq] at h
      rcases s.handleKeepalive_cases env c ping with hsame | ⟨groupId, idInGroup, pong, hpong⟩
      · rw [hsame] at h
        exact absurd h hnothing
      · rw [hpong] at h
        exact absurd h (hsilent (by simp))
    · rw [heq] at h
      exact absurd h hnothing
  · rw [if_neg hread] at h
    exact absurd h hnothing

/-- The numbers of the line are in range, and the answer `r` and the record of the client have them. -/
def ReadAsWritten (s : DiscoveryService) (c : Nat) (line : String) (t : DiscoveryService) (r : RegistrationResponse) :
    Prop :=
  ∃ f, numberFields line = some f ∧
    ∃ g i p : Nat, IsNumeral f.group.toList g ∧ IsNumeral f.id.toList i ∧ IsNumeral f.port.toList p ∧
      g ≤ 255 ∧ i ≤ 255 ∧ 1 ≤ p ∧ p ≤ 65535 ∧
      r.assignedGroupId.toNat = g ∧ r.assignedIdInGroup.toNat = i ∧
      (¬s.Seeks (stringToComponentType f.type) →
        ∃ info, t.registry.findByClientId c = some info ∧
          info.groupId.toNat = g ∧ info.idInGroup.toNat = i ∧ info.listenPort.toNat = p)

/-- The field is digits alone, and what `std::stoi` reads is in the range. -/
def WellWritten (field : String) (min max : Int) : Prop :=
  (∀ d ∈ field.toList, d.isDigit = true) ∧ ∃ n, stoi field.toList = some n ∧ min ≤ n ∧ n ≤ max

theorem wellWritten_iff {field : String} (min max : Nat) (hmax : max < 2 ^ 31) :
    WellWritten field min max ↔ ∃ n : Nat, IsNumeral field.toList n ∧ min ≤ n ∧ n ≤ max := by
  constructor
  · rintro ⟨hall, n, hn, hle, hge⟩
    lift n to Nat using by omega
    exact ⟨n, (isNumeral_iff hall (by omega)).mpr hn, by omega, by omega⟩
  · rintro ⟨n, hn, hle, hge⟩
    exact ⟨hn.2.1, n, (isNumeral_iff hn.2.1 (by omega)).mp hn, by omega, by omega⟩

/-- The line has the three numbers, each in a field of its own. -/
def WellWrittenLine (line : String) : Prop :=
  ∃ f, numberFields line = some f ∧ WellWritten f.group 0 255 ∧ WellWritten f.id 0 255 ∧ WellWritten f.port 1 65535

theorem toNat_uint8_ofInt {n : Nat} (h : n ≤ 255) : (UInt8.ofInt n).toNat = n := by
  rw [UInt8.ofInt, UInt8.toNat_ofNat']
  omega

theorem toNat_uint16_ofInt {n : Nat} (h : n ≤ 65535) : (UInt16.ofInt n).toNat = n := by
  rw [UInt16.ofInt, UInt16.toNat_ofNat']
  omega

theorem toNat_of_numeral {field : String} {n : Nat} (h : IsNumeral field.toList n) (hn : n ≤ 255) {id : UInt8}
    (hid : ∃ m, stoi field.toList = some m ∧ id = UInt8.ofInt m) : id.toNat = n := by
  obtain ⟨m, hm, rfl⟩ := hid
  rw [(isNumeral_iff h.2.1 (by omega)).mp h] at hm
  cases hm
  exact toNat_uint8_ofInt hn

/-- **The numbers of a registration line.** A line that is answered with SUCCESS is read as it is written exactly if its
three fields are digits alone and in range. -/
theorem readAsWritten_iff {available : List Char}
    (h : (s.step (.data c available env)).sent = s.sent ++ [(c, .registrationResponse r)])
    (hcode : r.responseCode = .success) :
    s.ReadAsWritten c (received available) (s.step (.data c available env)) r ↔
      WellWrittenLine (received available) := by
  obtain ⟨req, hdecode, hstep⟩ := registration_of_answer h
  obtain ⟨f, hf, hread⟩ := readFrom_of_decode (decodeRegistrationRequest_of_message hdecode)
  obtain ⟨r', hechoed⟩ := echoed_handleRegistration s env c req
  rw [hstep] at h ⊢
  obtain rfl : r' = r := by
    have hsent := hechoed.answer.symm.trans h
    simpa using List.append_cancel_left hsent
  constructor
  · rintro ⟨f', hf', g, i, p, hg, hi, hp, hgmax, himax, hpmin, hpmax, -⟩
    refine ⟨f', hf', ?_, ?_, ?_⟩
    · exact (wellWritten_iff 0 255 (by decide)).mpr ⟨g, hg, by omega, hgmax⟩
    · exact (wellWritten_iff 0 255 (by decide)).mpr ⟨i, hi, by omega, himax⟩
    · exact (wellWritten_iff 1 65535 (by decide)).mpr ⟨p, hp, hpmin, hpmax⟩
  · rintro ⟨f', hf', hgroup, hid, hport⟩
    rw [hf] at hf'
    cases hf'
    obtain ⟨g, hg, -, hgmax⟩ := (wellWritten_iff 0 255 (by decide)).mp hgroup
    obtain ⟨i, hi, -, himax⟩ := (wellWritten_iff 0 255 (by decide)).mp hid
    obtain ⟨p, hp, hpmin, hpmax⟩ := (wellWritten_iff 1 65535 (by decide)).mp hport
    have hgroupId : req.groupId.toNat = g := toNat_of_numeral hg hgmax hread.group
    have hidInGroup : req.idInGroup.toNat = i := toNat_of_numeral hi himax hread.id
    obtain ⟨hrgroup, hrid⟩ := hechoed.ids hcode
    refine ⟨f, hf, g, i, p, hg, hi, hp, hgmax, himax, hpmin, hpmax, ?_, ?_, ?_⟩
    · rw [hrgroup, hgroupId]
    · rw [hrid, hidInGroup]
    · intro hseeks
      rw [← hread.type] at hseeks
      rcases hechoed.record hcode with hseek | ⟨port, info, hstoi, hinfo, hinfogroup, hinfoid, hinfoport⟩
      · exact absurd hseek hseeks
      · rw [hread.port, (isNumeral_iff hp.2.1 (by omega)).mp hp] at hstoi
        cases hstoi
        refine ⟨info, hinfo, ?_, ?_, ?_⟩
        · rw [hinfogroup, hgroupId]
        · rw [hinfoid, hidInGroup]
        · rw [hinfoport, toNat_uint16_ofInt hpmax]

/-- A service with one client, which has not registered yet. -/
def firstClient : DiscoveryService := (init false).onClientConnected 1 ⟨10, 0, 0, 1⟩

/-- What the client is answered when it registers as the OM under an id. -/
def omAnswer (groupId idInGroup : UInt8) : RegistrationResponse where
  responseCode := .success
  assignedGroupId := groupId
  assignedIdInGroup := idInGroup
  connectionTargetType := ""
  connectionTargetAddress := ""
  connectionTargetPort := ""
  connectionTargetId := 0
  configJson := "config"
  detectedClientAddress := "10.0.0.1"
  humanReadableMessage := "Registration successful."

/-- An OM that registers as `1:1` on port 8100. -/
def omEvent : ServiceEvent := .data 1 "DISC:REG;O;S;1;1;om;0.0.0.0;8100;config".toList { now := 0 }

theorem readAsWritten_om :
    firstClient.ReadAsWritten 1 (received "DISC:REG;O;S;1;1;om;0.0.0.0;8100;config".toList) (firstClient.step omEvent)
      (omAnswer 1 1) := by
  have hanswer : (firstClient.step omEvent).sent = firstClient.sent ++ [(1, .registrationResponse (omAnswer 1 1))] := by
    decide +kernel
  have hfields : numberFields (received "DISC:REG;O;S;1;1;om;0.0.0.0;8100;config".toList) =
      some { type := "O", group := "1", id := "1", port := "8100" } := by
    decide +kernel
  apply (readAsWritten_iff hanswer rfl).mpr
  have hone : WellWritten "1" 0 255 := ⟨List.all_eq_true.mp (by decide), 1, by decide, by decide, by decide⟩
  have hport : WellWritten "8100" 1 65535 := ⟨List.all_eq_true.mp (by decide), 8100, by decide, by decide, by decide⟩
  exact ⟨_, hfields, hone, hone, hport⟩

/-- The line says group 316, id ` 1x` and port 73636. -/
def misreadEvent : ServiceEvent := .data 1 "DISC:REG;O;S;316; 1x;om;0.0.0.0;73636;config".toList { now := 0 }

/-- The OM is registered as `60:1` on port 8100. -/
theorem not_readAsWritten_om :
    (firstClient.step misreadEvent).sent = firstClient.sent ++ [(1, .registrationResponse (omAnswer 60 1))] ∧
      ((firstClient.step misreadEvent).registry.findByClientId 1).map (fun info => info.listenPort) = some 8100 ∧
      ¬firstClient.ReadAsWritten 1 (received "DISC:REG;O;S;316; 1x;om;0.0.0.0;73636;config".toList)
        (firstClient.step misreadEvent) (omAnswer 60 1) := by
  have hfields : numberFields (received "DISC:REG;O;S;316; 1x;om;0.0.0.0;73636;config".toList) =
      some { type := "O", group := "316", id := " 1x", port := "73636" } := by
    decide +kernel
  refine ⟨by decide +kernel, by decide +kernel, ?_⟩
  rintro ⟨f, hf, g, i, p, hg, -, -, hmax, -⟩
  rw [hfields] at hf
  cases hf
  have hvalue : digitsValue "316".toList = 316 := by decide
  have hread : digitsValue "316".toList = g := hg.2.2
  omega

end DiscoveryService

end EdgeOffloading.Discovery
