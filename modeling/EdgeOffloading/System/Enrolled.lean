import EdgeOffloading.Bridge.Registration
import EdgeOffloading.Discovery.Walk
import EdgeOffloading.Gateway.DiscoveryClient
import EdgeOffloading.System.Enrolment

/-!
# The Bridge and the gateways find each other

What the Bridge and a gateway take over from the Discovery Service: the Bridge goes on with the endpoint of an OM, the
gateway with that of a Bridge, and both with the configuration of the OM, however their connections cut the messages.

* `bridge_enrolled`: a registration of the Bridge that succeeds;
* `gateway_enrolled`: a success that the client of a gateway reports.
-/

namespace EdgeOffloading

open Discovery Run DiscoveryService Enrolment

/-! ## Requests -/

theorem plain_registrationRequest {req : RegistrationRequest} (hname : Unmarked req.componentName)
    (haddress : Quiet req.listenAddress) (hport : Quiet req.listenPort) (htext : Quiet req.humanReadableMessage) :
    (Message.registrationRequest req).Plain := by
  refine plain_of_fields trivial ?_ ?_
  · simp [Message.stringFields, hname.1, haddress.1, hport.1, htext.1]
  · have hid : ¬ marker <:+: (if req.idRequestType = .automatic then "A" else "S").toList := by
      split <;> decide
    intro f hf
    have hf' : f = componentTypeToString req.componentType ∨
        f = (if req.idRequestType = .automatic then "A" else "S") ∨ f = toString req.groupId.toNat ∨
        f = toString req.idInGroup.toNat ∨ f = req.componentName ∨ f = req.listenAddress ∨ f = req.listenPort ∨
        f = req.humanReadableMessage := by
      simpa [Message.inner, Message.front, Message.humanReadableMessage] using hf
    rcases hf' with rfl | rfl | rfl | rfl | rfl | rfl | rfl | rfl
    · exact (quiet_componentType _).unmarked
    · exact hid
    · exact (quiet_toString _).unmarked
    · exact (quiet_toString _).unmarked
    · exact hname.2
    · exact haddress.unmarked
    · exact hport.unmarked
    · exact htext.unmarked

/-! ## Endpoints -/

/-- A component of the type is registered after the events; it is connected from the host, and its registration on this
connection named the port. -/
def Endpoint (type : Discovery.ComponentType) (es : List ServiceEvent) (host : String) (port : UInt16) : Prop :=
  ∃ t info, (after es).registry.findByClientId t = some info ∧ info.componentType = type ∧
    (after es).clientIpAddresses.lookup t = some host ∧ RegisteredOn es t info ∧ info.listenPort = port

theorem stoi_port (port : UInt16) : stoi (toString port.toNat).toList = some (port.toNat : Int) := by
  rw [toList_toString]
  apply stoi_toDigits
  have := port.toNat_lt
  omega

theorem endpoint_of_pointsTo {type : Discovery.ComponentType} {es : List ServiceEvent} {r : RegistrationResponse}
    (h : PointsTo type es r) : ∃ port : UInt16, Endpoint type es r.connectionTargetAddress port ∧
      r.connectionTargetPort = toString port.toNat := by
  obtain ⟨t, info, hinfo, htype, haddress, hreg, hport⟩ := h
  exact ⟨info.listenPort, ⟨t, info, hinfo, htype, haddress, hreg, rfl⟩, hport⟩

/-- The service registers the client in the step; the endpoint is registered then, and the text is that of the last
OM. -/
structure Enrols (pre : List ServiceEvent) (e : ServiceEvent) (c : Nat) (req : RegistrationRequest)
    (peer : Discovery.ComponentType) (host : String) (port : UInt16) (text : String) : Prop where
  record : ∃ info, (after (pre ++ [e])).registry.findByClientId c = some info ∧
    info.componentType = req.componentType ∧ info.componentIdPair = (req.groupId, req.idInGroup)
  endpoint : Endpoint peer pre host port
  config : (omTexts (init false) pre).getLast? = some text

/-! ## The Bridge -/

theorem plain_bridgeRequest : (Message.registrationRequest Bridge.registrationRequest).Plain := by
  refine plain_registrationRequest ⟨by decide, ?_⟩ ⟨by decide, by decide⟩ ⟨by decide, by decide⟩ ⟨by decide, by decide⟩
  exact Quiet.unmarked ⟨by decide, by decide⟩

variable {c : Nat} {ip : Ipv4} {es : List ServiceEvent} {evs : List EnrolmentEvent}

/-- **The Bridge connects to an OM**: where its registration succeeds, the service has registered it, an OM was
registered at the host and the port that it has taken over, and its configuration is the one of the last OM. -/
theorem bridge_enrolled {s : Enrolment} (hs : s = run (Enrolment.step c) (start es c ip) evs)
    (hevs : ∀ e ∈ evs, Fits c Bridge.registrationRequest e) (htexts : UnmarkedTexts s) (hfresh : FreshIds s.events)
    (hone : OnePerConnection s.events) {parse : String → Option Json} {d d' : Bridge.Discovered}
    {exchanges : List Bridge.Exchange} (hexchanges : ∀ piece, .answered piece ∈ exchanges → piece ∈ s.pieces)
    (h : Bridge.performDiscoveryRegistration parse d exchanges = (d', .registered)) :
    ∃ pre e text, pre ++ [e] <+: s.events ∧
      Enrols pre e c Bridge.registrationRequest .offloadManager d'.omHost d'.omPort text ∧
      Bridge.Loads parse d.globalConfig text d'.globalConfig := by
  subst hs
  obtain ⟨waits, piece, rest, r, rfl, -, hdecode, hcode, hadopt⟩ := Bridge.registered_iff.mp h
  have hpiece := hexchanges piece (List.mem_append_right _ List.mem_cons_self)
  obtain ⟨pre, e, hpre, henrolled⟩ :=
    (traced_run hevs htexts).enrolled hfresh hone rfl hpiece List.prefix_rfl hdecode hcode
  obtain ⟨-, hhost, ⟨n, hn, hport⟩, hloads⟩ := Bridge.adopted_iff.mp hadopt
  obtain ⟨port, hendpoint, htext⟩ := endpoint_of_pointsTo henrolled.target
  rw [htext, stoi_port] at hn
  rw [← Option.some.inj hn, uint16_ofInt_toNat] at hport
  refine ⟨pre, e, r.configJson, hpre, ⟨henrolled.record, ?_, henrolled.config⟩, hloads⟩
  rw [hhost, hport]
  exact hendpoint

/-- An OM has connected and registered. -/
def omRegistered : List ServiceEvent :=
  [.connected 5 ⟨10, 0, 0, 1⟩,
    .data 5 "DISC:REG;O;S;1;1;OffloadManager;0.0.0.0;8100;\x7b\x7d".toList { now := 0 }]

/-- The Bridge writes its request; both ends read it, and the answer, without their ends. -/
def bridgeTurn : List EnrolmentEvent :=
  [.write (.registrationRequest Bridge.registrationRequest), .arrive 80 { now := 1 }, .read 70]

/-- What the Bridge has read. -/
def bridgePiece : List Char := "DISC:ACK;0;5;1;O;10.0.0.1;8100;257;\x7b\x7d;10.0.0.2;Registration successful".toList

/-- What the Bridge knows before, and after with the empty configuration. -/
def unknownOm : Bridge.Discovered := { globalConfig := { config := GlobalConfig.empty } }

/-- A parser for the one text of the run. -/
def parseEmpty (text : String) : Option Json := if text = "\x7b\x7d" then some (.obj []) else none

/-- What the Bridge decodes. -/
def bridgeAnswer : RegistrationResponse where
  responseCode := .success
  assignedGroupId := 5
  assignedIdInGroup := 1
  connectionTargetType := "O"
  connectionTargetAddress := "10.0.0.1"
  connectionTargetPort := "8100"
  connectionTargetId := 257
  configJson := "\x7b\x7d"
  detectedClientAddress := "10.0.0.2"
  humanReadableMessage := "Registration successful"

theorem freshIds_iff {es : List ServiceEvent} :
    FreshIds es ↔ Along DiscoveryService.step
      (fun s e => ∀ c ip, e = .connected c ip → s.clientIpAddresses.lookup c = none) (init false) es := by
  rw [along_iff_forall_step]
  constructor
  · rintro h pre e hpre c ip rfl
    exact h pre c ip hpre
  · intro h pre c ip hpre
    exact h pre _ hpre c ip rfl

/-- The Bridge after `bridgeTurn`. -/
def bridgeRead : Enrolment := run (Enrolment.step 6) (start omRegistered 6 ⟨10, 0, 0, 2⟩) bridgeTurn

theorem bridge_enrolled_bridgeTurn : ∃ pre e text d', pre ++ [e] <+: bridgeRead.events ∧
    Enrols pre e 6 Bridge.registrationRequest .offloadManager "10.0.0.1" 8100 text ∧
      Bridge.Loads parseEmpty unknownOm.globalConfig text d' := by
  have hdecode : decodeMessage (String.ofList bridgePiece) = .ok (.registrationResponse bridgeAnswer) := by
    decide +kernel
  have hserved : (start omRegistered 6 ⟨10, 0, 0, 2⟩).served 6 := by decide +kernel
  have hevents : bridgeRead.events = omRegistered ++ [.connected 6 ⟨10, 0, 0, 2⟩] ++
      [.data 6 ((encodeMessage (.registrationRequest Bridge.registrationRequest)).toList.take 80) { now := 1 }] :=
    events_of_turn rfl hserved _ _ _ _
  have hpieces : bridgeRead.pieces = [bridgePiece] := by decide +kernel
  have hevs : ∀ e ∈ bridgeTurn, Fits 6 Bridge.registrationRequest e := by
    refine List.forall_mem_cons.mpr ⟨⟨plain_bridgeRequest, fun q hq => ?_⟩, List.forall_mem_cons.mpr ⟨trivial, ?_⟩⟩
    · exact (Message.registrationRequest.inj hq).symm
    · exact List.forall_mem_singleton.mpr trivial
  have htexts : UnmarkedTexts bridgeRead := by
    have hall : omTexts (init false) bridgeRead.events = ["\x7b\x7d"] := by
      rw [hevents]
      decide +kernel
    intro text htext
    rw [hall] at htext
    rw [List.mem_singleton.mp htext]
    decide
  have hfresh : FreshIds bridgeRead.events := by
    rw [hevents]
    refine freshIds_iff.mpr ⟨?_, ?_, ?_, ?_, trivial⟩
    · rintro c ip h
      cases h
      rfl
    · rintro c ip h
      cases h
    · rintro c ip h
      cases h
      decide +kernel
    · rintro c ip h
      cases h
  have hone : OnePerConnection bridgeRead.events := by
    rw [hevents]
    exact onePerConnection_of_nodup (by decide)
  have hexchanges : ∀ piece, .answered piece ∈ [Bridge.Exchange.answered bridgePiece] → piece ∈ bridgeRead.pieces := by
    intro piece hpiece
    rw [hpieces, Bridge.Exchange.answered.inj (List.mem_singleton.mp hpiece)]
    exact List.mem_cons_self
  have hregistered : Bridge.performDiscoveryRegistration parseEmpty unknownOm [.answered bridgePiece] =
      ({ omHost := "10.0.0.1", omPort := 8100, globalConfig := unknownOm.globalConfig }, .registered) := by
    rw [Bridge.performDiscoveryRegistration, hdecode]
    rfl
  obtain ⟨pre, e, text, hpre, henrols, hloads⟩ :=
    bridge_enrolled rfl hevs htexts hfresh hone hexchanges hregistered
  exact ⟨pre, e, text, _, hpre, henrols, hloads⟩

/-! ## A gateway -/

/-- **A gateway connects to a Bridge**: where its client reports success, the service has registered the gateway, a
Bridge was registered at the host and the port that are reported, and so is the configuration of the last OM. -/
theorem gateway_enrolled {g : GatewayIdentity} (htype : g.componentType = .vehicle ∨ g.componentType = .mec)
    {s : Enrolment} (hs : s = run (Enrolment.step c) (start es c ip) evs)
    (hevs : ∀ e ∈ evs, Fits c g.registrationRequest e) (htexts : UnmarkedTexts s) (hfresh : FreshIds s.events)
    (hone : OnePerConnection s.events) {turns : List GatewayDiscovery.Turn}
    (hturns : ∀ bytes, .read bytes ∈ turns → bytes ∈ s.pieces) {host config : String} {port : Int}
    (h : .success host port config ∈ (run GatewayDiscovery.Thread.step {} turns).callbacks) :
    (run GatewayDiscovery.Thread.step {} turns).callbacks = [.success host port config] ∧
      ∃ pre e, ∃ p : UInt16, pre ++ [e] <+: s.events ∧ port = p.toNat ∧
        Enrols pre e c g.registrationRequest .bridge host p config := by
  subst hs
  have hpeer : ComponentRegistry.peerType g.registrationRequest.componentType = some .bridge := by
    rcases htype with htype | htype <;> rw [GatewayIdentity.registrationRequest, htype] <;> rfl
  obtain ⟨bytes, r, hread, hdecode, hcode, rfl, hport, rfl⟩ := GatewayDiscovery.success_of_answer h
  have hpiece := hturns bytes hread
  obtain ⟨pre, e, hpre, henrolled⟩ :=
    (traced_run hevs htexts).enrolled hfresh hone hpeer hpiece (List.takeWhile_prefix _) hdecode hcode
  obtain ⟨p, hendpoint, htext⟩ := endpoint_of_pointsTo henrolled.target
  have hvalue : port = p.toNat := by
    rw [GatewayDiscovery.bridgePort, htext, if_neg, stoi_port] at hport
    · exact (Option.some.inj hport).symm
    · intro hempty
      have hstoi := stoi_port p
      rw [hempty] at hstoi
      cases hstoi
  refine ⟨?_, pre, e, p, hpre, hvalue, henrolled.record, hendpoint, henrolled.config⟩
  have honce := (GatewayDiscovery.callsOnce_run turns).once
  obtain ⟨cb, hcb⟩ := List.length_eq_one_iff.mp (le_antisymm honce (List.length_pos_of_mem h))
  rw [hcb] at h ⊢
  rw [List.mem_singleton.mp h]

/-- The Bridge has registered too. -/
def bridgeRegistered : List ServiceEvent :=
  omRegistered ++ [.connected 6 ⟨10, 0, 0, 2⟩,
    .data 6 (encodeMessage (.registrationRequest Bridge.registrationRequest)).toList { now := 1 }]

def sampleGateway : GatewayIdentity where
  componentType := .vehicle
  componentName := "Vehicle"
  groupId := 2
  idInGroup := 10
  dataPlanePort := 7100

/-- The client of the gateway writes its request and reads most of the answer. -/
def gatewayTurn : List EnrolmentEvent :=
  [.write (.registrationRequest sampleGateway.registrationRequest), .arrive 68 { now := 2 }, .read 70]

def gatewayPiece : List Char := "DISC:ACK;0;2;10;B;10.0.0.2;7000;1281;\x7b\x7d;10.0.0.3;Registration successf".toList

def gatewayAnswer : RegistrationResponse where
  responseCode := .success
  assignedGroupId := 2
  assignedIdInGroup := 10
  connectionTargetType := "B"
  connectionTargetAddress := "10.0.0.2"
  connectionTargetPort := "7000"
  connectionTargetId := 1281
  configJson := "\x7b\x7d"
  detectedClientAddress := "10.0.0.3"
  humanReadableMessage := "Registration successf"

/-- The gateway after `gatewayTurn`. -/
def gatewayRead : Enrolment := run (Enrolment.step 7) (start bridgeRegistered 7 ⟨10, 0, 0, 3⟩) gatewayTurn

theorem plain_gatewayRequest {g : GatewayIdentity} (hname : Unmarked g.componentName) :
    (Message.registrationRequest g.registrationRequest).Plain := by
  have haddress : Quiet "0.0.0.0" := ⟨by decide, by decide⟩
  have htext : Quiet "registration request from MGW" := ⟨by decide, by decide⟩
  exact plain_registrationRequest hname haddress (quiet_toString _) htext

theorem gateway_enrolled_gatewayTurn : ∃ pre e, pre ++ [e] <+: gatewayRead.events ∧
    Enrols pre e 7 sampleGateway.registrationRequest .bridge "10.0.0.2" 7000 "\x7b\x7d" := by
  have hdecode : decodeMessage (String.ofList (GatewayDiscovery.cString gatewayPiece)) =
      .ok (.registrationResponse gatewayAnswer) := by
    decide +kernel
  have hserved : (start bridgeRegistered 7 ⟨10, 0, 0, 3⟩).served 7 := by decide +kernel
  have hevents : gatewayRead.events = bridgeRegistered ++ [.connected 7 ⟨10, 0, 0, 3⟩] ++
      [.data 7 ((encodeMessage (.registrationRequest sampleGateway.registrationRequest)).toList.take 68)
        { now := 2 }] :=
    events_of_turn rfl hserved _ _ _ _
  have hpieces : gatewayRead.pieces = [gatewayPiece] := by decide +kernel
  have hevs : ∀ e ∈ gatewayTurn, Fits 7 sampleGateway.registrationRequest e := by
    have hplain : (Message.registrationRequest sampleGateway.registrationRequest).Plain := by
      refine plain_gatewayRequest ⟨by decide, ?_⟩
      exact Quiet.unmarked ⟨by decide, by decide⟩
    refine List.forall_mem_cons.mpr ⟨⟨hplain, fun q hq => ?_⟩, List.forall_mem_cons.mpr ⟨trivial, ?_⟩⟩
    · exact (Message.registrationRequest.inj hq).symm
    · exact List.forall_mem_singleton.mpr trivial
  have htexts : UnmarkedTexts gatewayRead := by
    have hall : omTexts (init false) gatewayRead.events = ["\x7b\x7d"] := by
      rw [hevents]
      decide +kernel
    intro text htext
    rw [hall] at htext
    rw [List.mem_singleton.mp htext]
    decide
  have hfresh : FreshIds gatewayRead.events := by
    rw [hevents]
    refine freshIds_iff.mpr ⟨?_, ?_, ?_, ?_, ?_, ?_, trivial⟩
    · rintro c ip h
      cases h
      rfl
    · rintro c ip h
      cases h
    · rintro c ip h
      cases h
      decide +kernel
    · rintro c ip h
      cases h
    · rintro c ip h
      cases h
      decide +kernel
    · rintro c ip h
      cases h
  have hone : OnePerConnection gatewayRead.events := by
    rw [hevents]
    exact onePerConnection_of_nodup (by decide)
  have hturns : ∀ bytes, .read bytes ∈ [GatewayDiscovery.Turn.read gatewayPiece] → bytes ∈ gatewayRead.pieces := by
    intro bytes hbytes
    rw [hpieces, GatewayDiscovery.Turn.read.inj (List.mem_singleton.mp hbytes)]
    exact List.mem_cons_self
  have hcalled : .success "10.0.0.2" 7000 "\x7b\x7d" ∈
      (run GatewayDiscovery.Thread.step {} [.read gatewayPiece]).callbacks := by
    have hstep : GatewayDiscovery.Thread.step {} (.read gatewayPiece) =
        GatewayDiscovery.Thread.onResponse {} gatewayAnswer := by
      show GatewayDiscovery.Thread.register {} (.read gatewayPiece) = _
      unfold GatewayDiscovery.Thread.register
      dsimp only
      rw [hdecode]
    rw [run_cons, run_nil, hstep]
    decide
  obtain ⟨-, pre, e, p, hpre, hp, henrols⟩ :=
    gateway_enrolled (.inl rfl) rfl hevs htexts hfresh hone hturns hcalled
  have hport : p = 7000 := UInt16.toNat_inj.mp (Int.ofNat_inj.mp hp.symm)
  rw [hport] at henrols
  exact ⟨pre, e, hpre, henrols⟩

/-! ## The next turn of the Bridge -/

namespace Discovery

namespace ComponentRegistry

variable {r : ComponentRegistry} {type peer : Discovery.ComponentType}

theorem Lists.found_some {ids : List Nat} (h : r.Lists type ids) (hsome : ∃ c, r.Registered type c) (idx : Nat) :
    (r.searchIds ids idx).2 ≠ none := by
  obtain ⟨c, hc⟩ := hsome
  have hlt := rotate_lt (List.ne_nil_of_mem ((h.2 c).mpr hc)) idx
  obtain ⟨info, hinfo, -⟩ := (h.2 _).mp (List.getElem_mem hlt)
  rw [searchIds, List.getElem?_eq_getElem hlt]
  exact fun hnone => by cases hnone.symm.trans hinfo

theorem Represents.search_found (h : r.Represents) (hpeer : peerType type = some peer)
    (hsome : ∃ c, r.Registered peer c) : (r.search type).2 ≠ some none := by
  cases type with
  | vehicle | mec =>
      rw [← Option.some.inj hpeer] at hsome
      exact fun hnone => h.bridges.found_some hsome r.nextBridgeIdx (Option.some.inj hnone)
  | bridge =>
      rw [← Option.some.inj hpeer] at hsome
      exact fun hnone => h.oms.found_some hsome r.nextOmIdx (Option.some.inj hnone)
  | offloadManager | test => cases hpeer

end ComponentRegistry

namespace DiscoveryService

variable {s : DiscoveryService} {req : RegistrationRequest} {peer : Discovery.ComponentType} {target : ComponentInfo}

theorem handleRegistration_of_ready (hmode : s.p2pMode = false) (hconfig : s.globalConfiguration ≠ none)
    (hpeer : ComponentRegistry.peerType req.componentType = some peer)
    (hfree : s.registry.isIdTaken req.groupId req.idInGroup = false) {port : Int}
    (hport : stoi req.listenPort.toList = some port)
    (hfound : (s.registry.search req.componentType).2 = some (some target)) (env : ServiceEnv) (c : Nat) :
    ∃ registry, s.handleRegistration env c req =
      { s with registry := registry }.sendRegistration c
        (s.registeredResponse c (withTarget (newResponse env req) target)) := by
  have hom : req.componentType ≠ .offloadManager := by
    intro hom
    rw [hom] at hpeer
    cases hpeer
  rw [handleRegistration_of_configured hmode hom hconfig]
  obtain ⟨waiting, -, heq⟩ := handleTarget_of_free env c hfree
  rw [heq]
  obtain ⟨registry, hsearch⟩ : ∃ registry, s.registry.search req.componentType = (registry, some (some target)) :=
    ⟨_, Prod.ext rfl hfound⟩
  rw [hsearch]
  have htaken : ¬ registry.isIdTaken req.groupId req.idInGroup = true := by
    have h := isIdTaken_search s.registry req.componentType req.groupId req.idInGroup
    rw [hsearch, hfree] at h
    rw [h]
    exact Bool.false_ne_true
  unfold proceed registerCommon ComponentRegistry.registerComponent
  dsimp only
  rw [if_neg htaken, hport]
  dsimp only
  rw [if_neg htaken]
  exact ⟨_, rfl⟩

end DiscoveryService

namespace Enrolment

variable {c : Nat} {req : RegistrationRequest} {s : Enrolment}

theorem answers_of_registers {es : List ServiceEvent} {e : ServiceEvent} {r : RegistrationResponse}
    (h : Registers (after es) e c req r) : answers c es e = [.registrationResponse r] := by
  unfold answers
  rw [after_append, h.answer, List.drop_left]
  simp only [List.filterMap_cons, List.filterMap_nil, if_true]

/-- **A turn in which nothing is cut**: the client writes its request, the service gets all of it, and the client gets
all of the answer. -/
theorem pieces_of_turn {line : List Char} {n k : Nat} {env : ServiceEnv} {r : RegistrationResponse} (hup : s.up = [])
    (hdown : s.down = []) (hserved : s.served c) (hline : (encodeMessage (.registrationRequest req)).toList = line)
    (hn : line.length ≤ n) (hregisters : Registers (after s.events) (.data c line env) c req r)
    (hk : (encodeMessage (.registrationResponse r)).toList.length ≤ k) :
    (run (Enrolment.step c) s [.write (.registrationRequest req), .arrive n env, .read k]).pieces =
      s.pieces ++ [(encodeMessage (.registrationResponse r)).toList] := by
  have hwrite : s.step c (.write (.registrationRequest req)) = { s with up := line } := by
    rw [step_write, hup, hline, List.nil_append]
  have hserved' : ({ s with up := line } : Enrolment).served c := hserved
  rw [run_cons, run_cons, run_cons, run_nil, hwrite, step_arrive hserved']
  unfold serve Enrolment.step
  dsimp only
  rw [List.take_of_length_le hn, answers_of_registers hregisters, messageStream_singleton, hdown, List.nil_append,
    List.take_of_length_le hk]

end Enrolment

end Discovery

namespace Discovery

theorem ntoa_ne_empty (ip : Ipv4) : ip.ntoa ≠ "" := by
  intro h
  have hdot : '.' ∈ ip.ntoa.toList := by
    rw [Ipv4.ntoa, String.toList_intercalate]
    simp [List.intercalate_cons_cons]
  rw [h] at hdot
  exact absurd hdot List.not_mem_nil

theorem omTexts_ne_nil {es : List ServiceEvent} {t : Nat} {info : ComponentInfo} (h : RegisteredOn es t info)
    (htype : info.componentType = .offloadManager) : omTexts (init false) es ≠ [] := by
  obtain ⟨pre, e, mid, req, r, port, rfl, -, hregisters, -, -, -, hsame, -⟩ := h
  obtain ⟨env, hreg⟩ := hregisters.request
  have htext := omText_of_registration hreg (hsame.symm.trans htype)
  rw [omTexts_append]
  apply List.append_ne_nil_of_right_ne_nil
  show ((after pre).omText e).toList ++ _ ≠ []
  rw [htext]
  exact List.cons_ne_nil _ _

end Discovery

theorem decodeMessage_registrationRequest :
    decodeMessage (encodeMessage (.registrationRequest Bridge.registrationRequest)) =
      .ok (.registrationRequest Bridge.registrationRequest) :=
  decodeMessage_encodeMessage trivial ⟨plain_bridgeRequest.free, by decide, trivial⟩

theorem registers_bridgeRequest {s : Enrolment} {c : Nat} (hserved : s.served c) (env : ServiceEnv)
    {r : RegistrationResponse}
    (hsent : ((after s.events).handleRegistration env c Bridge.registrationRequest).sent =
      (after s.events).sent ++ [(c, .registrationResponse r)]) :
    Registers (after s.events) (.data c (encodeMessage (.registrationRequest Bridge.registrationRequest)).toList env) c
      Bridge.registrationRequest r := by
  have hdecode : decodeMessage (received (encodeMessage (.registrationRequest Bridge.registrationRequest)).toList) =
      .ok (.registrationRequest Bridge.registrationRequest) := by
    rw [received_toList (by decide +kernel)]
    exact decodeMessage_registrationRequest
  have hreg := registration_data hserved.1 hserved.2 hdecode env
  exact ⟨⟨env, hreg⟩, (congrArg sent (step_of_registration hreg)).trans hsent⟩

theorem quiet_of_registers {s : Enrolment} {c : Nat} (htexts : UnmarkedTexts s) {e : ServiceEvent}
    {req : RegistrationRequest} {r : RegistrationResponse} (h : Registers (after s.events) e c req r)
    (hom : req.componentType ≠ .offloadManager) : QuietResponse r := by
  obtain ⟨env, hreg⟩ := h.request
  have htext : (after s.events).omText e = none := by
    unfold omText
    rw [hreg]
    exact if_neg hom
  have htexts' : ∀ text ∈ omTexts (init false) (s.events ++ [e]), ¬ marker <:+: text.toList := by
    intro text hmem
    rw [omTexts_append] at hmem
    change text ∈ _ ++ (((after s.events).omText e).toList ++ []) at hmem
    rw [htext, Option.toList_none, List.append_nil, List.append_nil] at hmem
    exact htexts text hmem
  refine ((plainly_after htexts').sent c (.registrationResponse r) ?_).quiet r rfl
  rw [after_append, h.answer]
  exact List.mem_append_right _ List.mem_cons_self

/-- **Once an OM is registered the Bridge gets on**: where its id is free, the configuration is one it can load and
nothing is on its way, the next turn of its loop in which nothing is cut ends the registration with success. -/
theorem bridge_registers {s : Enrolment} {c : Nat} (hup : s.up = []) (hdown : s.down = []) (hserved : s.served c)
    (htexts : UnmarkedTexts s) (hfresh : FreshIds s.events) (hone : OnePerConnection s.events)
    (hom : ∃ t, s.service.registry.Registered .offloadManager t) (hfree : s.service.registry.isIdTaken 5 1 = false)
    {parse : String → Option Json} {d : Bridge.Discovered}
    (hloads : ∀ text, (omTexts (init false) s.events).getLast? = some text →
      ∃ config, Bridge.Loads parse d.globalConfig text config) (env : ServiceEnv) :
    ∃ piece d', (run (Enrolment.step c) s
        [.write (.registrationRequest Bridge.registrationRequest), .arrive bufferSize env, .read 2048]).pieces =
          s.pieces ++ [piece] ∧
      ∀ waits, (∀ x ∈ waits, Bridge.Waits x) →
        Bridge.performDiscoveryRegistration parse d (waits ++ [.answered piece]) = (d', .registered) := by
  obtain ⟨hstarted, hrecords⟩ := started_after hfresh hone
  have hordered := hstarted.ordered hserved.1
  obtain ⟨t₀, info₀, hinfo₀, htype₀⟩ := hom
  -- the configuration
  obtain ⟨text, htext⟩ : ∃ text, (omTexts (init false) s.events).getLast? = some text :=
    ⟨_, List.getLast?_eq_some_getLast (omTexts_ne_nil (hrecords hserved.1 t₀ info₀ hinfo₀) htype₀)⟩
  have hconfig : (after s.events).globalConfiguration = some text := by
    have hrun := globalConfiguration_run (s := init false) rfl s.events
    rw [htext, Option.some_or] at hrun
    exact hrun
  -- the OM that is found
  have hpeer : ComponentRegistry.peerType Bridge.registrationRequest.componentType = some .offloadManager := rfl
  have hfound := hordered.represents.search_found hpeer ⟨t₀, info₀, hinfo₀, htype₀⟩
  obtain ⟨t, target, hsearch, htarget, -⟩ := hordered.represents.search_some hpeer hfound
  -- the answer
  have hport : stoi Bridge.registrationRequest.listenPort.toList = some 7000 := by decide
  have hsome : (after s.events).globalConfiguration ≠ none := by
    rw [hconfig]
    exact Option.some_ne_none text
  obtain ⟨registry, hstate⟩ := handleRegistration_of_ready hstarted.mode hsome hpeer hfree hport hsearch env c
  generalize hr : (after s.events).registeredResponse c
    (withTarget (newResponse env Bridge.registrationRequest) target) = r at hstate
  have hregisters := registers_bridgeRequest hserved env (r := r) (by rw [hstate]; rfl)
  have hquiet := quiet_of_registers htexts hregisters (by decide)
  have hlast : r.humanReadableMessage ≠ "" := by
    rw [← hr]
    show "Registration successful." ≠ ""
    decide
  have hdecode : decodeMessage (encodeMessage (.registrationResponse r)) = .ok (.registrationResponse r) :=
    decodeMessage_encodeMessage hquiet.plain.declared ⟨hquiet.plain.free, hlast, trivial⟩
  obtain ⟨config, hload⟩ := hloads text htext
  refine ⟨(encodeMessage (.registrationResponse r)).toList, ⟨target.listenAddress, target.listenPort, config⟩, ?_, ?_⟩
  · exact pieces_of_turn hup hdown hserved rfl (by decide +kernel) hregisters hquiet.length_line
  · intro waits hwaits
    rw [Bridge.registered_iff]
    refine ⟨waits, _, [], r, rfl, hwaits, ?_, ?_, Bridge.adopted_iff.mpr ⟨?_, ?_, ?_, ?_⟩⟩
    · rw [String.ofList_toList]
      exact hdecode
    · rw [← hr]
      rfl
    · obtain ⟨ip, hip⟩ := (plainly_after htexts).state.registry t target htarget
      rw [← hr]
      show target.listenAddress ≠ ""
      rw [hip]
      exact ntoa_ne_empty ip
    · rw [← hr]
      rfl
    · refine ⟨target.listenPort.toNat, ?_, ?_⟩
      · rw [← hr]
        exact stoi_port target.listenPort
      · exact (uint16_ofInt_toNat _).symm
    · have hjson : r.configJson = text := by
        rw [← hr]
        show (after s.events).globalConfiguration.getD "" = text
        rw [hconfig]
        rfl
      rw [hjson]
      exact hload

/-- The Bridge has connected to the service, with which an OM is registered. -/
def idleBridge : Enrolment := start omRegistered 6 ⟨10, 0, 0, 2⟩

theorem bridge_registers_idleBridge : ∃ piece d',
    (run (Enrolment.step 6) idleBridge [.write (.registrationRequest Bridge.registrationRequest),
        .arrive bufferSize { now := 1 }, .read 2048]).pieces = [piece] ∧
      Bridge.performDiscoveryRegistration parseEmpty unknownOm [.answered piece] = (d', .registered) := by
  have hall : omTexts (init false) idleBridge.events = ["\x7b\x7d"] := by decide +kernel
  have hserved : idleBridge.served 6 := by decide +kernel
  have htexts : UnmarkedTexts idleBridge := by
    intro text htext
    rw [hall] at htext
    rw [List.mem_singleton.mp htext]
    decide
  have hfresh : FreshIds idleBridge.events := by
    refine freshIds_iff.mpr ⟨?_, ?_, ?_, trivial⟩
    · rintro c ip h
      cases h
      rfl
    · rintro c ip h
      cases h
    · rintro c ip h
      cases h
      decide +kernel
  have hone : OnePerConnection idleBridge.events := onePerConnection_of_nodup (by decide +kernel)
  have hom : (idleBridge.service.registry.findByClientId 5).map ComponentInfo.componentType =
      some .offloadManager := by
    decide +kernel
  have hfree : idleBridge.service.registry.isIdTaken 5 1 = false := by decide +kernel
  have hloads : ∀ text, (omTexts (init false) idleBridge.events).getLast? = some text →
      ∃ config, Bridge.Loads parseEmpty unknownOm.globalConfig text config := by
    intro text htext
    rw [hall] at htext
    rw [← Option.some.inj htext]
    exact ⟨_, .inr ⟨by decide, .obj [], rfl, rfl⟩⟩
  obtain ⟨piece, d', hpieces, hregistered⟩ := bridge_registers rfl rfl hserved htexts hfresh hone
    ⟨5, Option.map_eq_some_iff.mp hom⟩ hfree hloads { now := 1 }
  exact ⟨piece, d', hpieces, hregistered [] fun x hx => absurd hx List.not_mem_nil⟩

end EdgeOffloading
