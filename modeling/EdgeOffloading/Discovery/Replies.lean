import EdgeOffloading.Discovery.Segment
import EdgeOffloading.Discovery.Startup

/-!
# What the service writes to its clients

The strings of the service are its own texts, numbers, addresses that the transport has seen, and the text of the
configuration, which it hands on as it got it. None of them has a separator, and the word of a line can only be in that
text.

* `plain_of_fields`: the fields of a line are looked at one by one;
* `quiet_handleRegistration`: the answer of a registration;
* `plain_sent`: everything that is sent in a run.
-/

namespace EdgeOffloading.Discovery

open Run

/-! ## Strings without the marker -/

/-- Neither a separator nor all the letters of the marker. -/
def Quiet (f : String) : Prop := ';' ∉ f.toList ∧ 'S' ∉ f.toList

theorem Quiet.unmarked {f : String} (h : Quiet f) : ¬ marker <:+: f.toList := fun hin =>
  h.2 (hin.subset (by decide))

theorem quiet_toString (n : Nat) : Quiet (toString n) := by
  refine ⟨?_, ?_⟩
  · rw [toList_toString]
    exact semicolon_notMem_toDigits n
  · rw [toList_toString]
    exact fun h => absurd (isDigit_of_mem_toDigits h) (by decide)

theorem quiet_repr (n : Int) : Quiet n.repr := by
  refine ⟨semicolon_notMem_repr n, ?_⟩
  cases n with
  | ofNat k => exact (quiet_toString k).2
  | negSucc k =>
      rw [show (Int.negSucc k).repr = "-" ++ toString (k + 1) from rfl, String.toList_append, List.mem_append]
      exact not_or.mpr ⟨by decide, (quiet_toString (k + 1)).2⟩

theorem quiet_ntoa (ip : Ipv4) : Quiet ip.ntoa := by
  refine ⟨semicolon_notMem_ntoa ip, fun h => ?_⟩
  have hnum : ∀ n : Nat, 'S' ∉ (toString n).toList := fun n => (quiet_toString n).2
  rw [Ipv4.ntoa, String.toList_intercalate] at h
  simp only [List.map_cons, List.map_nil, List.intercalate_cons_cons, List.intercalate_singleton, List.mem_append,
    hnum, false_or, or_false] at h
  revert h
  decide

theorem quiet_componentType (type : ComponentType) : Quiet (componentTypeToString type) := by
  cases type <;> exact ⟨by decide, by decide⟩

/-- A string of the service, which is not long. -/
structure Brief (f : String) : Prop where
  quiet : Quiet f
  short : f.toList.length ≤ 64

instance (f : String) : Decidable (Quiet f) := inferInstanceAs (Decidable (';' ∉ f.toList ∧ 'S' ∉ f.toList))

instance (f : String) : Decidable (Brief f) :=
  decidable_of_iff (Quiet f ∧ f.toList.length ≤ 64) ⟨fun h => ⟨h.1, h.2⟩, fun h => ⟨h.quiet, h.short⟩⟩

theorem length_toString {n k : Nat} (hk : 0 < k) (h : n < 10 ^ k) : (toString n).toList.length ≤ k := by
  rw [toList_toString]
  exact Nat.toDigits_length 10 n k hk h

theorem brief_port (port : UInt16) : Brief (toString port.toNat) := by
  have hport := port.toNat_lt
  have hlength := length_toString (n := port.toNat) (k := 5) (by decide) (by omega)
  exact ⟨quiet_toString _, by omega⟩

theorem brief_ntoa (ip : Ipv4) : Brief ip.ntoa := by
  have hnum : ∀ n : UInt8, (toString n.toNat).toList.length ≤ 3 := fun n =>
    length_toString (by decide) (lt_trans n.toNat_lt (by decide))
  have ha := hnum ip.a
  have hb := hnum ip.b
  have hc := hnum ip.c
  have hd := hnum ip.d
  refine ⟨quiet_ntoa ip, ?_⟩
  rw [Ipv4.ntoa, String.toList_intercalate]
  simp only [List.map_cons, List.map_nil, List.intercalate_cons_cons, List.intercalate_singleton, List.length_append]
  rw [show ".".toList.length = 1 from rfl]
  omega

theorem brief_componentType (type : ComponentType) : Brief (componentTypeToString type) := by
  refine ⟨quiet_componentType type, ?_⟩
  cases type <;> decide

theorem exists_inner {m : Message} (h : marker <:+: m.body) : ∃ f ∈ m.inner, marker <:+: f.toList := by
  rw [body_eq] at h
  obtain ⟨f, hf, hin⟩ := Marker.exists_field marker_ne_nil (by decide) h
  rcases List.mem_cons.mp hf with rfl | hf
  · have hlength := hin.length_le
    rw [length_tag] at hlength
    exact absurd hlength (by decide)
  · obtain ⟨g, hg, rfl⟩ := List.mem_map.mp hf
    exact ⟨g, hg, hin⟩

theorem plain_of_fields {m : Message} (hdeclared : m.Declared) (hfree : ∀ f ∈ m.stringFields, ';' ∉ f.toList)
    (hinner : ∀ f ∈ m.inner, ¬ marker <:+: f.toList) : m.Plain := by
  refine ⟨hdeclared, hfree, fun h => ?_⟩
  obtain ⟨f, hf, hin⟩ := exists_inner h
  exact hinner f hf hin

open Fields in
theorem length_of_mem_fields {d : Char} {s f : List Char} (hf : f ∈ fields d s) : f.length ≤ s.length := by
  induction s generalizing f with
  | nil => exact absurd hf List.not_mem_nil
  | cons c s ih =>
      rw [List.length_cons]
      by_cases hc : c = d
      · rw [hc, fields_cons_self] at hf
        rcases List.mem_cons.mp hf with rfl | hf
        · exact Nat.zero_le _
        · exact (ih hf).trans (Nat.le_succ _)
      · cases hs : fields d s with
        | nil =>
            rw [fields, if_neg hc, hs] at hf
            rw [List.mem_singleton.mp hf]
            exact Nat.le_add_left 1 s.length
        | cons g gs =>
            rw [fields_cons_of_ne hc hs] at hf
            rw [hs] at ih
            rcases List.mem_cons.mp hf with rfl | hf
            · exact Nat.succ_le_succ (ih List.mem_cons_self)
            · exact (ih (List.mem_cons_of_mem g hf)).trans (Nat.le_succ _)

/-! ## The answer of a registration -/

/-- The text of a configuration that does not get in the way of a line. -/
def Unmarked (text : String) : Prop := ';' ∉ text.toList ∧ ¬ marker <:+: text.toList

theorem unmarked_empty : Unmarked "" := ⟨by decide, fun h => absurd (List.infix_nil.mp h) marker_ne_nil⟩

/-- A text that the service has read. -/
structure ConfigText (text : String) : Prop where
  unmarked : Unmarked text
  short : text.toList.length ≤ DiscoveryService.bufferSize

theorem configText_empty : ConfigText "" := ⟨unmarked_empty, by decide⟩

structure QuietResponse (r : RegistrationResponse) : Prop where
  code : r.responseCode.Declared
  type : Brief r.connectionTargetType
  address : Brief r.connectionTargetAddress
  port : Brief r.connectionTargetPort
  config : ConfigText r.configJson
  client : Brief r.detectedClientAddress
  text : Brief r.humanReadableMessage

theorem QuietResponse.plain {r : RegistrationResponse} (h : QuietResponse r) :
    (Message.registrationResponse r).Plain := by
  refine plain_of_fields h.code ?_ ?_
  · simp [Message.stringFields, h.type.quiet.1, h.address.quiet.1, h.port.quiet.1, h.config.unmarked.1,
      h.client.quiet.1, h.text.quiet.1]
  · intro f hf
    have hf' : f = toString r.responseCode.toInt ∨ f = toString r.assignedGroupId.toNat ∨
        f = toString r.assignedIdInGroup.toNat ∨ f = r.connectionTargetType ∨ f = r.connectionTargetAddress ∨
        f = r.connectionTargetPort ∨ f = toString r.connectionTargetId.toNat ∨ f = r.configJson ∨
        f = r.detectedClientAddress ∨ f = r.humanReadableMessage := by
      simpa [Message.inner, Message.front, Message.humanReadableMessage] using hf
    rcases hf' with rfl | rfl | rfl | rfl | rfl | rfl | rfl | rfl | rfl | rfl
    · exact (quiet_repr _).unmarked
    · exact (quiet_toString _).unmarked
    · exact (quiet_toString _).unmarked
    · exact h.type.quiet.unmarked
    · exact h.address.quiet.unmarked
    · exact h.port.quiet.unmarked
    · exact (quiet_toString _).unmarked
    · exact h.config.unmarked.2
    · exact h.client.quiet.unmarked
    · exact h.text.quiet.unmarked

theorem short_responseCode {code : ResponseCode} (h : code.Declared) : (toString code.toInt).toList.length ≤ 3 := by
  cases code with
  | undeclared value => exact h.elim
  | success | wait | idConflict | invalidRequest | generalError => decide

/-- **The line of an answer fits into the buffers of the clients**, of which the one of the Bridge is the smallest. -/
theorem QuietResponse.length_line {r : RegistrationResponse} (h : QuietResponse r) :
    (encodeMessage (.registrationResponse r)).toList.length ≤ 2048 := by
  have hcode := short_responseCode h.code
  have hgroup := length_toString (n := r.assignedGroupId.toNat) (k := 3) (by decide)
    (lt_trans r.assignedGroupId.toNat_lt (by decide))
  have hid := length_toString (n := r.assignedIdInGroup.toNat) (k := 3) (by decide)
    (lt_trans r.assignedIdInGroup.toNat_lt (by decide))
  have htarget := (brief_port r.connectionTargetId).short
  have htype := h.type.short
  have haddress := h.address.short
  have hport := h.port.short
  have hconfig : r.configJson.toList.length ≤ 1024 := h.config.short
  have hclient := h.client.short
  have htext := h.text.short
  have htag : "DISC:ACK".toList.length = 8 := rfl
  rw [encodeMessage_eq, toList_line]
  simp only [Message.front, Message.humanReadableMessage, List.map_cons, List.map_nil, List.cons_append,
    List.nil_append, List.intercalate_cons_cons, List.intercalate_singleton, List.length_append, List.length_singleton]
  omega

/-- A branch of the service writes a code and a text of its own. -/
theorem QuietResponse.answer {r : RegistrationResponse} (h : QuietResponse r) {code : ResponseCode} {text : String}
    (hcode : code.Declared) (htext : Brief text) :
    QuietResponse { r with responseCode := code, humanReadableMessage := text } :=
  ⟨hcode, h.type, h.address, h.port, h.config, h.client, htext⟩

theorem QuietResponse.detected {r : RegistrationResponse} (h : QuietResponse r) {client : String}
    (hclient : Brief client) : QuietResponse { r with detectedClientAddress := client } :=
  ⟨h.code, h.type, h.address, h.port, h.config, hclient, h.text⟩

theorem QuietResponse.configured {r : RegistrationResponse} (h : QuietResponse r) {text : String}
    (htext : ConfigText text) : QuietResponse { r with configJson := text } :=
  ⟨h.code, h.type, h.address, h.port, htext, h.client, h.text⟩

theorem brief_empty : Brief "" := by decide +kernel

namespace DiscoveryService

variable {s : DiscoveryService} {env : ServiceEnv} {c : Nat} {req : RegistrationRequest}

theorem quiet_newResponse (env : ServiceEnv) (req : RegistrationRequest) : QuietResponse (newResponse env req) :=
  ⟨trivial, brief_empty, brief_empty, brief_empty, configText_empty, brief_empty, brief_empty⟩

theorem QuietResponse.withTarget {r : RegistrationResponse} (h : QuietResponse r) {target : ComponentInfo}
    (htarget : Brief target.listenAddress) : QuietResponse (withTarget r target) :=
  ⟨h.code, brief_componentType _, htarget, brief_port _, h.config, h.client, h.text⟩

/-- The addresses and the configuration of the service. -/
structure QuietState (s : DiscoveryService) : Prop where
  ips : ∀ c address, s.clientIpAddresses.lookup c = some address → ∃ ip : Ipv4, address = ip.ntoa
  registry : ∀ c info, s.registry.findByClientId c = some info → ∃ ip : Ipv4, info.listenAddress = ip.ntoa
  config : ∀ text, s.globalConfiguration = some text → ConfigText text

/-- The service answers the client with one quiet response. -/
def AnswersQuietly (s : DiscoveryService) (c : Nat) (s' : DiscoveryService) : Prop :=
  ∃ r, QuietResponse r ∧ s'.sent = s.sent ++ [(c, .registrationResponse r)]

theorem QuietState.client (h : QuietState s) (c : Nat) {d : String} (hd : Brief d) :
    Brief ((s.clientIpAddresses.lookup c).getD d) := by
  cases hip : s.clientIpAddresses.lookup c with
  | none => exact hd
  | some address =>
      obtain ⟨ip, rfl⟩ := h.ips c address hip
      exact brief_ntoa ip

theorem QuietState.detect (h : QuietState s) (c : Nat) {r : RegistrationResponse} (hr : QuietResponse r) :
    QuietResponse (s.detect c r) := by
  unfold DiscoveryService.detect
  split
  · rename_i address hip
    obtain ⟨ip, rfl⟩ := h.ips c address hip
    exact hr.detected (brief_ntoa ip)
  · exact hr

theorem quiet_registerCommon (h : QuietState s) (env : ServiceEnv) (c : Nat) (req : RegistrationRequest)
    {resp : RegistrationResponse} (hresp : QuietResponse resp) :
    AnswersQuietly s c (s.registerCommon env c req resp) := by
  have hclient : Brief ((s.clientIpAddresses.lookup c).getD "unknown") :=
    h.client c (by decide +kernel)
  have hconfig : ConfigText (s.globalConfiguration.getD "") := by
    cases htext : s.globalConfiguration with
    | none => exact configText_empty
    | some text => exact h.config text htext
  unfold registerCommon
  split
  · exact ⟨_, h.detect c (hresp.answer (by trivial) (by decide +kernel)), rfl⟩
  · split
    · exact ⟨_, hresp.answer (by trivial) (by decide +kernel), rfl⟩
    · dsimp only
      split
      · exact ⟨_, ((hresp.detected hclient).configured hconfig).answer (by trivial) (by decide +kernel), rfl⟩
      · exact ⟨_, (hresp.detected hclient).answer (by trivial) (by decide +kernel), rfl⟩

/-- The branches that have found a component to connect to. -/
theorem quiet_found (h : QuietState s) (env : ServiceEnv) (c : Nat) (req : RegistrationRequest)
    {registry : ComponentRegistry} (hregistry : ∀ c, registry.findByClientId c = s.registry.findByClientId c)
    {target : ComponentInfo} (htarget : ∃ c, s.registry.findByClientId c = some target) :
    AnswersQuietly s c
      ({ s with registry := registry }.registerCommon env c req (withTarget (newResponse env req) target)) := by
  obtain ⟨t, ht⟩ := htarget
  have hstate : QuietState { s with registry := registry } := by
    refine ⟨h.ips, fun c info hinfo => ?_, h.config⟩
    exact h.registry c info ((hregistry c).symm.trans hinfo)
  have haddress : Brief target.listenAddress := by
    obtain ⟨ip, hip⟩ := h.registry t target ht
    rw [hip]
    exact brief_ntoa ip
  exact quiet_registerCommon hstate env c req (QuietResponse.withTarget (quiet_newResponse env req) haddress)

theorem found_of_searchIds {r : ComponentRegistry} {ids : List Nat} {idx : Nat} {info : ComponentInfo}
    (h : (r.searchIds ids idx).2 = some info) : ∃ c, r.findByClientId c = some info := by
  obtain ⟨c, -, hc⟩ := ComponentRegistry.mem_of_searchIds h
  exact ⟨c, hc⟩

theorem quiet_handleTarget (h : QuietState s) (env : ServiceEnv) (c : Nat) (req : RegistrationRequest) :
    AnswersQuietly s c (s.handleTarget env c req) := by
  have hnew := quiet_newResponse env req
  have hbridge := ComponentRegistry.findByClientId_search s.registry .bridge
  have hvehicle := ComponentRegistry.findByClientId_search s.registry .vehicle
  unfold handleTarget
  dsimp only
  split
  · exact ⟨_, hnew.answer (by trivial) (by decide +kernel), rfl⟩
  · split
    · split
      · exact ⟨_, hnew.answer (by trivial) (by decide +kernel), rfl⟩
      · rename_i hfound
        exact quiet_found h env c req hvehicle (found_of_searchIds hfound)
    · split
      · exact ⟨_, hnew.answer (by trivial) (by decide +kernel), rfl⟩
      · rename_i hfound
        exact quiet_found h env c req hvehicle (found_of_searchIds hfound)
    · split
      · exact ⟨_, hnew.answer (by trivial) (by decide +kernel), rfl⟩
      · rename_i hfound
        exact quiet_found h env c req hbridge (found_of_searchIds hfound)
    · exact quiet_registerCommon h env c req hnew

/-- **The answer of a registration** in the networked mode. -/
theorem quiet_handleRegistration (h : QuietState s) (hmode : s.p2pMode = false) (env : ServiceEnv) (c : Nat)
    {req : RegistrationRequest} (htext : req.componentType = .offloadManager → ConfigText req.humanReadableMessage) :
    AnswersQuietly s c (s.handleRegistration env c req) := by
  unfold handleRegistration
  rw [if_neg (by rw [hmode]; exact Bool.false_ne_true)]
  split
  · rename_i hom
    have hstate : QuietState { s with globalConfiguration := some req.humanReadableMessage } := by
      refine ⟨h.ips, h.registry, fun text hconfig => ?_⟩
      rw [← Option.some.inj hconfig]
      exact htext hom
    exact quiet_handleTarget hstate env c req
  · split
    · exact ⟨_, (quiet_newResponse env req).answer (by trivial) (by decide +kernel), rfl⟩
    · exact quiet_handleTarget h env c req

/-! ## Steps -/

/-- Clients are gone, and nothing is sent. -/
structure Sheds (s s' : DiscoveryService) : Prop where
  sent : s'.sent = s.sent
  ips : ∀ c ip, s'.clientIpAddresses.lookup c = some ip → s.clientIpAddresses.lookup c = some ip

theorem sheds_onClientDisconnected (s : DiscoveryService) (c : Nat) : Sheds s (s.onClientDisconnected c) := by
  have herase : ∀ c' ip, (eraseKey s.clientIpAddresses c).lookup c' = some ip →
      s.clientIpAddresses.lookup c' = some ip := by
    intro c' ip h
    rw [lookup_eraseKey] at h
    split at h
    · cases h
    · exact h
  unfold onClientDisconnected
  dsimp only
  split
  · exact ⟨rfl, herase⟩
  · split
    · refine ⟨rfl, fun c' ip h => ?_⟩
      cases h
    · exact ⟨rfl, herase⟩

theorem sheds_purgeStaleClients (s : DiscoveryService) (now : Nat) : Sheds s (s.purgeStaleClients now) := by
  have hdisconnect : ∀ t c, Sheds s t → Sheds s (t.onClientDisconnected c) := by
    intro t c ht
    have h := sheds_onClientDisconnected t c
    exact ⟨h.sent.trans ht.sent, fun c' ip hip => ht.ips c' ip (h.ips c' ip hip)⟩
  exact foldl_purgeClient hdisconnect now _ ⟨rfl, fun _ _ h => h⟩

theorem quiet_formatComponent (component : ComponentInfo) : Quiet (formatComponent component) := by
  have htype := quiet_componentType component.componentType
  have hnum := quiet_toString
  refine ⟨fun h => ?_, fun h => ?_⟩
  · rw [formatComponent, String.toList_intercalate] at h
    simp only [List.map_cons, List.map_nil, List.intercalate_cons_cons, List.intercalate_singleton, List.mem_append,
      htype.1, (hnum _).1, false_or, or_false] at h
    revert h
    decide
  · rw [formatComponent, String.toList_intercalate] at h
    simp only [List.map_cons, List.map_nil, List.intercalate_cons_cons, List.intercalate_singleton, List.mem_append,
      htype.2, (hnum _).2, false_or, or_false] at h
    revert h
    decide

theorem plain_componentList {list : ComponentListResponse} (hdata : ∀ d ∈ list.componentDataList, Quiet d)
    (htext : Quiet list.humanReadableMessage) : (Message.componentList list).Plain := by
  refine plain_of_fields trivial ?_ ?_
  · intro f hf
    rcases List.mem_append.mp (show f ∈ list.componentDataList ++ [list.humanReadableMessage] from hf) with hf | hf
    · exact (hdata f hf).1
    · rw [List.mem_singleton.mp hf]
      exact htext.1
  · intro f hf
    have hf' : f = toString list.componentCount.toNat ∨ f ∈ list.componentDataList ∨ f = list.humanReadableMessage := by
      simpa [Message.inner, Message.front, Message.humanReadableMessage] using hf
    rcases hf' with rfl | hf | rfl
    · exact (quiet_toString _).unmarked
    · exact (hdata f hf).unmarked
    · exact htext.unmarked

/-- A message of the service; the answer of a registration has no long fields. -/
structure ServiceMessage (m : Message) : Prop where
  plain : m.Plain
  quiet : ∀ r, m = .registrationResponse r → QuietResponse r

theorem serviceMessage_of_quiet {r : RegistrationResponse} (h : QuietResponse r) :
    ServiceMessage (.registrationResponse r) := by
  refine ⟨h.plain, fun r' heq => ?_⟩
  rw [← Message.registrationResponse.inj heq]
  exact h

/-- The service sends the client one message, or none. -/
def SendsPlainly (s : DiscoveryService) (c : Nat) (s' : DiscoveryService) : Prop :=
  s'.sent = s.sent ∨ ∃ m : Message, ServiceMessage m ∧ s'.sent = s.sent ++ [(c, m)]

theorem plain_error : (Message.error { errorCode := .protocol
                                       humanReadableMessage := "Malformed or invalid message received." }).Plain := by
  refine plain_of_fields trivial ?_ ?_
  · exact List.forall_mem_singleton.mpr (by decide)
  · refine List.forall_mem_cons.mpr ⟨(quiet_repr _).unmarked, List.forall_mem_singleton.mpr ?_⟩
    exact Quiet.unmarked ⟨by decide, by decide⟩

theorem plain_pong : (Message.keepaliveResponse { response := "OK", nextIntervalMs := 5000
                                                  humanReadableMessage := "Keepalive acknowledged." }).Plain := by
  refine plain_of_fields trivial ?_ ?_
  · exact List.forall_mem_cons.mpr ⟨by decide, List.forall_mem_singleton.mpr (by decide)⟩
  · refine List.forall_mem_cons.mpr ⟨Quiet.unmarked ⟨by decide, by decide⟩, ?_⟩
    refine List.forall_mem_cons.mpr ⟨(quiet_repr _).unmarked, List.forall_mem_singleton.mpr ?_⟩
    exact Quiet.unmarked ⟨by decide, by decide⟩

theorem sendsPlainly_handleKeepalive (s : DiscoveryService) (env : ServiceEnv) (c : Nat) (ping : KeepalivePing) :
    SendsPlainly s c (s.handleKeepalive env c ping) := by
  unfold handleKeepalive
  split
  · exact .inl rfl
  · dsimp only
    split
    · exact .inr ⟨_, ⟨plain_pong, fun r hr => by cases hr⟩, rfl⟩
    · exact .inl rfl

theorem sendsPlainly_handleComponentQuery (s : DiscoveryService) (c : Nat) (query : ComponentQuery) :
    SendsPlainly s c (s.handleComponentQuery c query) := by
  unfold handleComponentQuery
  split
  · refine .inr ⟨_, ⟨plain_componentList ?_ ?_, fun r hr => by cases hr⟩, rfl⟩
    · exact fun d hd => absurd hd List.not_mem_nil
    · exact ⟨by decide, by decide⟩
  · refine .inr ⟨_, ⟨plain_componentList ?_ ?_, fun r hr => by cases hr⟩, rfl⟩
    · intro d hd
      obtain ⟨component, -, rfl⟩ := List.mem_map.mp hd
      exact quiet_formatComponent component
    · show Quiet "Component query successful"
      exact ⟨by decide, by decide⟩

theorem sendsPlainly_onDataReceived (h : QuietState s) (hmode : s.p2pMode = false) (env : ServiceEnv) (c : Nat)
    {data : List Char}
    (htext : ∀ req, decodeMessage (String.ofList data) = .ok (.registrationRequest req) →
      req.componentType = .offloadManager → ConfigText req.humanReadableMessage) :
    SendsPlainly s c (s.onDataReceived env c data) := by
  unfold onDataReceived
  split
  · exact .inr ⟨_, ⟨plain_error, fun r hr => by cases hr⟩, rfl⟩
  · rename_i req hdecode
    obtain ⟨r, hr, hsent⟩ := quiet_handleRegistration h hmode env c (htext req hdecode)
    exact .inr ⟨_, serviceMessage_of_quiet hr, hsent⟩
  · exact sendsPlainly_handleKeepalive s env c _
  · exact sendsPlainly_handleComponentQuery s c _
  · exact .inl rfl

/-! ## Runs -/

/-- The invariant: what the service has, and what it has sent. -/
structure Plainly (s : DiscoveryService) : Prop where
  mode : s.p2pMode = false
  state : QuietState s
  sent : ∀ c m, (c, m) ∈ s.sent → ServiceMessage m

theorem plainly_init : Plainly (init false) := by
  refine ⟨rfl, ⟨?_, ?_, ?_⟩, ?_⟩
  · exact fun c ip h => by cases h
  · exact fun c info h => by cases h
  · exact fun text h => by cases h
  · exact fun c m h => absurd h List.not_mem_nil

/-- Every registration of an OM that the service handles has a text without the marker. -/
def UnmarkedText (s : DiscoveryService) (e : ServiceEvent) : Prop := ∀ text, s.omText e = some text →
  ¬ marker <:+: text.toList

/-- Whatever the registration, its text has no separator and is not longer than what was read. -/
theorem text_of_registration {e : ServiceEvent} (h : s.registration e = some (c, env, req)) :
    ';' ∉ req.humanReadableMessage.toList ∧ req.humanReadableMessage.toList.length ≤ bufferSize := by
  obtain ⟨-, -, available, -, hdecode⟩ := registration_eq_some h
  have hfree := decodeMessage_stringFields hdecode
  have hsub := decodeRegistrationRequest_stringFields (decodeMessage_request hdecode).2
  have hmem : req.humanReadableMessage ∈ (Message.registrationRequest req).stringFields := by
    simp [Message.stringFields]
  refine ⟨hfree _ hmem, ?_⟩
  obtain ⟨f, hf, heq⟩ := List.mem_map.mp (hsub hmem)
  rw [← heq, String.toList_ofList]
  have hlength := length_of_mem_fields hf
  rw [received, String.toList_ofList, List.length_take] at hlength
  omega

theorem configText_of_omText {e : ServiceEvent} (he : UnmarkedText s e) {text : String} (h : s.omText e = some text) :
    ConfigText text := by
  have hunmarked := he text h
  unfold omText at h
  split at h
  · rename_i hreg
    split at h
    · obtain rfl := Option.some.inj h
      obtain ⟨hfree, hshort⟩ := text_of_registration hreg
      exact ⟨⟨hfree, hunmarked⟩, hshort⟩
    · cases h
  · cases h

theorem omText_of_registration {e : ServiceEvent} (h : s.registration e = some (c, env, req))
    (hom : req.componentType = .offloadManager) : s.omText e = some req.humanReadableMessage := by
  unfold omText
  rw [h]
  exact if_pos hom

/-- The configuration after a step is the text of an OM, or what it was. -/
theorem QuietState.config_step (h : QuietState s) (hmode : s.p2pMode = false) {e : ServiceEvent}
    (he : UnmarkedText s e) : ∀ text, (s.step e).globalConfiguration = some text → ConfigText text := by
  intro text htext
  rw [globalConfiguration_step hmode] at htext
  cases hom : s.omText e with
  | none =>
      rw [hom, Option.none_or] at htext
      exact h.config text htext
  | some t =>
      rw [hom, Option.some_or] at htext
      obtain rfl := Option.some.inj htext
      exact configText_of_omText he hom

/-- The address of a record that a registration writes is the one the transport has seen. -/
theorem QuietState.registry_step (h : QuietState s) (hmode : s.p2pMode = false) (e : ServiceEvent) :
    ∀ c info, (s.step e).registry.findByClientId c = some info → ∃ ip : Ipv4, info.listenAddress = ip.ntoa := by
  intro c info hinfo
  rcases step_record hmode hinfo with ⟨old, hold, hsame⟩ | ⟨env, req, r, port, hreg, -, -, -, rfl⟩
  · rw [hsame]
    exact h.registry c old hold
  · obtain ⟨-, hclient, -⟩ := registration_eq_some hreg
    obtain ⟨ip, hip⟩ := Option.isSome_iff_exists.mp hclient
    unfold registeredInfo
    rw [hip]
    exact h.ips c ip hip

/-- What a read leaves of the connections. -/
theorem ips_onDataReceived (hmode : s.p2pMode = false) (env : ServiceEnv) (c : Nat) (data : List Char) :
    (s.onDataReceived env c data).clientIpAddresses = s.clientIpAddresses := by
  rcases s.onDataReceived_cases env c data with ⟨m, -, heq⟩ | ⟨req, -, heq⟩ | ⟨ping, -, heq⟩ | heq
  · rw [heq]
    rfl
  · obtain ⟨r, hstate, -⟩ := outcome_handleRegistration hmode env c req
    rw [heq, hstate]
  · rw [heq]
    rcases s.handleKeepalive_cases env c ping with hsame | ⟨groupId, idInGroup, pong, hping⟩
    · rw [hsame]
    · rw [hping]
      rfl
  · rw [heq]

theorem QuietState.ips_step (h : QuietState s) (hmode : s.p2pMode = false) (e : ServiceEvent) :
    ∀ c address, (s.step e).clientIpAddresses.lookup c = some address → ∃ ip : Ipv4, address = ip.ntoa := by
  intro c address hip
  unfold DiscoveryService.step at hip
  split at hip
  · exact h.ips c address hip
  · cases e with
    | connected c' ip' =>
        change (insertKey s.clientIpAddresses c' ip'.ntoa).lookup c = some address at hip
        rw [lookup_insertKey] at hip
        split at hip
        · rw [← Option.some.inj hip]
          exact ⟨ip', rfl⟩
        · exact h.ips c address hip
    | disconnected c' => exact h.ips c address ((sheds_onClientDisconnected s c').ips c address hip)
    | data c' available env =>
        dsimp only at hip
        split at hip
        · rw [ips_onDataReceived hmode] at hip
          exact h.ips c address hip
        · exact h.ips c address hip
    | purge now => exact h.ips c address ((sheds_purgeStaleClients s now).ips c address hip)

/-- The client that an event is about, as far as it can be sent something. -/
theorem sendsPlainly_step (h : Plainly s) {e : ServiceEvent} (he : UnmarkedText s e) :
    ∃ c, SendsPlainly s c (s.step e) := by
  by_cases hdown : s.shuttingDown = true
  · refine ⟨0, .inl ?_⟩
    unfold DiscoveryService.step
    rw [if_pos hdown]
  · cases e with
    | connected c ip =>
        refine ⟨c, .inl ?_⟩
        unfold DiscoveryService.step
        rw [if_neg hdown]
        rfl
    | disconnected c =>
        refine ⟨c, .inl ?_⟩
        unfold DiscoveryService.step
        rw [if_neg hdown]
        exact (sheds_onClientDisconnected s c).sent
    | purge now =>
        refine ⟨0, .inl ?_⟩
        unfold DiscoveryService.step
        rw [if_neg hdown]
        exact (sheds_purgeStaleClients s now).sent
    | data c available env =>
        refine ⟨c, ?_⟩
        unfold DiscoveryService.step
        rw [if_neg hdown]
        dsimp only
        split
        · rename_i hread
          apply sendsPlainly_onDataReceived h.state h.mode env c
          intro req hdecode hom
          have hreg := registration_data (Bool.eq_false_iff.mpr hdown) hread.1 hdecode env
          exact configText_of_omText he (omText_of_registration hreg hom)
        · exact .inl rfl

theorem Plainly.step (h : Plainly s) {e : ServiceEvent} (he : UnmarkedText s e) : Plainly (s.step e) := by
  refine ⟨(p2pMode_step e).trans h.mode, ⟨?_, ?_, ?_⟩, fun c m hm => ?_⟩
  · exact h.state.ips_step h.mode e
  · exact h.state.registry_step h.mode e
  · exact h.state.config_step h.mode he
  · obtain ⟨c', hsame | ⟨m', hplain, hsent⟩⟩ := sendsPlainly_step h he
    · rw [hsame] at hm
      exact h.sent c m hm
    · rw [hsent] at hm
      rcases List.mem_append.mp hm with hm | hm
      · exact h.sent c m hm
      · rw [(Prod.mk.inj (List.mem_singleton.mp hm)).2]
        exact hplain

/-- **Everything the service sends** is plain, where the texts of the OMs do not have the marker in them. -/
theorem plainly_after {es : List ServiceEvent} (h : ∀ text ∈ omTexts (init false) es, ¬ marker <:+: text.toList) :
    Plainly (after es) := by
  have hrun : ∀ (es : List ServiceEvent) (s : DiscoveryService), Plainly s →
      (∀ text ∈ omTexts s es, ¬ marker <:+: text.toList) → Plainly (run DiscoveryService.step s es) := by
    intro es
    induction es with
    | nil => exact fun s hs _ => hs
    | cons e es ih =>
        intro s hs htexts
        rw [run_cons]
        apply ih
        · exact hs.step fun text htext =>
            htexts text (List.mem_append_left _ (by rw [htext]; exact List.mem_singleton_self text))
        · exact fun text htext => htexts text (List.mem_append_right _ htext)
  exact hrun es _ plainly_init h

end DiscoveryService

end EdgeOffloading.Discovery
