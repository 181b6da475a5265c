import EdgeOffloading.Discovery.Service
import EdgeOffloading.Manager.Config

/-!
# Distribution of the configuration

The OM puts the text of its configuration into the last field of its registration line, and every later component gets
it back in the `configJson` of its response.

* `handleRegistration_spec`: what one registration changes and what its answer carries;
* `faithful_of_carriesWhole`: the responses carry the text of the OM as long as every registration of an OM is read
  with the whole text in its last field;
* `cut_accepted`: a registration line that is cut somewhere in the text is accepted all the same.
-/

namespace EdgeOffloading.Discovery

open Run

/-! ## The registration line of the OM -/

/-- The request of `_send_registration`. -/
def omRequest (globalConfigJson : String) : RegistrationRequest where
  componentType := .offloadManager
  idRequestType := .static
  groupId := 1
  idInGroup := 1
  componentName := "OffloadManager"
  listenAddress := "0.0.0.0"
  listenPort := "8100"
  humanReadableMessage := globalConfigJson

/-- The line of `_send_registration`. -/
def omLine (globalConfigJson : String) : String := "DISC:REG;O;S;1;1;OffloadManager;0.0.0.0;8100;" ++ globalConfigJson

/-- The fields before the text. -/
def omFields : List String := ["DISC:REG", "O", "S", "1", "1", "OffloadManager", "0.0.0.0", "8100"]

theorem omFields_line : ";".intercalate omFields ++ ";" = "DISC:REG;O;S;1;1;OffloadManager;0.0.0.0;8100;" := by rfl

theorem front_omRequest (text : String) : (Message.registrationRequest (omRequest text)).front = omFields := by
  have hone : toString (1 : UInt8).toNat = "1" := rfl
  simp only [Message.front, omRequest, componentTypeToString, hone]
  rfl

theorem omLine_eq (text : String) : omLine text = encodeMessage (.registrationRequest (omRequest text)) := by
  have hne : omFields ≠ [] := List.cons_ne_nil _ _
  have happ : ";".intercalate (omFields ++ [text]) = ";".intercalate omFields ++ ";" ++ text := by
    rw [String.intercalate_append_of_ne_nil hne (List.cons_ne_nil _ _), String.intercalate_singleton]
  rw [encodeMessage_eq, front_omRequest]
  exact (happ.trans (congrArg (· ++ text) omFields_line)).symm

theorem omLine_append (a b : String) : omLine (a ++ b) = omLine a ++ b := String.append_assoc.symm

theorem decodeMessage_omLine {text : String} (hne : text ≠ "") (hfree : ';' ∉ text.toList) :
    decodeMessage (omLine text) = .ok (.registrationRequest (omRequest text)) := by
  rw [omLine_eq]
  refine decodeMessage_encodeMessage trivial ⟨?_, hne, trivial⟩
  have hname : ';' ∉ "OffloadManager".toList := by decide
  have haddress : ';' ∉ "0.0.0.0".toList := by decide
  have hport : ';' ∉ "8100".toList := by decide
  simp only [Message.stringFields, omRequest, List.forall_mem_cons]
  exact ⟨hname, haddress, hport, hfree, by simp⟩

/-! ## Nothing in a response has a separator -/

theorem semicolon_notMem_ntoa (ip : Ipv4) : ';' ∉ ip.ntoa.toList := by
  rw [Ipv4.ntoa, String.toList_intercalate]
  simp [List.intercalate_cons_cons]

theorem semicolon_notMem_componentType (type : ComponentType) : ';' ∉ (componentTypeToString type).toList := by
  cases type <;> decide

/-- No registered address has a separator. -/
def ComponentRegistry.Clean (r : ComponentRegistry) : Prop :=
  ∀ e ∈ r.registryByClientId, ';' ∉ e.2.listenAddress.toList

theorem mem_of_mem_eraseKey {κ α : Type} [DecidableEq κ] {m : List (κ × α)} {k : κ} {e : κ × α}
    (h : e ∈ eraseKey m k) : e ∈ m := (List.mem_filter.mp h).1

theorem mem_insertKey {κ α : Type} [DecidableEq κ] {m : List (κ × α)} {k : κ} {v : α} {e : κ × α}
    (h : e ∈ insertKey m k v) : e = (k, v) ∨ e ∈ m := by
  rcases List.mem_cons.mp h with rfl | h
  · exact .inl rfl
  · exact .inr (mem_of_mem_eraseKey h)

theorem mem_of_lookup {κ α : Type} [DecidableEq κ] {m : List (κ × α)} {k : κ} {v : α} (h : m.lookup k = some v) :
    (k, v) ∈ m := by
  obtain ⟨l₁, l₂, rfl, -⟩ := List.lookup_eq_some_iff.mp h
  exact List.mem_append_right l₁ List.mem_cons_self

namespace ComponentRegistry

variable {r : ComponentRegistry}

theorem Clean.find (h : r.Clean) {clientId : Nat} {info : ComponentInfo} (hf : r.findByClientId clientId = some info) :
    ';' ∉ info.listenAddress.toList :=
  h _ (mem_of_lookup hf)

theorem Clean.registerComponent (h : r.Clean) {info : ComponentInfo} {r' : ComponentRegistry}
    (hinfo : ';' ∉ info.listenAddress.toList) (hr : r.registerComponent info = some r') : r'.Clean := by
  have hmap : r'.registryByClientId = insertKey r.registryByClientId info.clientId info := by
    unfold ComponentRegistry.registerComponent at hr
    split at hr
    · cases hr
    · rw [← Option.some.inj hr]
      cases info.componentType <;> rfl
  intro e he
  rw [hmap] at he
  rcases mem_insertKey he with rfl | he
  · exact hinfo
  · exact h e he

theorem Clean.unregisterComponent (h : r.Clean) (clientId : Nat) : (r.unregisterComponent clientId).Clean := by
  unfold ComponentRegistry.unregisterComponent
  split
  · exact h
  · have hmap : ∀ e ∈ eraseKey r.registryByClientId clientId, ';' ∉ e.2.listenAddress.toList := fun e he =>
      h e (mem_of_mem_eraseKey he)
    dsimp only
    split
    · exact hmap
    · exact hmap
    · exact hmap

theorem Clean.updateKeepalive (h : r.Clean) (groupId idInGroup : UInt8) (now : Nat) :
    (r.updateKeepalive groupId idInGroup now).1.Clean := by
  unfold ComponentRegistry.updateKeepalive
  split
  · exact h
  · split
    · exact h
    · rename_i info hinfo
      intro e he
      rcases mem_insertKey he with rfl | he
      · have hclean := h.find hinfo
        exact hclean
      · exact h e he

theorem Clean.found (h : r.Clean) {ids : List Nat} {idx : Nat} {info : ComponentInfo}
    (hf : (r.searchIds ids idx).2 = some info) : ';' ∉ info.listenAddress.toList := by
  unfold ComponentRegistry.searchIds at hf
  split at hf
  · cases hf
  · exact h.find hf

end ComponentRegistry

/-- The target and the detected address of a response. -/
structure CleanResponse (r : RegistrationResponse) : Prop where
  type : ';' ∉ r.connectionTargetType.toList
  address : ';' ∉ r.connectionTargetAddress.toList
  port : ';' ∉ r.connectionTargetPort.toList
  client : ';' ∉ r.detectedClientAddress.toList

/-- A client that decodes the line of the response finds the text in it. -/
def CarriesText (text : String) (r : RegistrationResponse) : Prop :=
  ∃ r', decodeRegistrationResponse (encodeRegistrationResponse r) = .ok r' ∧ r'.configJson = text

theorem carriesText_of_clean {r : RegistrationResponse} (hr : CleanResponse r) (hcode : r.responseCode = .success)
    (hconfig : ';' ∉ r.configJson.toList) (hlast : r.humanReadableMessage = "Registration successful.") :
    CarriesText r.configJson r := by
  have hfree : ∀ f ∈ (Message.registrationResponse r).stringFields, ';' ∉ f.toList := by
    have hmsg : ';' ∉ r.humanReadableMessage.toList := by rw [hlast]; decide
    simp [Message.stringFields, hr.type, hr.address, hr.port, hr.client, hconfig, hmsg]
  have hparts := splitString_encodeMessage hfree
  have hne : (Message.registrationResponse r).humanReadableMessage ≠ "" := by
    show r.humanReadableMessage ≠ ""
    rw [hlast]
    decide
  rw [if_neg hne] at hparts
  refine ⟨r, decodeRegistrationResponse_of_front ?_ hparts, rfl⟩
  rw [hcode]
  trivial

/-! ## What a registration does -/

namespace DiscoveryService

variable {s : DiscoveryService}

/-- Nothing the service puts into a response has a separator in it. -/
structure Clean (s : DiscoveryService) : Prop where
  ips : ∀ e ∈ s.clientIpAddresses, ';' ∉ e.2.toList
  registry : s.registry.Clean
  config : ∀ c, s.globalConfiguration = some c → ';' ∉ c.toList

/-- A registration was answered with `r` and changed nothing but the registry. -/
structure Answers (s : DiscoveryService) (clientId : Nat) (s' : DiscoveryService) (r : RegistrationResponse) :
    Prop where
  mode : s'.p2pMode = s.p2pMode
  config : s'.globalConfiguration = s.globalConfiguration
  ips : s'.clientIpAddresses = s.clientIpAddresses
  sent : s'.sent = s.sent ++ [(clientId, .registrationResponse r)]
  clean : s'.registry.Clean

theorem answers_sendRegistration {registry : ComponentRegistry} (h : registry.Clean) (clientId : Nat)
    (r : RegistrationResponse) : Answers s clientId ({ s with registry := registry }.sendRegistration clientId r) r :=
  ⟨rfl, rfl, rfl, rfl, h⟩

/-- The response of a successful registration carries the configuration and can be decoded. -/
structure Success (s : DiscoveryService) (r : RegistrationResponse) : Prop where
  config : r.configJson = s.globalConfiguration.getD ""
  clean : CleanResponse r
  last : r.humanReadableMessage = "Registration successful."

theorem Clean.lookup (h : s.Clean) (clientId : Nat) {d : String} (hd : ';' ∉ d.toList) :
    ';' ∉ ((s.clientIpAddresses.lookup clientId).getD d).toList := by
  cases hl : s.clientIpAddresses.lookup clientId with
  | none => exact hd
  | some ip =>
      have hip := h.ips _ (mem_of_lookup hl)
      exact hip

theorem registerCommon_spec (h : s.Clean) (env : ServiceEnv) (clientId : Nat) {req : RegistrationRequest}
    {resp : RegistrationResponse} (hreq : ';' ∉ req.listenAddress.toList)
    (hresp : ∀ client, ';' ∉ client.toList → CleanResponse { resp with detectedClientAddress := client }) :
    ∃ r, Answers s clientId (s.registerCommon env clientId req resp) r ∧
      (r.responseCode = .success → Success s r) := by
  unfold registerCommon
  split
  · refine ⟨_, answers_sendRegistration h.registry clientId _, ?_⟩
    intro hcode
    unfold detect at hcode
    split at hcode <;> cases hcode
  · split
    · exact ⟨_, answers_sendRegistration h.registry clientId _, fun hcode => by cases hcode⟩
    · dsimp only
      split
      · rename_i registry hregister
        have hregistry : registry.Clean := by
          apply h.registry.registerComponent _ hregister
          exact h.lookup clientId hreq
        refine ⟨_, answers_sendRegistration hregistry clientId _, fun _ => ?_⟩
        have hclean := hresp _ (h.lookup clientId (d := "unknown") (by decide))
        exact ⟨rfl, ⟨hclean.type, hclean.address, hclean.port, hclean.client⟩, rfl⟩
      · exact ⟨_, answers_sendRegistration h.registry clientId _, fun hcode => by cases hcode⟩

theorem cleanResponse_newResponse (env : ServiceEnv) (req : RegistrationRequest) {client : String}
    (hclient : ';' ∉ client.toList) :
    CleanResponse { newResponse env req with detectedClientAddress := client } := by
  have hempty : ';' ∉ "".toList := by decide
  exact ⟨hempty, hempty, hempty, hclient⟩

theorem cleanResponse_withTarget (resp : RegistrationResponse) {target : ComponentInfo} {client : String}
    (htarget : ';' ∉ target.listenAddress.toList) (hclient : ';' ∉ client.toList) :
    CleanResponse { withTarget resp target with detectedClientAddress := client } := by
  refine ⟨semicolon_notMem_componentType _, htarget, ?_, hclient⟩
  show ';' ∉ (toString target.listenPort.toNat).toList
  rw [toList_toString]
  exact semicolon_notMem_toDigits _

/-- The branches that look for a component to connect to differ in the lookup and in the text of the refusal. -/
theorem target_spec (h : s.Clean) {env : ServiceEnv} {clientId : Nat} {req : RegistrationRequest}
    {registry : ComponentRegistry} {found : Option ComponentInfo} {resp waiting : RegistrationResponse}
    (hreq : ';' ∉ req.listenAddress.toList) (hregistry : registry.Clean)
    (hfound : ∀ info, found = some info → ';' ∉ info.listenAddress.toList) (hwaiting : waiting.responseCode = .wait) :
    ∃ r, Answers s clientId
        (match found with
          | none => { s with registry := registry }.sendRegistration clientId waiting
          | some target => { s with registry := registry }.registerCommon env clientId req (withTarget resp target)) r ∧
      (r.responseCode = .success → Success s r) := by
  cases found with
  | none =>
      refine ⟨waiting, answers_sendRegistration hregistry clientId waiting, fun hcode => ?_⟩
      rw [hwaiting] at hcode
      cases hcode
  | some target =>
      have hclean : { s with registry := registry }.Clean := ⟨h.ips, hregistry, h.config⟩
      obtain ⟨r, ha, hs⟩ := registerCommon_spec hclean env clientId hreq
        fun client hclient => cleanResponse_withTarget resp (hfound target rfl) hclient
      refine ⟨r, ⟨ha.mode, ha.config, ha.ips, ha.sent, ha.clean⟩, fun hcode => ?_⟩
      have hsuccess := hs hcode
      exact ⟨hsuccess.config, hsuccess.clean, hsuccess.last⟩

theorem handleTarget_spec (h : s.Clean) (env : ServiceEnv) (clientId : Nat) {req : RegistrationRequest}
    (hreq : ';' ∉ req.listenAddress.toList) :
    ∃ r, Answers s clientId (s.handleTarget env clientId req) r ∧ (r.responseCode = .success → Success s r) := by
  unfold handleTarget
  dsimp only
  split
  · exact ⟨_, answers_sendRegistration h.registry clientId _, fun hcode => by cases hcode⟩
  · split
    · exact target_spec h hreq h.registry (fun info => h.registry.found) rfl
    · exact target_spec h hreq h.registry (fun info => h.registry.found) rfl
    · exact target_spec h hreq h.registry (fun info => h.registry.found) rfl
    · exact registerCommon_spec h env clientId hreq fun client hclient => cleanResponse_newResponse env req hclient

/-- **A registration in the networked mode.** The configuration changes only with the registration of an OM, and a
successful answer carries it. -/
theorem handleRegistration_spec (h : s.Clean) (hmode : s.p2pMode = false) (env : ServiceEnv) (clientId : Nat)
    {req : RegistrationRequest} (hreq : ';' ∉ req.listenAddress.toList)
    (htext : ';' ∉ req.humanReadableMessage.toList) :
    ∃ r s₁, s₁.Clean ∧ Answers s₁ clientId (s.handleRegistration env clientId req) r ∧
      (r.responseCode = .success → Success s₁ r ∧ s₁.globalConfiguration.isSome = true) ∧
      s₁.p2pMode = s.p2pMode ∧ s₁.sent = s.sent ∧
      s₁.globalConfiguration =
        if req.componentType = .offloadManager then some req.humanReadableMessage else s.globalConfiguration := by
  unfold handleRegistration
  rw [if_neg (by rw [hmode]; exact Bool.false_ne_true)]
  split
  · have hclean : { s with globalConfiguration := some req.humanReadableMessage }.Clean := by
      refine ⟨h.ips, h.registry, fun c hc => ?_⟩
      cases hc
      exact htext
    obtain ⟨r, ha, hs⟩ := handleTarget_spec hclean env clientId hreq
    exact ⟨r, _, hclean, ha, fun hcode => ⟨hs hcode, rfl⟩, rfl, rfl, rfl⟩
  · split
    · refine ⟨_, s, h, answers_sendRegistration h.registry clientId _, ?_, rfl, rfl, rfl⟩
      intro hcode
      cases hcode
    · rename_i hsome
      obtain ⟨r, ha, hs⟩ := handleTarget_spec h env clientId hreq
      refine ⟨r, s, h, ha, fun hcode => ⟨hs hcode, ?_⟩, rfl, rfl, rfl⟩
      rw [Option.isNone_iff_eq_none] at hsome
      exact Option.isSome_iff_ne_none.mpr hsome

/-- In the matchmaking mode an OM is refused. -/
theorem handleRegistration_p2p_om (hmode : s.p2pMode = true) (env : ServiceEnv) (clientId : Nat)
    {req : RegistrationRequest} (hom : req.componentType = .offloadManager) :
    ∃ r, (s.handleRegistration env clientId req).sent = s.sent ++ [(clientId, .registrationResponse r)] ∧
      r.responseCode = .invalidRequest := by
  unfold handleRegistration handleP2pRegistration
  rw [if_pos hmode, hom]
  exact ⟨_, rfl, rfl⟩

/-! ## Runs -/

/-- The bytes of one `receive_from`. -/
def received (available : List Char) : String := String.ofList (available.take bufferSize)

theorem received_toList {line : String} (h : line.toList.length ≤ bufferSize) : received line.toList = line := by
  rw [received, List.take_of_length_le h, String.ofList_toList]

/-- What is read as the registration of an OM has the whole text in its last field. -/
def CarriesWhole (text : String) : ServiceEvent → Prop
  | .data _ available _ =>
      ∀ req, decodeMessage (received available) = .ok (.registrationRequest req) →
        req.componentType = .offloadManager → req.humanReadableMessage = text
  | _ => True

/-- The service reads the registration of an OM and answers it with SUCCESS. -/
def AnswersOm (s : DiscoveryService) (e : ServiceEvent) : Prop :=
  ∃ clientId available env req r,
    e = .data clientId available env ∧ decodeMessage (received available) = .ok (.registrationRequest req) ∧
      req.componentType = .offloadManager ∧ (s.step e).sent = s.sent ++ [(clientId, .registrationResponse r)] ∧
      r.responseCode = .success

/-- From the successful registration of an OM on, every successful response carries its text. -/
def Faithful (text : String) (p2pMode : Bool) (es : List ServiceEvent) : Prop :=
  ∀ pre e post, es = pre ++ e :: post → AnswersOm (run step (init p2pMode) pre) e →
    ∀ clientId r,
      (clientId, .registrationResponse r) ∈
          (run step (init p2pMode) es).sent.drop (run step (init p2pMode) (pre ++ [e])).sent.length →
        r.responseCode = .success → CarriesText text r

/-- The invariant of the networked mode. -/
structure Distributes (text : String) (s : DiscoveryService) : Prop where
  mode : s.p2pMode = false
  clean : s.Clean
  config : ∀ c, s.globalConfiguration = some c → c = text
  sent : ∀ clientId r, (clientId, .registrationResponse r) ∈ s.sent → r.responseCode = .success → CarriesText text r

variable {text : String}

theorem Distributes.handleRegistration (h : Distributes text s) {env : ServiceEnv} {clientId : Nat}
    {req : RegistrationRequest} (hreq : ';' ∉ req.listenAddress.toList)
    (htext : ';' ∉ req.humanReadableMessage.toList)
    (hwhole : req.componentType = .offloadManager → req.humanReadableMessage = text) :
    Distributes text (s.handleRegistration env clientId req) := by
  obtain ⟨r, s₁, hclean, ha, hs, hmode, hsent, hconfig⟩ :=
    handleRegistration_spec h.clean h.mode env clientId hreq htext
  have hconfig₁ : ∀ c, s₁.globalConfiguration = some c → c = text := by
    intro c hc
    rw [hconfig] at hc
    split at hc
    · rename_i hom
      cases hc
      exact hwhole hom
    · exact h.config c hc
  refine ⟨ha.mode.trans (hmode.trans h.mode), ⟨?_, ha.clean, ?_⟩, ?_, ?_⟩
  · rw [ha.ips]
    exact hclean.ips
  · rw [ha.config]
    exact hclean.config
  · rw [ha.config]
    exact hconfig₁
  · intro id r' hmem hcode
    rw [ha.sent, hsent] at hmem
    rcases List.mem_append.mp hmem with hmem | hmem
    · exact h.sent id r' hmem hcode
    · obtain ⟨-, rfl⟩ : id = clientId ∧ r' = r := by simpa using hmem
      obtain ⟨hsuccess, hsome⟩ := hs hcode
      obtain ⟨c, hc⟩ := Option.isSome_iff_exists.mp hsome
      have hjson : r'.configJson = text := by
        rw [hsuccess.config, hc]
        exact hconfig₁ c hc
      have hfree : ';' ∉ r'.configJson.toList := by
        rw [hsuccess.config, hc]
        exact hclean.config c hc
      have hcarries := carriesText_of_clean hsuccess.clean hcode hfree hsuccess.last
      rwa [hjson] at hcarries

/-- A message that is no registration response changes nothing here. -/
theorem Distributes.sendResponse (h : Distributes text s) (clientId : Nat) {m : Message}
    (hm : ∀ r, m ≠ .registrationResponse r) : Distributes text (s.sendResponse clientId m) := by
  refine ⟨h.mode, ⟨h.clean.ips, h.clean.registry, h.clean.config⟩, h.config, fun id r hmem => ?_⟩
  rcases List.mem_append.mp hmem with hmem | hmem
  · exact h.sent id r hmem
  · obtain ⟨-, heq⟩ := Prod.mk.inj (List.mem_singleton.mp hmem)
    exact absurd heq.symm (hm r)

theorem Distributes.setRegistry (h : Distributes text s) {registry : ComponentRegistry} (hclean : registry.Clean) :
    Distributes text { s with registry := registry } :=
  ⟨h.mode, ⟨h.clean.ips, hclean, h.clean.config⟩, h.config, h.sent⟩

theorem Distributes.handleKeepalive (h : Distributes text s) (env : ServiceEnv) (clientId : Nat)
    (ping : KeepalivePing) : Distributes text (s.handleKeepalive env clientId ping) := by
  rcases s.handleKeepalive_cases env clientId ping with hsame | ⟨g, i, pong, heq⟩
  · rw [hsame]
    exact h
  · rw [heq]
    exact (h.setRegistry (h.clean.registry.updateKeepalive g i env.now)).sendResponse clientId fun r hr => by cases hr

theorem Distributes.onDataReceived (h : Distributes text s) (env : ServiceEnv) (clientId : Nat) {available : List Char}
    (hwhole : ∀ req, decodeMessage (received available) = .ok (.registrationRequest req) →
      req.componentType = .offloadManager → req.humanReadableMessage = text) :
    Distributes text (s.onDataReceived env clientId (available.take bufferSize)) := by
  rcases s.onDataReceived_cases env clientId (available.take bufferSize) with
    ⟨m, hm, heq⟩ | ⟨req, hreq, heq⟩ | ⟨ping, -, heq⟩ | heq
  · rw [heq]
    exact h.sendResponse clientId hm
  · have hfree := decodeMessage_stringFields hreq
    rw [heq]
    exact h.handleRegistration (hfree _ (by simp [Message.stringFields])) (hfree _ (by simp [Message.stringFields]))
      (hwhole req hreq)
  · rw [heq]
    exact h.handleKeepalive env clientId ping
  · rw [heq]
    exact h

theorem clean_foldl_unregister {registry : ComponentRegistry} (h : registry.Clean) (ids : List Nat) :
    (ids.foldl ComponentRegistry.unregisterComponent registry).Clean := by
  induction ids generalizing registry with
  | nil => exact h
  | cons id ids ih => exact ih (h.unregisterComponent id)

theorem Distributes.onClientDisconnected (h : Distributes text s) (clientId : Nat) :
    Distributes text (s.onClientDisconnected clientId) := by
  have hips : ∀ e ∈ eraseKey s.clientIpAddresses clientId, ';' ∉ e.2.toList := fun e he =>
    h.clean.ips e (mem_of_mem_eraseKey he)
  have hregistry := h.clean.registry.unregisterComponent clientId
  unfold DiscoveryService.onClientDisconnected
  dsimp only
  split
  · exact ⟨h.mode, ⟨hips, h.clean.registry, h.clean.config⟩, h.config, h.sent⟩
  · split
    · refine ⟨h.mode, ⟨fun e he => absurd he List.not_mem_nil, ?_, h.clean.config⟩, h.config, h.sent⟩
      exact clean_foldl_unregister hregistry _
    · exact ⟨h.mode, ⟨hips, hregistry, h.clean.config⟩, h.config, h.sent⟩

theorem Distributes.purgeStaleClients (h : Distributes text s) (now : Nat) :
    Distributes text (s.purgeStaleClients now) := by
  have hdisconnect : ∀ (t : DiscoveryService) clientId, Distributes text t →
      Distributes text (t.onClientDisconnected clientId) := fun _ clientId ht => ht.onClientDisconnected clientId
  exact foldl_purgeClient hdisconnect now _ h

theorem Distributes.step (h : Distributes text s) {e : ServiceEvent} (he : CarriesWhole text e) :
    Distributes text (s.step e) := by
  unfold DiscoveryService.step
  split
  · exact h
  · cases e with
    | connected clientId ip =>
        refine ⟨h.mode, ⟨fun e he => ?_, h.clean.registry, h.clean.config⟩, h.config, h.sent⟩
        rcases mem_insertKey he with rfl | he
        · exact semicolon_notMem_ntoa ip
        · exact h.clean.ips e he
    | disconnected clientId => exact h.onClientDisconnected clientId
    | data clientId available env =>
        dsimp only
        split
        · exact h.onDataReceived env clientId he
        · exact h
    | purge now => exact h.purgeStaleClients now

theorem distributes_init (text : String) : Distributes text (init false) := by
  refine ⟨rfl, ⟨?_, ?_, ?_⟩, ?_, ?_⟩
  · exact fun e he => absurd he List.not_mem_nil
  · exact fun e he => absurd he List.not_mem_nil
  · exact fun c hc => by cases hc
  · exact fun c hc => by cases hc
  · exact fun id r he => absurd he List.not_mem_nil

theorem p2pMode_registerCommon (env : ServiceEnv) (clientId : Nat) (req : RegistrationRequest)
    (resp : RegistrationResponse) : (s.registerCommon env clientId req resp).p2pMode = s.p2pMode := by
  unfold registerCommon
  split
  · rfl
  · split
    · rfl
    · dsimp only
      split <;> rfl

theorem p2pMode_handleRegistration (env : ServiceEnv) (clientId : Nat) (req : RegistrationRequest) :
    (s.handleRegistration env clientId req).p2pMode = s.p2pMode := by
  have htarget : ∀ s' : DiscoveryService, s'.p2pMode = s.p2pMode →
      (s'.handleTarget env clientId req).p2pMode = s.p2pMode := by
    intro s' hs'
    unfold handleTarget
    dsimp only
    split
    · exact hs'
    · split
      all_goals try split
      all_goals first | exact hs' | exact (p2pMode_registerCommon ..).trans hs'
  unfold handleRegistration
  split
  · unfold handleP2pRegistration
    dsimp only
    split
    · split <;> rfl
    · exact p2pMode_registerCommon ..
    · rfl
  · split
    · exact htarget _ rfl
    · split
      · rfl
      · exact htarget s rfl

theorem p2pMode_onClientDisconnected (clientId : Nat) : (s.onClientDisconnected clientId).p2pMode = s.p2pMode := by
  unfold onClientDisconnected
  dsimp only
  split
  · rfl
  · split <;> rfl

theorem p2pMode_purgeStaleClients (now : Nat) : (s.purgeStaleClients now).p2pMode = s.p2pMode := by
  have hdisconnect : ∀ (t : DiscoveryService) clientId, t.p2pMode = s.p2pMode →
      (t.onClientDisconnected clientId).p2pMode = s.p2pMode :=
    fun _ clientId ht => (p2pMode_onClientDisconnected clientId).trans ht
  exact foldl_purgeClient hdisconnect now _ rfl

theorem p2pMode_onDataReceived (env : ServiceEnv) (clientId : Nat) (data : List Char) :
    (s.onDataReceived env clientId data).p2pMode = s.p2pMode := by
  rcases s.onDataReceived_cases env clientId data with ⟨m, -, heq⟩ | ⟨req, -, heq⟩ | ⟨ping, -, heq⟩ | heq
  · rw [heq]
    rfl
  · rw [heq]
    exact p2pMode_handleRegistration env clientId req
  · rw [heq]
    rcases s.handleKeepalive_cases env clientId ping with hsame | ⟨g, i, pong, hping⟩
    · rw [hsame]
    · rw [hping]
      rfl
  · rw [heq]

theorem p2pMode_step (e : ServiceEvent) : (s.step e).p2pMode = s.p2pMode := by
  unfold step
  split
  · rfl
  · cases e with
    | connected clientId ip => rfl
    | disconnected clientId => exact p2pMode_onClientDisconnected clientId
    | data clientId available env =>
        dsimp only
        split
        · exact p2pMode_onDataReceived env clientId _
        · rfl
    | purge now =>
        exact p2pMode_purgeStaleClients now

theorem p2pMode_run (p2pMode : Bool) (es : List ServiceEvent) : (run step (init p2pMode) es).p2pMode = p2pMode :=
  run_invariant_of_step step (I := fun s => s.p2pMode = p2pMode) (fun _ e h => (p2pMode_step e).trans h) es _ rfl

/-- A registration that was received. -/
theorem step_registration (hrun : s.shuttingDown = false) {clientId : Nat} {available : List Char} (env : ServiceEnv)
    {req : RegistrationRequest} (hclient : (s.clientIpAddresses.lookup clientId).isSome = true)
    (hdecode : decodeMessage (received available) = .ok (.registrationRequest req)) :
    s.step (.data clientId available env) = s.handleRegistration env clientId req := by
  have hne : available.take bufferSize ≠ [] := by
    intro hnil
    rw [received, hnil] at hdecode
    cases hdecode
  unfold step
  rw [if_neg (by rw [hrun]; exact Bool.false_ne_true)]
  dsimp only
  rw [if_pos ⟨hclient, hne⟩]
  unfold onDataReceived
  rw [show decodeMessage (String.ofList (available.take bufferSize)) = _ from hdecode]

theorem not_answersOm_of_p2p (hmode : s.p2pMode = true) (e : ServiceEvent) : ¬ AnswersOm s e := by
  rintro ⟨clientId, available, env, req, r, rfl, hdecode, hom, hsent, hcode⟩
  have hne : s.sent ≠ s.sent ++ [(clientId, Message.registrationResponse r)] := fun h => by
    have := congrArg List.length h
    simp at this
  by_cases hread : s.shuttingDown = false ∧ (s.clientIpAddresses.lookup clientId).isSome = true
  · obtain ⟨r', hr', hcode'⟩ := handleRegistration_p2p_om hmode env clientId hom
    rw [step_registration hread.1 env hread.2 hdecode, hr', List.append_cancel_left_eq] at hsent
    obtain rfl : r' = r := by simpa using hsent
    rw [hcode] at hcode'
    cases hcode'
  · refine hne (Eq.trans ?_ hsent)
    unfold step
    split
    · rfl
    · rename_i hrun
      dsimp only
      rw [if_neg fun hc => hread ⟨Bool.not_eq_true _ ▸ hrun, hc.1⟩]

/-- **Configuration distribution.** Where every registration of an OM is read with the whole text of its configuration,
every successful response after it carries that text. -/
theorem faithful_of_carriesWhole (floatRepr : Rat → String) (config : Json) (p2pMode : Bool) (es : List ServiceEvent)
    (h : ∀ e ∈ es, CarriesWhole (getConfigJsonString floatRepr config) e) :
    Faithful (getConfigJsonString floatRepr config) p2pMode es := by
  intro pre e post hes hom clientId r hmem hcode
  cases p2pMode with
  | true => exact absurd hom (not_answersOm_of_p2p (p2pMode_run true pre) e)
  | false =>
    have halong : Along step (fun _ e => CarriesWhole (getConfigJsonString floatRepr config) e) (init false) es :=
      (along_iff_forall_step step).mpr fun pre e hpre => h e (hpre.subset (by simp))
    have hinv := run_invariant step (fun s e hs he => hs.step he) es (init false) (distributes_init _) halong
    exact hinv.sent clientId r (List.mem_of_mem_drop hmem) hcode

/-- A free id and a port are all that is left to check. -/
theorem registerCommon_of_free {req : RegistrationRequest} {port : Int}
    (hid : s.registry.isIdTaken req.groupId req.idInGroup = false) (hport : stoi req.listenPort.toList = some port)
    (env : ServiceEnv) (clientId : Nat) (resp : RegistrationResponse) :
    ∃ r, (s.registerCommon env clientId req resp).sent = s.sent ++ [(clientId, .registrationResponse r)] ∧
      r.responseCode = .success ∧
      (s.registerCommon env clientId req resp).globalConfiguration = s.globalConfiguration := by
  have htaken : ¬ s.registry.isIdTaken req.groupId req.idInGroup = true := by
    rw [hid]
    exact Bool.false_ne_true
  unfold registerCommon ComponentRegistry.registerComponent
  rw [if_neg htaken, hport]
  dsimp only
  rw [if_neg htaken]
  exact ⟨_, rfl, rfl, rfl⟩

theorem handleRegistration_om (hmode : s.p2pMode = false) (hid : s.registry.isIdTaken 1 1 = false) (env : ServiceEnv)
    (clientId : Nat) (text : String) :
    ∃ r, (s.handleRegistration env clientId (omRequest text)).sent = s.sent ++ [(clientId, .registrationResponse r)] ∧
      r.responseCode = .success ∧
      (s.handleRegistration env clientId (omRequest text)).globalConfiguration = some text := by
  have htarget : s.handleRegistration env clientId (omRequest text) =
      { s with globalConfiguration := some text }.registerCommon env clientId (omRequest text)
        (newResponse env (omRequest text)) := by
    unfold handleRegistration
    rw [if_neg (by rw [hmode]; exact Bool.false_ne_true), if_pos (by rfl)]
    unfold handleTarget
    have htaken : ¬ s.registry.isIdTaken (omRequest text).groupId (omRequest text).idInGroup = true := by
      intro h
      exact Bool.false_ne_true (hid.symm.trans h)
    rw [if_neg htaken]
    rfl
  have hport : stoi "8100".toList = some 8100 := by decide
  rw [htarget]
  exact registerCommon_of_free (s := { s with globalConfiguration := some text }) hid hport env clientId _

/-- **A line that is cut in the text is accepted.** The configuration is then what had arrived. -/
theorem cut_accepted (hmode : s.p2pMode = false) (hrun : s.shuttingDown = false) {clientId : Nat}
    {available : List Char} {env : ServiceEnv} {cut : String}
    (hclient : (s.clientIpAddresses.lookup clientId).isSome = true) (hid : s.registry.isIdTaken 1 1 = false)
    (hne : cut ≠ "") (hfree : ';' ∉ cut.toList) (hcut : received available = omLine cut) :
    AnswersOm s (.data clientId available env) ∧
      (s.step (.data clientId available env)).globalConfiguration = some cut := by
  have hdecode : decodeMessage (received available) = .ok (.registrationRequest (omRequest cut)) := by
    rw [hcut]
    exact decodeMessage_omLine hne hfree
  obtain ⟨r, hsent, hcode, hconfig⟩ := handleRegistration_om hmode hid env clientId cut
  have hstep := step_registration hrun env hclient hdecode
  refine ⟨⟨clientId, available, env, omRequest cut, r, rfl, hdecode, rfl, ?_, hcode⟩, ?_⟩
  · rw [hstep, hsent]
  · rw [hstep, hconfig]

/-! ## A configuration whose line arrives in two parts -/

/-- A configuration without tasks. -/
def shortConfig : Json :=
  .obj [("available_tasks", .arr []), ("default_session_timeout", .int 300), ("max_concurrent_sessions", .int 100)]

def shortText : String := getConfigJsonString (fun _ => "") shortConfig

/-- The text behind its first character. -/
def shortTail : String := "\"available_tasks\":[],\"default_session_timeout\":300,\"max_concurrent_sessions\":100\x7d"

theorem shortText_eq : shortText = "\x7b" ++ shortTail := by rfl

def bridgeRequest : RegistrationRequest where
  componentType := .bridge
  idRequestType := .static
  groupId := 1
  idInGroup := 2
  componentName := "Bridge"
  listenAddress := "0.0.0.0"
  listenPort := "9000"
  humanReadableMessage := "Bridge"

/-- The OM's line arrives in two parts, and a Bridge registers in between. -/
def cutRun : List ServiceEvent :=
  [.connected 5 ⟨10, 0, 0, 1⟩, .connected 6 ⟨10, 0, 0, 2⟩, .data 5 (omLine "\x7b").toList { now := 0 },
    .data 6 (encodeMessage (.registrationRequest bridgeRequest)).toList { now := 0 },
    .data 5 shortTail.toList { now := 0 }]

/-- What the Bridge is answered. -/
def bridgeResponse : RegistrationResponse where
  responseCode := .success
  assignedGroupId := 1
  assignedIdInGroup := 2
  connectionTargetType := "O"
  connectionTargetAddress := "10.0.0.1"
  connectionTargetPort := "8100"
  connectionTargetId := 257
  configJson := "\x7b"
  detectedClientAddress := "10.0.0.2"
  humanReadableMessage := "Registration successful."

/-- The text is a brace for everyone who registers between the two parts. -/
theorem cutRun_not_faithful :
    validateConfig shortConfig = true ∧ omLine shortText = omLine "\x7b" ++ shortTail ∧
      ¬ Faithful shortText false cutRun := by
  have hline : omLine shortText = omLine "\x7b" ++ shortTail := by
    rw [shortText_eq]
    exact omLine_append _ _
  refine ⟨by decide +kernel, hline, fun h => ?_⟩
  have hne : "\x7b" ≠ "" := by decide
  have hfree : ';' ∉ "\x7b".toList := by decide
  have hcut : received (omLine "\x7b").toList = omLine "\x7b" := received_toList (by decide)
  have hom : AnswersOm (run step (init false) (cutRun.take 2)) (.data 5 (omLine "\x7b").toList { now := 0 }) :=
    (cut_accepted rfl rfl rfl rfl hne hfree hcut).1
  have hsent : (run step (init false) cutRun).sent.drop
      (run step (init false) (cutRun.take 2 ++ [.data 5 (omLine "\x7b").toList { now := 0 }])).sent.length =
        [(6, .registrationResponse bridgeResponse),
          (5, .error { errorCode := .protocol,
                       humanReadableMessage := "Malformed or invalid message received." })] := by
    decide +kernel
  obtain ⟨r, hr, htext⟩ := h (cutRun.take 2) _ (cutRun.drop 3) rfl hom 6 bridgeResponse
    (by rw [hsent]; exact List.mem_cons_self) rfl
  obtain ⟨r', hr', hbrace⟩ : CarriesText "\x7b" bridgeResponse :=
    carriesText_of_clean ⟨by decide, by decide, by decide, by decide⟩ rfl hfree rfl
  rw [hr'] at hr
  cases hr
  rw [hbrace] at htext
  exact absurd htext (by decide +kernel)

/-- Where the line arrives in one part, the Bridge gets the text. -/
def wholeRun : List ServiceEvent :=
  [.connected 5 ⟨10, 0, 0, 1⟩, .connected 6 ⟨10, 0, 0, 2⟩, .data 5 (omLine shortText).toList { now := 0 },
    .data 6 (encodeMessage (.registrationRequest bridgeRequest)).toList { now := 0 }]

theorem decodeMessage_bridgeRequest :
    decodeMessage (received (encodeMessage (.registrationRequest bridgeRequest)).toList) =
      .ok (.registrationRequest bridgeRequest) := by
  rw [received_toList (by decide +kernel)]
  exact decodeMessage_encodeMessage trivial ⟨by decide, by decide, trivial⟩

theorem faithful_of_carriesWhole_wholeRun :
    (∀ e ∈ wholeRun, CarriesWhole (getConfigJsonString (fun _ => "") shortConfig) e) ∧
      Faithful (getConfigJsonString (fun _ => "") shortConfig) false wholeRun := by
  have hom : decodeMessage (received (omLine shortText).toList) = .ok (.registrationRequest (omRequest shortText)) := by
    rw [received_toList (by decide +kernel)]
    exact decodeMessage_omLine (by decide +kernel) (by decide +kernel)
  have hwhole : ∀ e ∈ wholeRun, CarriesWhole (getConfigJsonString (fun _ => "") shortConfig) e := by
    intro e he
    simp only [wholeRun, List.mem_cons, List.not_mem_nil, or_false] at he
    rcases he with rfl | rfl | rfl | rfl
    · trivial
    · trivial
    · intro req hreq _
      rw [hom] at hreq
      cases hreq
      rfl
    · intro req hreq htype
      rw [decodeMessage_bridgeRequest] at hreq
      cases hreq
      cases htype
  exact ⟨hwhole, faithful_of_carriesWhole (fun _ => "") shortConfig false wholeRun hwhole⟩

end DiscoveryService

end EdgeOffloading.Discovery
