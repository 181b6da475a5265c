import EdgeOffloading.Discovery.Protocol
import EdgeOffloading.Lib.Run

/-!
# The Discovery Service

`DiscoveryService` with its `ComponentRegistry`, driven by the callbacks of its TCP server and by the purge of its main
loop. A map is an association list with one entry for each key; the clients of the transport are the keys of
`client_ip_addresses_`, which the connect and disconnect callbacks keep in step with it. What the service sends is
recorded in `sent`; whether the transport can deliver it makes no difference here.

The data callback makes one `receive_from` with a buffer of 1024 bytes and decodes what it got as one message.
-/

namespace EdgeOffloading.Discovery

/-! ## Maps -/

section Map

variable {κ α : Type} [DecidableEq κ]

def eraseKey (m : List (κ × α)) (k : κ) : List (κ × α) := m.filter fun e => e.1 ≠ k

def insertKey (m : List (κ × α)) (k : κ) (v : α) : List (κ × α) := (k, v) :: eraseKey m k

end Map

/-! ## The registry -/

structure ComponentInfo where
  clientId : Nat
  componentType : ComponentType
  groupId : UInt8
  idInGroup : UInt8
  componentSubtype : UInt8 := 0
  name : String
  listenAddress : String
  listenPort : UInt16
  lastSeen : Nat
  deriving DecidableEq, Repr

structure ComponentRegistry where
  registryByClientId : List (Nat × ComponentInfo) := []
  clientIdByComponentId : List ((UInt8 × UInt8) × Nat) := []
  bridgeClientIds : List Nat := []
  nextBridgeIdx : Nat := 0
  omClientIds : List Nat := []
  nextOmIdx : Nat := 0
  deriving DecidableEq, Repr

namespace ComponentRegistry

variable (r : ComponentRegistry)

def isIdTaken (groupId idInGroup : UInt8) : Bool := (r.clientIdByComponentId.lookup (groupId, idInGroup)).isSome

def findByClientId (clientId : Nat) : Option ComponentInfo := r.registryByClientId.lookup clientId

def getAllClientIds : List Nat := r.registryByClientId.map Prod.fst

def getAllComponents : List ComponentInfo := r.registryByClientId.map Prod.snd

/-- `none` is the result `false`. -/
def registerComponent (info : ComponentInfo) : Option ComponentRegistry :=
  if r.isIdTaken info.groupId info.idInGroup then none
  else
    let r' := { r with
      registryByClientId := insertKey r.registryByClientId info.clientId info
      clientIdByComponentId := insertKey r.clientIdByComponentId (info.groupId, info.idInGroup) info.clientId }
    some <|
      match info.componentType with
      | .bridge => { r' with bridgeClientIds := r.bridgeClientIds ++ [info.clientId] }
      | .offloadManager => { r' with omClientIds := r.omClientIds ++ [info.clientId] }
      | _ => r'

def unregisterComponent (clientId : Nat) : ComponentRegistry :=
  match r.findByClientId clientId with
  | none => r
  | some info =>
    let r' := { r with
      registryByClientId := eraseKey r.registryByClientId clientId
      clientIdByComponentId := eraseKey r.clientIdByComponentId (info.groupId, info.idInGroup) }
    match info.componentType with
    | .bridge => { r' with bridgeClientIds := r.bridgeClientIds.filter fun id => id ≠ clientId }
    | .offloadManager => { r' with omClientIds := r.omClientIds.filter fun id => id ≠ clientId }
    | _ => r'

/-- The position of the round robin, back at the start when it is behind the list. -/
def rotate (ids : List Nat) (idx : Nat) : Nat := if ids.length ≤ idx then 0 else idx

/-- The search in a list of client ids: the new position of the round robin, and the record that is found. -/
def searchIds (ids : List Nat) (idx : Nat) : Nat × Option ComponentInfo :=
  match ids[rotate ids idx]? with
  | none => (idx, none)
  | some id => (rotate ids idx + 1, r.findByClientId id)

def findAvailableBridge : ComponentRegistry × Option ComponentInfo :=
  let found := r.searchIds r.bridgeClientIds r.nextBridgeIdx
  ({ r with nextBridgeIdx := found.1 }, found.2)

def findAvailableOm : ComponentRegistry × Option ComponentInfo :=
  let found := r.searchIds r.omClientIds r.nextOmIdx
  ({ r with nextOmIdx := found.1 }, found.2)

/-- The registry after the call and its result. -/
def updateKeepalive (groupId idInGroup : UInt8) (now : Nat) : ComponentRegistry × Bool :=
  match r.clientIdByComponentId.lookup (groupId, idInGroup) with
  | none => (r, false)
  | some clientId =>
    match r.findByClientId clientId with
    | none => (r, false)
    | some info =>
      ({ r with registryByClientId := insertKey r.registryByClientId clientId { info with lastSeen := now } }, true)

end ComponentRegistry

/-! ## The service -/

/-- An address as `inet_ntoa` writes it. -/
structure Ipv4 where
  a : UInt8
  b : UInt8
  c : UInt8
  d : UInt8
  deriving DecidableEq, Repr

def Ipv4.ntoa (ip : Ipv4) : String :=
  ".".intercalate [toString ip.a.toNat, toString ip.b.toNat, toString ip.c.toNat, toString ip.d.toNat]

/-- What the surroundings decide while a message is handled. -/
structure ServiceEnv where
  now : Nat
  /-- The `connectionTargetId` of a response in which no branch sets it. -/
  uninitialized : UInt16 := 0
  deriving DecidableEq, Repr

structure DiscoveryService where
  p2pMode : Bool
  registry : ComponentRegistry := {}
  globalConfiguration : Option String := none
  clientIpAddresses : List (Nat × String) := []
  shuttingDown : Bool := false
  sent : List (Nat × Message) := []
  deriving DecidableEq

namespace DiscoveryService

variable (s : DiscoveryService)

def init (p2pMode : Bool) : DiscoveryService := { p2pMode := p2pMode }

def sendResponse (clientId : Nat) (message : Message) : DiscoveryService :=
  { s with sent := s.sent ++ [(clientId, message)] }

/-- `KEEPALIVE_TIMEOUT`, in nanoseconds. -/
def keepaliveTimeout : Nat := 15000000000

/-! ### Registration -/

/-- The response before any branch has written to it; every branch that sends it sets the code. -/
def newResponse (env : ServiceEnv) (req : RegistrationRequest) : RegistrationResponse where
  responseCode := .success
  assignedGroupId := req.groupId
  assignedIdInGroup := req.idInGroup
  connectionTargetType := ""
  connectionTargetAddress := ""
  connectionTargetPort := ""
  connectionTargetId := env.uninitialized
  configJson := ""
  detectedClientAddress := ""
  humanReadableMessage := ""

def sendRegistration (clientId : Nat) (resp : RegistrationResponse) : DiscoveryService :=
  s.sendResponse clientId (.registrationResponse resp)

/-- The response with the address the transport has seen, where it has seen one. -/
def detect (clientId : Nat) (resp : RegistrationResponse) : RegistrationResponse :=
  match s.clientIpAddresses.lookup clientId with
  | some ip => { resp with detectedClientAddress := ip }
  | none => resp

/-- The connection info of a Bridge or an OM in a response. -/
def withTarget (resp : RegistrationResponse) (target : ComponentInfo) : RegistrationResponse :=
  { resp with
    connectionTargetType := componentTypeToString target.componentType
    connectionTargetAddress := target.listenAddress
    connectionTargetPort := toString target.listenPort.toNat
    connectionTargetId := UInt16.ofNat (target.groupId.toNat * 256 + target.idInGroup.toNat) }

/-- The common end of `handleRegistration`: the id, the port, the registry. -/
def registerCommon (env : ServiceEnv) (clientId : Nat) (req : RegistrationRequest) (resp : RegistrationResponse) :
    DiscoveryService :=
  if s.registry.isIdTaken req.groupId req.idInGroup then
    s.sendRegistration clientId
      (s.detect clientId
        { resp with responseCode := .idConflict, humanReadableMessage := "Component ID is already in use." })
  else
    match stoi req.listenPort.toList with
    | none =>
      s.sendRegistration clientId
        { resp with responseCode := .invalidRequest, humanReadableMessage := "Invalid listen port format." }
    | some port =>
      let info : ComponentInfo := {
        clientId := clientId
        componentType := req.componentType
        groupId := req.groupId
        idInGroup := req.idInGroup
        name := req.componentName
        listenAddress := (s.clientIpAddresses.lookup clientId).getD req.listenAddress
        listenPort := UInt16.ofInt port
        lastSeen := env.now }
      let detected := { resp with detectedClientAddress := (s.clientIpAddresses.lookup clientId).getD "unknown" }
      match s.registry.registerComponent info with
      | some registry =>
        { s with registry := registry }.sendRegistration clientId
          { detected with
            responseCode := .success
            configJson := s.globalConfiguration.getD ""
            humanReadableMessage := "Registration successful." }
      | none =>
        s.sendRegistration clientId
          { detected with
            responseCode := .generalError
            humanReadableMessage := "An internal server error occurred during registration." }

/-- The branch of the matchmaking mode. -/
def handleP2pRegistration (env : ServiceEnv) (clientId : Nat) (req : RegistrationRequest) : DiscoveryService :=
  let resp := newResponse env req
  match req.componentType with
  | .vehicle =>
    let peer := s.registry.getAllComponents.find? fun comp =>
      comp.componentType = .mec ∧ comp.groupId = req.groupId ∧ comp.idInGroup = req.idInGroup
    match peer with
    | some comp =>
      s.sendRegistration clientId
        { resp with
          responseCode := .success
          connectionTargetType := "MEC"
          connectionTargetAddress := comp.listenAddress
          connectionTargetPort := toString comp.listenPort.toNat
          humanReadableMessage := "P2P Match found." }
    | none =>
      s.sendRegistration clientId
        (s.detect clientId
          { resp with responseCode := .wait, humanReadableMessage := "Waiting for peer MEC to register." })
  | .mec =>
    s.registerCommon env clientId req
      { resp with responseCode := .success, humanReadableMessage := "MEC registered in P2P mode." }
  | _ =>
    s.sendRegistration clientId
      { resp with
        responseCode := .invalidRequest, humanReadableMessage := "Only VHC and MEC allowed in P2P mode." }

/-- The part of the networked branch behind the configuration: the id, then the component to connect to. -/
def handleTarget (env : ServiceEnv) (clientId : Nat) (req : RegistrationRequest) : DiscoveryService :=
  let resp := newResponse env req
  if s.registry.isIdTaken req.groupId req.idInGroup then
    s.sendRegistration clientId
      { resp with responseCode := .idConflict, humanReadableMessage := "Component ID is already in use." }
  else
    match req.componentType with
    | .vehicle | .mec =>
      let found := s.registry.findAvailableBridge
      let s' := { s with registry := found.1 }
      match found.2 with
      | none =>
        s'.sendRegistration clientId
          { resp with
            responseCode := .wait, humanReadableMessage := "No Bridge component is currently available." }
      | some bridge => s'.registerCommon env clientId req (withTarget resp bridge)
    | .bridge =>
      let found := s.registry.findAvailableOm
      let s' := { s with registry := found.1 }
      match found.2 with
      | none =>
        s'.sendRegistration clientId
          { resp with
            responseCode := .wait, humanReadableMessage := "No Offloading Manager is currently available." }
      | some om => s'.registerCommon env clientId req (withTarget resp om)
    | _ => s.registerCommon env clientId req resp

def handleRegistration (env : ServiceEnv) (clientId : Nat) (req : RegistrationRequest) : DiscoveryService :=
  if s.p2pMode then s.handleP2pRegistration env clientId req
  else if req.componentType = .offloadManager then
    -- the configuration is replaced before the id is checked
    { s with globalConfiguration := some req.humanReadableMessage }.handleTarget env clientId req
  else if s.globalConfiguration.isNone then
    s.sendRegistration clientId
      { newResponse env req with
        responseCode := .wait
        humanReadableMessage := "Waiting for system configuration from Offloading Manager." }
  else s.handleTarget env clientId req

/-! ### Keepalives and queries -/

/-- `ss >> n` for an `int`. -/
def extractInt (cs : List Char) : Option (Int × List Char) :=
  let (sign, rest) := takeSign (cs.dropWhile isSpace)
  let ds := rest.takeWhile Char.isDigit
  if ds = [] then none
  else
    let n := sign * digitsValue ds
    if -(2 ^ 31) ≤ n ∧ n < 2 ^ 31 then some (n, rest.dropWhile Char.isDigit) else none

/-- `ss >> group_id >> dot >> id_in_group` with the dot checked. -/
def parseComponentId (componentId : String) : Option (Int × Int) :=
  match extractInt componentId.toList with
  | none => none
  | some (groupId, rest) =>
    match rest.dropWhile isSpace with
    | [] => none
    | dot :: rest =>
      match extractInt rest with
      | none => none
      | some (idInGroup, _) => if dot = '.' then some (groupId, idInGroup) else none

example : parseComponentId " 1 .2x" = some (1, 2) := by decide

def handleKeepalive (env : ServiceEnv) (clientId : Nat) (ping : KeepalivePing) : DiscoveryService :=
  match parseComponentId ping.componentId with
  | none => s
  | some (groupId, idInGroup) =>
    let updated := s.registry.updateKeepalive (UInt8.ofInt groupId) (UInt8.ofInt idInGroup) env.now
    if updated.2 then
      { s with registry := updated.1 }.sendResponse clientId
        (.keepaliveResponse
          { response := "OK", nextIntervalMs := 5000, humanReadableMessage := "Keepalive acknowledged." })
    else s

def formatComponent (component : ComponentInfo) : String :=
  ":".intercalate
    [componentTypeToString component.componentType, toString component.groupId.toNat,
      toString component.idInGroup.toNat, toString component.componentSubtype.toNat]

def handleComponentQuery (clientId : Nat) (query : ComponentQuery) : DiscoveryService :=
  if query.componentTypeFilter = "ALL" ∨ query.componentTypeFilter = "" then
    s.sendResponse clientId
      (.componentList {
        componentCount := 0
        componentDataList := []
        humanReadableMessage := "Invalid filter: only single component types allowed (V, M, B, O, T)" })
  else
    let targetType := stringToComponentType query.componentTypeFilter
    let filtered := s.registry.getAllComponents.filter fun component => component.componentType = targetType
    s.sendResponse clientId
      (.componentList {
        componentCount := UInt32.ofNat filtered.length
        componentDataList := filtered.map formatComponent
        humanReadableMessage := "Component query successful" })

/-! ### Callbacks -/

def onDataReceived (env : ServiceEnv) (clientId : Nat) (data : List Char) : DiscoveryService :=
  match decodeMessage (String.ofList data) with
  | .error _ =>
    s.sendResponse clientId
      (.error { errorCode := .protocol, humanReadableMessage := "Malformed or invalid message received." })
  | .ok (.registrationRequest req) => s.handleRegistration env clientId req
  | .ok (.keepalivePing ping) => s.handleKeepalive env clientId ping
  | .ok (.componentQuery query) => s.handleComponentQuery clientId query
  | .ok _ => s

/-- The size of the buffer of the data callback. -/
def bufferSize : Nat := 1024

def onClientConnected (clientId : Nat) (ip : Ipv4) : DiscoveryService :=
  { s with clientIpAddresses := insertKey s.clientIpAddresses clientId ip.ntoa }

/-- `stop`: the transport disconnects its clients, and the callback unregisters each of them. -/
def stop : DiscoveryService :=
  { s with
    shuttingDown := true
    clientIpAddresses := []
    registry := (s.clientIpAddresses.map Prod.fst).foldl ComponentRegistry.unregisterComponent s.registry }

def onClientDisconnected (clientId : Nat) : DiscoveryService :=
  let s' := { s with clientIpAddresses := eraseKey s.clientIpAddresses clientId }
  match s.registry.findByClientId clientId with
  | none => s'
  | some component =>
    let s'' := { s' with registry := s.registry.unregisterComponent clientId }
    if !s.p2pMode ∧ component.componentType = .offloadManager ∧ !s.shuttingDown then s''.stop else s''

/-- One client of `purgeStaleClients`: `disconnect_client` calls back only for a client the transport has. -/
def purgeClient (now : Nat) (s : DiscoveryService) (clientId : Nat) : DiscoveryService :=
  match s.registry.findByClientId clientId with
  | none => s
  | some component =>
    if component.lastSeen + keepaliveTimeout < now ∧ (s.clientIpAddresses.lookup clientId).isSome then
      s.onClientDisconnected clientId
    else s

def purgeStaleClients (now : Nat) : DiscoveryService := s.registry.getAllClientIds.foldl (purgeClient now) s

end DiscoveryService

/-! ## Runs -/

/-- What the transport and the main loop call. -/
inductive ServiceEvent where
  | connected (clientId : Nat) (ip : Ipv4)
  | disconnected (clientId : Nat)
  /-- The socket of a client is readable and holds the bytes `available`. -/
  | data (clientId : Nat) (available : List Char) (env : ServiceEnv)
  | purge (now : Nat)
  deriving DecidableEq, Repr

/-- The main loop ends with the shutdown. Data is read from clients that the transport has, up to the buffer size. -/
def DiscoveryService.step (s : DiscoveryService) (e : ServiceEvent) : DiscoveryService :=
  if s.shuttingDown then s
  else
    match e with
    | .connected clientId ip => s.onClientConnected clientId ip
    | .disconnected clientId => s.onClientDisconnected clientId
    | .data clientId available env =>
      let received := available.take DiscoveryService.bufferSize
      if (s.clientIpAddresses.lookup clientId).isSome ∧ received ≠ [] then s.onDataReceived env clientId received
      else s
    | .purge now => s.purgeStaleClients now

/-! ## What the callbacks come to -/

namespace DiscoveryService

theorem foldl_purgeClient {P : DiscoveryService → Prop} (hdisconnect : ∀ s c, P s → P (s.onClientDisconnected c))
    (now : Nat) (ids : List Nat) {s : DiscoveryService} (h : P s) : P (ids.foldl (purgeClient now) s) := by
  induction ids generalizing s with
  | nil => exact h
  | cons c ids ih =>
      apply ih
      unfold purgeClient
      split
      · exact h
      · split
        · exact hdisconnect s c h
        · exact h

theorem handleKeepalive_cases (s : DiscoveryService) (env : ServiceEnv) (c : Nat) (ping : KeepalivePing) :
    s.handleKeepalive env c ping = s ∨
      ∃ groupId idInGroup pong, s.handleKeepalive env c ping =
        { s with registry := (s.registry.updateKeepalive groupId idInGroup env.now).1 }.sendResponse c
          (.keepaliveResponse pong) := by
  unfold handleKeepalive
  split
  · exact .inl rfl
  · dsimp only
    split
    · exact .inr ⟨_, _, _, rfl⟩
    · exact .inl rfl

theorem onDataReceived_cases (s : DiscoveryService) (env : ServiceEnv) (c : Nat) (data : List Char) :
    (∃ m, (∀ r, m ≠ .registrationResponse r) ∧ s.onDataReceived env c data = s.sendResponse c m) ∨
      (∃ req, decodeMessage (String.ofList data) = .ok (.registrationRequest req) ∧
        s.onDataReceived env c data = s.handleRegistration env c req) ∨
      (∃ ping, decodeMessage (String.ofList data) = .ok (.keepalivePing ping) ∧
        s.onDataReceived env c data = s.handleKeepalive env c ping) ∨
      s.onDataReceived env c data = s := by
  unfold onDataReceived
  split
  · exact .inl ⟨_, fun r => (by simp), rfl⟩
  · rename_i req hdecode
    exact .inr (.inl ⟨req, hdecode, rfl⟩)
  · rename_i ping hdecode
    exact .inr (.inr (.inl ⟨ping, hdecode, rfl⟩))
  · unfold handleComponentQuery
    split
    · exact .inl ⟨_, fun r => (by simp), rfl⟩
    · exact .inl ⟨_, fun r => (by simp), rfl⟩
  · exact .inr (.inr (.inr rfl))

end DiscoveryService

end EdgeOffloading.Discovery
