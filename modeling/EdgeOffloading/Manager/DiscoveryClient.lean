import EdgeOffloading.Manager.Decision
import Mathlib.Data.Finset.Basic

/-!
# The discovery client of the Offloading Manager

After the registration two threads use one socket: the keepalive thread sends a ping and waits for the answer, the query
thread asks for the MECs and then for the vehicles and waits for each list. Neither takes a lock around a request and
its answer. Each function here is what a thread does between two blocking calls; all texts are ASCII, so a character is
a byte.

The callback for changed resources is left out here.
-/

namespace EdgeOffloading

/-- `str.strip`. -/
def pyStrip (cs : List Char) : List Char := stripBy isPySpace cs

/-- The types that the query thread asks for. -/
inductive QueryType where
  | mec
  | vehicle
  deriving DecidableEq, Repr

def QueryType.letter : QueryType → String
  | .mec => "M"
  | .vehicle => "V"

inductive DiscoveryRequest where
  | ping
  | query (type : QueryType)
  deriving DecidableEq, Repr

/-- The text that is sent; the OM is the component 1.1. -/
def DiscoveryRequest.text : DiscoveryRequest → String
  | .ping => "DISC:PNG;1.1;OK;Keepalive from OM"
  | .query type => "DISC:QRY;" ++ type.letter ++ ";Query for " ++ type.letter ++ " components from OM"

/-- What `recv` does: it returns bytes, runs into its timeout, finds the connection closed, or fails. -/
inductive DiscoveryReceive where
  | data (bytes : List Char)
  | timeout
  | closed
  | failed
  deriving DecidableEq, Repr

inductive KeepalivePoint where
  | sending
  | receiving
  | stopped
  deriving DecidableEq, Repr

inductive QueryPoint where
  | sending (type : QueryType)
  | receiving (type : QueryType)
  | stopped
  deriving DecidableEq, Repr

/-- A component as the OM reads it off a list. -/
structure DiscoveredComponent where
  componentType : String
  groupId : Int
  idInGroup : Int
  componentSubtype : Int
  componentId : String
  deriving DecidableEq, Repr

/-- `ComponentInfo.from_discovery_data`; `none` where it raises. -/
def DiscoveredComponent.fromDiscoveryData (data : List Char) : Option DiscoveredComponent :=
  match data.splitOn ':' with
  | [type, group, id, subtype] =>
    match pyInt (String.ofList group), pyInt (String.ofList id), pyInt (String.ofList subtype) with
    | some groupId, some idInGroup, some componentSubtype =>
      some ⟨String.ofList type, groupId, idInGroup, componentSubtype, toString groupId ++ ":" ++ toString idInGroup⟩
    | _, _, _ => none
  | _ => none

def parseQueryResponse (response : List Char) : List DiscoveredComponent :=
  if !"DISC:LST;".toList.isPrefixOf response then []
  else
    match response.splitOn ';' with
    | _ :: count :: parts =>
      match pyInt (String.ofList count) with
      | none => []
      | some componentCount =>
        -- an entry that is empty or does not parse is skipped
        (parts.take componentCount.toNat).filterMap fun data =>
          if data = [] then none else DiscoveredComponent.fromDiscoveryData data
    | _ => []

/-- What the client keeps of the response to its registration. -/
structure RegistrationState where
  registered : Bool := false
  detectedIp : Option String := none
  deriving DecidableEq, Repr

/-- `_parse_registration_response`; the result is whether the client is registered. -/
def RegistrationState.parseRegistrationResponse (s : RegistrationState) (response : List Char) :
    RegistrationState × Bool :=
  let parts := (pyStrip response).splitOn ';'
  if parts.length < 3 then (s, false)
  else if !"DISC:ACK".toList.isPrefixOf response then (s, false)
  else
    match pyInt (String.ofList (parts.getD 1 [])) with
    | none => (s, false)
    | some responseCode =>
      -- the other codes are only logged
      if responseCode = 0 then
        ({ registered := true
           detectedIp := if 10 ≤ parts.length then some (String.ofList (parts.getD 8 [])) else s.detectedIp }, true)
      else (s, false)

/-- The client once its threads are started. -/
structure DiscoveryClient where
  connected : Bool := true
  registered : Bool := true
  shutdownEvent : Bool := false
  consecutiveFailures : Nat := 0
  keepalive : KeepalivePoint := .sending
  query : QueryPoint := .sending .mec
  discoveredMecs : Finset String := ∅
  discoveredVhcs : Finset String := ∅
  deriving DecidableEq

namespace DiscoveryClient

variable (c : DiscoveryClient)

/-- `DISCOVERY_KEEPALIVE_MAX_FAILURES`. -/
def keepaliveMaxFailures : Nat := 3

/-- `_receive_message`; an error is an exception. -/
def receiveMessage : DiscoveryReceive → Except Unit (Option (List Char))
  | .data bytes => if !c.connected then .error () else .ok (if bytes = [] then none else some (pyStrip bytes))
  | .timeout => if !c.connected then .error () else .ok none
  | .closed => if !c.connected then .error () else .ok none
  | .failed => .error ()

/-! ## The keepalive thread -/

/-- The loop is left. -/
def stopKeepalive : DiscoveryClient := { c with keepalive := .stopped, connected := false, registered := false }

/-- Both failure branches of the loop. -/
def keepaliveFailed : DiscoveryClient :=
  let c := { c with consecutiveFailures := c.consecutiveFailures + 1, keepalive := .sending }
  if keepaliveMaxFailures ≤ c.consecutiveFailures then { c with shutdownEvent := true }.stopKeepalive else c

/-- The head of the loop and the ping; whether it goes out. -/
def keepaliveSend (success : Bool) : DiscoveryClient × Bool :=
  match c.keepalive with
  | .sending =>
    if c.shutdownEvent || !c.connected then (c.stopKeepalive, false)
    else if success then ({ c with keepalive := .receiving }, true)
    else (c.keepaliveFailed, false)
  | _ => (c, false)

def isKeepaliveAnswer (response : List Char) : Bool := "DISC:PON;OK;".toList.isPrefixOf response

def keepaliveReceive (result : DiscoveryReceive) : DiscoveryClient :=
  match c.keepalive with
  | .receiving =>
    match c.receiveMessage result with
    | .ok (some response) =>
      if isKeepaliveAnswer response then { c with consecutiveFailures := 0, keepalive := .sending }
      else c.keepaliveFailed
    | _ => c.keepaliveFailed
  | _ => c

/-! ## The query thread -/

/-- From the query for one type on to the next. -/
def nextQuery : QueryType → DiscoveryClient
  | .mec => { c with query := .sending .vehicle }
  | .vehicle => { c with query := .sending .mec }

/-- The head of the loop, which is checked before the first query only, and the query. -/
def querySend (success : Bool) : DiscoveryClient × Bool :=
  match c.query with
  | .sending type =>
    if type = .mec ∧ (c.shutdownEvent || !c.connected) then ({ c with query := .stopped }, false)
    else if success && c.connected then ({ c with query := .receiving type }, true)
    else (c.nextQuery type, false)
  | _ => (c, false)

/-- The ids of the components of one type. -/
def idsOf (type : QueryType) (components : List DiscoveredComponent) : Finset String :=
  ((components.filter fun component => component.componentType = type.letter).map
    DiscoveredComponent.componentId).toFinset

def updateComponents (components : List DiscoveredComponent) : QueryType → DiscoveryClient
  | .mec => { c with discoveredMecs := idsOf .mec components }
  | .vehicle => { c with discoveredVhcs := idsOf .vehicle components }

def queryReceive (result : DiscoveryReceive) : DiscoveryClient :=
  match c.query with
  | .receiving type =>
    match c.receiveMessage result with
    | .ok (some response) =>
      if response = [] then c.nextQuery type
      else (c.updateComponents (parseQueryResponse response) type).nextQuery type
    | _ => c.nextQuery type
  | _ => c

/-- `disconnect`, called by the main thread. -/
def disconnect : DiscoveryClient := { c with connected := false, registered := false }

/-! ## What the functions change -/

/-- A step that leaves the other thread and the MECs alone and makes no thread wait for a reply. -/
structure Settles (c c' : DiscoveryClient) : Prop where
  keepalive : c'.keepalive = .receiving → c.keepalive = .receiving
  query : ∀ type, c'.query = .receiving type → c.query = .receiving type
  mecs : c'.discoveredMecs = c.discoveredMecs

theorem settles_refl : Settles c c := ⟨id, fun _ => id, rfl⟩

theorem settles_keepaliveFailed : Settles c c.keepaliveFailed := by
  unfold keepaliveFailed
  dsimp only
  split_ifs
  · exact ⟨fun h => absurd h (by simp [stopKeepalive]), fun _ => id, rfl⟩
  · exact ⟨fun h => absurd h (by simp), fun _ => id, rfl⟩

theorem settles_nextQuery (type : QueryType) : Settles c (c.nextQuery type) := by
  cases type with
  | mec => exact ⟨id, fun _ h => absurd h (by simp [nextQuery]), rfl⟩
  | vehicle => exact ⟨id, fun _ h => absurd h (by simp [nextQuery]), rfl⟩

theorem keepaliveSend_true {success : Bool} (h : (c.keepaliveSend success).2 = true) :
    c.keepalive = .sending ∧ (c.keepaliveSend success).1 = { c with keepalive := .receiving } := by
  unfold keepaliveSend at h ⊢
  cases hk : c.keepalive with
  | sending =>
      rw [hk] at h
      dsimp only at h ⊢
      split_ifs at h ⊢
      exact ⟨rfl, rfl⟩
  | receiving => rw [hk] at h; cases h
  | stopped => rw [hk] at h; cases h

theorem settles_keepaliveSend {success : Bool} (h : (c.keepaliveSend success).2 = false) :
    Settles c (c.keepaliveSend success).1 := by
  unfold keepaliveSend at h ⊢
  cases hk : c.keepalive with
  | sending =>
      rw [hk] at h
      dsimp only at h ⊢
      split_ifs at h ⊢
      · exact ⟨fun h => absurd h (by simp [stopKeepalive]), fun _ => id, rfl⟩
      · exact c.settles_keepaliveFailed
  | receiving => exact c.settles_refl
  | stopped => exact c.settles_refl

theorem querySend_true {success : Bool} (h : (c.querySend success).2 = true) :
    ∃ type, c.query = .sending type ∧ (c.querySend success).1 = { c with query := .receiving type } := by
  unfold querySend at h ⊢
  cases hq : c.query with
  | sending type =>
      rw [hq] at h
      dsimp only at h ⊢
      split_ifs at h ⊢
      exact ⟨type, rfl, rfl⟩
  | receiving type => rw [hq] at h; cases h
  | stopped => rw [hq] at h; cases h

theorem settles_querySend {success : Bool} (h : (c.querySend success).2 = false) :
    Settles c (c.querySend success).1 := by
  unfold querySend at h ⊢
  cases hq : c.query with
  | sending type =>
      rw [hq] at h
      dsimp only at h ⊢
      split_ifs at h ⊢
      · exact ⟨id, fun _ h => absurd h (by simp), rfl⟩
      · exact c.settles_nextQuery type
  | receiving type => exact c.settles_refl
  | stopped => exact c.settles_refl

theorem keepaliveReceive_of_no_data {result : DiscoveryReceive} (hk : c.keepalive = .receiving)
    (hr : ∀ bytes, result ≠ .data bytes) : c.keepaliveReceive result = c.keepaliveFailed := by
  unfold keepaliveReceive
  rw [hk]
  cases result with
  | data bytes => exact absurd rfl (hr bytes)
  | timeout => cases hc : c.connected <;> simp [receiveMessage, hc]
  | closed => cases hc : c.connected <;> simp [receiveMessage, hc]
  | failed => rfl

theorem queryReceive_of_no_data {result : DiscoveryReceive} {type : QueryType} (hq : c.query = .receiving type)
    (hr : ∀ bytes, result ≠ .data bytes) : c.queryReceive result = c.nextQuery type := by
  unfold queryReceive
  rw [hq]
  cases result with
  | data bytes => exact absurd rfl (hr bytes)
  | timeout => cases hc : c.connected <;> simp [receiveMessage, hc]
  | closed => cases hc : c.connected <;> simp [receiveMessage, hc]
  | failed => rfl

theorem keepaliveReceive_of_answer {bytes : List Char} (hk : c.keepalive = .receiving) (hc : c.connected = true)
    (hne : bytes ≠ []) (ha : isKeepaliveAnswer (pyStrip bytes) = true) :
    c.keepaliveReceive (.data bytes) = { c with consecutiveFailures := 0, keepalive := .sending } := by
  simp [keepaliveReceive, hk, receiveMessage, hc, hne, ha]

theorem queryReceive_of_data {bytes : List Char} {type : QueryType} (hq : c.query = .receiving type)
    (hc : c.connected = true) (hne : bytes ≠ []) (hne' : pyStrip bytes ≠ []) :
    c.queryReceive (.data bytes) = (c.updateComponents (parseQueryResponse (pyStrip bytes)) type).nextQuery type := by
  simp [queryReceive, hq, receiveMessage, hc, hne, hne']

end DiscoveryClient

end EdgeOffloading
