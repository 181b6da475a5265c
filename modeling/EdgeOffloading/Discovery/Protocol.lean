import EdgeOffloading.Cpp.Text
import EdgeOffloading.Lib.Fields

/-!
# The discovery protocol

The codec of `discovery_protocol`: seven kinds of message, each one line of fields with `';'` between them. A
`std::string` is a `String` with one `Char` for each `char`; an enumeration that a decoder makes with a `static_cast`
also has its undeclared values.

* `splitString_law`: how `split_string` and joining undo each other;
* `parseComponentData_formatComponentData`: the entries of a component list are read back;
* `decodeMessage_stringFields`: what the decoder accepts has no separator in any string;
* `decodeMessage_encodeMessage`: lines of separator-free fields with a last field that is not empty are read back;
* `decodeMessage_encodeMessage_iff`: and no other line is read back as the message it was made of.
-/

namespace EdgeOffloading.Discovery

open Fields

/-- The results of a decoder other than `OK`. -/
inductive ProtocolStatus where
  | invalidMessageType
  | malformedMessage
  | invalidFormat
  deriving DecidableEq, Repr

inductive ComponentType where
  | vehicle
  | mec
  | bridge
  | offloadManager
  | test
  deriving DecidableEq, Repr

inductive IdRequestType where
  | automatic
  | static
  deriving DecidableEq, Repr

inductive ResponseCode where
  | success
  | wait
  | idConflict
  | invalidRequest
  | generalError
  | undeclared (value : Int)
  deriving DecidableEq, Repr

inductive ErrorCode where
  | configuration
  | network
  | internal
  | protocol
  | undeclared (value : Int)
  deriving DecidableEq, Repr

structure RegistrationRequest where
  componentType : ComponentType
  idRequestType : IdRequestType
  groupId : UInt8
  idInGroup : UInt8
  componentName : String
  listenAddress : String
  listenPort : String
  humanReadableMessage : String
  deriving DecidableEq, Repr

structure RegistrationResponse where
  responseCode : ResponseCode
  assignedGroupId : UInt8
  assignedIdInGroup : UInt8
  connectionTargetType : String
  connectionTargetAddress : String
  connectionTargetPort : String
  connectionTargetId : UInt16
  configJson : String
  detectedClientAddress : String
  humanReadableMessage : String
  deriving DecidableEq, Repr

structure KeepalivePing where
  componentId : String
  status : String
  humanReadableMessage : String
  deriving DecidableEq, Repr

structure KeepaliveResponse where
  response : String
  nextIntervalMs : Int32
  humanReadableMessage : String
  deriving DecidableEq

structure ErrorMessage where
  errorCode : ErrorCode
  humanReadableMessage : String
  deriving DecidableEq, Repr

structure ComponentQuery where
  componentTypeFilter : String
  humanReadableMessage : String
  deriving DecidableEq, Repr

structure ComponentListResponse where
  componentCount : UInt32
  componentDataList : List String
  humanReadableMessage : String
  deriving DecidableEq, Repr

inductive Message where
  | registrationRequest (req : RegistrationRequest)
  | registrationResponse (res : RegistrationResponse)
  | error (err : ErrorMessage)
  | keepalivePing (ping : KeepalivePing)
  | keepaliveResponse (pong : KeepaliveResponse)
  | componentQuery (query : ComponentQuery)
  | componentList (list : ComponentListResponse)
  deriving DecidableEq

/-! ## Enumerations -/

def componentTypeToString : ComponentType → String
  | .vehicle => "V"
  | .mec => "M"
  | .bridge => "B"
  | .offloadManager => "O"
  | .test => "T"

def stringToComponentType (str : String) : ComponentType :=
  if str = "V" then .vehicle
  else if str = "M" then .mec
  else if str = "B" then .bridge
  else if str = "O" then .offloadManager
  else .test

/-- `static_cast<int>` of a response code. -/
def ResponseCode.toInt : ResponseCode → Int
  | .success => 0
  | .wait => 1
  | .idConflict => 2
  | .invalidRequest => 3
  | .generalError => 4
  | .undeclared value => value

/-- `static_cast<ResponseCode>` of an `int`. -/
def ResponseCode.ofInt : Int → ResponseCode
  | 0 => .success
  | 1 => .wait
  | 2 => .idConflict
  | 3 => .invalidRequest
  | 4 => .generalError
  | value => .undeclared value

def ErrorCode.toInt : ErrorCode → Int
  | .configuration => 0
  | .network => 1
  | .internal => 2
  | .protocol => 3
  | .undeclared value => value

def ErrorCode.ofInt : Int → ErrorCode
  | 0 => .configuration
  | 1 => .network
  | 2 => .internal
  | 3 => .protocol
  | value => .undeclared value

/-- The code is one of the declared enumerators. -/
def ResponseCode.Declared : ResponseCode → Prop
  | .undeclared _ => False
  | _ => True

def ErrorCode.Declared : ErrorCode → Prop
  | .undeclared _ => False
  | _ => True

/-- The enumerations of the message have declared values. -/
def Message.Declared : Message → Prop
  | .registrationResponse res => res.responseCode.Declared
  | .error err => err.errorCode.Declared
  | _ => True

/-! ## Lines -/

/-- `split_string`: the loop of `std::getline` over a string stream. -/
def splitString (str : String) (delimiter : Char) : List String :=
  (fields delimiter str.toList).map String.ofList

/-- `std::stoi` in a decoder: its exceptions become a status. -/
def readInt (str : String) : Except ProtocolStatus Int :=
  match stoi str.toList with
  | some n => .ok n
  | none => .error .invalidFormat

def encodeRegistrationRequest (request : RegistrationRequest) : String :=
  ";".intercalate
    ["DISC:REG", componentTypeToString request.componentType,
      if request.idRequestType = .automatic then "A" else "S", toString request.groupId.toNat,
      toString request.idInGroup.toNat, request.componentName, request.listenAddress, request.listenPort,
      request.humanReadableMessage]

def decodeRegistrationRequest (input : String) : Except ProtocolStatus RegistrationRequest :=
  match splitString input ';' with
  | [_, type, idType, group, id, name, address, port, text] => do
      let groupId ← readInt group
      let idInGroup ← readInt id
      return {
        componentType := stringToComponentType type
        idRequestType := if idType = "A" then .automatic else .static
        groupId := UInt8.ofInt groupId
        idInGroup := UInt8.ofInt idInGroup
        componentName := name
        listenAddress := address
        listenPort := port
        humanReadableMessage := text }
  | _ => .error .malformedMessage

def encodeRegistrationResponse (response : RegistrationResponse) : String :=
  ";".intercalate
    ["DISC:ACK", toString response.responseCode.toInt, toString response.assignedGroupId.toNat,
      toString response.assignedIdInGroup.toNat, response.connectionTargetType, response.connectionTargetAddress,
      response.connectionTargetPort, toString response.connectionTargetId.toNat, response.configJson,
      response.detectedClientAddress, response.humanReadableMessage]

def decodeRegistrationResponse (input : String) : Except ProtocolStatus RegistrationResponse :=
  match splitString input ';' with
  | [_, code, group, id, type, address, port, target, config, client, text] => do
      let responseCode ← readInt code
      let assignedGroupId ← readInt group
      let assignedIdInGroup ← readInt id
      let connectionTargetId ← readInt target
      return {
        responseCode := .ofInt responseCode
        assignedGroupId := UInt8.ofInt assignedGroupId
        assignedIdInGroup := UInt8.ofInt assignedIdInGroup
        connectionTargetType := type
        connectionTargetAddress := address
        connectionTargetPort := port
        connectionTargetId := UInt16.ofInt connectionTargetId
        configJson := config
        detectedClientAddress := client
        humanReadableMessage := text }
  | _ => .error .malformedMessage

def encodeKeepalivePing (ping : KeepalivePing) : String :=
  ";".intercalate ["DISC:PNG", ping.componentId, ping.status, ping.humanReadableMessage]

def decodeKeepalivePing (input : String) : Except ProtocolStatus KeepalivePing :=
  match splitString input ';' with
  | [_, id, status, text] => .ok { componentId := id, status := status, humanReadableMessage := text }
  | _ => .error .malformedMessage

def encodeKeepaliveResponse (response : KeepaliveResponse) : String :=
  ";".intercalate
    ["DISC:PON", response.response, toString response.nextIntervalMs.toInt, response.humanReadableMessage]

def decodeKeepaliveResponse (input : String) : Except ProtocolStatus KeepaliveResponse :=
  match splitString input ';' with
  | [_, response, interval, text] => do
      let nextIntervalMs ← readInt interval
      return { response := response, nextIntervalMs := Int32.ofInt nextIntervalMs, humanReadableMessage := text }
  | _ => .error .malformedMessage

def encodeErrorMessage (error : ErrorMessage) : String :=
  ";".intercalate ["DISC:ERR", toString error.errorCode.toInt, error.humanReadableMessage]

def decodeErrorMessage (input : String) : Except ProtocolStatus ErrorMessage :=
  match splitString input ';' with
  | [_, code, text] => do
      let errorCode ← readInt code
      return { errorCode := .ofInt errorCode, humanReadableMessage := text }
  | _ => .error .malformedMessage

def encodeComponentQuery (query : ComponentQuery) : String :=
  ";".intercalate ["DISC:QRY", query.componentTypeFilter, query.humanReadableMessage]

def decodeComponentQuery (input : String) : Except ProtocolStatus ComponentQuery :=
  match splitString input ';' with
  | [_, filter, text] => .ok { componentTypeFilter := filter, humanReadableMessage := text }
  | _ => .error .malformedMessage

def encodeComponentListResponse (response : ComponentListResponse) : String :=
  ";".intercalate
    (["DISC:LST", toString response.componentCount.toNat] ++ response.componentDataList ++
      [response.humanReadableMessage])

/-- The sums `2 + componentCount` and `2 + i` are `uint32_t` in the source. -/
def decodeComponentListResponse (input : String) : Except ProtocolStatus ComponentListResponse :=
  let parts := splitString input ';'
  match parts with
  | _ :: count :: _ :: _ => do
      let n ← readInt count
      let componentCount := UInt32.ofInt n
      if parts.length < (2 + componentCount + 1).toNat then .error .malformedMessage
      else
        return {
          componentCount := componentCount
          -- `push_back(parts[2 + i])` where `2 + i` is an index of `parts`
          componentDataList := (List.range componentCount.toNat).filterMap fun i => parts[(2 + UInt32.ofNat i).toNat]?
          humanReadableMessage := parts.getD (2 + componentCount).toNat "" }
  | _ => .error .malformedMessage

/-! ## Component data -/

/-- What an entry of a component list says about its component. -/
structure ComponentData where
  componentType : String
  groupId : UInt8
  idInGroup : UInt8
  subtype : UInt8 := 0
  deriving DecidableEq, Repr

/-- `std::stoi` of the field of the subtype, which may be missing. -/
def readSubtype : List String → Option Int
  | [] => some 0
  | subtype :: _ => stoi subtype.toList

/-- `uninitialized` are the ids of a `ComponentData` that no branch sets. -/
def parseComponentData (uninitialized : UInt8 × UInt8) (dataStr : String) : ComponentData :=
  match splitString dataStr ':' with
  | type :: group :: id :: rest =>
    match stoi group.toList, stoi id.toList, readSubtype rest with
    | some groupId, some idInGroup, some subtype =>
      { componentType := type
        groupId := UInt8.ofInt groupId
        idInGroup := UInt8.ofInt idInGroup
        subtype := UInt8.ofInt subtype }
    -- an exception of any of the three sets all of them back
    | _, _, _ => { componentType := type, groupId := 0, idInGroup := 0 }
  | _ => { componentType := "", groupId := uninitialized.1, idInGroup := uninitialized.2 }

def formatComponentData (data : ComponentData) : String :=
  ":".intercalate
    [data.componentType, toString data.groupId.toNat, toString data.idInGroup.toNat, toString data.subtype.toNat]

/-! ## Messages -/

def encodeMessage : Message → String
  | .registrationRequest req => encodeRegistrationRequest req
  | .registrationResponse res => encodeRegistrationResponse res
  | .keepalivePing ping => encodeKeepalivePing ping
  | .keepaliveResponse pong => encodeKeepaliveResponse pong
  | .error err => encodeErrorMessage err
  | .componentQuery query => encodeComponentQuery query
  | .componentList list => encodeComponentListResponse list

def decodeMessage (input : String) : Except ProtocolStatus Message :=
  if input.toList.length < 8 ∨ input.toList.take 5 ≠ "DISC:".toList then .error .invalidMessageType
  else
    let msgType := String.ofList ((input.toList.drop 5).take 3)
    if msgType = "REG" then .registrationRequest <$> decodeRegistrationRequest input
    else if msgType = "ACK" then .registrationResponse <$> decodeRegistrationResponse input
    else if msgType = "PNG" then .keepalivePing <$> decodeKeepalivePing input
    else if msgType = "PON" then .keepaliveResponse <$> decodeKeepaliveResponse input
    else if msgType = "ERR" then .error <$> decodeErrorMessage input
    else if msgType = "QRY" then .componentQuery <$> decodeComponentQuery input
    else if msgType = "LST" then .componentList <$> decodeComponentListResponse input
    else .error .invalidMessageType

/-- The last field of every kind of message. -/
def Message.humanReadableMessage : Message → String
  | .registrationRequest req => req.humanReadableMessage
  | .registrationResponse res => res.humanReadableMessage
  | .keepalivePing ping => ping.humanReadableMessage
  | .keepaliveResponse pong => pong.humanReadableMessage
  | .error err => err.humanReadableMessage
  | .componentQuery query => query.humanReadableMessage
  | .componentList list => list.humanReadableMessage

/-- The `std::string` fields of a message. -/
def Message.stringFields : Message → List String
  | .registrationRequest req => [req.componentName, req.listenAddress, req.listenPort, req.humanReadableMessage]
  | .registrationResponse res =>
      [res.connectionTargetType, res.connectionTargetAddress, res.connectionTargetPort, res.configJson,
        res.detectedClientAddress, res.humanReadableMessage]
  | .keepalivePing ping => [ping.componentId, ping.status, ping.humanReadableMessage]
  | .keepaliveResponse pong => [pong.response, pong.humanReadableMessage]
  | .error err => [err.humanReadableMessage]
  | .componentQuery query => [query.componentTypeFilter, query.humanReadableMessage]
  | .componentList list => list.componentDataList ++ [list.humanReadableMessage]

/-! ## Reading lines -/

theorem notMem_of_mem_splitString {str f : String} {d : Char} (h : f ∈ splitString str d) : d ∉ f.toList := by
  obtain ⟨cs, hcs, rfl⟩ := List.mem_map.mp h
  rw [String.toList_ofList]
  exact notMem_of_mem_fields hcs

/-- The characters of a line of fields. -/
theorem toList_line (fs : List String) (l : String) :
    (";".intercalate (fs ++ [l])).toList = [';'].intercalate (fs.map String.toList ++ [l.toList]) := by
  rw [String.toList_intercalate, List.map_append]
  rfl

theorem map_ofList_map_toList (fs : List String) : (fs.map String.toList).map String.ofList = fs := by
  rw [List.map_map]
  exact List.map_id'' (fun f => String.ofList_toList) fs

/-- The characters of joined strings. -/
theorem toList_join (d : Char) (ts : List String) :
    ((String.singleton d).intercalate ts).toList = [d].intercalate (ts.map String.toList) := by
  rw [String.toList_intercalate, String.toList_singleton]

theorem map_toList_splitString (s : String) (d : Char) :
    (splitString s d).map String.toList = fields d s.toList := by
  rw [splitString, List.map_map]
  exact List.map_id'' (fun f => String.toList_ofList) _

/-- The tokens of a join, as lists of characters. -/
theorem splitString_join_eq_iff (d : Char) (ts : List String) :
    splitString ((String.singleton d).intercalate ts) d = ts ↔
      fields d ([d].intercalate (ts.map String.toList)) = ts.map String.toList := by
  rw [← toList_join, ← map_toList_splitString]
  exact (List.map_injective_iff.mpr fun a b h => String.toList_injective h).eq_iff.symm

/-- Which lists of tokens come back from their join. -/
theorem splitString_join_eq_iff_of_free {d : Char} {ts : List String} (hts : ∀ t ∈ ts, d ∉ t.toList) :
    splitString ((String.singleton d).intercalate ts) d = ts ↔ ts = [] ∨ ∃ t, ts.getLast? = some t ∧ t ≠ "" := by
  have hfree : ∀ t ∈ ts.map String.toList, d ∉ t := by
    intro t ht
    obtain ⟨t', ht', rfl⟩ := List.mem_map.mp ht
    exact hts t' ht'
  rw [splitString_join_eq_iff, fields_intercalate_eq_iff hfree, List.map_eq_nil_iff, List.getLast?_map]
  apply or_congr_right
  constructor
  · rintro ⟨l, hl, hne⟩
    obtain ⟨t, ht, rfl⟩ := Option.map_eq_some_iff.mp hl
    exact ⟨t, ht, fun h => hne (String.toList_eq_nil_iff.mpr h)⟩
  · rintro ⟨t, ht, hne⟩
    refine ⟨t.toList, Option.map_eq_some_iff.mpr ⟨t, ht, rfl⟩, ?_⟩
    exact fun h => hne (String.toList_eq_nil_iff.mp h)

/-- **The law of `split_string`.** No token has the delimiter in it. Joined, the tokens are the string, up to a
delimiter at its end. Tokens without the delimiter come back from their join exactly if there are none or the last of
them is not empty. -/
theorem splitString_law (s : String) (d : Char) :
    (∀ t ∈ splitString s d, d ∉ t.toList) ∧
      (String.singleton d).intercalate (splitString s d) =
        (if s.toList.getLast? = some d then String.ofList s.toList.dropLast else s) ∧
      ∀ ts : List String, (∀ t ∈ ts, d ∉ t.toList) →
        (splitString ((String.singleton d).intercalate ts) d = ts ↔
          ts = [] ∨ ∃ t, ts.getLast? = some t ∧ t ≠ "") := by
  refine ⟨fun t ht => notMem_of_mem_splitString ht, ?_, fun ts hts => splitString_join_eq_iff_of_free hts⟩
  apply String.toList_injective
  rw [toList_join, map_toList_splitString, intercalate_fields]
  split
  · rw [String.toList_ofList]
  · rfl

theorem splitString_line {fs : List String} {l : String} (hfs : ∀ f ∈ fs, ';' ∉ f.toList) (hl : ';' ∉ l.toList)
    (hne : l ≠ "") : splitString (";".intercalate (fs ++ [l])) ';' = fs ++ [l] := by
  have hl' : l.toList ≠ [] := fun h => hne (String.toList_eq_nil_iff.mp h)
  have hfs' : ∀ f ∈ fs.map String.toList, ';' ∉ f := by
    intro f hf
    obtain ⟨g, hg, rfl⟩ := List.mem_map.mp hf
    exact hfs g hg
  rw [splitString, toList_line, fields_intercalate hfs' hl hl', List.map_append, map_ofList_map_toList]
  simp

theorem splitString_line_empty {fs : List String} (hfs : ∀ f ∈ fs, ';' ∉ f.toList) :
    splitString (";".intercalate (fs ++ [""])) ';' = fs := by
  have hfs' : ∀ f ∈ fs.map String.toList, ';' ∉ f := by
    intro f hf
    obtain ⟨g, hg, rfl⟩ := List.mem_map.mp hf
    exact hfs g hg
  rw [splitString, toList_line, show "".toList = [] from rfl, fields_intercalate_nil hfs', map_ofList_map_toList]

@[simp] theorem semicolon_notMem_toDigits (n : Nat) : ';' ∉ Nat.toDigits 10 n := fun h =>
  absurd (isDigit_of_mem_toDigits h) (by decide)

@[simp] theorem semicolon_notMem_repr (n : Int) : ';' ∉ n.repr.toList := by
  cases n with
  | ofNat k =>
      rw [show (Int.ofNat k).repr = toString k from rfl, toList_toString]
      exact semicolon_notMem_toDigits k
  | negSucc k =>
      rw [show (Int.negSucc k).repr = "-" ++ toString (k + 1) from rfl, String.toList_append, List.mem_append,
        toList_toString]
      exact not_or.mpr ⟨by decide, semicolon_notMem_toDigits (k + 1)⟩

/-- The eight characters before the first separator choose the decoder. -/
theorem decodeMessage_line (tag : String) (htag : tag.toList.length = 3) {fs : List String} (hfs : fs ≠ []) :
    let s := ";".intercalate (("DISC:" ++ tag) :: fs)
    decodeMessage s =
      if tag = "REG" then .registrationRequest <$> decodeRegistrationRequest s
      else if tag = "ACK" then .registrationResponse <$> decodeRegistrationResponse s
      else if tag = "PNG" then .keepalivePing <$> decodeKeepalivePing s
      else if tag = "PON" then .keepaliveResponse <$> decodeKeepaliveResponse s
      else if tag = "ERR" then .error <$> decodeErrorMessage s
      else if tag = "QRY" then .componentQuery <$> decodeComponentQuery s
      else if tag = "LST" then .componentList <$> decodeComponentListResponse s
      else .error .invalidMessageType := by
  intro s
  have h : s.toList = "DISC:".toList ++ (tag.toList ++ ';' :: (";".intercalate fs).toList) := by
    show (";".intercalate (("DISC:" ++ tag) :: fs)).toList = _
    rw [String.intercalate_cons_of_ne_nil hfs]
    simp [String.toList_append]
  have hlen : ¬ s.toList.length < 8 := by
    rw [h, List.length_append, List.length_append, htag, show "DISC:".toList.length = 5 from rfl]
    omega
  have htake : s.toList.take 5 = "DISC:".toList := by rw [h]; rfl
  have htype : String.ofList ((s.toList.drop 5).take 3) = tag := by
    have hdrop : s.toList.drop 5 = tag.toList ++ ';' :: (";".intercalate fs).toList := by rw [h]; rfl
    rw [hdrop, ← htag, List.take_left, String.ofList_toList]
  rw [decodeMessage, if_neg (not_or.mpr ⟨hlen, not_not.mpr htake⟩), htype]

/-- All the fields of a message's line but the last. -/
def Message.front : Message → List String
  | .registrationRequest req =>
      ["DISC:REG", componentTypeToString req.componentType, if req.idRequestType = .automatic then "A" else "S",
        toString req.groupId.toNat, toString req.idInGroup.toNat, req.componentName, req.listenAddress, req.listenPort]
  | .registrationResponse res =>
      ["DISC:ACK", toString res.responseCode.toInt, toString res.assignedGroupId.toNat,
        toString res.assignedIdInGroup.toNat, res.connectionTargetType, res.connectionTargetAddress,
        res.connectionTargetPort, toString res.connectionTargetId.toNat, res.configJson, res.detectedClientAddress]
  | .keepalivePing ping => ["DISC:PNG", ping.componentId, ping.status]
  | .keepaliveResponse pong => ["DISC:PON", pong.response, toString pong.nextIntervalMs.toInt]
  | .error err => ["DISC:ERR", toString err.errorCode.toInt]
  | .componentQuery query => ["DISC:QRY", query.componentTypeFilter]
  | .componentList list => ["DISC:LST", toString list.componentCount.toNat] ++ list.componentDataList

theorem encodeMessage_eq (m : Message) :
    encodeMessage m = ";".intercalate (m.front ++ [m.humanReadableMessage]) := by
  cases m <;> rfl

/-- Every message goes to the decoder of its kind. -/
theorem decodeMessage_encodeMessage_eq (m : Message) :
    decodeMessage (encodeMessage m) =
      match m with
      | .registrationRequest req => .registrationRequest <$> decodeRegistrationRequest (encodeRegistrationRequest req)
      | .registrationResponse res =>
          .registrationResponse <$> decodeRegistrationResponse (encodeRegistrationResponse res)
      | .keepalivePing ping => .keepalivePing <$> decodeKeepalivePing (encodeKeepalivePing ping)
      | .keepaliveResponse pong => .keepaliveResponse <$> decodeKeepaliveResponse (encodeKeepaliveResponse pong)
      | .error err => .error <$> decodeErrorMessage (encodeErrorMessage err)
      | .componentQuery query => .componentQuery <$> decodeComponentQuery (encodeComponentQuery query)
      | .componentList list => .componentList <$> decodeComponentListResponse (encodeComponentListResponse list) := by
  cases m with
  | registrationRequest req => exact decodeMessage_line "REG" rfl (List.cons_ne_nil _ _)
  | registrationResponse res => exact decodeMessage_line "ACK" rfl (List.cons_ne_nil _ _)
  | keepalivePing ping => exact decodeMessage_line "PNG" rfl (List.cons_ne_nil _ _)
  | keepaliveResponse pong => exact decodeMessage_line "PON" rfl (List.cons_ne_nil _ _)
  | error err => exact decodeMessage_line "ERR" rfl (List.cons_ne_nil _ _)
  | componentQuery query => exact decodeMessage_line "QRY" rfl (List.cons_ne_nil _ _)
  | componentList list => exact decodeMessage_line "LST" rfl (List.cons_ne_nil _ _)

theorem semicolon_notMem_front {m : Message} (hs : ∀ f ∈ m.stringFields, ';' ∉ f.toList) :
    ∀ f ∈ m.front, ';' ∉ f.toList := by
  cases m with
  | registrationRequest req =>
      have htype : ';' ∉ (componentTypeToString req.componentType).toList := by cases req.componentType <;> decide
      have hid : ';' ∉ (if req.idRequestType = .automatic then "A" else "S").toList := by split <;> decide
      have htag : ';' ∉ "DISC:REG".toList := by decide
      simp_all [Message.front, Message.stringFields]
  | registrationResponse res =>
      have htag : ';' ∉ "DISC:ACK".toList := by decide
      simp_all [Message.front, Message.stringFields]
  | keepalivePing ping =>
      have htag : ';' ∉ "DISC:PNG".toList := by decide
      simp_all [Message.front, Message.stringFields]
  | keepaliveResponse pong =>
      have htag : ';' ∉ "DISC:PON".toList := by decide
      simp_all [Message.front, Message.stringFields]
  | error err =>
      have htag : ';' ∉ "DISC:ERR".toList := by decide
      simp_all [Message.front, Message.stringFields]
  | componentQuery query =>
      have htag : ';' ∉ "DISC:QRY".toList := by decide
      simp_all [Message.front, Message.stringFields]
  | componentList list =>
      have htag : ';' ∉ "DISC:LST".toList := by decide
      simp_all [Message.front, Message.stringFields]

/-! ## What a decoder accepts -/

theorem ok_bind {α β : Type} (a : α) (f : α → Except ProtocolStatus β) : Except.ok a >>= f = f a := rfl

theorem bind_eq_ok {α β : Type} {x : Except ProtocolStatus α} {f : α → Except ProtocolStatus β} {b : β}
    (h : x >>= f = .ok b) : ∃ a, x = .ok a ∧ f a = .ok b := by
  cases x with
  | error e => cases h
  | ok a => exact ⟨a, rfl, h⟩

theorem map_eq_ok {α β : Type} {x : Except ProtocolStatus α} {f : α → β} {b : β} (h : f <$> x = .ok b) :
    ∃ a, x = .ok a ∧ f a = b := by
  cases x with
  | error e => cases h
  | ok a =>
      cases h
      exact ⟨a, rfl, rfl⟩

theorem readInt_eq_ok {str : String} {n : Int} (h : readInt str = .ok n) : stoi str.toList = some n := by
  unfold readInt at h
  split at h
  · rename_i m hm
    cases h
    exact hm
  · cases h

theorem decodeRegistrationRequest_stringFields {input : String} {req : RegistrationRequest}
    (h : decodeRegistrationRequest input = .ok req) :
    (Message.registrationRequest req).stringFields ⊆ splitString input ';' := by
  unfold decodeRegistrationRequest at h
  split at h
  · rename_i tag type idType group id name address port text hparts
    obtain ⟨groupId, -, h⟩ := bind_eq_ok h
    obtain ⟨idInGroup, -, h⟩ := bind_eq_ok h
    cases h
    rw [hparts]
    simp [Message.stringFields]
  · cases h

theorem decodeRegistrationResponse_stringFields {input : String} {res : RegistrationResponse}
    (h : decodeRegistrationResponse input = .ok res) :
    (Message.registrationResponse res).stringFields ⊆ splitString input ';' := by
  unfold decodeRegistrationResponse at h
  split at h
  · rename_i tag code group id type address port target config client text hparts
    obtain ⟨responseCode, -, h⟩ := bind_eq_ok h
    obtain ⟨assignedGroupId, -, h⟩ := bind_eq_ok h
    obtain ⟨assignedIdInGroup, -, h⟩ := bind_eq_ok h
    obtain ⟨connectionTargetId, -, h⟩ := bind_eq_ok h
    cases h
    rw [hparts]
    simp [Message.stringFields]
  · cases h

theorem decodeKeepalivePing_stringFields {input : String} {ping : KeepalivePing}
    (h : decodeKeepalivePing input = .ok ping) :
    (Message.keepalivePing ping).stringFields ⊆ splitString input ';' := by
  unfold decodeKeepalivePing at h
  split at h
  · rename_i tag id status text hparts
    cases h
    rw [hparts]
    simp [Message.stringFields]
  · cases h

theorem decodeKeepaliveResponse_stringFields {input : String} {pong : KeepaliveResponse}
    (h : decodeKeepaliveResponse input = .ok pong) :
    (Message.keepaliveResponse pong).stringFields ⊆ splitString input ';' := by
  unfold decodeKeepaliveResponse at h
  split at h
  · rename_i tag response interval text hparts
    obtain ⟨nextIntervalMs, -, h⟩ := bind_eq_ok h
    cases h
    rw [hparts]
    simp [Message.stringFields]
  · cases h

theorem decodeErrorMessage_stringFields {input : String} {err : ErrorMessage}
    (h : decodeErrorMessage input = .ok err) :
    (Message.error err).stringFields ⊆ splitString input ';' := by
  unfold decodeErrorMessage at h
  split at h
  · rename_i tag code text hparts
    obtain ⟨errorCode, -, h⟩ := bind_eq_ok h
    cases h
    rw [hparts]
    simp [Message.stringFields]
  · cases h

theorem decodeComponentQuery_stringFields {input : String} {query : ComponentQuery}
    (h : decodeComponentQuery input = .ok query) :
    (Message.componentQuery query).stringFields ⊆ splitString input ';' := by
  unfold decodeComponentQuery at h
  split at h
  · rename_i tag filter text hparts
    cases h
    rw [hparts]
    simp [Message.stringFields]
  · cases h

theorem decodeComponentListResponse_stringFields {input : String} {list : ComponentListResponse}
    (h : decodeComponentListResponse input = .ok list) :
    ∀ f ∈ (Message.componentList list).stringFields, f ∈ splitString input ';' ∨ f = "" := by
  unfold decodeComponentListResponse at h
  dsimp only at h
  split at h
  · rename_i tag count text rest hparts
    obtain ⟨n, -, h⟩ := bind_eq_ok h
    split at h
    · cases h
    · cases h
      intro f hf
      rcases List.mem_append.mp hf with hf | hf
      · obtain ⟨i, -, hi⟩ := List.mem_filterMap.mp hf
        exact .inl (List.mem_of_getElem? hi)
      · rw [List.mem_singleton.mp hf, List.getD_eq_getElem?_getD]
        cases hi : (splitString input ';')[(2 + UInt32.ofInt n).toNat]? with
        | none => exact .inr rfl
        | some g => exact .inl (List.mem_of_getElem? hi)
  · cases h

/-- **What the decoder accepts has no separator in any string.** -/
theorem decodeMessage_stringFields {input : String} {m : Message} (h : decodeMessage input = .ok m) :
    ∀ f ∈ m.stringFields, ';' ∉ f.toList := by
  have hsub : ∀ {fs : List String}, fs ⊆ splitString input ';' → ∀ f ∈ fs, ';' ∉ f.toList := fun hfs f hf =>
    notMem_of_mem_splitString (hfs hf)
  unfold decodeMessage at h
  split at h
  · cases h
  dsimp only at h
  split at h
  · obtain ⟨req, hreq, rfl⟩ := map_eq_ok h
    exact hsub (decodeRegistrationRequest_stringFields hreq)
  split at h
  · obtain ⟨res, hres, rfl⟩ := map_eq_ok h
    exact hsub (decodeRegistrationResponse_stringFields hres)
  split at h
  · obtain ⟨ping, hping, rfl⟩ := map_eq_ok h
    exact hsub (decodeKeepalivePing_stringFields hping)
  split at h
  · obtain ⟨pong, hpong, rfl⟩ := map_eq_ok h
    exact hsub (decodeKeepaliveResponse_stringFields hpong)
  split at h
  · obtain ⟨err, herr, rfl⟩ := map_eq_ok h
    exact hsub (decodeErrorMessage_stringFields herr)
  split at h
  · obtain ⟨query, hquery, rfl⟩ := map_eq_ok h
    exact hsub (decodeComponentQuery_stringFields hquery)
  split at h
  · obtain ⟨list, hlist, rfl⟩ := map_eq_ok h
    intro f hf
    rcases decodeComponentListResponse_stringFields hlist f hf with hf | rfl
    · exact notMem_of_mem_splitString hf
    · decide
  · cases h

/-! ## Round trips -/

theorem readInt_toString_nat (n : Nat) :
    readInt (toString n) = if n < 2 ^ 31 then .ok (n : Int) else .error .invalidFormat := by
  rw [readInt, toList_toString, stoi_toDigits_eq]
  by_cases hn : n < 2 ^ 31
  · rw [if_pos hn, if_pos hn]
  · rw [if_neg hn, if_neg hn]

theorem readInt_toString {n : Int} (hmin : -(2 ^ 31) ≤ n) (hmax : n < 2 ^ 31) : readInt (toString n) = .ok n := by
  rw [readInt, stoi_toString hmin hmax]

theorem readInt_uint8 (n : UInt8) : readInt (toString n.toNat) = .ok (n.toNat : Int) := by
  have := n.toNat_lt
  rw [readInt_toString_nat, if_pos (by omega)]

theorem readInt_uint16 (n : UInt16) : readInt (toString n.toNat) = .ok (n.toNat : Int) := by
  have := n.toNat_lt
  rw [readInt_toString_nat, if_pos (by omega)]

theorem uint8_ofInt_toNat (n : UInt8) : UInt8.ofInt (n.toNat : Int) = n := by
  have hlt := n.toNat_lt
  have hmod : ((n.toNat : Int) % 2 ^ 8).toNat = n.toNat := by omega
  rw [UInt8.ofInt, hmod, UInt8.ofNat_toNat]

/-- The entries of a component list are read back. -/
theorem parseComponentData_formatComponentData (uninitialized : UInt8 × UInt8) {data : ComponentData}
    (h : ':' ∉ data.componentType.toList) : parseComponentData uninitialized (formatComponentData data) = data := by
  have hnum : ∀ n : Nat, ':' ∉ (toString n).toList := by
    intro n
    rw [toList_toString]
    exact colon_notMem_toDigits n
  have hread : ∀ n : UInt8, stoi (toString n.toNat).toList = some (n.toNat : Int) := by
    intro n
    have := n.toNat_lt
    rw [toList_toString, stoi_toDigits (by omega)]
  have hparts : splitString (formatComponentData data) ':' =
      [data.componentType, toString data.groupId.toNat, toString data.idInGroup.toNat,
        toString data.subtype.toNat] := by
    apply (splitString_join_eq_iff_of_free ?_).mpr
    · refine .inr ⟨toString data.subtype.toNat, rfl, ?_⟩
      intro hempty
      have hdigits := congrArg String.toList hempty
      rw [toList_toString] at hdigits
      exact Nat.toDigits_ne_nil hdigits
    · intro t ht
      simp only [List.mem_cons, List.not_mem_nil, or_false] at ht
      rcases ht with rfl | rfl | rfl | rfl
      · exact h
      · exact hnum _
      · exact hnum _
      · exact hnum _
  rw [parseComponentData, hparts]
  dsimp only [readSubtype]
  rw [hread, hread, hread]
  simp only [uint8_ofInt_toNat]

theorem uint16_ofInt_toNat (n : UInt16) : UInt16.ofInt (n.toNat : Int) = n := by
  have hlt := n.toNat_lt
  have hmod : ((n.toNat : Int) % 2 ^ 16).toNat = n.toNat := by omega
  rw [UInt16.ofInt, hmod, UInt16.ofNat_toNat]

theorem uint32_ofInt_toNat (n : UInt32) : UInt32.ofInt (n.toNat : Int) = n := by
  have hlt := n.toNat_lt
  have hmod : ((n.toNat : Int) % 2 ^ 32).toNat = n.toNat := by omega
  rw [UInt32.ofInt, hmod, UInt32.ofNat_toNat]

/-- A declared code is read back. -/
theorem ResponseCode.readInt_toInt {code : ResponseCode} (h : code.Declared) :
    readInt (toString code.toInt) = .ok code.toInt ∧ ResponseCode.ofInt code.toInt = code := by
  cases code with
  | undeclared value => exact h.elim
  | _ => exact ⟨readInt_toString (by decide) (by decide), rfl⟩

theorem ErrorCode.readInt_toInt {code : ErrorCode} (h : code.Declared) :
    readInt (toString code.toInt) = .ok code.toInt ∧ ErrorCode.ofInt code.toInt = code := by
  cases code with
  | undeclared value => exact h.elim
  | _ => exact ⟨readInt_toString (by decide) (by decide), rfl⟩

theorem stringToComponentType_componentTypeToString (type : ComponentType) :
    stringToComponentType (componentTypeToString type) = type := by
  cases type <;> rfl

/-- Which of the fields a decoder finds depends on the last one only. -/
theorem splitString_encodeMessage {m : Message} (hs : ∀ f ∈ m.stringFields, ';' ∉ f.toList) :
    splitString (encodeMessage m) ';' =
      if m.humanReadableMessage = "" then m.front else m.front ++ [m.humanReadableMessage] := by
  have hlast : m.humanReadableMessage ∈ m.stringFields := by
    cases m <;> simp [Message.stringFields, Message.humanReadableMessage]
  rw [encodeMessage_eq]
  by_cases hne : m.humanReadableMessage = ""
  · rw [if_pos hne, hne, splitString_line_empty (semicolon_notMem_front hs)]
  · rw [if_neg hne, splitString_line (semicolon_notMem_front hs) (hs _ hlast) hne]

theorem decodeRegistrationRequest_of_front {input : String} {req : RegistrationRequest}
    (h : splitString input ';' = (Message.registrationRequest req).front ++ [req.humanReadableMessage]) :
    decodeRegistrationRequest input = .ok req := by
  have hid : (if (if req.idRequestType = .automatic then "A" else "S") = "A" then IdRequestType.automatic
      else IdRequestType.static) = req.idRequestType := by
    cases req.idRequestType <;> rfl
  rw [decodeRegistrationRequest, h]
  dsimp only [Message.front, List.cons_append, List.nil_append]
  rw [readInt_uint8, readInt_uint8, stringToComponentType_componentTypeToString, hid]
  simp only [ok_bind, uint8_ofInt_toNat]
  rfl

theorem decodeRegistrationResponse_of_front {input : String} {res : RegistrationResponse}
    (hcode : res.responseCode.Declared)
    (h : splitString input ';' = (Message.registrationResponse res).front ++ [res.humanReadableMessage]) :
    decodeRegistrationResponse input = .ok res := by
  obtain ⟨hread, hof⟩ := ResponseCode.readInt_toInt hcode
  rw [decodeRegistrationResponse, h]
  dsimp only [Message.front, List.cons_append, List.nil_append]
  rw [hread, readInt_uint8, readInt_uint8, readInt_uint16]
  simp only [ok_bind, uint8_ofInt_toNat, uint16_ofInt_toNat, hof]
  rfl

theorem decodeKeepaliveResponse_of_front {input : String} {pong : KeepaliveResponse}
    (h : splitString input ';' = (Message.keepaliveResponse pong).front ++ [pong.humanReadableMessage]) :
    decodeKeepaliveResponse input = .ok pong := by
  rw [decodeKeepaliveResponse, h]
  dsimp only [Message.front, List.cons_append, List.nil_append]
  rw [readInt_toString pong.nextIntervalMs.le_toInt pong.nextIntervalMs.toInt_lt]
  simp only [ok_bind, Int32.ofInt_toInt]
  rfl

theorem decodeErrorMessage_of_front {input : String} {err : ErrorMessage} (hcode : err.errorCode.Declared)
    (h : splitString input ';' = (Message.error err).front ++ [err.humanReadableMessage]) :
    decodeErrorMessage input = .ok err := by
  obtain ⟨hread, hof⟩ := ErrorCode.readInt_toInt hcode
  rw [decodeErrorMessage, h]
  dsimp only [Message.front, List.cons_append, List.nil_append]
  rw [hread]
  simp only [ok_bind, hof]
  rfl

theorem two_add_toNat {n : UInt32} (h : n.toNat < 2 ^ 31) : (2 + n).toNat = n.toNat + 2 := by
  rw [UInt32.toNat_add, show (2 : UInt32).toNat = 2 from rfl]
  omega

theorem filterMap_range_getElem? {α : Type} (l : List α) (n : Nat) :
    (List.range n).filterMap (fun i => l[i]?) = l.take n := by
  induction n with
  | zero => rfl
  | succ n ih =>
    rw [List.range_succ, List.filterMap_append, ih, List.take_add_one]
    cases h : l[n]? <;> simp [h]

/-- The list decoder takes as many entries as the count says and does not look at what follows the message. -/
theorem decodeComponentListResponse_of_parts {input : String} {count : UInt32} {tag : String} {rest : List String}
    (h : splitString input ';' = tag :: toString count.toNat :: rest) :
    decodeComponentListResponse input =
      if rest = [] then .error .malformedMessage
      else if 2 ^ 31 ≤ count.toNat then .error .invalidFormat
      else if rest.length ≤ count.toNat then .error .malformedMessage
      else
        .ok { componentCount := count
              componentDataList := rest.take count.toNat
              humanReadableMessage := rest.getD count.toNat "" } := by
  cases rest with
  | nil => rw [decodeComponentListResponse, h, if_pos rfl]
  | cons text rest =>
      rw [decodeComponentListResponse, h, if_neg (List.cons_ne_nil text rest)]
      dsimp only
      rw [readInt_toString_nat]
      by_cases hcount : count.toNat < 2 ^ 31
      · have hthree : (2 + count + 1).toNat = count.toNat + 3 := by
          rw [UInt32.toNat_add, two_add_toNat hcount, show (1 : UInt32).toNat = 1 from rfl]
          omega
        have hentries : ((List.range count.toNat).filterMap fun i =>
            (tag :: toString count.toNat :: text :: rest)[(2 + UInt32.ofNat i).toNat]?) =
              (text :: rest).take count.toNat := by
          rw [← filterMap_range_getElem?]
          refine List.filterMap_congr fun i hi => ?_
          have hlt : i < count.toNat := List.mem_range.mp hi
          have hcast : (UInt32.ofNat i).toNat = i :=
            UInt32.toNat_ofNat_of_lt (hlt.trans (hcount.trans (by decide)))
          rw [two_add_toNat (by omega), hcast]
          rfl
        rw [if_pos hcount, if_neg (not_le.mpr hcount), ok_bind, uint32_ofInt_toNat, hthree, hentries,
          two_add_toNat hcount]
        by_cases hlen : (text :: rest).length ≤ count.toNat
        · rw [if_pos hlen, if_pos (by simp at hlen ⊢; omega)]
        · rw [if_neg hlen, if_neg (by simp at hlen ⊢; omega)]
          rfl
      · rw [if_neg hcount, if_pos (not_lt.mp hcount)]
        rfl

/-- What a list decoder that returned found. -/
theorem list_of_decode {input : String} {list : ComponentListResponse} {count : UInt32} {tag : String}
    {rest : List String} (h : splitString input ';' = tag :: toString count.toNat :: rest)
    (hd : decodeComponentListResponse input = .ok list) :
    count.toNat < 2 ^ 31 ∧ count.toNat < rest.length ∧ rest.take count.toNat = list.componentDataList := by
  rw [decodeComponentListResponse_of_parts h] at hd
  split at hd
  · cases hd
  split at hd
  · cases hd
  split at hd
  · cases hd
  · rename_i hcount hlen
    cases hd
    exact ⟨not_le.mp hcount, not_le.mp hlen, rfl⟩

/-! ## The exact domain -/

/-- The count of a component list is the number of its entries and fits into `int`. -/
def Message.CountExact : Message → Prop
  | .componentList list =>
      list.componentCount.toNat = list.componentDataList.length ∧ list.componentCount.toNat ≤ 2 ^ 31 - 1
  | _ => True

/-- Lines that can be read back: no separator in a string, something in the last field, an exact count. -/
structure Message.Readable (m : Message) : Prop where
  free : ∀ f ∈ m.stringFields, ';' ∉ f.toList
  last : m.humanReadableMessage ≠ ""
  count : m.CountExact

theorem decodeMessage_encodeMessage {m : Message} (hm : m.Declared) (h : m.Readable) :
    decodeMessage (encodeMessage m) = .ok m := by
  have hparts : splitString (encodeMessage m) ';' = m.front ++ [m.humanReadableMessage] := by
    rw [splitString_encodeMessage h.free, if_neg h.last]
  rw [decodeMessage_encodeMessage_eq]
  cases m with
  | registrationRequest req =>
      have hreq : decodeRegistrationRequest (encodeRegistrationRequest req) = .ok req :=
        decodeRegistrationRequest_of_front hparts
      dsimp only
      rw [hreq]
      rfl
  | registrationResponse res =>
      have hres : decodeRegistrationResponse (encodeRegistrationResponse res) = .ok res :=
        decodeRegistrationResponse_of_front hm hparts
      dsimp only
      rw [hres]
      rfl
  | keepalivePing ping =>
      have hping : splitString (encodeKeepalivePing ping) ';' = _ := hparts
      dsimp only
      rw [decodeKeepalivePing, hping]
      rfl
  | keepaliveResponse pong =>
      have hpong : decodeKeepaliveResponse (encodeKeepaliveResponse pong) = .ok pong :=
        decodeKeepaliveResponse_of_front hparts
      dsimp only
      rw [hpong]
      rfl
  | error err =>
      have herr : decodeErrorMessage (encodeErrorMessage err) = .ok err := decodeErrorMessage_of_front hm hparts
      dsimp only
      rw [herr]
      rfl
  | componentQuery query =>
      have hquery : splitString (encodeComponentQuery query) ';' = _ := hparts
      dsimp only
      rw [decodeComponentQuery, hquery]
      rfl
  | componentList list =>
      obtain ⟨hcount, hmax⟩ := h.count
      have hlist : splitString (encodeComponentListResponse list) ';' =
          "DISC:LST" :: toString list.componentCount.toNat :: (list.componentDataList ++ [list.humanReadableMessage]) :=
        hparts
      dsimp only
      rw [decodeComponentListResponse_of_parts hlist, if_neg (by simp), if_neg (by omega), if_neg (by simp; omega),
        hcount, List.take_left, List.getD_eq_getElem?_getD, List.getElem?_append_right le_rfl, Nat.sub_self]
      rfl

/-- A line that lost its last field has too few fields for every kind but a list, and a list with an exact count. -/
theorem last_ne_empty_of_decode {m : Message} (hfree : ∀ f ∈ m.stringFields, ';' ∉ f.toList)
    (h : decodeMessage (encodeMessage m) = .ok m) : m.humanReadableMessage ≠ "" := by
  intro hempty
  have hparts : splitString (encodeMessage m) ';' = m.front := by
    rw [splitString_encodeMessage hfree, if_pos hempty]
  rw [decodeMessage_encodeMessage_eq] at h
  cases m with
  | registrationRequest req =>
      obtain ⟨r, hr, -⟩ := map_eq_ok h
      rw [decodeRegistrationRequest, show splitString (encodeRegistrationRequest req) ';' = _ from hparts] at hr
      cases hr
  | registrationResponse res =>
      obtain ⟨r, hr, -⟩ := map_eq_ok h
      rw [decodeRegistrationResponse, show splitString (encodeRegistrationResponse res) ';' = _ from hparts] at hr
      cases hr
  | keepalivePing ping =>
      obtain ⟨r, hr, -⟩ := map_eq_ok h
      rw [decodeKeepalivePing, show splitString (encodeKeepalivePing ping) ';' = _ from hparts] at hr
      cases hr
  | keepaliveResponse pong =>
      obtain ⟨r, hr, -⟩ := map_eq_ok h
      rw [decodeKeepaliveResponse, show splitString (encodeKeepaliveResponse pong) ';' = _ from hparts] at hr
      cases hr
  | error err =>
      obtain ⟨r, hr, -⟩ := map_eq_ok h
      rw [decodeErrorMessage, show splitString (encodeErrorMessage err) ';' = _ from hparts] at hr
      cases hr
  | componentQuery query =>
      obtain ⟨r, hr, -⟩ := map_eq_ok h
      rw [decodeComponentQuery, show splitString (encodeComponentQuery query) ';' = _ from hparts] at hr
      cases hr
  | componentList list =>
      have hlist : splitString (encodeComponentListResponse list) ';' =
          "DISC:LST" :: toString list.componentCount.toNat :: list.componentDataList := hparts
      obtain ⟨r, hr, hrl⟩ := map_eq_ok h
      cases hrl
      obtain ⟨-, hlt, htake⟩ := list_of_decode hlist hr
      -- one entry more than the count says, and the decoder returns only as many as it says
      have hlen := congrArg List.length htake
      rw [List.length_take] at hlen
      omega

theorem countExact_of_decode {m : Message} (hfree : ∀ f ∈ m.stringFields, ';' ∉ f.toList)
    (h : decodeMessage (encodeMessage m) = .ok m) : m.CountExact := by
  have hlast := last_ne_empty_of_decode hfree h
  cases m with
  | componentList list =>
      have hlist : splitString (encodeComponentListResponse list) ';' =
          "DISC:LST" :: toString list.componentCount.toNat ::
            (list.componentDataList ++ [list.humanReadableMessage]) := by
        have hparts := splitString_encodeMessage hfree
        rw [if_neg hlast] at hparts
        exact hparts
      rw [decodeMessage_encodeMessage_eq] at h
      obtain ⟨r, hr, hrl⟩ := map_eq_ok h
      cases hrl
      obtain ⟨hcount, hlt, htake⟩ := list_of_decode hlist hr
      rw [List.length_append, List.length_singleton] at hlt
      have hlen := congrArg List.length htake
      rw [List.length_take, List.length_append, List.length_singleton] at hlen
      exact ⟨by omega, by omega⟩
  | _ => trivial

/-- **The exact domain of the codec.** A message comes back from its line iff the line can be read back; otherwise the
decoder returns an error or another message. -/
theorem decodeMessage_encodeMessage_iff (m : Message) (hm : m.Declared) :
    (decodeMessage (encodeMessage m) = .ok m ↔
      (∀ f ∈ m.stringFields, ';' ∉ f.toList) ∧ m.humanReadableMessage ≠ "" ∧
        ∀ list, m = .componentList list →
          list.componentCount.toNat = list.componentDataList.length ∧ list.componentCount.toNat ≤ 2 ^ 31 - 1) ∧
    (¬ m.Readable →
      (∃ status, decodeMessage (encodeMessage m) = .error status) ∨
        ∃ m', m' ≠ m ∧ decodeMessage (encodeMessage m) = .ok m') := by
  have hiff : decodeMessage (encodeMessage m) = .ok m ↔ m.Readable := by
    refine ⟨fun h => ?_, decodeMessage_encodeMessage hm⟩
    have hfree := decodeMessage_stringFields h
    exact ⟨hfree, last_ne_empty_of_decode hfree h, countExact_of_decode hfree h⟩
  refine ⟨hiff.trans ⟨fun h => ⟨h.free, h.last, ?_⟩, fun ⟨hfree, hlast, hcount⟩ => ⟨hfree, hlast, ?_⟩⟩, fun hnot => ?_⟩
  · rintro list rfl
    exact h.count
  · cases m with
    | componentList list => exact hcount list rfl
    | _ => trivial
  · cases hd : decodeMessage (encodeMessage m) with
    | error status => exact .inl ⟨status, rfl⟩
    | ok m' =>
        refine .inr ⟨m', ?_, rfl⟩
        rintro rfl
        exact hnot (hiff.mp hd)

/-- A list response of one entry. -/
def sampleList : Message :=
  .componentList { componentCount := 1, componentDataList := ["M:1:2:0"], humanReadableMessage := "ok" }

theorem decodeMessage_encodeMessage_iff_sampleList :
    sampleList.Declared ∧ decodeMessage (encodeMessage sampleList) = .ok sampleList := by
  refine ⟨trivial, (decodeMessage_encodeMessage_iff sampleList trivial).1.mpr ⟨?_, by decide, ?_⟩⟩
  · simp [sampleList, Message.stringFields]
  · rintro list ⟨⟩
    decide

end EdgeOffloading.Discovery
