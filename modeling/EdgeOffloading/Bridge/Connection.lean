import EdgeOffloading.Cpp.Json
import EdgeOffloading.Cpp.Text
import Mathlib.Logic.Function.Basic

/-!
# The control connection of one gateway

The parts of `MGWCPConnection` that need nothing of the control plane: reliable sending (`ReliableSender`), the
validation of messages and component ids, and the reading of a message up to its dispatch (`receive`). What a message
then does to the control plane is in `Bridge.ControlPlane`.

An exception that a handler lets through ends the connection thread; a decoding that throws is `none` or `thrown`.
-/

namespace EdgeOffloading

/-- The id the transport gives a client: its socket descriptor. -/
abbrev ClientId := Nat

inductive MGWCPConnectionState where
  | connecting
  | waitingForDp
  | operational
  deriving DecidableEq, Repr

/-- The connection of one gateway; its reliable sender is kept in a `ReliableSender`. -/
structure MGWCPConnection where
  connectionId : Nat
  clientIp : String
  /-- Empty until the first message identifies the gateway. -/
  componentId : String := ""
  state : MGWCPConnectionState := .connecting
  dpHost : String := ""
  dpPort : Int := 0
  running : Bool := false
  /-- The connection thread is inside its loop. -/
  threadAlive : Bool := false
  deriving DecidableEq, Repr

/-! ## Reliable sending -/

structure PendingAck where
  message : Json
  timeSent : Nat
  retryCount : Nat

/-- The unacknowledged messages by sequence number, and the next number. -/
structure ReliableSender where
  pendingAcks : List (Nat × PendingAck) := []
  sequenceNumber : Nat := 1

namespace ReliableSender

variable (s : ReliableSender)

/-- `ACK_TIMEOUT_`, in nanoseconds. -/
def ackTimeout : Nat := 5 * 10 ^ 9

def maxRetryCount : Nat := 3

def erase (seqNum : Nat) : List (Nat × PendingAck) := s.pendingAcks.filter fun p => p.1 ≠ seqNum

/-- The message as it goes out and the sender afterwards; a failed send is not kept for a retry. -/
def sendReliableMessage (message : Json) (now : Nat) (sendOk : Json → Bool) : ReliableSender × Json :=
  let seqNum := s.sequenceNumber
  let message := message.set "sequence_number" (.int seqNum)
  let others := s.erase seqNum
  ({ pendingAcks := if sendOk message then others ++ [(seqNum, ⟨message, now, 0⟩)] else others
     sequenceNumber := (s.sequenceNumber + 1) % 2 ^ 64 }, message)

/-- `handle_ack`; `none` where the number does not convert. -/
def handleAck (payload : Json) : Option ReliableSender :=
  if !payload.contains "ack_sequence_number" then some s
  else (payload.get "ack_sequence_number").asUInt64.map fun n => { s with pendingAcks := s.erase n }

def timedOut (now : Nat) (p : PendingAck) : Bool := ackTimeout < now - p.timeSent

/-- The messages sent again and the sender afterwards; a message that used up its retries is dropped. -/
def checkForTimeouts (now : Nat) : ReliableSender × List Json :=
  ({ s with
      pendingAcks := s.pendingAcks.filterMap fun (n, p) =>
        if timedOut now p then
          if p.retryCount < maxRetryCount then some (n, { p with retryCount := p.retryCount + 1, timeSent := now })
          else none
        else some (n, p) },
    (s.pendingAcks.filter fun (_, p) => timedOut now p && p.retryCount < maxRetryCount).map fun (_, p) => p.message)

end ReliableSender

/-! ## Component ids -/

/-- The two numbers of `group:id` as `std::stoi` reads them around the first colon. -/
def componentIdParts (componentId : String) : Option (Int × Int) :=
  match splitAtColon componentId.toList with
  | none => none
  | some (groupPart, idPart) =>
    match stoi groupPart, stoi idPart with
    | some group, some id => some (group, id)
    | _, _ => none

def isValidComponentId (componentId : String) : Bool :=
  match componentIdParts componentId with
  | some (group, id) => 0 ≤ group && group ≤ 255 && 0 ≤ id && id ≤ 255
  | none => false

theorem isValidComponentId.parts {c : String} (h : isValidComponentId c = true) :
    ∃ group id, componentIdParts c = some (group, id) := by
  unfold isValidComponentId at h
  cases hp : componentIdParts c with
  | none => rw [hp] at h; cases h
  | some p => exact ⟨p.1, p.2, rfl⟩

theorem isValidComponentId.ne_empty {c : String} (h : isValidComponentId c = true) : c ≠ "" := by
  rintro rfl
  exact absurd h (by decide)

/-! ## Receiving a message -/

def validateMessageStructure (message : Json) : Bool :=
  message.contains "component_id" && message.contains "message_code" && message.contains "message_type" &&
    message.contains "sequence_number" && message.contains "payload"

/-- What `handle_received_message` makes of a message before it acts on it. -/
inductive Reception where
  /-- Logged and ignored: malformed, an invalid or a foreign component id. -/
  | ignored
  /-- A field does not convert. -/
  | thrown
  | ack (payload : Json)
  | accepted (componentId : String) (seqNum : Nat) (code : Int) (payload : Json)

/-- The `int` of `sequence_number`, converted to `uint64_t`. -/
def seqNumOf (n : Int) : Nat := (n % 2 ^ 64).toNat

/-- The first message may bring any valid id, later ones only the same id again. -/
def MGWCPConnection.acceptsComponentId (conn : MGWCPConnection) (msgComponentId : String) : Bool :=
  if conn.componentId = "" then isValidComponentId msgComponentId else conn.componentId = msgComponentId

def MGWCPConnection.receive (conn : MGWCPConnection) (message : Json) : Reception :=
  if !validateMessageStructure message then .ignored
  else
    match (message.get "message_code").asInt, message.valueInt "sequence_number" 0 with
    | some code, some seqNum =>
      if code = 900 then .ack (message.get "payload")
      else
        match (message.get "component_id").asString with
        | none => .thrown
        | some msgComponentId =>
          if conn.acceptsComponentId msgComponentId then
            .accepted msgComponentId (seqNumOf seqNum) code (message.get "payload")
          else .ignored
    | _, _ => .thrown

theorem MGWCPConnection.receive_eq_accepted_iff {conn : MGWCPConnection} {message : Json} {c : String} {seqNum : Nat}
    {code : Int} {payload : Json} :
    conn.receive message = .accepted c seqNum code payload ↔
      validateMessageStructure message = true ∧ (message.get "message_code").asInt = some code ∧ code ≠ 900 ∧
        (∃ n, message.valueInt "sequence_number" 0 = some n ∧ seqNumOf n = seqNum) ∧
          (message.get "component_id").asString = some c ∧ conn.acceptsComponentId c = true ∧
            message.get "payload" = payload := by
  unfold receive
  constructor
  · intro h
    split at h
    · cases h
    · rename_i hstructure
      split at h
      · rename_i n hcode hseq
        split at h
        · cases h
        · rename_i hack
          split at h
          · cases h
          · rename_i hid
            split at h
            · rename_i haccepts
              cases h
              exact ⟨by simpa using hstructure, hcode, hack, ⟨n, hseq, rfl⟩, hid, haccepts, rfl⟩
            · cases h
      · cases h
  · rintro ⟨hstructure, hcode, hack, ⟨n, hseq, rfl⟩, hid, haccepts, rfl⟩
    simp only [hstructure, hcode, hseq, hid, if_pos haccepts, if_neg hack]
    rfl

theorem MGWCPConnection.receive_accepted_fields {conn : MGWCPConnection} {message : Json} {c : String} {seqNum : Nat}
    {code : Int} {payload : Json} (h : conn.receive message = .accepted c seqNum code payload) :
    conn.acceptsComponentId c = true ∧ (message.get "component_id").asString = some c ∧
      (message.get "message_code").asInt = some code ∧ message.get "payload" = payload := by
  obtain ⟨-, hcode, -, -, hid, haccepts, hpayload⟩ := receive_eq_accepted_iff.mp h
  exact ⟨haccepts, hid, hcode, hpayload⟩

theorem MGWCPConnection.receive_accepted {conn : MGWCPConnection} {message : Json} {c : String} {seqNum : Nat}
    {code : Int} {payload : Json} (h : conn.receive message = .accepted c seqNum code payload) :
    conn.acceptsComponentId c = true := (receive_accepted_fields h).1

theorem MGWCPConnection.acceptsComponentId_iff {conn : MGWCPConnection} {c : String} :
    conn.acceptsComponentId c = true ↔
      conn.componentId = "" ∧ isValidComponentId c = true ∨ conn.componentId ≠ "" ∧ conn.componentId = c := by
  unfold acceptsComponentId
  by_cases h : conn.componentId = ""
  · simp [h]
  · simp [h]

/-! ## Messages the Bridge sends -/

/-- `BRIDGE_COMPONENT_ID`. -/
def bridgeComponentId : String := "15:10"

def sessionApprovedMessage (payload : Json) : Json :=
  .obj [("component_id", .str bridgeComponentId), ("message_code", .int 200), ("message_type", .str "SESSION_APPROVED"),
    ("payload", payload)]

def sessionDeniedMessage (requestId reason : String) : Json :=
  .obj [("component_id", .str bridgeComponentId), ("message_code", .int 201), ("message_type", .str "SESSION_DENIED"),
    ("payload", .obj [("request_id", .str requestId), ("reason_description", .str reason)])]

def dpConnectionConfirmedMessage : Json :=
  .obj [("component_id", .str bridgeComponentId), ("message_code", .int 202),
    ("message_type", .str "DP_CONNECTION_CONFIRMED"), ("payload", .null)]

/-- The ACK carries the component id of the gateway, not the Bridge's. -/
def ackMessage (componentId : String) (ackSequenceNumber : Nat) : Json :=
  .obj [("component_id", .str componentId), ("message_code", .int 900), ("message_type", .str "ACK"),
    ("sequence_number", .int 0), ("payload", .obj [("ack_sequence_number", .int ackSequenceNumber)])]

/-- A gateway's message on its way to the OM. -/
def forwardMessage (componentId : String) (code : Int) (type : String) (payload : Json) : Json :=
  .obj [("component_id", .str componentId), ("message_code", .int code), ("message_type", .str type),
    ("payload", payload)]

end EdgeOffloading
