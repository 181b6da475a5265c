import EdgeOffloading.Cpp.Text
import EdgeOffloading.Gateway.Handlers
import EdgeOffloading.Protocol.Messages

/-!
# The gateway controller

The state of `GatewayController` and what its threads do to it: the sessions and their handlers, the queues between the
ROS services and the control thread, and the messages of the Bridge as `BridgeCpClient` dispatches them.

A call that may throw returns the state it leaves and whether it completed. An exception that leaves a thread ends the
process (`terminated`).
-/

namespace EdgeOffloading

inductive ComponentType where
  | vhc
  | mec
  | other
  deriving DecidableEq, Repr

inductive OperationMode where
  | networked
  | p2p
  | p2pDs
  deriving DecidableEq, Repr

inductive ControllerState where
  | initializing
  | discovering
  | connectingToBridge
  | waitingForDpConnection
  | operational
  | failed
  deriving DecidableEq, Repr

/-- A task of the configuration. A task without types takes the legacy path over `required_handlers`, which the loading
of the configuration leaves empty. -/
structure TaskDetails where
  taskName : String
  inputTypes : List MessageType
  outputTypes : List MessageType
  deriving DecidableEq, Repr

structure SessionState where
  requestId : String
  taskId : String
  lastKeepaliveSent : Nat
  deriving DecidableEq, Repr

structure OffloadingRequestData where
  taskId : String
  vhcData : String
  deriving DecidableEq, Repr

/-! ## The client of the Bridge -/

/-- The unacknowledged messages by sequence number, and the next number. -/
structure BridgeCpClient where
  sequenceNumber : Nat := 1
  pendingAcks : List (Nat × Json) := []

namespace BridgeCpClient

variable (client : BridgeCpClient)

/-- How a send ends: the client is not connected, the transport refuses the message, or it is queued. -/
inductive SendResult where
  | notConnected
  | refused
  | success
  deriving DecidableEq, Repr

/-- `send_reliable_message`: the client afterwards and what goes out. -/
def sendReliableMessage (message : Nat → Json) (result : SendResult) : BridgeCpClient × List Json :=
  let seqNum := client.sequenceNumber
  let others := client.pendingAcks.filter fun p => p.1 ≠ seqNum
  match result with
  | .notConnected => (client, [])
  | .refused => ({ client with sequenceNumber := (seqNum + 1) % 2 ^ 64 }, [])
  | .success => (⟨(seqNum + 1) % 2 ^ 64, others ++ [(seqNum, message seqNum)]⟩, [message seqNum])

/-- An ACK removes the message with its number. -/
def handleAck (ackSeqNum : Int) : BridgeCpClient :=
  { client with pendingAcks := client.pendingAcks.filter fun p => (p.1 : Int) ≠ ackSeqNum % 2 ^ 64 }

end BridgeCpClient

/-! ## The controller -/

structure GatewayController where
  componentType : ComponentType
  operationMode : OperationMode
  componentId : String
  dataPlaneListenPort : Int
  state : ControllerState := .initializing
  /-- By task id, in the order of the map. -/
  taskDatabase : List (String × TaskDetails) := []
  activeSessions : String → Option SessionState := fun _ => none
  requestIdCounter : Nat := 1
  offloadingRequestQueue : List OffloadingRequestData := []
  terminationRequestQueue : List String := []
  bridgeCpClient : Option BridgeCpClient := none
  gateway : RosGateway := .empty
  receiverRunning : Bool := false
  /-- An exception has left a thread and ended the process. -/
  terminated : Bool := false

namespace GatewayController

variable (c : GatewayController)

/-- The outcome of a call in a thread without handler for its exceptions. -/
def orTerminate (result : GatewayController × Bool) : GatewayController :=
  if result.2 then result.1 else { result.1 with terminated := true }

/-! ## Sessions -/

/-- The modes in which the input and the output types of a task are activated. -/
def activationModes : HandlerMode × HandlerMode :=
  match c.componentType with
  | .vhc => (.subscriberOnly, .publisherOnly)
  | .mec => (.publisherOnly, .subscriberOnly)
  | .other => (.both, .both)

/-- The activation of all handlers of a task. -/
def activateTask (details : TaskDetails) : GatewayController × Bool :=
  let modes := c.activationModes
  let inputs := RosGateway.activate modes.1 c.gateway details.inputTypes
  if inputs.2 then
    let outputs := RosGateway.activate modes.2 inputs.1 details.outputTypes
    ({ c with gateway := outputs.1 }, outputs.2)
  else ({ c with gateway := inputs.1 }, false)

/-- The last part of `on_session_approved`: an unknown task is logged. -/
def activateTaskId (taskId : String) : GatewayController × Bool :=
  match c.taskDatabase.lookup taskId with
  | none => (c, true)
  | some details => c.activateTask details

/-- The request id of an approval; `none` where it is no string. -/
def approvedRequestId (payload : Json) : Option String :=
  if payload.contains "request_id" then (payload.get "request_id").asString else some "unknown"

/-- `on_session_approved`: the task of the session, if there is one, or else the task that the payload names. -/
def onSessionApproved (payload : Json) (now : Nat) : GatewayController × Bool :=
  match approvedRequestId payload with
  | none => (c, false)
  | some requestId =>
    match c.activeSessions requestId with
    | some session =>
      let sessions := Function.update c.activeSessions requestId (some { session with lastKeepaliveSent := now })
      { c with activeSessions := sessions }.activateTaskId session.taskId
    | none =>
      if payload.contains "task_id" then
        match (payload.get "task_id").asString with
        | none => (c, false)
        | some taskId => c.activateTaskId taskId
      else (c, true)

def handleSessionTeardown (requestId : String) : GatewayController :=
  match c.activeSessions requestId with
  | none => c
  | some session =>
    let gateway :=
      match c.taskDatabase.lookup session.taskId with
      | none => c.gateway
      | some details => (c.gateway.deactivate details.inputTypes).deactivate details.outputTypes
    { c with gateway := gateway, activeSessions := Function.update c.activeSessions requestId none }

def onSessionDenied (requestId : String) : GatewayController := c.handleSessionTeardown requestId

/-! ## The data plane -/

/-- `active_sessions_[request_id] = …`. -/
def insertSession (requestId taskId : String) (now : Nat) : GatewayController :=
  { c with activeSessions := Function.update c.activeSessions requestId (some ⟨requestId, taskId, now⟩) }

/-- `activate_all_p2p_sessions`, over the rest of the task database. -/
def activateAllP2pSessions (now : Nat) : GatewayController → List (String × TaskDetails) → GatewayController × Bool
  | c, [] => (c, true)
  | c, (taskId, _) :: tasks =>
    let requestId := "p2p_session_" ++ taskId
    let payload : Json := .obj [("request_id", .str requestId), ("task_id", .str taskId)]
    let approved := (c.insertSession requestId taskId now).onSessionApproved payload now
    if approved.2 then activateAllP2pSessions now approved.1 tasks else approved

def onDpConfirmed (now : Nat) : GatewayController × Bool :=
  if c.state = .waitingForDpConnection then
    let confirmed := { c with receiverRunning := true, state := .operational }
    if c.operationMode = .networked then (confirmed, true)
    else activateAllP2pSessions now confirmed c.taskDatabase
  else (c, true)

/-! ## Messages of the Bridge -/

/-- An integer becomes a string, other values stay. -/
def normalizeId : Json → Json
  | .int n => .str (toString (n.bmod (2 ^ 64)))
  | v => v

/-- The copy of the payload that is handed to `on_session_approved`. -/
def normalizePayload (payload : Json) : Json :=
  let payload :=
    if payload.contains "request_id" then payload.set "request_id" (normalizeId (payload.get "request_id"))
    else payload
  if payload.contains "task_id" then payload.set "task_id" (normalizeId (payload.get "task_id")) else payload

/-- The request id of a denial. -/
def deniedRequestId : Json → String
  | .str s => s
  | .int n => toString (n.bmod (2 ^ 64))
  | _ => ""

/-- The case `SESSION_DENIED`: exceptions are caught. -/
def receiveDenied (msg : Json) : GatewayController :=
  if msg.contains "payload" && (msg.get "payload").contains "request_id" &&
      (msg.get "payload").contains "reason_description" then
    match ((msg.get "payload").get "reason_description").asString with
    | none => c
    | some _ => c.onSessionDenied (deniedRequestId ((msg.get "payload").get "request_id"))
  else c

/-- The case `ACK`. -/
def receiveAck (msg : Json) : GatewayController :=
  if msg.contains "payload" && (msg.get "payload").contains "ack_sequence_number" then
    match ((msg.get "payload").get "ack_sequence_number").asInt with
    | none => { c with terminated := true }
    | some n => { c with bridgeCpClient := c.bridgeCpClient.map (·.handleAck n) }
  else c

/-- The switch on the message code; other codes are logged. -/
def dispatch (code : Int) (msg : Json) (now : Nat) : GatewayController :=
  if code = 200 then
    if msg.contains "payload" then orTerminate (c.onSessionApproved (normalizePayload (msg.get "payload")) now) else c
  else if code = 201 then c.receiveDenied msg
  else if code = 202 then orTerminate (c.onDpConfirmed now)
  else if code = 900 then c.receiveAck msg
  else c

/-- `BridgeCpClient::handle_received_message`: the ACK that goes out before the message is acted upon. -/
def handleReceivedMessage (msg : Json) (now : Nat) : GatewayController × List Json :=
  if !msg.contains "message_code" || !msg.contains "component_id" then (c, [])
  else
    match (msg.get "message_code").asInt, (msg.get "component_id").asString, msg.valueInt "sequence_number" 0 with
    | some code, some componentId, some seqNum =>
      (c.dispatch code msg now, if code = 900 then [] else [Protocol.ack componentId seqNum])
    | _, _, _ => ({ c with terminated := true }, [])

/-! ## Requests -/

/-- `request_id_counter_++` and the numeral of the drawn number. -/
def drawRequestId : GatewayController × String :=
  ({ c with requestIdCounter := (c.requestIdCounter + 1) % 2 ^ 64 }, toString c.requestIdCounter)

/-- `offloading_request_service_handler` up to the id that it returns: `none` where the call is rejected. -/
def queueOffloadingRequest (request : OffloadingRequestData) : Option GatewayController :=
  if c.state ≠ .operational then none
  else if (c.taskDatabase.lookup request.taskId).isNone then none
  else some { c with offloadingRequestQueue := c.offloadingRequestQueue ++ [request] }

/-- `terminate_offloading_service_handler`. -/
def queueTerminationRequest (requestId : String) : Option GatewayController :=
  if c.state ≠ .operational then none
  else some { c with terminationRequestQueue := c.terminationRequestQueue ++ [requestId] }

/-- A message handed to the client of the Bridge, in networked mode. -/
def sendReliable (message : Nat → Json) (result : BridgeCpClient.SendResult) : GatewayController × List Json :=
  if c.operationMode = .networked then
    match c.bridgeCpClient with
    | none => (c, [])
    | some client =>
      let sent := client.sendReliableMessage message result
      ({ c with bridgeCpClient := some sent.1 }, sent.2)
  else (c, [])

/-- `send_offload_request` of the control thread; `std::stoi` of the task id throws where it is no number. -/
def sendOffloadRequest (requestId : String) (request : OffloadingRequestData) (result : BridgeCpClient.SendResult) :
    GatewayController × List Json :=
  if c.operationMode = .networked then
    match c.taskDatabase.lookup request.taskId with
    | none => (c, [])
    | some details =>
      match stoi request.taskId.toList with
      | none => ({ c with terminated := true }, [])
      | some taskId =>
        c.sendReliable (Protocol.offloadRequest c.componentId requestId taskId details.taskName request.vhcData) result
  else (c, [])

end GatewayController

end EdgeOffloading
