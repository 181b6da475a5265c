import EdgeOffloading.Bridge.Connection
import EdgeOffloading.Bridge.SessionManager
import EdgeOffloading.Bridge.TransportHandler

/-!
# The Bridge control plane

The state of `BridgeControlPlane` and its handlers: gateway connections come and go, their messages are acted upon and
forwarded to the Offloading Manager (OM), the OM's answers install routes and are forwarded to the gateways.

A handler runs to its end in one step; the one that may not return is `handleMgwcpDisconnection`. What a handler hands
to the network is its list of `Output`s; whether a send succeeds, and what the clock says, is in `Env`. The reliable
senders of the connections are kept by client id in `senders`, so that sending changes nothing else.
-/

namespace EdgeOffloading

/-- What the environment decides during one step. -/
structure Env where
  now : Nat
  sendOk : ClientId → Json → Bool
  omSendOk : Bool

inductive Output where
  /-- A message handed to `send_reliable_message` of the connection of a client. -/
  | reliable (t : ClientId) (message : Json)
  /-- A message handed to `send_to`, and whether it was sent. -/
  | sendTo (t : ClientId) (message : Json) (ok : Bool)
  /-- A message sent to the OM. -/
  | om (message : Json)
  /-- A data-plane message enqueued to its destinations. -/
  | routed (message : RoutedMessage)

structure Bridge where
  globalConfig : GlobalConfig
  sessionManager : SessionManager
  routingTable : RoutingTable
  mgwcpConnections : ClientId → Option MGWCPConnection
  senders : ClientId → ReliableSender
  componentIdToTransportId : String → Option ClientId
  nextMgwcpConnectionId : Nat
  transportHandlers : String → Option TransportHandler
  /-- The identity of the next input queue that is created. -/
  nextQueue : QueueId
  omConnected : Bool
  /-- The clients of `mgwcp_server_`. -/
  serverClients : List ClientId
  /-- An exception has left the OM thread and ended the process. -/
  terminated : Bool

namespace Bridge

variable (b : Bridge)

/-- The Bridge when its servers run: registered, connected to the OM, no gateway yet. -/
def init (globalConfig : GlobalConfig) : Bridge where
  globalConfig := globalConfig
  sessionManager := .empty
  routingTable := .empty
  mgwcpConnections := fun _ => none
  senders := fun _ => {}
  componentIdToTransportId := fun _ => none
  nextMgwcpConnectionId := 1
  transportHandlers := fun _ => none
  nextQueue := 0
  omConnected := true
  serverClients := []
  terminated := false

def putConnection (t : ClientId) (conn : MGWCPConnection) : Bridge :=
  { b with mgwcpConnections := Function.update b.mgwcpConnections t (some conn) }

/-! ## Sending -/

/-- `send_reliable_message` of the connection of client `t`. -/
def sendReliableMessage (senders : ClientId → ReliableSender) (t : ClientId) (message : Json) (env : Env) :
    (ClientId → ReliableSender) × List Output :=
  if t ∈ b.serverClients then
    let sent := (senders t).sendReliableMessage message env.now (env.sendOk t)
    (Function.update senders t sent.1, [.reliable t message, .sendTo t sent.2 (env.sendOk t sent.2)])
  else (senders, [.reliable t message])

/-- The two lookups before a message goes to the gateway with a component id. -/
def forwardTo (senders : ClientId → ReliableSender) (componentId : String) (message : Json) (env : Env) :
    (ClientId → ReliableSender) × List Output :=
  match b.componentIdToTransportId componentId with
  | none => (senders, [])
  | some t =>
    match b.mgwcpConnections t with
    | none => (senders, [])
    | some _ => b.sendReliableMessage senders t message env

def sendAck (t : ClientId) (componentId : String) (ackSequenceNumber : Nat) (env : Env) : List Output :=
  if t ∈ b.serverClients then
    let message := ackMessage componentId ackSequenceNumber
    [.sendTo t message (env.sendOk t message)]
  else []

/-- Whether the OM is still connected afterwards, and what was sent. -/
def sendOmMessage (message : Json) (env : Env) : Bool × List Output :=
  if b.omConnected then if env.omSendOk then (true, [.om message]) else (false, []) else (false, [])

/-! ## Data plane -/

/-- `create_transport_handler_for_mgwdp`; `none` where the constructor of the handler throws. -/
def createTransportHandlerForMgwdp (mgwcpComponentId host : String) (port : Int) : Option (Bridge × Bool) :=
  match b.transportHandlers mgwcpComponentId with
  | some _ => some (b, true)
  | none =>
    (TransportHandler.create mgwcpComponentId host port b.nextQueue default).map fun handler =>
      ({ b with
          transportHandlers := Function.update b.transportHandlers mgwcpComponentId (some handler.start)
          nextQueue := b.nextQueue + 1 }, true)

def establishMgwcpDataPlaneConnection (mgwcpComponentId dpHost : String) (dpPort : Int) : Option (Bridge × Bool) :=
  b.createTransportHandlerForMgwdp mgwcpComponentId dpHost dpPort

/-! ## Messages of gateways -/

/-- `forward_message_to_om`; `none` where a field of the payload does not convert. -/
def forwardMessageToOm (mgwcpComponentId : String) (message : Json) (env : Env) : Option (Bridge × List Output) :=
  let sessionManager : Option SessionManager :=
    if message.contains "message_code" && (message.get "message_code").eqInt 100 then
      let payload := message.get "payload"
      if payload.contains "request_id" && payload.contains "task_id" && payload.contains "task_name" then
        match (payload.get "request_id").asString, (payload.get "task_id").asUInt32,
            (payload.get "task_name").asString with
        | some requestId, some taskId, some taskName =>
          some (b.sessionManager.createSession requestId mgwcpComponentId taskId taskName b.globalConfig env.now).1
        | _, _, _ => none
      else some b.sessionManager
    else some b.sessionManager
  sessionManager.map fun sessionManager =>
    let forward :=
      if message.contains "bridge_component_id" then message
      else message.set "bridge_component_id" (.str bridgeComponentId)
    let sent := b.sendOmMessage forward env
    ({ b with sessionManager := sessionManager, omConnected := sent.1 }, sent.2)

/-- An exception ends the thread of connection `t`. -/
def endThread (t : ClientId) (conn : MGWCPConnection) : Bridge := b.putConnection t { conn with threadAlive := false }

/-- The outcome of a handler that may throw. -/
def orEndThread (t : ClientId) (conn : MGWCPConnection) (result : Option (Bridge × List Output)) :
    Bridge × List Output :=
  result.getD (b.endThread t conn, [])

def handleDpInfo (t : ClientId) (conn : MGWCPConnection) (payload : Json) (env : Env) : Bridge × List Output :=
  if conn.state ≠ .connecting then (b, [])
  else if !payload.contains "dp_host" || !payload.contains "dp_port" then (b, [])
  else
    match (payload.get "dp_host").asString, (payload.get "dp_port").asInt with
    | some requestedHost, some dpPort =>
      let dpHost := if requestedHost = "0.0.0.0" then conn.clientIp else requestedHost
      let conn := { conn with dpHost := dpHost, dpPort := dpPort }
      match b.establishMgwcpDataPlaneConnection conn.componentId dpHost dpPort with
      | none => (b.endThread t conn, [])
      | some (b', true) =>
        let sent := b.sendReliableMessage b.senders t dpConnectionConfirmedMessage env
        ({ b'.putConnection t { conn with state := .operational } with senders := sent.1 }, sent.2)
      | some (b', false) => (b'.putConnection t { conn with state := .waitingForDp }, [])
    | _, _ => (b.endThread t conn, [])

def handleOffloadRequest (t : ClientId) (conn : MGWCPConnection) (payload : Json) (env : Env) : Bridge × List Output :=
  if conn.state ≠ .operational then (b, [])
  else if !payload.contains "request_id" || !payload.contains "task_id" || !payload.contains "task_name" then (b, [])
  else
    match (payload.get "request_id").asString, (payload.get "task_id").asUInt32, (payload.get "task_name").asString with
    | some _, some _, some _ =>
      b.orEndThread t conn
        (b.forwardMessageToOm conn.componentId (forwardMessage conn.componentId 100 "OFFLOAD_REQUEST" payload) env)
    | _, _, _ => (b.endThread t conn, [])

def handleSessionKeepalive (t : ClientId) (conn : MGWCPConnection) (payload : Json) (env : Env) :
    Bridge × List Output :=
  if !payload.contains "request_id" then (b, [])
  else
    match (payload.get "request_id").asString with
    | none => (b.endThread t conn, [])
    | some requestId =>
      let b := { b with sessionManager := b.sessionManager.updateKeepalive requestId env.now }
      b.orEndThread t conn
        (b.forwardMessageToOm conn.componentId (forwardMessage conn.componentId 101 "SESSION_KEEPALIVE" payload) env)

def handleSessionTerminateRequest (t : ClientId) (conn : MGWCPConnection) (payload : Json) (env : Env) :
    Bridge × List Output :=
  if !payload.contains "request_id" then (b, [])
  else
    match (payload.get "request_id").asString with
    | none => (b.endThread t conn, [])
    | some _ =>
      b.orEndThread t conn
        (b.forwardMessageToOm conn.componentId
          (forwardMessage conn.componentId 102 "SESSION_TERMINATE_REQUEST" payload) env)

def handleAck (t : ClientId) (conn : MGWCPConnection) (payload : Json) : Bridge :=
  match (b.senders t).handleAck payload with
  | none => b.endThread t conn
  | some sender => { b with senders := Function.update b.senders t sender }

/-- Bind the component id to the connection and register it. -/
def identify (t : ClientId) (conn : MGWCPConnection) (componentId : String) : Bridge :=
  { b.putConnection t { conn with componentId := componentId } with
    componentIdToTransportId := Function.update b.componentIdToTransportId componentId (some t) }

/-- The switch on the message code; unknown codes are logged. -/
def dispatch (t : ClientId) (conn : MGWCPConnection) (code : Int) (payload : Json) (env : Env) :
    Bridge × List Output :=
  if code = 103 then b.handleDpInfo t conn payload env
  else if code = 100 then b.handleOffloadRequest t conn payload env
  else if code = 101 then b.handleSessionKeepalive t conn payload env
  else if code = 102 then b.handleSessionTerminateRequest t conn payload env
  else (b, [])

def handleReceivedMessage (t : ClientId) (conn : MGWCPConnection) (message : Json) (env : Env) : Bridge × List Output :=
  match conn.receive message with
  | .ignored => (b, [])
  | .thrown => (b.endThread t conn, [])
  | .ack payload => (b.handleAck t conn payload, [])
  | .accepted componentId seqNum code payload =>
    let identified := if conn.componentId = "" then b.identify t conn componentId else b
    let handled := identified.dispatch t { conn with componentId := componentId } code payload env
    (handled.1, b.sendAck t componentId seqNum env ++ handled.2)

/-! ## Connections -/

/-- `handle_new_mgwcp_connection`: the connection is stored and its thread started. -/
def handleNewMgwcpConnection (t : ClientId) (clientIp : String) : Bridge :=
  let started := decide (t ∈ b.serverClients)
  { b.putConnection t
      { connectionId := b.nextMgwcpConnectionId, clientIp := clientIp, running := started, threadAlive := started } with
    senders := Function.update b.senders t {}
    nextMgwcpConnectionId := b.nextMgwcpConnectionId + 1 }

/-- What `MGWCPConnection::stop` and `handle_mgwcp_disconnection` do behind the call of `disconnect_client`: the
sessions of the gateway, the connection and the entry of its component id go. -/
def closeMgwcpConnection (t : ClientId) : Bridge :=
  match b.mgwcpConnections t with
  | none => b
  | some conn =>
    if conn.componentId = "" then { b with mgwcpConnections := Function.update b.mgwcpConnections t none }
    else
      { b with
        sessionManager := b.sessionManager.cleanupSessionsForMgwcp conn.componentId
        mgwcpConnections := Function.update b.mgwcpConnections t none
        componentIdToTransportId := Function.update b.componentIdToTransportId conn.componentId none }

/-- `handle_mgwcp_disconnection`, and whether it returns. It holds `mgwcp_connections_mutex_` when `stop` disconnects a
client that is still connected, and the callback of that, which is the same function, waits for the mutex for ever. -/
def handleMgwcpDisconnection (t : ClientId) : Bridge × Bool :=
  match b.mgwcpConnections t with
  | none => (b, true)
  | some conn =>
    let stopped := b.putConnection t { conn with running := false }
    if t ∈ b.serverClients then (stopped, false) else (stopped.closeMgwcpConnection t, true)

/-! ## Answers of the OM -/

/-- The request id of an answer, a string or an integer. -/
def requestIdOf (payload : Json) : Option String :=
  match payload.get "request_id" with
  | .str s => some s
  | .int n => some (toString (n.bmod (2 ^ 64)))
  | _ => none

/-- `static_cast<uint8_t>` of both numbers of a component id. -/
def routingKeyOf (parts : Int × Int) (msgType : UInt8) : RoutingKey :=
  constructRoutingKey (UInt8.ofInt parts.1) (UInt8.ofInt parts.2) msgType

/-- `create_routing_rules_for_session`, on the sessions and the table it changes. -/
def createRoutingRulesForSession (sessionManager : SessionManager) (routingTable : RoutingTable)
    (transportHandlers : String → Option TransportHandler) (requestId : String) : SessionManager × RoutingTable :=
  match sessionManager.getSession requestId with
  | none => (sessionManager, routingTable)
  | some session =>
    match componentIdParts session.mgwcpComponentId with
    | none => (sessionManager, routingTable)
    | some source =>
      match transportHandlers session.mgwcpComponentId, transportHandlers session.assignedMecId with
      | some mgwcpHandler, some mecHandler =>
        let routingTable := session.inputMessageTypes.foldl
          (fun table msgType => table.addRoute (routingKeyOf source msgType) (some mecHandler.inputQueue)) routingTable
        if session.assignedMecId = "" then (sessionManager.setRoutingRulesCreated requestId true, routingTable)
        else
          match componentIdParts session.assignedMecId with
          | none => (sessionManager, routingTable)
          | some mec =>
            (sessionManager.setRoutingRulesCreated requestId true,
              session.outputMessageTypes.foldl
                (fun table msgType => table.addRoute (routingKeyOf mec msgType) (some mgwcpHandler.inputQueue))
                routingTable)
      | _, _ => (sessionManager, routingTable)

def removeRoutingRulesForSession (sessionManager : SessionManager) (routingTable : RoutingTable)
    (requestId : String) : SessionManager × RoutingTable :=
  match sessionManager.getSession requestId with
  | none => (sessionManager, routingTable)
  | some session =>
    match componentIdParts session.mgwcpComponentId with
    | none => (sessionManager, routingTable)
    | some source =>
      let routingTable := session.inputMessageTypes.foldl
        (fun table msgType => table.removeRoutesForKey (routingKeyOf source msgType)) routingTable
      if session.assignedMecId = "" then (sessionManager.setRoutingRulesCreated requestId false, routingTable)
      else
        match splitAtColon session.assignedMecId.toList with
        | none => (sessionManager.setRoutingRulesCreated requestId false, routingTable)
        | some _ =>
          match componentIdParts session.assignedMecId with
          | none => (sessionManager, routingTable)
          | some mec =>
            (sessionManager.setRoutingRulesCreated requestId false,
              session.outputMessageTypes.foldl
                (fun table msgType => table.removeRoutesForKey (routingKeyOf mec msgType)) routingTable)

/-- The MEC that the answer assigns, if it names one by a string. -/
def assignedMecIn (payload : Json) : Option String :=
  match payload.get "assigned_mec_id" with
  | .str mecId => some mecId
  | _ => none

/-- The sessions and the table after an approval, before it is forwarded. -/
def approveSession (requestId : String) (payload : Json) : SessionManager × RoutingTable :=
  let sessionManager :=
    match assignedMecIn payload with
    | some mecId => b.sessionManager.setAssignedMec requestId mecId
    | none => b.sessionManager
  createRoutingRulesForSession sessionManager b.routingTable b.transportHandlers requestId

def handleSessionApproved (omResponse : Json) (env : Env) : Bridge × List Output :=
  if !omResponse.contains "payload" || !(omResponse.get "payload").contains "request_id" then (b, [])
  else
    let payload := omResponse.get "payload"
    match requestIdOf payload with
    | none => (b, [])
    | some requestId =>
      let approved := b.approveSession requestId payload
      match approved.1.getSession requestId with
      | none => ({ b with sessionManager := approved.1, routingTable := approved.2 }, [])
      | some session =>
        let message := sessionApprovedMessage payload
        let vhc := b.forwardTo b.senders session.mgwcpComponentId message env
        let mec :=
          if session.assignedMecId = "" then (vhc.1, []) else b.forwardTo vhc.1 session.assignedMecId message env
        ({ b with sessionManager := approved.1, routingTable := approved.2, senders := mec.1 }, vhc.2 ++ mec.2)

def handleSessionDenied (omResponse : Json) (env : Env) : Bridge × List Output :=
  if !omResponse.contains "payload" || !(omResponse.get "payload").contains "request_id" then (b, [])
  else
    let payload := omResponse.get "payload"
    match requestIdOf payload with
    | none => (b, [])
    | some requestId =>
      match payload.valueString "reason_description" "No reason provided" with
      | none => ({ b with terminated := true }, [])
      | some reason =>
        let sessionManager := b.sessionManager.removeSession requestId
        -- the addressee is looked up in what is left after the removal
        match sessionManager.getSession requestId with
        | none => ({ b with sessionManager := sessionManager }, [])
        | some session =>
          let sent := b.forwardTo b.senders session.mgwcpComponentId (sessionDeniedMessage requestId reason) env
          ({ b with sessionManager := sessionManager, senders := sent.1 }, sent.2)

def handleOmMessage (message : Json) (env : Env) : Bridge × List Output :=
  if !message.contains "message_code" || !message.contains "payload" then (b, [])
  else
    match (message.get "message_code").asInt with
    | none => ({ b with terminated := true }, [])
    | some code =>
      if code = 200 then b.handleSessionApproved message env
      else if code = 201 then b.handleSessionDenied message env
      else (b, [])

/-! ## Maintenance -/

/-- `SESSION_TIMEOUT_`, in nanoseconds. -/
def sessionTimeout : Nat := 20 * 10 ^ 9

def checkSessionTimeouts : Bridge :=
  (b.sessionManager.findExpiredSessions sessionTimeout).foldl (fun b requestId =>
    let removed := removeRoutingRulesForSession b.sessionManager b.routingTable requestId
    { b with sessionManager := removed.1.removeSession requestId, routingTable := removed.2 }) b

end Bridge

end EdgeOffloading
