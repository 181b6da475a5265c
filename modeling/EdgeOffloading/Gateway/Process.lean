import EdgeOffloading.Gateway.Controller

/-!
# The gateway process

The threads of a gateway, interleaved: the control thread with its state machine, the thread of the ROS services, the
threads of the clients of the Discovery Service and of the Bridge, and the thread that accepts data-plane connections.

A step of a thread ends where another thread can see what it did, so the control thread is in between when it has
started a thread or sent a message and not stored the next state. What the calls of a step return is in `Outcomes`.
-/

namespace EdgeOffloading

/-- Where the control thread is. -/
inductive ControlPoint where
  /-- Before `state_.load()`. -/
  | loop
  | loaded (state : ControllerState)
  /-- `INITIALIZING`: the thread that accepts connections runs, the next state is not stored. -/
  | listening
  /-- `CONNECTING_TO_BRIDGE`: the client runs. -/
  | connected
  /-- `CONNECTING_TO_BRIDGE`: DP_INFO is sent, the next state is not stored. -/
  | dpInfoSent
  /-- `OPERATIONAL`: the loop over the offloading requests, and one that is off the queue. -/
  | offloads
  | taken (request : OffloadingRequestData)
  | numbered (requestId : String) (request : OffloadingRequestData)
  | recorded (requestId : String) (request : OffloadingRequestData)
  /-- `OPERATIONAL`: the loop over the termination requests, and one that is off the queue. -/
  | terminations
  | terminating (requestId : String)
  | terminateSent (requestId : String)
  | exited
  deriving DecidableEq, Repr

/-- The request that the control thread is dealing with. -/
def ControlPoint.request : ControlPoint → Option OffloadingRequestData
  | .taken request | .numbered _ request | .recorded _ request => some request
  | _ => none

/-- What the calls of a step of the control thread return. -/
structure Outcomes where
  /-- What `load_local_config` reads. -/
  localConfig : Option (List (String × TaskDetails)) := none
  /-- Whether a transport or client starts, or a peer is reached. -/
  succeeds : Bool := true
  sendResult : BridgeCpClient.SendResult := .success
  /-- The keys of the sessions in the order of the map, with the outcomes of their keepalives. -/
  keepalives : List (String × BridgeCpClient.SendResult) := []
  now : Nat := 0

structure GatewayProcess where
  controller : GatewayController
  point : ControlPoint := .loop
  /-- The thread that accepts connections runs. -/
  accepting : Bool := false
  /-- It has accepted a connection in a P2P mode and not yet called `on_dp_confirmed`. -/
  accepted : Bool := false
  /-- The client of the Discovery Service runs. -/
  discovery : Bool := false
  /-- The thread of the client of the Bridge runs. -/
  receiving : Bool := false
  /-- A call of `request_offloading` has pushed its request and not yet drawn the id that it returns. -/
  answering : Bool := false

namespace GatewayController

variable (c : GatewayController)

/-- `on_discovery_success` with the tasks of the configuration; `none` where it is empty or not parsed. -/
def onDiscoverySuccess (config : Option (List (String × TaskDetails))) : GatewayController :=
  if c.state = .discovering then
    if c.operationMode = .p2pDs then { c with state := .waitingForDpConnection }
    else
      match config with
      | none => { c with state := .failed }
      | some tasks => { c with taskDatabase := tasks, state := .connectingToBridge }
  else c

/-- `keepalive_interval`, in nanoseconds. -/
def keepaliveInterval : Nat := 15 * 10 ^ 9

/-- The keepalives of the sessions, over the rest of the map. -/
def sendKeepalives (now : Nat) :
    GatewayController → List (String × BridgeCpClient.SendResult) → GatewayController × List Json
  | c, [] => (c, [])
  | c, (requestId, result) :: rest =>
    match c.activeSessions requestId with
    | none => sendKeepalives now c rest
    | some session =>
      if keepaliveInterval ≤ now - session.lastKeepaliveSent then
        let sent := c.sendReliable (Protocol.sessionKeepalive c.componentId requestId) result
        let sessions := Function.update sent.1.activeSessions requestId (some { session with lastKeepaliveSent := now })
        let others := sendKeepalives now { sent.1 with activeSessions := sessions } rest
        (others.1, sent.2 ++ others.2)
      else sendKeepalives now c rest

/-- The predicate of the wait in `OPERATIONAL`. -/
def hasWork : Bool :=
  !c.terminationRequestQueue.isEmpty || decide (c.componentType = .vhc) && !c.offloadingRequestQueue.isEmpty

end GatewayController

namespace GatewayProcess

variable (p : GatewayProcess)

/-! ## The control thread -/

def store (state : ControllerState) : GatewayProcess :=
  { p with controller := { p.controller with state := state }, point := .loop }

/-- The server transport of `INITIALIZING`. -/
def listen (o : Outcomes) : GatewayProcess :=
  if o.succeeds then { p with accepting := true, point := .listening } else { p with point := .loop }

/-- The case `INITIALIZING`. -/
def controlInitializing (o : Outcomes) : GatewayProcess :=
  if p.controller.operationMode = .networked then p.listen o
  else
    match o.localConfig with
    | none => p.store .failed
    | some tasks =>
      let p := { p with controller := { p.controller with taskDatabase := tasks } }
      if p.controller.componentType = .mec then p.listen o
      else if p.controller.operationMode = .p2pDs then p.store .discovering
      else p.store .waitingForDpConnection

/-- The case `WAITING_FOR_DP_CONNECTION`: a VHC connects to its peer. -/
def controlWaiting (o : Outcomes) : GatewayProcess :=
  if p.controller.operationMode ≠ .networked ∧ p.controller.componentType = .vhc ∧ o.succeeds = true then
    { p with controller := GatewayController.orTerminate (p.controller.onDpConfirmed o.now), point := .loop }
  else { p with point := .loop }

/-- The case `OPERATIONAL` up to the loops over the queues; a wait without work ends with the keepalives. -/
def controlOperational (o : Outcomes) : GatewayProcess × List Json :=
  if p.controller.hasWork then ({ p with point := .offloads }, [])
  else if p.controller.operationMode = .networked ∧ p.controller.bridgeCpClient.isSome = true then
    let sent := p.controller.sendKeepalives o.now o.keepalives
    ({ p with controller := sent.1, point := .loop }, sent.2)
  else ({ p with point := .loop }, [])

/-- Takes the next offloading request off the queue. -/
def takeOffload : GatewayProcess :=
  match p.controller.offloadingRequestQueue with
  | request :: rest =>
    if p.controller.componentType = .vhc then
      { p with controller := { p.controller with offloadingRequestQueue := rest }, point := .taken request }
    else { p with point := .terminations }
  | [] => { p with point := .terminations }

/-- Takes the next termination request off the queue. -/
def takeTermination : GatewayProcess :=
  match p.controller.terminationRequestQueue with
  | requestId :: rest =>
    { p with controller := { p.controller with terminationRequestQueue := rest }, point := .terminating requestId }
  | [] => { p with point := .loop }

/-- A step of the control thread and the messages that it sends. -/
def control (o : Outcomes) : GatewayProcess × List Json :=
  let c := p.controller
  match p.point with
  | .loop => ({ p with point := .loaded c.state }, [])
  | .loaded .initializing => (p.controlInitializing o, [])
  | .listening =>
    (p.store (if c.operationMode = .p2p then .waitingForDpConnection else .discovering), [])
  | .loaded .discovering => ({ p with discovery := o.succeeds, point := .loop }, [])
  | .loaded .connectingToBridge =>
    ({ p with controller := { c with bridgeCpClient := some {} }, receiving := o.succeeds,
              point := if o.succeeds then .connected else .loop }, [])
  | .connected =>
    let sent := c.sendReliable (Protocol.dpInfo c.componentId "0.0.0.0" c.dataPlaneListenPort) o.sendResult
    ({ p with controller := sent.1, point := .dpInfoSent }, sent.2)
  | .dpInfoSent => (p.store .waitingForDpConnection, [])
  | .loaded .waitingForDpConnection => (p.controlWaiting o, [])
  | .loaded .operational => p.controlOperational o
  | .offloads => (p.takeOffload, [])
  | .taken request =>
    ({ p with controller := c.drawRequestId.1, point := .numbered c.drawRequestId.2 request }, [])
  | .numbered requestId request =>
    ({ p with controller := c.insertSession requestId request.taskId o.now, point := .recorded requestId request }, [])
  | .recorded requestId request =>
    let sent := c.sendOffloadRequest requestId request o.sendResult
    ({ p with controller := sent.1, point := .offloads }, sent.2)
  | .terminations => (p.takeTermination, [])
  | .terminating requestId =>
    let sent := c.sendReliable (Protocol.sessionTerminateRequest c.componentId requestId) o.sendResult
    ({ p with controller := sent.1, point := .terminateSent requestId }, sent.2)
  | .terminateSent requestId =>
    ({ p with controller := c.handleSessionTeardown requestId, point := .terminations }, [])
  | .loaded .failed => ({ p with point := .exited }, [])
  | .exited => (p, [])

/-! ## All threads -/

inductive Event where
  | control (o : Outcomes)
  | discovered (config : Option (List (String × TaskDetails)))
  | requestOffloading (request : OffloadingRequestData)
  /-- The call of `request_offloading` returns. -/
  | answer
  | terminateOffloading (requestId : String)
  | accept
  | confirmAccepted (now : Nat)
  | receive (message : Json) (now : Nat)

/-- A step of one thread and the messages that it sends. The services run one call at a time. -/
def step (e : Event) : GatewayProcess × List Json :=
  let c := p.controller
  if c.terminated then (p, [])
  else
    match e with
    | .control o => p.control o
    | .discovered config =>
      (if p.discovery then { p with controller := c.onDiscoverySuccess config } else p, [])
    | .requestOffloading request =>
      if c.componentType = .vhc ∧ p.answering = false then
        match c.queueOffloadingRequest request with
        | none => (p, [])
        | some c' => ({ p with controller := c', answering := true }, [])
      else (p, [])
    | .answer => (if p.answering then { p with controller := c.drawRequestId.1, answering := false } else p, [])
    | .terminateOffloading requestId =>
      if c.componentType = .vhc ∧ p.answering = false then
        match c.queueTerminationRequest requestId with
        | none => (p, [])
        | some c' => ({ p with controller := c' }, [])
      else (p, [])
    | .accept =>
      (if p.accepting = true ∧ c.operationMode ≠ .networked then { p with accepted := true } else p, [])
    | .confirmAccepted now =>
      (if p.accepted then
        { p with controller := GatewayController.orTerminate (c.onDpConfirmed now), accepted := false }
      else p, [])
    | .receive message now =>
      if p.receiving then
        let received := c.handleReceivedMessage message now
        ({ p with controller := received.1 }, received.2)
      else (p, [])

end GatewayProcess

end EdgeOffloading
