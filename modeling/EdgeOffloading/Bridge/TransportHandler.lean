import EdgeOffloading.Bridge.RoutingTable
import EdgeOffloading.Lib.Framing

/-!
# The data-plane worker

A `TransportHandler` keeps the TCP connection to the data plane of one gateway. Its thread (`run_internal`) connects,
receives into `receiveBuffer` (the first `receive_buffer_watermark_` bytes of the array), takes complete messages off
the front and enqueues each to the queues its routing key has in the table, and ends for good after
`maxConnectCycles` failed connection cycles in a row.

* `processBuffer_eq_drain`: the messages taken off are those that `Framing.drain` finds with `headerScanner`.
-/

namespace EdgeOffloading

structure TransportHandlerConfig where
  maxReceiveBufferSize : Nat := 8192
  maxConnectCycles : Nat := 2
  /-- The constructor throws on an empty buffer. -/
  size_pos : 0 < maxReceiveBufferSize := by decide
  /-- `receive_data` returns the number of bytes as an `int`. -/
  size_lt : maxReceiveBufferSize < 2 ^ 31 := by decide

/-- The default arguments of the constructor. -/
instance : Inhabited TransportHandlerConfig := ⟨{}⟩

structure TransportHandler where
  config : TransportHandlerConfig
  gatewayId : String
  targetIp : String
  targetPort : Int
  inputQueue : QueueId
  receiveBuffer : List UInt8
  shutdownRequested : Bool
  connectedStatus : Bool
  /-- `tcp_client_->is_connected()`. -/
  tcpConnected : Bool
  failedConnectCycles : Nat
  /-- The handler thread has been started and not joined. -/
  threadJoinable : Bool
  /-- The handler thread is inside the loop of `run_internal`. -/
  threadRunning : Bool

/-- A message taken off the buffer with the queues it is enqueued to, in order. -/
structure RoutedMessage where
  routingKey : RoutingKey
  data : List UInt8
  destinations : List QueueId
  deriving DecidableEq, Repr

/-- What `receive_data` returns: the bytes it wrote (none when the peer closed), or an error. -/
inductive Received where
  | bytes (chunk : List UInt8)
  | error
  deriving DecidableEq, Repr

/-! ## Taking messages off the buffer -/

/-- The inner loop of `handle_incoming_data`. -/
def processLoop (table : RoutingTable) : Nat → List UInt8 → List RoutedMessage × List UInt8
  | 0, buffer => ([], buffer)
  | fuel + 1, buffer =>
    if buffer.length < minHeaderLen then ([], buffer)
    else
      match parseMessageHeader buffer with
      | none => ([], [])
      | some headerInfo =>
        let total := headerInfo.totalMessageLength
        if total ≤ buffer.length then
          let rest := processLoop table fuel (buffer.drop total)
          (⟨headerInfo.routingKey, buffer.take total, table.getDestinations headerInfo.routingKey⟩ :: rest.1, rest.2)
        else ([], buffer)

/-- Every message is at least a header long, so the loop ends within `buffer.length` rounds. -/
def processBuffer (table : RoutingTable) (buffer : List UInt8) : List RoutedMessage × List UInt8 :=
  processLoop table buffer.length buffer

/-- The verdict of the loop on the front of the buffer. -/
def scanHeader (buffer : List UInt8) : Framing.Verdict :=
  if buffer.length < minHeaderLen then .more
  else
    match parseMessageHeader buffer with
    | none => .bad
    | some headerInfo => .frame headerInfo.totalMessageLength

def headerScanner : Framing.Scanner UInt8 where
  scan := scanHeader
  nil := rfl
  pos := by
    intro buf h
    unfold scanHeader at h
    split_ifs at h
    cases hp : parseMessageHeader buf with
    | none => rw [hp] at h; cases h
    | some info =>
        have := totalMessageLength_pos hp
        rw [hp] at h
        simp only [Framing.Verdict.frame.injEq] at h
        rw [h] at this
        simp [minHeaderLen] at this

@[simp] theorem headerScanner_scan (buffer : List UInt8) : headerScanner.scan buffer = scanHeader buffer := rfl

theorem processLoop_eq_drainLoop (table : RoutingTable) (fuel : Nat) (buffer : List UInt8) :
    ((processLoop table fuel buffer).1.map RoutedMessage.data, (processLoop table fuel buffer).2) =
      Framing.drainLoop headerScanner fuel buffer := by
  induction fuel generalizing buffer with
  | zero => rfl
  | succ fuel ih =>
      unfold processLoop Framing.drainLoop
      rw [headerScanner_scan, scanHeader]
      by_cases hlen : buffer.length < minHeaderLen
      · rw [if_pos hlen, if_pos hlen]; rfl
      · rw [if_neg hlen, if_neg hlen]
        cases hp : parseMessageHeader buffer with
        | none => rfl
        | some info =>
            dsimp only
            by_cases hle : info.totalMessageLength ≤ buffer.length
            · rw [if_pos hle, if_pos hle, ← ih]
              rfl
            · rw [if_neg hle, if_neg hle]; rfl

theorem processBuffer_eq_drain (table : RoutingTable) (buffer : List UInt8) :
    ((processBuffer table buffer).1.map RoutedMessage.data, (processBuffer table buffer).2) =
      Framing.drain headerScanner buffer :=
  processLoop_eq_drainLoop table buffer.length buffer

theorem destinations_of_mem_processLoop (table : RoutingTable) (fuel : Nat) (buffer : List UInt8) {msg : RoutedMessage}
    (h : msg ∈ (processLoop table fuel buffer).1) : msg.destinations = table.getDestinations msg.routingKey := by
  induction fuel generalizing buffer with
  | zero => simp [processLoop] at h
  | succ fuel ih =>
      unfold processLoop at h
      split_ifs at h with hlen
      · simp at h
      · cases hp : parseMessageHeader buffer with
        | none => rw [hp] at h; simp at h
        | some info =>
            rw [hp] at h
            dsimp only at h
            split_ifs at h with hle
            · rcases List.mem_cons.mp h with rfl | h
              · rfl
              · exact ih _ h
            · simp at h

namespace TransportHandler

/-! ## Construction and the worker's loop -/

/-- The constructor; `none` where it throws `std::invalid_argument`. -/
def create (gatewayId targetIp : String) (targetPort : Int) (inputQueue : QueueId)
    (config : TransportHandlerConfig) : Option TransportHandler :=
  if gatewayId = "" then none
  else if targetIp = "" then none
  else if targetPort ≤ 0 ∨ 65535 < targetPort then none
  else some
    { config := config, gatewayId := gatewayId, targetIp := targetIp, targetPort := targetPort,
      inputQueue := inputQueue, receiveBuffer := [], shutdownRequested := false, connectedStatus := false,
      tcpConnected := false, failedConnectCycles := 0, threadJoinable := false, threadRunning := false }

variable (h : TransportHandler)

/-- Spawn the thread, which resets the watermark first. -/
def start : TransportHandler :=
  if h.threadJoinable then h
  else { h with shutdownRequested := false, connectedStatus := false, receiveBuffer := [], threadJoinable := true,
                threadRunning := true }

/-- The worker has left its loop for good. -/
def gaveUp : Bool := h.threadJoinable && !h.threadRunning

/-- The part of an iteration that runs while not connected: one `attempt_connection` and its outcome. -/
def connectCycle (connected : Bool) : TransportHandler :=
  if connected then { h with connectedStatus := true, tcpConnected := true, failedConnectCycles := 0 }
  else if h.config.maxConnectCycles ≤ h.failedConnectCycles + 1 then
    { h with failedConnectCycles := h.failedConnectCycles + 1, connectedStatus := false, tcpConnected := false,
             threadRunning := false }
  else { h with failedConnectCycles := h.failedConnectCycles + 1 }

/-- The connection is closed on our side and the thread goes back to connecting. -/
def dropConnection : TransportHandler := { h with connectedStatus := false, tcpConnected := false }

def freeSpace : Nat := h.config.maxReceiveBufferSize - h.receiveBuffer.length

def handleIncomingData (table : RoutingTable) (received : Received) : TransportHandler × List RoutedMessage :=
  if !h.tcpConnected then ({ h with connectedStatus := false }, [])
  else if h.freeSpace = 0 then (h, [])
  else
    match received with
    | .error => (h.dropConnection, [])
    | .bytes [] => (h.dropConnection, [])
    | .bytes chunk =>
      -- the transport never writes more than the space it was given
      let buffer := h.receiveBuffer ++ chunk.take h.freeSpace
      if h.shutdownRequested then ({ h with receiveBuffer := buffer }, [])
      else
        let processed := processBuffer table buffer
        ({ h with receiveBuffer := processed.2 }, processed.1)

/-- What can happen to the worker: a connection cycle ends, the TCP layer loses the connection, the loop notices that
it is lost or fails to send, data arrives. -/
inductive WorkerEvent where
  | connectCycle (connected : Bool)
  | tcpLost
  | noticeLost
  | incoming (received : Received)
  deriving DecidableEq, Repr

def worker (table : RoutingTable) : WorkerEvent → TransportHandler × List RoutedMessage
  | .connectCycle connected =>
    if h.threadRunning && !h.shutdownRequested && !h.connectedStatus then (h.connectCycle connected, []) else (h, [])
  | .tcpLost => ({ h with tcpConnected := false }, [])
  | .noticeLost =>
    if h.threadRunning && !h.shutdownRequested && h.connectedStatus then (h.dropConnection, []) else (h, [])
  | .incoming received =>
    if h.threadRunning && !h.shutdownRequested && h.connectedStatus then h.handleIncomingData table received
    else (h, [])

/-- No worker event moves the handler to another queue or endpoint. -/
structure SameEndpoint (h h' : TransportHandler) : Prop where
  queue : h'.inputQueue = h.inputQueue
  ip : h'.targetIp = h.targetIp
  port : h'.targetPort = h.targetPort
  gateway : h'.gatewayId = h.gatewayId
  joinable : h'.threadJoinable = h.threadJoinable

theorem sameEndpoint_connectCycle (connected : Bool) : SameEndpoint h (h.connectCycle connected) := by
  unfold connectCycle
  split_ifs <;> exact ⟨rfl, rfl, rfl, rfl, rfl⟩

theorem sameEndpoint_handleIncomingData (table : RoutingTable) (received : Received) :
    SameEndpoint h (h.handleIncomingData table received).1 := by
  unfold handleIncomingData dropConnection
  split_ifs
  · exact ⟨rfl, rfl, rfl, rfl, rfl⟩
  · exact ⟨rfl, rfl, rfl, rfl, rfl⟩
  · rcases received with (_ | ⟨b, chunk⟩) | _ <;> exact ⟨rfl, rfl, rfl, rfl, rfl⟩
  · rcases received with (_ | ⟨b, chunk⟩) | _ <;> exact ⟨rfl, rfl, rfl, rfl, rfl⟩

theorem sameEndpoint_worker (table : RoutingTable) (e : WorkerEvent) : SameEndpoint h (h.worker table e).1 := by
  cases e with
  | connectCycle connected =>
      simp only [worker]
      split_ifs
      · exact h.sameEndpoint_connectCycle connected
      · exact ⟨rfl, rfl, rfl, rfl, rfl⟩
  | tcpLost => exact ⟨rfl, rfl, rfl, rfl, rfl⟩
  | noticeLost =>
      simp only [worker]
      split_ifs <;> exact ⟨rfl, rfl, rfl, rfl, rfl⟩
  | incoming received =>
      simp only [worker]
      split_ifs
      · exact h.sameEndpoint_handleIncomingData table received
      · exact ⟨rfl, rfl, rfl, rfl, rfl⟩

theorem destinations_of_mem_handleIncomingData (table : RoutingTable) (received : Received) {msg : RoutedMessage}
    (hmsg : msg ∈ (h.handleIncomingData table received).2) :
    msg.destinations = table.getDestinations msg.routingKey := by
  unfold handleIncomingData at hmsg
  split_ifs at hmsg
  · simp at hmsg
  · simp at hmsg
  · rcases received with (_ | ⟨b, chunk⟩) | _ <;> simp at hmsg
  · rcases received with (_ | ⟨b, chunk⟩) | _
    · simp at hmsg
    · exact destinations_of_mem_processLoop table _ _ hmsg
    · simp at hmsg

theorem destinations_of_mem_worker (table : RoutingTable) (e : WorkerEvent) {msg : RoutedMessage}
    (hmsg : msg ∈ (h.worker table e).2) : msg.destinations = table.getDestinations msg.routingKey := by
  cases e with
  | connectCycle connected =>
      simp only [worker] at hmsg
      split_ifs at hmsg <;> cases hmsg
  | tcpLost => cases hmsg
  | noticeLost =>
      simp only [worker] at hmsg
      split_ifs at hmsg <;> cases hmsg
  | incoming received =>
      simp only [worker] at hmsg
      split_ifs at hmsg
      · exact h.destinations_of_mem_handleIncomingData table received hmsg
      · cases hmsg

end TransportHandler

end EdgeOffloading
