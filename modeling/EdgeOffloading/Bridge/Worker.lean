import EdgeOffloading.Bridge.Reassembly
import EdgeOffloading.Lib.Run
import EdgeOffloading.Transport.Client

/-!
# The data-plane worker and its connections

The loop of `run_internal` over the TCP client: each iteration of a connected worker goes to the input, to the output
or to a lost connection. The receive buffer belongs to the worker and outlives the connections.

Beside the state stands its history: for each byte in the buffer the number of the connection it came on (`origins`),
and for each successful read the connection, the bytes, the messages it completed and where their bytes came from.

* `step_cases`: a step leaves the buffer alone, empties it as the thread starts, or reads a chunk into it;
* `owned_step`: only a started thread is connected.
-/

namespace EdgeOffloading

/-- A successful read. -/
structure SocketRead where
  connection : Nat
  chunk : List UInt8
  routed : List RoutedMessage
  /-- For each message the connections its bytes came on. -/
  origins : List (List Nat)
  deriving DecidableEq, Repr

structure Worker where
  handler : TransportHandler
  client : TcpClientTransport
  /-- The handler asks its client whether it is connected. -/
  connected : handler.tcpConnected = client.isConnected
  /-- `input_queue_`: the messages on their way to the gateway. -/
  outgoing : List (List UInt8) := []
  origins : List Nat := []
  log : List SocketRead := []

/-- What the surroundings decide in one iteration. -/
structure Iteration where
  table : RoutingTable
  /-- `select` answers `EBADF`. -/
  badDescriptor : Bool
  recv : Recv
  attempts : Nat → SendAttempt

/-- Where an iteration goes. -/
inductive Turn where
  /-- The worker is not connected, or has ended. -/
  | idle
  | lost
  | input
  | output
  deriving DecidableEq, Repr

/-- `stop`: the client is disconnected and the thread joined. -/
def TransportHandler.stop (h : TransportHandler) : TransportHandler :=
  { h with shutdownRequested := true, connectedStatus := false, threadJoinable := false, threadRunning := false }

/-- The origins of the messages, off the front of the origins of the buffer. -/
def splitOrigins : List RoutedMessage → List Nat → List (List Nat)
  | [], _ => []
  | msg :: msgs, origins => origins.take msg.data.length :: splitOrigins msgs (origins.drop msg.data.length)

namespace Worker

def create (gatewayId targetIp : String) (targetPort : Int) (inputQueue : QueueId) (config : TransportHandlerConfig)
    (connectMaxRetries : Nat) : Option Worker :=
  (TransportHandler.create gatewayId targetIp targetPort inputQueue config).map fun h =>
    { handler := { h with tcpConnected := false }, client := { maxRetries := connectMaxRetries }, connected := rfl }

/-- A worker nothing has happened to. -/
structure Fresh (w : Worker) : Prop where
  buffer : w.handler.receiveBuffer = []
  joinable : w.handler.threadJoinable = false
  running : w.handler.threadRunning = false
  socket : w.client.socket = none
  origins : w.origins = []
  log : w.log = []

theorem fresh_of_create {gatewayId targetIp : String} {targetPort : Int} {inputQueue : QueueId}
    {config : TransportHandlerConfig} {retries : Nat} {w : Worker}
    (hc : create gatewayId targetIp targetPort inputQueue config retries = some w) : Fresh w := by
  unfold create at hc
  obtain ⟨h, hh, rfl⟩ := Option.map_eq_some_iff.mp hc
  unfold TransportHandler.create at hh
  split_ifs at hh
  obtain rfl := Option.some.inj hh
  exact ⟨rfl, rfl, rfl, rfl, rfl, rfl⟩

variable (w : Worker)

def update (h : TransportHandler) (c : TcpClientTransport) : Worker :=
  { w with handler := { h with tcpConnected := c.isConnected }, client := c, connected := rfl }

/-- The reading half of `handle_incoming_data`; a full buffer is not read into. -/
def handleIncoming (env : Iteration) : Worker :=
  if w.handler.freeSpace = 0 then w
  else
    match w.client.receiveData w.handler.freeSpace env.recv with
    | (c, none) => w.update (w.handler.handleIncomingData env.table .error).1 c
    | (c, some chunk) =>
      let result := w.handler.handleIncomingData env.table (.bytes chunk)
      let origins := w.origins ++ List.replicate chunk.length w.client.opened
      { w.update result.1 c with
        -- what stays in the buffer is its end
        origins := origins.drop (origins.length - result.1.receiveBuffer.length)
        log := w.log ++ [⟨w.client.opened, chunk, result.2, splitOrigins result.2 origins⟩] }

/-- `handle_outgoing_messages` of a connected worker. -/
def handleOutgoing (env : Iteration) : Worker :=
  match w.outgoing with
  | [] => w
  | message :: outgoing =>
    let w := { w with outgoing := outgoing }
    if message = [] then w
    else
      match w.client.sendData env.attempts with
      | (c, true) => w.update w.handler c
      | (c, false) => w.update w.handler.dropConnection c.disconnect

/-- The worker is inside its loop, past the part that connects. -/
def atWork : Bool := w.handler.threadRunning && !w.handler.shutdownRequested && w.handler.connectedStatus

def turn (env : Iteration) : Turn :=
  if !w.atWork then .idle
  else if env.badDescriptor || !w.client.isConnected then .lost
  else if w.client.dataAvailable then .input
  else .output

/-- The part of an iteration of `run_internal` after the connection is there. -/
def iterate (env : Iteration) : Worker :=
  match w.turn env with
  | .idle => w
  | .lost => w.update w.handler.dropConnection w.client.disconnect
  | .input => w.handleIncoming env
  | .output => w.handleOutgoing env

inductive Event where
  | start
  | stop
  /-- `attempt_connection` ends. -/
  | connectCycle (success : Bool)
  /-- The peer's bytes reach the open socket. -/
  | arrive (bytes : List UInt8)
  | peerClose
  /-- Another handler routes a message here. -/
  | enqueue (message : List UInt8)
  | iterate (env : Iteration)

def onSocket (f : Socket → Socket) : Worker :=
  w.update w.handler { w.client with socket := w.client.socket.map f }

def step (w : Worker) : Event → Worker
  | .start =>
    { w.update w.handler.start w.client with origins := if w.handler.threadJoinable then w.origins else [] }
  | .stop => w.update w.handler.stop w.client.disconnect
  | .connectCycle success =>
    if w.handler.threadRunning && !w.handler.shutdownRequested && !w.handler.connectedStatus then
      w.update (w.handler.connectCycle success) (w.client.connect success)
    else w
  | .arrive bytes => w.onSocket fun s => if s.peerClosed then s else { s with arrived := s.arrived ++ bytes }
  | .peerClose => w.onSocket fun s => { s with peerClosed := true }
  | .enqueue message => { w with outgoing := w.outgoing ++ [message] }
  | .iterate env => w.iterate env

/-- The bytes that an event reads off the socket. -/
def incoming (w : Worker) : Event → List UInt8
  | .iterate env =>
    if w.turn env = .input ∧ w.handler.freeSpace ≠ 0 then
      (w.client.receiveData w.handler.freeSpace env.recv).2.getD []
    else []
  | _ => []

/-! ## What a step does -/

/-- Nothing is read and the buffer is left alone; the connection may be lost or replaced. -/
structure Quiet (w w' : Worker) : Prop where
  buffer : w'.handler.receiveBuffer = w.handler.receiveBuffer
  config : w'.handler.config = w.handler.config
  origins : w'.origins = w.origins
  log : w'.log = w.log
  opened : w.client.opened ≤ w'.client.opened
  /-- A connection that is there has been there or is a new one. -/
  connected : w'.client.opened = w.client.opened → w'.client.isConnected = true → w.client.isConnected = true

/-- The chunk is read off the socket into the buffer. -/
structure Reads (w : Worker) (chunk : List UInt8) (w' : Worker) : Prop where
  connected : w.client.isConnected = true
  atWork : w'.atWork = w.atWork
  ne_nil : chunk ≠ []
  fits : chunk.length ≤ w.handler.freeSpace
  config : w'.handler.config = w.handler.config
  opened : w'.client.opened = w.client.opened
  buffer : w'.handler.receiveBuffer = (Framing.drain headerScanner (w.handler.receiveBuffer ++ chunk)).2
  history : ∃ routed origins, origins = w.origins ++ List.replicate chunk.length w.client.opened ∧
    routed.map RoutedMessage.data = (Framing.drain headerScanner (w.handler.receiveBuffer ++ chunk)).1 ∧
    w'.origins = origins.drop (origins.length - w'.handler.receiveBuffer.length) ∧
    w'.log = w.log ++ [⟨w.client.opened, chunk, routed, splitOrigins routed origins⟩]

theorem quiet_update {w : Worker} {h : TransportHandler} {c : TcpClientTransport} (hr : w.client.Renews c)
    (hbuffer : h.receiveBuffer = w.handler.receiveBuffer) (hconfig : h.config = w.handler.config) :
    Quiet w (w.update h c) := by
  refine ⟨hbuffer, hconfig, rfl, rfl, hr.opened, fun heq hc => ?_⟩
  obtain ⟨s, hs⟩ := (TcpClientTransport.isConnected_iff _).mp hc
  rcases hr.socket heq with hsame | hnone
  · rw [TcpClientTransport.isConnected_iff, ← hsame]
    exact ⟨s, hs⟩
  · exact absurd (hs.symm.trans hnone) (Option.some_ne_none s)

theorem Quiet.refl (w : Worker) : Quiet w w := ⟨rfl, rfl, rfl, rfl, le_rfl, fun _ h => h⟩

theorem atWork_iff : w.atWork = true ↔ w.handler.threadRunning = true ∧ w.handler.shutdownRequested = false ∧
    w.handler.connectedStatus = true := by
  unfold atWork
  simp [and_assoc]

theorem turn_input {env : Iteration} (h : w.turn env = .input) :
    w.atWork = true ∧ w.client.isConnected = true ∧ w.client.dataAvailable = true := by
  unfold turn at h
  split_ifs at h with hwork hlost hdata
  refine ⟨by simpa using hwork, ?_, hdata⟩
  simp only [Bool.or_eq_true, Bool.not_eq_true', not_or, Bool.not_eq_false] at hlost
  exact hlost.2

theorem turn_eq_idle_iff {env : Iteration} : w.turn env = .idle ↔ w.atWork = false := by
  unfold turn
  cases w.atWork with
  | false => simp
  | true =>
      rw [if_neg (by decide)]
      split_ifs <;> simp

theorem handleOutgoing_cases (env : Iteration) :
    ((w.handleOutgoing env).handler = w.handler ∧ (w.handleOutgoing env).client = w.client ∨
      ∃ h c, w.client.Renews c ∧ (h = w.handler ∨ h = w.handler.dropConnection) ∧
        (w.handleOutgoing env).handler = { h with tcpConnected := c.isConnected } ∧ (w.handleOutgoing env).client = c) ∧
    (w.handleOutgoing env).origins = w.origins ∧ (w.handleOutgoing env).log = w.log ∧
    (w.handleOutgoing env).outgoing = w.outgoing.tail := by
  unfold handleOutgoing
  cases hout : w.outgoing with
  | nil => exact ⟨Or.inl ⟨rfl, rfl⟩, rfl, rfl, hout⟩
  | cons message outgoing =>
      dsimp only
      split_ifs with hempty
      · exact ⟨Or.inl ⟨rfl, rfl⟩, rfl, rfl, rfl⟩
      · have hr := w.client.renews_sendData env.attempts
        cases hsend : w.client.sendData env.attempts with
        | mk c sent =>
            rw [hsend] at hr
            cases sent with
            | true => exact ⟨Or.inr ⟨_, c, hr, Or.inl rfl, rfl, rfl⟩, rfl, rfl, rfl⟩
            | false =>
                have hr' := hr.trans c.renews_disconnect
                exact ⟨Or.inr ⟨_, c.disconnect, hr', Or.inr rfl, rfl, rfl⟩, rfl, rfl, rfl⟩

theorem renews_handleOutgoing (env : Iteration) : w.client.Renews (w.handleOutgoing env).client := by
  obtain ⟨⟨-, hclient⟩ | ⟨h, c, hr, -, -, hclient⟩, -⟩ := w.handleOutgoing_cases env
  · rw [hclient]
    exact TcpClientTransport.Renews.refl _
  · rw [hclient]
    exact hr

theorem quiet_handleOutgoing (env : Iteration) : Quiet w (w.handleOutgoing env) := by
  obtain ⟨hcases, horigins, hlog, -⟩ := w.handleOutgoing_cases env
  have hr := w.renews_handleOutgoing env
  have hhandler : (w.handleOutgoing env).handler.receiveBuffer = w.handler.receiveBuffer ∧
      (w.handleOutgoing env).handler.config = w.handler.config := by
    rcases hcases with ⟨hsame, -⟩ | ⟨h, c, -, rfl | rfl, hsame, -⟩
    · rw [hsame]; exact ⟨rfl, rfl⟩
    · rw [hsame]; exact ⟨rfl, rfl⟩
    · rw [hsame]; exact ⟨rfl, rfl⟩
  have hq := quiet_update (h := w.handler) hr rfl rfl
  exact ⟨hhandler.1, hhandler.2, horigins, hlog, hr.opened, hq.connected⟩

theorem handleIncoming_cases {w : Worker} {env : Iteration} (hinput : w.turn env = .input) :
    (w.handler.freeSpace = 0 ∧ w.handleIncoming env = w) ∨
    (w.handler.freeSpace ≠ 0 ∧ w.incoming (.iterate env) = [] ∧
      w.handleIncoming env = w.update w.handler.dropConnection w.client.disconnect) ∨
    (Reads w (w.incoming (.iterate env)) (w.handleIncoming env) ∧ ∃ s rest, w.client.socket = some s ∧
      s.arrived = w.incoming (.iterate env) ++ rest ∧
      (w.handleIncoming env).client.socket = some { s with arrived := rest }) := by
  obtain ⟨hwork, hconn, -⟩ := w.turn_input hinput
  obtain ⟨-, hrun, -⟩ := w.atWork_iff.mp hwork
  have htcp : w.handler.tcpConnected = true := w.connected.trans hconn
  unfold handleIncoming
  by_cases hfull : w.handler.freeSpace = 0
  · rw [if_pos hfull]
    exact Or.inl ⟨hfull, rfl⟩
  · rw [if_neg hfull]
    have hread : w.incoming (.iterate env) = (w.client.receiveData w.handler.freeSpace env.recv).2.getD [] :=
      if_pos ⟨hinput, hfull⟩
    rw [hread]
    apply Or.inr
    cases hrecv : w.client.receiveData w.handler.freeSpace env.recv with
    | mk c received =>
        cases received with
        | none =>
            refine Or.inl ⟨hfull, rfl, ?_⟩
            rw [TcpClientTransport.receiveData_none hrecv]
            dsimp only
            have herror : w.handler.handleIncomingData env.table .error = (w.handler.dropConnection, []) := by
              unfold TransportHandler.handleIncomingData
              rw [if_neg (by simp [htcp]), if_neg hfull]
            rw [herror]
        | some chunk =>
            obtain ⟨s, rest, hs, harrived, hfits, hne, rfl⟩ := TcpClientTransport.receiveData_some hrecv
            have hbytes := w.handler.handleIncomingData_bytes htcp hrun env.table (hne (by omega)) hfits
            have hdrain := processBuffer_eq_drain env.table (w.handler.receiveBuffer ++ chunk)
            refine Or.inr ⟨?_, s, rest, hs, harrived, rfl⟩
            dsimp only [Option.getD_some]
            rw [hbytes]
            refine ⟨hconn, rfl, hne (by omega), hfits, rfl, rfl, congrArg Prod.snd hdrain, _, _, rfl, ?_, rfl, rfl⟩
            exact congrArg Prod.fst hdrain

/-- **What a step does** to the buffer and the history. -/
theorem step_cases (w : Worker) (e : Event) :
    (Quiet w (w.step e) ∧ w.incoming e = []) ∨
    (w.handler.threadJoinable = false ∧ w.incoming e = [] ∧
      w.step e = { w.update w.handler.start w.client with origins := [] } ∧
      (w.step e).handler.receiveBuffer = []) ∨
    Reads w (w.incoming e) (w.step e) := by
  cases e with
  | start =>
      cases hj : w.handler.threadJoinable with
      | false =>
          refine Or.inr (Or.inl ⟨rfl, rfl, ?_, ?_⟩)
          · simp only [step, hj, Bool.false_eq_true, if_false]
          · simp [step, update, TransportHandler.start, hj]
      | true =>
          refine Or.inl ⟨?_, rfl⟩
          have hstart : w.handler.start = w.handler := if_pos hj
          simp only [step, hj, if_true, hstart]
          exact ⟨rfl, rfl, rfl, rfl, le_rfl, fun _ h => h⟩
  | stop => exact Or.inl ⟨quiet_update (TcpClientTransport.renews_disconnect _) rfl rfl, rfl⟩
  | connectCycle success =>
      refine Or.inl ⟨?_, rfl⟩
      simp only [step]
      split_ifs
      · apply quiet_update (w.client.renews_connect success)
        · unfold TransportHandler.connectCycle
          split_ifs <;> rfl
        · unfold TransportHandler.connectCycle
          split_ifs <;> rfl
      · exact Quiet.refl w
  | arrive bytes =>
      refine Or.inl ⟨⟨rfl, rfl, rfl, rfl, le_rfl, fun _ hc => ?_⟩, rfl⟩
      simpa [step, onSocket, update, TcpClientTransport.isConnected] using hc
  | peerClose =>
      refine Or.inl ⟨⟨rfl, rfl, rfl, rfl, le_rfl, fun _ hc => ?_⟩, rfl⟩
      simpa [step, onSocket, update, TcpClientTransport.isConnected] using hc
  | enqueue message => exact Or.inl ⟨⟨rfl, rfl, rfl, rfl, le_rfl, fun _ h => h⟩, rfl⟩
  | iterate env =>
      have hnone : w.turn env ≠ .input → w.incoming (.iterate env) = [] := fun hne => if_neg fun h => hne h.1
      simp only [step, iterate]
      cases hturn : w.turn env with
      | idle => exact Or.inl ⟨Quiet.refl w, hnone (by simp [hturn])⟩
      | lost =>
          exact Or.inl ⟨quiet_update (TcpClientTransport.renews_disconnect _) rfl rfl, hnone (by simp [hturn])⟩
      | output => exact Or.inl ⟨w.quiet_handleOutgoing env, hnone (by simp [hturn])⟩
      | input =>
          rcases handleIncoming_cases hturn with ⟨hfull, hsame⟩ | ⟨-, hempty, hdrop⟩ | ⟨hreads, -⟩
          · dsimp only
            rw [hsame]
            exact Or.inl ⟨Quiet.refl w, if_neg fun h => h.2 hfull⟩
          · dsimp only
            rw [hdrop]
            exact Or.inl ⟨quiet_update (TcpClientTransport.renews_disconnect _) rfl rfl, hempty⟩
          · exact Or.inr (Or.inr hreads)

/-! ## The thread and its connection -/

/-- Only a started thread is connected. -/
structure Owned (w : Worker) : Prop where
  running : w.handler.threadRunning = true → w.handler.threadJoinable = true
  joined : w.handler.threadJoinable = false → w.client.isConnected = false

theorem thread_handleIncomingData (h : TransportHandler) (table : RoutingTable) (received : Received) :
    (h.handleIncomingData table received).1.threadRunning = h.threadRunning ∧
      (h.handleIncomingData table received).1.threadJoinable = h.threadJoinable := by
  unfold TransportHandler.handleIncomingData TransportHandler.dropConnection
  split_ifs
  · exact ⟨rfl, rfl⟩
  · exact ⟨rfl, rfl⟩
  · rcases received with (_ | ⟨b, chunk⟩) | _ <;> exact ⟨rfl, rfl⟩
  · rcases received with (_ | ⟨b, chunk⟩) | _ <;> exact ⟨rfl, rfl⟩

theorem thread_iterate (env : Iteration) : (w.iterate env).handler.threadRunning = w.handler.threadRunning ∧
    (w.iterate env).handler.threadJoinable = w.handler.threadJoinable := by
  unfold iterate
  cases w.turn env with
  | idle => exact ⟨rfl, rfl⟩
  | lost => exact ⟨rfl, rfl⟩
  | output =>
      dsimp only
      rcases (w.handleOutgoing_cases env).1 with ⟨hsame, -⟩ | ⟨h, c, -, rfl | rfl, hsame, -⟩
      · rw [hsame]; exact ⟨rfl, rfl⟩
      · rw [hsame]; exact ⟨rfl, rfl⟩
      · rw [hsame]; exact ⟨rfl, rfl⟩
  | input =>
      dsimp only [handleIncoming]
      split_ifs
      · exact ⟨rfl, rfl⟩
      · cases w.client.receiveData w.handler.freeSpace env.recv with
        | mk c received => cases received <;> exact thread_handleIncomingData _ _ _

theorem owned_step {w : Worker} (h : Owned w) (e : Event) : Owned (w.step e) := by
  cases e with
  | start =>
      have hj : (w.step .start).handler.threadJoinable = true := by
        simp only [step, update, TransportHandler.start]
        split_ifs with hj
        · exact hj
        · rfl
      exact ⟨fun _ => hj, fun hf => absurd (hj.symm.trans hf) (by decide)⟩
  | stop => exact ⟨fun hr => absurd hr (by simp [step, update, TransportHandler.stop]), fun _ => rfl⟩
  | connectCycle success =>
      simp only [step]
      split_ifs with hguard
      · simp only [Bool.and_eq_true] at hguard
        have hj := (w.handler.sameEndpoint_connectCycle success).joinable.trans (h.running hguard.1.1)
        exact ⟨fun _ => hj, fun hf => absurd (hj.symm.trans hf) (by decide)⟩
      · exact h
  | arrive bytes =>
      refine ⟨h.running, fun hj => ?_⟩
      simpa [step, onSocket, update, TcpClientTransport.isConnected] using h.joined hj
  | peerClose =>
      refine ⟨h.running, fun hj => ?_⟩
      simpa [step, onSocket, update, TcpClientTransport.isConnected] using h.joined hj
  | enqueue message => exact ⟨h.running, h.joined⟩
  | iterate env =>
      obtain ⟨hrun, hjoin⟩ := w.thread_iterate env
      refine ⟨fun hr => hjoin.trans (h.running (hrun.symm.trans hr)), fun hj => ?_⟩
      -- a thread that has been joined does not iterate
      have hnot : w.handler.threadRunning = false := by
        cases hr : w.handler.threadRunning with
        | false => rfl
        | true => exact absurd ((h.running hr).symm.trans (hjoin.symm.trans hj)) (by decide)
      have hidle : w.turn env = .idle := if_pos (by simp [atWork, hnot])
      have hsame : w.step (.iterate env) = w := by simp only [step, iterate, hidle]
      rw [hsame]
      exact h.joined (hjoin.symm.trans hj)

/-- The worker of `sampleHandler` before its thread is started. -/
def sampleWorker : Worker :=
  { handler := { sampleHandler with connectedStatus := false, tcpConnected := false, threadJoinable := false,
                                    threadRunning := false }
    client := {}
    connected := rfl }

theorem create_sampleWorker : create "60:5" "10.0.0.5" 6000 0 default 5 = some sampleWorker := rfl

/-- Everything that is there is read; a send that fails is repeated on a new connection. -/
def sampleIteration : Iteration :=
  { table := .empty, badDescriptor := false, recv := .returns 4096, attempts := fun retry => ⟨0 < retry, true⟩ }

end Worker

end EdgeOffloading
