import EdgeOffloading.Bridge.Rounds
import EdgeOffloading.Gateway.Receiver
import EdgeOffloading.Lib.Mailbox
import EdgeOffloading.System.Identity

/-!
# The data plane

Any number of gateways, each with its connection to a worker of the Bridge. A gateway sends frames, its worker reads
them chunk by chunk and takes them off its buffer, looks each up in the routing table and enqueues it to the input
queues of its destinations one after the other; the worker of a destination takes a message of some producer out of its
queue and writes it to its gateway, which decodes it. The threads are interleaved at every read, round, lookup, enqueue
and write, and the control plane exchanges the routing table at any time. The queues promise the order of each producer
alone. The connections stand throughout.

* `step`: one action of one thread;
* `exists_run_handleIncomingData`: a call of `handle_incoming_data` that nothing comes between is one of the runs.
-/

namespace EdgeOffloading

/-- The message of a call of `send_message` of this gateway. -/
def Identity.frame (identity : Identity) (topic : List UInt8) (type : MessageType) (data : List UInt8)
    (options : MessageOptions) : Frame :=
  ⟨topic, type, UInt8.ofInt identity.idGroup, UInt8.ofInt identity.identifierInGroup, options, data⟩

theorem Identity.bytes_frame (identity : Identity) (topic : List UInt8) (type : MessageType) (data : List UInt8)
    (options : MessageOptions) :
    (identity.frame topic type data options).bytes = identity.sendMessage topic type data options := rfl

/-- Where the thread of a worker is. -/
inductive WorkerPoint where
  /-- In front of the next read or write. -/
  | idle
  /-- In front of a round of the inner loop. -/
  | parsing
  /-- In front of the enqueues that are left for this message. -/
  | enqueuing (data : List UInt8) (queues : List QueueId)
  deriving DecidableEq, Repr

/-- The queues a message has still to go to. -/
def WorkerPoint.queues : WorkerPoint → List QueueId
  | .enqueuing _ queues => queues
  | _ => []

/-- The copies that have still to go to queue `q`. -/
def WorkerPoint.copiesTo (q : QueueId) : WorkerPoint → List (List UInt8)
  | .enqueuing data queues => if q ∈ queues then [data] else []
  | _ => []

/-- The copies of the routed messages for queue `q`. -/
def copiesTo (q : QueueId) (routed : List RoutedMessage) : List (List UInt8) :=
  (routed.filter fun m => q ∈ m.destinations).map RoutedMessage.data

/-- A routed message or a frame as the routing sees it. -/
def RoutedMessage.keyed (m : RoutedMessage) : RoutingKey × List UInt8 := (m.routingKey, m.data)

def Frame.keyed (f : Frame) : RoutingKey × List UInt8 := (f.routingKey, f.bytes)

structure DataPlane (ι : Type*) [DecidableEq ι] where
  identity : ι → Identity
  routingTable : RoutingTable
  /-- The worker of each gateway. -/
  handler : ι → TransportHandler
  point : ι → WorkerPoint
  inputQueue : QueueId → Mailbox ι (List UInt8)
  /-- Sent by the gateway and not read by its worker. -/
  toBridge : ι → List UInt8
  /-- Written by the worker and not read by its gateway. -/
  toGateway : ι → List UInt8
  -- the history
  tables : List RoutingTable
  sent : ι → List Frame
  routed : ι → List RoutedMessage
  received : ι → List ReceivedMessage

namespace DataPlane

variable {ι : Type*} [DecidableEq ι]

inductive Event (ι : Type*) where
  /-- The bytes of a call of `send_message` are on the connection. -/
  | send (i : ι) (topic : List UInt8) (type : MessageType) (data : List UInt8) (options : MessageOptions)
  /-- `receive_data` of worker `i`, with at most so many bytes there. -/
  | read (i : ι) (count : Nat)
  /-- A round of the inner loop of `handle_incoming_data`. -/
  | round (i : ι)
  /-- The next enqueue of worker `i`. -/
  | enqueue (i : ι)
  /-- `handle_outgoing_messages` of worker `j`, which finds a message of worker `i`. -/
  | write (j i : ι)
  /-- `receive_and_process_message` of gateway `j`, with its handlers at that moment. -/
  | receive (j : ι) (transport : GatewayTransport) (g : RosGateway) (schedule : List PartialRead.Outcome)
  /-- The control plane has changed the table. -/
  | reroute (table : RoutingTable)

variable (s : DataPlane ι)

/-- What the worker of gateway `i` reads when so many bytes are there. -/
def chunk (i : ι) (count : Nat) : List UInt8 := (s.toBridge i).take (min count (s.handler i).freeSpace)

/-- Worker `i` moves: its buffer, its stream, its point and what it has routed. -/
def moveWorker (i : ι) (buffer toBridge : List UInt8) (point : WorkerPoint) (routed : List RoutedMessage) :
    DataPlane ι :=
  { s with
    handler := Function.update s.handler i { s.handler i with receiveBuffer := buffer }
    toBridge := Function.update s.toBridge i toBridge
    point := Function.update s.point i point
    routed := Function.update s.routed i routed }

/-- The open socket of a gateway. -/
def receiverSocket (stream : List UInt8) (schedule : List PartialRead.Outcome) : GatewaySocket :=
  { connected := true, socketFd := 0, source := ⟨stream, schedule⟩ }

def step (s : DataPlane ι) : Event ι → DataPlane ι
  | .send i topic type data options =>
    let frame := (s.identity i).frame topic type data options
    { s with
      sent := Function.update s.sent i (s.sent i ++ [frame])
      toBridge := Function.update s.toBridge i (s.toBridge i ++ frame.bytes) }
  | .read i count =>
    match s.point i with
    | .idle =>
      if s.chunk i count = [] then s
      else
        s.moveWorker i ((s.handler i).receiveBuffer ++ s.chunk i count)
          ((s.toBridge i).drop (s.chunk i count).length) .parsing (s.routed i)
    | _ => s
  | .round i =>
    match s.point i with
    | .parsing =>
      match processRound (s.handler i).receiveBuffer with
      | .ends buffer => s.moveWorker i buffer (s.toBridge i) .idle (s.routed i)
      | .message key data rest =>
        let destinations := s.routingTable.getDestinations key
        s.moveWorker i rest (s.toBridge i) (.enqueuing data destinations)
          (s.routed i ++ [⟨key, data, destinations⟩])
    | _ => s
  | .enqueue i =>
    match s.point i with
    | .enqueuing data (q :: queues) =>
      { s with
        inputQueue := Function.update s.inputQueue q ((s.inputQueue q).put i data)
        point := Function.update s.point i (.enqueuing data queues) }
    | .enqueuing _ [] => s.moveWorker i (s.handler i).receiveBuffer (s.toBridge i) .parsing (s.routed i)
    | _ => s
  | .write j i =>
    match s.point j with
    | .idle =>
      match (s.inputQueue (s.handler j).inputQueue).take i with
      | none => s
      | some (data, queue) =>
        { s with
          inputQueue := Function.update s.inputQueue (s.handler j).inputQueue queue
          toGateway := Function.update s.toGateway j (s.toGateway j ++ data) }
    | _ => s
  | .receive j transport g schedule =>
    match receiveAndProcessMessage transport g (receiverSocket (s.toGateway j) schedule) with
    | .done message socket =>
      { s with
        received := Function.update s.received j (s.received j ++ [message])
        toGateway := Function.update s.toGateway j socket.source.stream }
    | .failed socket => { s with toGateway := Function.update s.toGateway j socket.source.stream }
    | .waiting => s
  | .reroute table => { s with routingTable := table, tables := s.tables ++ [table] }

/-- The actions of the Bridge, by its workers or its control plane. -/
def Event.atBridge : Event ι → Bool
  | .send .. | .receive .. => false
  | _ => true

theorem step_of_atBridge (s : DataPlane ι) {e : Event ι} (he : e.atBridge = true) :
    (s.step e).sent = s.sent ∧ (s.step e).received = s.received ∧ (s.step e).identity = s.identity := by
  cases e with
  | send i topic type data options => cases he
  | receive j t g schedule => cases he
  | read i count =>
      simp only [step]
      split
      · split_ifs <;> exact ⟨rfl, rfl, rfl⟩
      · exact ⟨rfl, rfl, rfl⟩
  | round i =>
      simp only [step]
      split
      · split <;> exact ⟨rfl, rfl, rfl⟩
      · exact ⟨rfl, rfl, rfl⟩
  | enqueue i =>
      simp only [step]
      split <;> exact ⟨rfl, rfl, rfl⟩
  | write j i =>
      simp only [step]
      split
      · split <;> exact ⟨rfl, rfl, rfl⟩
      · exact ⟨rfl, rfl, rfl⟩
  | reroute table => exact ⟨rfl, rfl, rfl⟩

/-- Connected workers with queues of their own, and nothing has been sent. -/
structure AtStart (s : DataPlane ι) : Prop where
  handlers : ∀ i, (s.handler i).AtStart
  own : ∀ i j, (s.handler i).inputQueue = (s.handler j).inputQueue → i = j
  points : ∀ i, s.point i = .idle
  queues : ∀ q, s.inputQueue q = .empty
  toBridge : ∀ i, s.toBridge i = []
  toGateway : ∀ i, s.toGateway i = []
  tables : s.tables = [s.routingTable]
  table : s.routingTable.NoDuplicates
  sent : ∀ i, s.sent i = []
  routed : ∀ i, s.routed i = []
  received : ∀ i, s.received i = []

/-- Payloads have the size that the header can tell, no chunk ends inside a topic, no table lists a queue twice under a
key, and the connections are not lost. -/
def Undisturbed (s : DataPlane ι) : Event ι → Prop
  | .send _ _ _ data _ => data.length < 2 ^ 32
  | .read i count =>
    ¬ InsideTopic (s.sent i) ((wire (s.sent i)).length - (s.toBridge i).length + (s.chunk i count).length)
  | .receive _ _ _ schedule => PartialRead.Clean schedule
  | .reroute table => table.NoDuplicates
  | _ => True

/-! ## A worker by itself -/

/-- The message goes to all its destinations. -/
def enqueueAll (i : ι) (queues : QueueId → Mailbox ι (List UInt8)) (m : RoutedMessage) :
    QueueId → Mailbox ι (List UInt8) :=
  m.destinations.foldl (fun queues q => Function.update queues q ((queues q).put i m.data)) queues

theorem run_enqueues (i : ι) (data : List UInt8) (queues : List QueueId) (s : DataPlane ι)
    (hpoint : s.point i = .enqueuing data queues) :
    Run.run step s (List.replicate (queues.length + 1) (.enqueue i)) =
      { s with
        inputQueue := queues.foldl (fun qs q => Function.update qs q ((qs q).put i data)) s.inputQueue
        point := Function.update s.point i .parsing } := by
  induction queues generalizing s with
  | nil =>
      show s.step (.enqueue i) = _
      simp only [step, hpoint, moveWorker, Function.update_eq_self, List.foldl_nil]
  | cons q queues ih =>
      have hstep : s.step (.enqueue i) =
          { s with
            inputQueue := Function.update s.inputQueue q ((s.inputQueue q).put i data)
            point := Function.update s.point i (.enqueuing data queues) } := by
        simp only [step, hpoint]
      rw [List.length_cons, List.replicate_succ, Run.run_cons, ih _ (by rw [hstep]; exact Function.update_self ..),
        hstep, List.foldl_cons]
      simp only [Function.update_idem]

theorem exists_run_parsing (i : ι) : ∀ (n : Nat) (s : DataPlane ι), (s.handler i).receiveBuffer.length ≤ n →
    s.point i = .parsing → ∃ es, (∀ e ∈ es, e = .round i ∨ e = .enqueue i) ∧ Run.run step s es =
      { s with
        handler := Function.update s.handler i { s.handler i with
          receiveBuffer := (processBuffer s.routingTable (s.handler i).receiveBuffer).2 }
        point := Function.update s.point i .idle
        routed := Function.update s.routed i
          (s.routed i ++ (processBuffer s.routingTable (s.handler i).receiveBuffer).1)
        inputQueue :=
          (processBuffer s.routingTable (s.handler i).receiveBuffer).1.foldl (enqueueAll i) s.inputQueue } := by
  intro n
  induction n using Nat.strong_induction_on with
  | _ n ih =>
      intro s hlen hpoint
      rw [processBuffer_eq_round]
      cases hround : processRound (s.handler i).receiveBuffer with
      | ends buffer =>
          refine ⟨[.round i], fun e he => .inl (List.mem_singleton.mp he), ?_⟩
          show s.step (.round i) = _
          simp only [step, hpoint, hround, moveWorker, Function.update_eq_self, List.append_nil, List.foldl_nil]
      | message key data rest =>
          have hshort := length_rest_of_message hround
          obtain ⟨destinations, hdestinations⟩ : ∃ ds, ds = s.routingTable.getDestinations key := ⟨_, rfl⟩
          have hstep : s.step (.round i) = s.moveWorker i rest (s.toBridge i) (.enqueuing data destinations)
              (s.routed i ++ [⟨key, data, destinations⟩]) := by
            simp only [step, hpoint, hround, hdestinations]
          have henqueues := run_enqueues i data destinations (s.step (.round i)) (by
            rw [hstep]
            exact Function.update_self ..)
          obtain ⟨es, honly, hes⟩ := ih rest.length (by omega)
            (Run.run step (s.step (.round i)) (List.replicate (destinations.length + 1) (.enqueue i)))
            (by rw [henqueues, hstep]; simp [moveWorker]) (by rw [henqueues]; exact Function.update_self ..)
          refine ⟨.round i :: (List.replicate (destinations.length + 1) (.enqueue i) ++ es), fun e he => ?_, ?_⟩
          · rcases List.mem_cons.mp he with rfl | he
            · exact .inl rfl
            · rcases List.mem_append.mp he with he | he
              · exact .inr (List.eq_of_mem_replicate he)
              · exact honly e he
          · rw [Run.run_cons, Run.run_append, hes, henqueues, hstep]
            subst hdestinations
            simp only [moveWorker, Function.update_self, Function.update_idem, Function.update_eq_self, List.foldl_cons,
              List.append_assoc, List.singleton_append]
            rfl

/-- **A call of `handle_incoming_data`** that nothing comes between is one of the runs. -/
theorem exists_run_handleIncomingData {s : DataPlane ι} {i : ι} (hidle : s.point i = .idle)
    (htcp : (s.handler i).tcpConnected = true) (hrun : (s.handler i).shutdownRequested = false) {count : Nat}
    (hchunk : s.chunk i count ≠ []) :
    ∃ es, Run.run step s es =
      { s with
        handler := Function.update s.handler i
          ((s.handler i).handleIncomingData s.routingTable (.bytes (s.chunk i count))).1
        toBridge := Function.update s.toBridge i ((s.toBridge i).drop (s.chunk i count).length)
        routed := Function.update s.routed i
          (s.routed i ++ ((s.handler i).handleIncomingData s.routingTable (.bytes (s.chunk i count))).2)
        inputQueue := ((s.handler i).handleIncomingData s.routingTable (.bytes (s.chunk i count))).2.foldl
          (enqueueAll i) s.inputQueue } := by
  have hfit : (s.chunk i count).length ≤ (s.handler i).freeSpace := by
    unfold chunk
    rw [List.length_take]
    omega
  have hstep : s.step (.read i count) = s.moveWorker i ((s.handler i).receiveBuffer ++ s.chunk i count)
      ((s.toBridge i).drop (s.chunk i count).length) .parsing (s.routed i) := by
    simp only [step, hidle, if_neg hchunk]
  obtain ⟨es, -, hes⟩ := exists_run_parsing i _ (s.step (.read i count)) le_rfl (by
    rw [hstep]
    exact Function.update_self ..)
  refine ⟨.read i count :: es, ?_⟩
  rw [Run.run_cons, hes, hstep, (s.handler i).handleIncomingData_bytes htcp hrun s.routingTable hchunk hfit]
  have hpoint : Function.update s.point i .idle = s.point := by
    rw [← hidle]
    exact Function.update_eq_self i s.point
  simp only [moveWorker, Function.update_self, Function.update_idem, hpoint]

end DataPlane

end EdgeOffloading
