import EdgeOffloading.Gateway.Receiver
import EdgeOffloading.Lib.BoundedQueue
import EdgeOffloading.Lib.Run

/-!
# The send path of a gateway

`send_message` asks whether the transport is connected, enqueues the header and then the payload. Between these three
points the sender thread may take items off the queue and the connection may come and go. One thread sends: the queue
has a single producer. `async_send_data` looks at the connection right before it enqueues, and is one step here.

Beside the state stands its history: what has ever been enqueued, and the calls of `send_message` that have returned.

* `Atomic`: the queue has been given the header and the payload of each call that returned true, side by side, and
  nothing of the others;
* `atomic_iff_along`: it holds all along a run iff no payload meets a full queue or a lost connection.
-/

namespace EdgeOffloading

inductive TransportAsyncSendResult where
  | success
  | queueFull
  | notConnected
  | internalError
  deriving DecidableEq, Repr

/-- The body of `async_send_data`, the same in both transports of a gateway. -/
def asyncSendData (connected : Bool) (outgoingQueue : BoundedQueue (List UInt8)) (data : List UInt8) :
    TransportAsyncSendResult × BoundedQueue (List UInt8) :=
  if !connected then (.notConnected, outgoingQueue)
  else
    match outgoingQueue.tryEnqueue data with
    | none => (.queueFull, outgoingQueue)
    | some queue => (.success, queue)

def TcpClientTransport.asyncSendData (connected : Bool) (outgoingQueue : BoundedQueue (List UInt8))
    (data : List UInt8) : TransportAsyncSendResult × BoundedQueue (List UInt8) :=
  EdgeOffloading.asyncSendData connected outgoingQueue data

def TcpServerTransport.asyncSendData (clientConnected : Bool) (outgoingQueue : BoundedQueue (List UInt8))
    (data : List UInt8) : TransportAsyncSendResult × BoundedQueue (List UInt8) :=
  EdgeOffloading.asyncSendData clientConnected outgoingQueue data

def GatewayTransport.asyncSendData : GatewayTransport → Bool → BoundedQueue (List UInt8) → List UInt8 →
    TransportAsyncSendResult × BoundedQueue (List UInt8)
  | .tcpClient => TcpClientTransport.asyncSendData
  | .tcpServer => TcpServerTransport.asyncSendData

theorem GatewayTransport.asyncSendData_eq (transport : GatewayTransport) :
    transport.asyncSendData = EdgeOffloading.asyncSendData := by
  cases transport <;> rfl

/-- How far a call of `send_message` is. -/
inductive SendPoint where
  | idle
  /-- Past the check of the connection. -/
  | checked (f : Frame)
  /-- Past the header. -/
  | headerQueued (f : Frame)
  deriving DecidableEq, Repr

/-- What a call has enqueued so far. -/
def SendPoint.queued : SendPoint → List (List UInt8)
  | .headerQueued f => [f.header]
  | _ => []

structure GatewaySender where
  /-- None where the gateway was built without one. -/
  transport : Option GatewayTransport
  connected : Bool
  outgoingQueue : BoundedQueue (List UInt8)
  point : SendPoint := .idle
  enqueued : List (List UInt8) := []
  calls : List (Frame × Bool) := []

namespace GatewaySender

variable (s : GatewaySender)

/-- `async_send_data` of the transport; the sender afterwards if it succeeds. -/
def put (transport : GatewayTransport) (data : List UInt8) : Option GatewaySender :=
  match transport.asyncSendData s.connected s.outgoingQueue data with
  | (.success, queue) => some { s with outgoingQueue := queue, enqueued := s.enqueued ++ [data] }
  | _ => none

/-- `send_message` returns. -/
def finish (f : Frame) (result : Bool) : GatewaySender :=
  { s with point := .idle, calls := s.calls ++ [(f, result)] }

inductive Event where
  /-- `send_message` is called for a message with this header and payload. -/
  | sendMessage (f : Frame)
  | enqueueHeader
  | enqueuePayload
  /-- The sender thread takes an item off the queue; the server's does so without a connection too. -/
  | dequeue
  /-- The connection comes or goes. -/
  | connection (up : Bool)
  deriving DecidableEq, Repr

def step (s : GatewaySender) : Event → GatewaySender
  | .sendMessage f =>
    match s.point, s.transport with
    | .idle, none => s.finish f false
    | .idle, some _ => if !s.connected then s.finish f false else { s with point := .checked f }
    | _, _ => s
  | .enqueueHeader =>
    match s.point, s.transport with
    | .checked f, some transport =>
      match s.put transport f.header with
      | none => s.finish f false
      | some s => { s with point := .headerQueued f }
    | _, _ => s
  | .enqueuePayload =>
    match s.point, s.transport with
    | .headerQueued f, some transport =>
      match s.put transport f.payload with
      | none => s.finish f false
      | some s => s.finish f true
    | _, _ => s
  | .dequeue =>
    match s.outgoingQueue.tryDequeue with
    | none => s
    | some (_, queue) => { s with outgoingQueue := queue }
  | .connection up => { s with connected := up }

/-- The messages whose calls returned true. -/
def sent : List Frame := (s.calls.filter Prod.snd).map Prod.fst

/-- What has been enqueued are the messages of the calls that returned true, and what the call under way has added. -/
structure Atomic (s : GatewaySender) : Prop where
  items : s.enqueued = (s.sent.flatMap fun f => [f.header, f.payload]) ++ s.point.queued
  bytes : s.enqueued.flatten = (s.sent.map Frame.bytes).flatten ++ s.point.queued.flatten

/-- A payload finds the connection there and room in the queue. -/
def PayloadFits (s : GatewaySender) (e : Event) : Prop :=
  e = .enqueuePayload → s.point.queued ≠ [] → s.connected = true ∧ s.outgoingQueue.full = false

instance (s : GatewaySender) (e : Event) : Decidable (PayloadFits s e) := inferInstanceAs (Decidable (_ → _ → _))

/-- Nothing has been sent; the queue may hold anything. -/
structure AtStart (s : GatewaySender) : Prop where
  point : s.point = .idle
  enqueued : s.enqueued = []
  calls : s.calls = []

theorem flatten_items (fs : List Frame) :
    (fs.flatMap fun f => [f.header, f.payload]).flatten = (fs.map Frame.bytes).flatten := by
  induction fs with
  | nil => rfl
  | cons f fs ih =>
      rw [List.flatMap_cons, List.flatten_append, ih, List.map_cons, List.flatten_cons]
      simp [Frame.bytes]

theorem atomic_iff : Atomic s ↔ s.enqueued = (s.sent.flatMap fun f => [f.header, f.payload]) ++ s.point.queued := by
  refine ⟨Atomic.items, fun h => ⟨h, ?_⟩⟩
  rw [h, List.flatten_append, flatten_items]

/-! ## One step -/

theorem put_eq (transport : GatewayTransport) (data : List UInt8) :
    s.put transport data = none ∧ ¬(s.connected = true ∧ s.outgoingQueue.full = false) ∨
      ∃ queue, s.put transport data = some { s with outgoingQueue := queue, enqueued := s.enqueued ++ [data] } ∧
        s.connected = true ∧ s.outgoingQueue.full = false := by
  have hroom := s.outgoingQueue.tryEnqueue_isSome_iff data
  unfold put
  rw [transport.asyncSendData_eq, asyncSendData]
  cases hconn : s.connected with
  | false => exact Or.inl ⟨rfl, fun h => absurd h.1 (by decide)⟩
  | true =>
      cases hqueue : s.outgoingQueue.tryEnqueue data with
      | none =>
          rw [hqueue] at hroom
          exact Or.inl ⟨rfl, fun h => absurd (hroom.mpr h.2) (by decide)⟩
      | some queue =>
          rw [hqueue] at hroom
          exact Or.inr ⟨queue, rfl, rfl, hroom.mp rfl⟩

/-- A call is under way only with a transport. -/
def HasTransport (s : GatewaySender) : Prop := s.point = .idle ∨ s.transport.isSome = true

theorem hasTransport_step (s : GatewaySender) (e : Event) (h : HasTransport s) : HasTransport (s.step e) := by
  have hput : ∀ (t : GatewayTransport) data s', s.put t data = some s' → s'.transport = s.transport := by
    intro t data s' hs'
    rcases s.put_eq t data with ⟨hnone, -⟩ | ⟨queue, hsome, -⟩
    · rw [hnone] at hs'
      cases hs'
    · rw [hsome] at hs'
      rw [← Option.some.inj hs']
  cases e with
  | sendMessage f =>
      simp only [step]
      split
      · exact Or.inl rfl
      · rename_i htransport
        split_ifs
        · exact Or.inl rfl
        · apply Or.inr
          dsimp only
          rw [htransport]
          rfl
      · exact h
  | enqueueHeader =>
      simp only [step]
      split
      · rename_i f transport _ htransport
        cases hs' : s.put transport f.header with
        | none => exact Or.inl rfl
        | some s' =>
            apply Or.inr
            dsimp only
            rw [hput _ _ _ hs', htransport]
            rfl
      · exact h
  | enqueuePayload =>
      simp only [step]
      split
      · rename_i f transport _ _
        cases s.put transport f.payload with
        | none => exact Or.inl rfl
        | some s' => exact Or.inl rfl
      · exact h
  | dequeue =>
      simp only [step]
      cases s.outgoingQueue.tryDequeue with
      | none => exact h
      | some result => exact h
  | connection up => exact h

theorem sent_finish_true (f : Frame) : (s.finish f true).sent = s.sent ++ [f] := by
  simp [finish, sent, List.filter_append]

theorem sent_finish_false (f : Frame) : (s.finish f false).sent = s.sent := by
  simp [finish, sent, List.filter_append]

theorem atomic_finish_false {s : GatewaySender} (h : Atomic s) (hpoint : s.point.queued = []) (f : Frame) :
    Atomic (s.finish f false) := by
  rw [atomic_iff, sent_finish_false]
  have hitems := h.items
  rw [hpoint] at hitems
  exact hitems

theorem atomic_enqueuePayload_iff {s : GatewaySender} (htransport : HasTransport s) (h : Atomic s) :
    Atomic (s.step .enqueuePayload) ↔ PayloadFits s .enqueuePayload := by
  cases hpoint : s.point with
  | idle =>
      have hsame : s.step .enqueuePayload = s := by simp only [step, hpoint]
      rw [hsame]
      exact iff_of_true h fun _ hne => absurd (by rw [hpoint]; rfl) hne
  | checked f =>
      have hsame : s.step .enqueuePayload = s := by simp only [step, hpoint]
      rw [hsame]
      exact iff_of_true h fun _ hne => absurd (by rw [hpoint]; rfl) hne
  | headerQueued f =>
      have hitems := h.items
      rw [hpoint] at hitems
      have hsome : s.transport.isSome = true := by
        rcases htransport with hidle | hsome
        · rw [hpoint] at hidle
          cases hidle
        · exact hsome
      obtain ⟨transport, ht⟩ := Option.isSome_iff_exists.mp hsome
      have hqueued : s.point.queued ≠ [] := by
        rw [hpoint]
        exact List.cons_ne_nil _ _
      rcases s.put_eq transport f.payload with ⟨hnone, hfits⟩ | ⟨queue, hput, hfits⟩
      · have hstep : s.step .enqueuePayload = s.finish f false := by simp only [step, hpoint, ht, hnone]
        rw [hstep]
        refine iff_of_false (fun hatomic => ?_) fun hfit => hfits (hfit rfl hqueued)
        -- the header is one item too many
        have hlen := congrArg List.length hatomic.items
        rw [sent_finish_false] at hlen
        have henqueued : (s.finish f false).enqueued = s.enqueued := rfl
        rw [henqueued, hitems, List.length_append, List.length_append] at hlen
        simp [SendPoint.queued, finish] at hlen
      · have hstep : s.step .enqueuePayload =
            { s with outgoingQueue := queue, enqueued := s.enqueued ++ [f.payload] }.finish f true := by
          simp only [step, hpoint, ht, hput]
        rw [hstep]
        refine iff_of_true ?_ fun _ _ => hfits
        rw [atomic_iff, sent_finish_true]
        simp only [finish, hitems, SendPoint.queued, sent, List.flatMap_append]
        simp

/-- **One step** keeps what is enqueued whole iff the payload, if it is one, fits. -/
theorem atomic_step_iff (s : GatewaySender) (e : Event) (htransport : HasTransport s) (h : Atomic s) :
    Atomic (s.step e) ↔ PayloadFits s e := by
  have hother : e ≠ .enqueuePayload → PayloadFits s e := fun hne he => absurd he hne
  cases e with
  | sendMessage f =>
      refine iff_of_true ?_ (hother (by simp))
      simp only [step]
      split
      · rename_i hidle _
        exact atomic_finish_false h (by rw [hidle]; rfl) f
      · rename_i hidle _
        split_ifs
        · exact atomic_finish_false h (by rw [hidle]; rfl) f
        · have hitems := h.items
          rw [hidle] at hitems
          exact (atomic_iff _).mpr hitems
      · exact h
  | enqueueHeader =>
      refine iff_of_true ?_ (hother (by simp))
      simp only [step]
      split
      · rename_i f transport hchecked _
        rcases s.put_eq transport f.header with ⟨hnone, -⟩ | ⟨queue, hsome, -⟩
        · rw [hnone]
          exact atomic_finish_false h (by rw [hchecked]; rfl) f
        · rw [hsome]
          have hitems := h.items
          rw [hchecked] at hitems
          rw [atomic_iff]
          dsimp only
          rw [hitems]
          simp [SendPoint.queued, sent]
      · exact h
  | enqueuePayload => exact atomic_enqueuePayload_iff htransport h
  | dequeue =>
      refine iff_of_true ?_ (hother (by simp))
      simp only [step]
      cases s.outgoingQueue.tryDequeue with
      | none => exact h
      | some result => exact ⟨h.items, h.bytes⟩
  | connection up => exact iff_of_true ⟨h.items, h.bytes⟩ (hother (by simp))

/-! ## Whole runs -/

/-- **What is enqueued stays whole all along a run iff every payload fits.** -/
theorem atomic_iff_along (s : GatewaySender) (hs : s.AtStart) (es : List Event) :
    (∀ pre, pre <+: es → Atomic (Run.run step s pre)) ↔ Run.Along step PayloadFits s es := by
  have hatomic : Atomic s := by
    rw [atomic_iff]
    unfold sent
    rw [hs.enqueued, hs.calls, hs.point]
    rfl
  exact Run.forall_prefix_iff_along step hasTransport_step atomic_step_iff es s (Or.inl hs.point) hatomic

/-- A sender with the server's default queue of 15 places, of which `free` are left. -/
def sampleSender (free : Nat) : GatewaySender where
  transport := some .tcpServer
  connected := true
  outgoingQueue := ⟨15, List.replicate (15 - free) [], List.length_replicate.trans_le (Nat.sub_le 15 free)⟩

/-- A string on the topic `log`. -/
def logFrame : Frame :=
  { topic := [0x6C, 0x6F, 0x67], type := .string, idGroup := 20, identifierInGroup := 1, options := {},
    payload := [0x6F, 0x6B] }

/-- One call of `send_message`. -/
def oneCall : List Event := [.sendMessage logFrame, .enqueueHeader, .enqueuePayload]

/-- The connection is lost between the header and the payload. -/
def lostInBetween : List Event := [.sendMessage logFrame, .enqueueHeader, .connection false, .enqueuePayload]

theorem atomic_oneCall : (Run.run step (sampleSender 2) oneCall).sent = [logFrame] ∧
    ∀ pre, pre <+: oneCall → Atomic (Run.run step (sampleSender 2) pre) := by
  refine ⟨by decide, (atomic_iff_along (sampleSender 2) ⟨rfl, rfl, rfl⟩ oneCall).mpr ?_⟩
  simp only [oneCall, Run.along_cons, Run.along_nil]
  decide

/-- One place left, or the connection lost: the call returns false and its header stays in the queue. -/
theorem not_atomic_of_header_alone :
    (Run.run step (sampleSender 1) oneCall).calls = [(logFrame, false)] ∧
      (Run.run step (sampleSender 1) oneCall).enqueued = [logFrame.header] ∧
      ¬ Atomic (Run.run step (sampleSender 1) oneCall) ∧
      (Run.run step (sampleSender 15) lostInBetween).calls = [(logFrame, false)] ∧
      (Run.run step (sampleSender 15) lostInBetween).enqueued = [logFrame.header] ∧
      ¬ Atomic (Run.run step (sampleSender 15) lostInBetween) := by
  refine ⟨by decide, by decide, fun h => ?_, by decide, by decide, fun h => ?_⟩
  · exact absurd h.items (by decide)
  · exact absurd h.items (by decide)

end GatewaySender

end EdgeOffloading
