import EdgeOffloading.Gateway.Sender
import EdgeOffloading.Lib.Intact
import EdgeOffloading.Transport.SendData

/-!
# The sender threads of a gateway

`sender_thread_func` of both transports, which takes the buffers off the queue and writes them to the connection. The
client looks whether it is connected, takes a buffer, reads the descriptor once and calls `::send` until the buffer is
out; the server takes a buffer, looks whether it is connected, reads the descriptor and calls `::send` once. Between any
two of these points another thread may enqueue a buffer, find the connection lost or open a new one, and a new
connection may get the number of an old descriptor: the kernel's table from descriptors to connections is part of the
state, and `::send` goes where the table points.

Beside the state stands its history: the buffers that were enqueued and those the thread is through with, and what has
been written to each connection.

* `Undisturbed`: `::send` takes a buffer of the server as a whole or not at all, and a buffer of the client that has
  been begun is not met by `EAGAIN` and still goes to the connection it was begun on;
* `intact_of_undisturbed`: then the bytes on every connection are whole buffers in the order of the queue, up to the end
  of the last one.
-/

namespace EdgeOffloading

/-- How far the thread is. -/
inductive ThreadPoint where
  | top
  /-- The client has found itself connected. -/
  | checked
  | holding (data : List UInt8)
  /-- The server has found itself connected. -/
  | ready (data : List UInt8)
  /-- At the call of `::send`, with the descriptor read; `begun` is the connection that has taken the first bytes. -/
  | sending (fd : Option Nat) (data : List UInt8) (offset : Nat) (begun : Option Nat)
  deriving DecidableEq, Repr

/-- The buffer that the thread holds. -/
def ThreadPoint.held : ThreadPoint → List (List UInt8)
  | .holding data => [data]
  | .ready data => [data]
  | .sending _ data _ _ => [data]
  | _ => []

/-- What connection `k` has taken of the buffer. -/
def ThreadPoint.partOn (k : Nat) : ThreadPoint → List UInt8
  | .sending _ data offset begun => if begun = some k then data.take offset else []
  | _ => []

structure SenderThread where
  kind : GatewayTransport
  outgoingQueue : BoundedQueue (List UInt8)
  /-- None is the descriptor -1. -/
  socketFd : Option Nat := none
  connected : Bool := false
  /-- The connections that are open, by their descriptors. -/
  descriptors : Nat → Option Nat := fun _ => none
  /-- The number of connections so far. -/
  opened : Nat := 0
  point : ThreadPoint := .top
  enqueued : List (List UInt8) := []
  finished : List (List UInt8) := []
  /-- What has been written to each connection. -/
  streams : Nat → List UInt8 := fun _ => []

namespace SenderThread

variable (s : SenderThread)

def init (kind : GatewayTransport) (outgoingQueue : BoundedQueue (List UInt8)) : SenderThread :=
  { kind := kind, outgoingQueue := outgoingQueue, enqueued := outgoingQueue.items }

/-! ## Calls -/

/-- `::close` of the descriptor, which is -1 afterwards. -/
def closeSocket : SenderThread :=
  match s.socketFd with
  | none => s
  | some fd => { s with descriptors := Function.update s.descriptors fd none, socketFd := none }

/-- `handle_disconnect_detected`: the client does nothing where it is not connected. -/
def handleDisconnectDetected : SenderThread :=
  match s.kind with
  | .tcpServer => { s.closeSocket with connected := false }
  | .tcpClient => if s.connected then { s.closeSocket with connected := false } else s

/-- A new connection on a descriptor that is not in use. -/
def openSocket (fd : Nat) : SenderThread :=
  if (s.descriptors fd).isSome then s
  else
    { s with
      socketFd := some fd
      connected := true
      descriptors := Function.update s.descriptors fd (some s.opened)
      opened := s.opened + 1 }

/-- `accept_connection` of the server and `perform_connect_logic` of the client; `none` where no connection comes up. -/
def connect (fd : Option Nat) : SenderThread :=
  match s.kind with
  | .tcpServer =>
    if s.connected then s
    else
      match fd with
      | none => s
      | some fd => s.openSocket fd
  | .tcpClient =>
    let s := { s.closeSocket with connected := false }
    match fd with
    | none => s
    | some fd => s.openSocket fd

/-- `::send` on a descriptor: what it returns and what it writes. -/
def send (fd : Option Nat) (bytes : List UInt8) (ret : SendReturn) : SenderThread × SendReturn :=
  match fd.bind s.descriptors with
  | none => (s, .fails)
  | some k =>
    match ret with
    | .takes count =>
      ({ s with streams := Function.update s.streams k (s.streams k ++ bytes.take count) },
        .takes (min count bytes.length))
    | ret => (s, ret)

/-! ## The thread -/

/-- The thread is through with the buffer. -/
def finish (data : List UInt8) : SenderThread := { s with point := .top, finished := s.finished ++ [data] }

def dequeue : SenderThread :=
  match s.outgoingQueue.tryDequeue with
  | none => { s with point := .top }
  | some (data, queue) => { s with outgoingQueue := queue, point := .holding data }

/-- One `::send` of the server: a part that was not taken is only logged. -/
def serverSend (fd : Option Nat) (data : List UInt8) (ret : SendReturn) : SenderThread :=
  match s.send fd data ret with
  | (s, .takes _) => s.finish data
  | (s, _) => s.handleDisconnectDetected.finish data

/-- One round of the client's loop. -/
def clientSend (fd : Option Nat) (data : List UInt8) (offset : Nat) (ret : SendReturn) : SenderThread :=
  if offset < data.length then
    match s.send fd (data.drop offset) ret with
    | (s, .takes count) =>
      { s with point := .sending fd data (offset + count) (if offset + count = 0 then none else fd.bind s.descriptors) }
    | (s, .wouldBlock) => s.finish data
    | (s, .fails) => s.handleDisconnectDetected.finish data
  else s.finish data

/-- One step of the server's thread; `ret` is what `::send` returns if it is called. -/
def serverStep (ret : SendReturn) : SenderThread :=
  match s.point with
  | .holding data =>
    if s.connected && s.socketFd.isSome then { s with point := .ready data } else s.finish data
  | .ready data => { s with point := .sending s.socketFd data 0 none }
  | .sending fd data _ _ => s.serverSend fd data ret
  | _ => s.dequeue

def clientStep (ret : SendReturn) : SenderThread :=
  match s.point with
  | .top => if s.connected then { s with point := .checked } else s
  | .checked => s.dequeue
  | .sending fd data offset _ => s.clientSend fd data offset ret
  | .holding data | .ready data => { s with point := .sending s.socketFd data 0 none }

def threadStep (ret : SendReturn) : SenderThread :=
  match s.kind with
  | .tcpServer => s.serverStep ret
  | .tcpClient => s.clientStep ret

inductive Event where
  /-- `async_send_data`. -/
  | enqueue (data : List UInt8)
  | connect (fd : Option Nat)
  /-- Another thread finds the connection lost. -/
  | lost
  | thread (ret : SendReturn)
  deriving DecidableEq, Repr

def step (s : SenderThread) : Event → SenderThread
  | .enqueue data =>
    match s.kind.asyncSendData s.connected s.outgoingQueue data with
    | (.success, queue) => { s with outgoingQueue := queue, enqueued := s.enqueued ++ [data] }
    | _ => s
  | .connect fd => s.connect fd
  | .lost => s.handleDisconnectDetected
  | .thread ret => s.threadStep ret

/-- What is written to a connection is whole buffers in the order of the queue, up to the end of the last one. -/
def StreamsIntact (s : SenderThread) : Prop := ∀ k, Intact s.enqueued (s.streams k)

/-- The step does not leave a buffer in the middle of a connection, and goes on where it has begun. -/
def Undisturbed (s : SenderThread) : Event → Prop
  | .thread ret =>
    match s.kind, s.point with
    | .tcpServer, .sending fd data _ _ =>
      ∀ count, (s.send fd data ret).2 = .takes count → count = 0 ∨ count = data.length
    | .tcpClient, .sending fd data offset begun =>
      0 < offset → offset < data.length →
        (s.send fd (data.drop offset) ret).2 ≠ .wouldBlock ∧ ∀ k, fd.bind s.descriptors = some k → begun = some k
    | _, _ => True
  | _ => True

/-! ## Invariants -/

/-- The invariant of undisturbed runs. At most the socket of the transport is open, and what is written to it is whole
buffers and the part of the buffer that the thread is sending there. -/
structure Sound (s : SenderThread) : Prop where
  history : s.enqueued = s.finished ++ s.point.held ++ s.outgoingQueue.items
  current : ∀ fd k, s.descriptors fd = some k → s.socketFd = some fd ∧ s.connected = true ∧ k < s.opened
  later : ∀ k, s.opened ≤ k → s.streams k = [] ∧ s.point.partOn k = []
  server : s.kind = .tcpServer → ∀ k, s.point.partOn k = []
  whole : ∀ fd k, s.descriptors fd = some k → ∃ w, Whole s.finished w ∧ s.streams k = w ++ s.point.partOn k
  intact : ∀ k, Intact (s.finished ++ s.point.held) (s.streams k)

variable {s} {t : SenderThread} {data : List UInt8}

theorem undisturbed_server {fd begun : Option Nat} {offset : Nat} {ret : SendReturn} (hkind : s.kind = .tcpServer)
    (hpoint : s.point = .sending fd data offset begun) :
    Undisturbed s (.thread ret) ↔ ∀ count, (s.send fd data ret).2 = .takes count → count = 0 ∨ count = data.length := by
  unfold Undisturbed
  rw [hkind, hpoint]

theorem undisturbed_client {fd begun : Option Nat} {offset : Nat} {ret : SendReturn} (hkind : s.kind = .tcpClient)
    (hpoint : s.point = .sending fd data offset begun) :
    Undisturbed s (.thread ret) ↔ (0 < offset → offset < data.length →
      (s.send fd (data.drop offset) ret).2 ≠ .wouldBlock ∧ ∀ k, fd.bind s.descriptors = some k → begun = some k) := by
  unfold Undisturbed
  rw [hkind, hpoint]

theorem Sound.streamsIntact (h : Sound s) : s.StreamsIntact := by
  intro k
  rw [h.history]
  exact (h.intact k).mono (List.sublist_append_left _ _)

theorem sound_init (kind : GatewayTransport) (outgoingQueue : BoundedQueue (List UInt8)) :
    Sound (init kind outgoingQueue) :=
  ⟨rfl, fun _ _ h => (by cases h), fun _ _ => ⟨rfl, rfl⟩, fun _ _ => rfl, fun _ _ h => (by cases h),
    fun _ => intact_nil _⟩

/-- Nothing is open. -/
def Closed (s : SenderThread) : Prop := ∀ fd, s.descriptors fd = none

theorem Sound.closed_of_not_connected (h : Sound s) (hdown : s.connected = false) : Closed s := by
  intro fd
  by_contra hopen
  obtain ⟨k, hk⟩ := Option.ne_none_iff_exists'.mp hopen
  cases (h.current fd k hk).2.1.symm.trans hdown

theorem Sound.closed_closeSocket (h : Sound s) : Closed s.closeSocket := by
  intro fd
  unfold closeSocket
  split
  · rename_i hfd
    by_contra hopen
    obtain ⟨k, hk⟩ := Option.ne_none_iff_exists'.mp hopen
    cases hfd.symm.trans (h.current fd k hk).1
  · rename_i fd' hfd
    show Function.update s.descriptors fd' none fd = none
    rw [Function.update_apply]
    split_ifs with heq
    · rfl
    · by_contra hopen
      obtain ⟨k, hk⟩ := Option.ne_none_iff_exists'.mp hopen
      cases hfd.symm.trans (h.current fd k hk).1
      exact heq rfl

/-- Closing concerns the socket alone. -/
structure SameButSocket (s t : SenderThread) : Prop where
  kind : t.kind = s.kind
  queue : t.outgoingQueue = s.outgoingQueue
  opened : t.opened = s.opened
  point : t.point = s.point
  enqueued : t.enqueued = s.enqueued
  finished : t.finished = s.finished
  streams : t.streams = s.streams

theorem sameButSocket_closeSocket (s : SenderThread) (connected : Bool) :
    SameButSocket s { s.closeSocket with connected := connected } := by
  unfold closeSocket
  split <;> exact ⟨rfl, rfl, rfl, rfl, rfl, rfl, rfl⟩

theorem Sound.of_closed (h : Sound s) (hsame : SameButSocket s t) (hclosed : Closed t) : Sound t := by
  have hnone : ∀ {fd k}, t.descriptors fd = some k → False := fun hk => by rw [hclosed] at hk; cases hk
  refine ⟨?_, fun _ _ hk => (hnone hk).elim, ?_, ?_, fun _ _ hk => (hnone hk).elim, ?_⟩
  · rw [hsame.enqueued, hsame.finished, hsame.point, hsame.queue]
    exact h.history
  · rw [hsame.opened, hsame.streams, hsame.point]
    exact h.later
  · rw [hsame.kind, hsame.point]
    exact h.server
  · rw [hsame.finished, hsame.point, hsame.streams]
    exact h.intact

theorem Sound.handleDisconnectDetected (h : Sound s) :
    Sound s.handleDisconnectDetected ∧ Closed s.handleDisconnectDetected ∧
      SameButSocket s s.handleDisconnectDetected := by
  have hclose : Sound { s.closeSocket with connected := false } ∧
      Closed { s.closeSocket with connected := false } ∧
        SameButSocket s { s.closeSocket with connected := false } :=
    ⟨h.of_closed (sameButSocket_closeSocket s false) h.closed_closeSocket, h.closed_closeSocket,
      sameButSocket_closeSocket s false⟩
  unfold SenderThread.handleDisconnectDetected
  split
  · exact hclose
  · split_ifs with hup
    · exact hclose
    · exact ⟨h, h.closed_of_not_connected (Bool.eq_false_iff.mpr hup), ⟨rfl, rfl, rfl, rfl, rfl, rfl, rfl⟩⟩

theorem Sound.openSocket (h : Sound s) (hclosed : Closed s) (fd : Nat) : Sound (s.openSocket fd) := by
  unfold SenderThread.openSocket
  split_ifs
  · exact h
  · have hone : ∀ fd' k, Function.update s.descriptors fd (some s.opened) fd' = some k → fd' = fd ∧ k = s.opened := by
      intro fd' k hk
      rw [Function.update_apply] at hk
      split_ifs at hk with heq
      · exact ⟨heq, (Option.some.inj hk).symm⟩
      · rw [hclosed] at hk
        cases hk
    refine ⟨h.history, fun fd' k hk => ?_, fun k hk => h.later k (Nat.le_of_succ_le hk), h.server, fun fd' k hk => ?_,
      h.intact⟩
    · obtain ⟨rfl, rfl⟩ := hone fd' k hk
      exact ⟨rfl, rfl, Nat.lt_succ_self _⟩
    · obtain ⟨rfl, rfl⟩ := hone fd' k hk
      obtain ⟨hempty, hpart⟩ := h.later s.opened le_rfl
      refine ⟨[], whole_nil _, ?_⟩
      show s.streams s.opened = [] ++ s.point.partOn s.opened
      rw [hempty, hpart]
      rfl

theorem Sound.connect (h : Sound s) (fd : Option Nat) : Sound (s.connect fd) := by
  unfold SenderThread.connect
  split
  · split_ifs with hup
    · exact h
    · cases fd with
      | none => exact h
      | some fd => exact h.openSocket (h.closed_of_not_connected (Bool.eq_false_iff.mpr hup)) fd
  · have hclosed : Sound { s.closeSocket with connected := false } :=
      h.of_closed (sameButSocket_closeSocket s false) h.closed_closeSocket
    cases fd with
    | none => exact hclosed
    | some fd => exact hclosed.openSocket h.closed_closeSocket fd

/-! ## The thread keeps the invariant -/

theorem Sound.finish (h : Sound s) (hheld : s.point.held = [data])
    (hwhole : ∀ fd k, s.descriptors fd = some k → Whole (s.finished ++ [data]) (s.streams k)) :
    Sound (s.finish data) := by
  refine ⟨?_, h.current, fun k hk => ⟨(h.later k hk).1, rfl⟩, fun _ _ => rfl, fun fd k hk => ?_, fun k => ?_⟩
  · show s.enqueued = s.finished ++ [data] ++ [] ++ s.outgoingQueue.items
    rw [List.append_nil, ← hheld]
    exact h.history
  · exact ⟨s.streams k, hwhole fd k hk, (List.append_nil _).symm⟩
  · show Intact (s.finished ++ [data] ++ []) (s.streams k)
    rw [List.append_nil, ← hheld]
    exact h.intact k

theorem Sound.finish_unwritten (h : Sound s) (hheld : s.point.held = [data]) (hpart : ∀ k, s.point.partOn k = []) :
    Sound (s.finish data) := by
  refine h.finish hheld fun fd k hk => ?_
  obtain ⟨w, hw, hstream⟩ := h.whole fd k hk
  rw [hstream, hpart, List.append_nil]
  exact hw.mono (List.sublist_append_left _ _)

theorem Sound.finish_closed (h : Sound s) (hheld : s.point.held = [data]) :
    Sound (s.handleDisconnectDetected.finish data) := by
  obtain ⟨hsound, hclosed, hsame⟩ := h.handleDisconnectDetected
  refine hsound.finish (by rw [hsame.point, hheld]) fun fd k hk => ?_
  rw [hclosed fd] at hk
  cases hk

theorem Sound.dequeue (h : Sound s) (hheld : s.point.held = []) (hpart : ∀ k, s.point.partOn k = []) :
    Sound s.dequeue := by
  have hwhole : ∀ fd k, s.descriptors fd = some k → ∃ w, Whole s.finished w ∧ s.streams k = w ++ [] := by
    intro fd k hk
    obtain ⟨w, hw, hstream⟩ := h.whole fd k hk
    rw [hpart] at hstream
    exact ⟨w, hw, hstream⟩
  have hhistory := h.history
  rw [hheld, List.append_nil] at hhistory
  unfold SenderThread.dequeue
  cases hqueue : s.outgoingQueue.tryDequeue with
  | none =>
      refine ⟨?_, h.current, fun k hk => ⟨(h.later k hk).1, rfl⟩, fun _ _ => rfl, hwhole, fun k => ?_⟩
      · show s.enqueued = s.finished ++ [] ++ s.outgoingQueue.items
        rw [List.append_nil]
        exact hhistory
      · have hintact := h.intact k
        rw [hheld] at hintact
        exact hintact
  | some item =>
      obtain ⟨data, queue⟩ := item
      have hitems : s.outgoingQueue.items = data :: queue.items := by
        obtain ⟨a, ha, heq⟩ := Option.map_eq_some_iff.mp hqueue
        cases heq
        exact (List.cons_head?_tail ha).symm
      refine ⟨?_, h.current, fun k hk => ⟨(h.later k hk).1, rfl⟩, fun _ _ => rfl, hwhole, fun k => ?_⟩
      · show s.enqueued = s.finished ++ [data] ++ queue.items
        rw [hhistory, hitems, List.append_assoc]
        rfl
      · have hintact := h.intact k
        rw [hheld, List.append_nil] at hintact
        exact hintact.mono (List.sublist_append_left _ _)

theorem Sound.move (h : Sound s) {point : ThreadPoint} (hheld : point.held = s.point.held)
    (hpart : ∀ k, point.partOn k = s.point.partOn k) : Sound { s with point := point } := by
  refine ⟨?_, h.current, fun k hk => ?_, fun hkind k => ?_, fun fd k hk => ?_, fun k => ?_⟩
  · show s.enqueued = s.finished ++ point.held ++ s.outgoingQueue.items
    rw [hheld]
    exact h.history
  · exact ⟨(h.later k hk).1, (hpart k).trans (h.later k hk).2⟩
  · exact (hpart k).trans (h.server hkind k)
  · show ∃ w, Whole s.finished w ∧ s.streams k = w ++ point.partOn k
    rw [hpart]
    exact h.whole fd k hk
  · show Intact (s.finished ++ point.held) (s.streams k)
    rw [hheld]
    exact h.intact k

theorem send_cases (s : SenderThread) (fd : Option Nat) (bytes : List UInt8) (ret : SendReturn) :
    (s.send fd bytes ret).1 = s ∧ ((s.send fd bytes ret).2 = .wouldBlock ∨ (s.send fd bytes ret).2 = .fails) ∨
      ∃ k count, fd.bind s.descriptors = some k ∧ count ≤ bytes.length ∧
        s.send fd bytes ret =
          ({ s with streams := Function.update s.streams k (s.streams k ++ bytes.take count) }, .takes count) := by
  unfold send
  cases hk : fd.bind s.descriptors with
  | none => exact .inl ⟨rfl, .inr rfl⟩
  | some k =>
      cases ret with
      | wouldBlock => exact .inl ⟨rfl, .inl rfl⟩
      | fails => exact .inl ⟨rfl, .inr rfl⟩
      | takes count =>
          refine .inr ⟨k, min count bytes.length, rfl, min_le_right _ _, ?_⟩
          have htake : bytes.take (min count bytes.length) = bytes.take count := by
            rw [← List.take_take, List.take_length]
          simp only [htake]

theorem Sound.eq_of_open (h : Sound s) {fd : Option Nat} {k : Nat} (hk : fd.bind s.descriptors = some k) :
    k < s.opened ∧ (∃ w, Whole s.finished w ∧ s.streams k = w ++ s.point.partOn k) ∧
      ∀ fd' k', s.descriptors fd' = some k' → k' = k := by
  cases fd with
  | none => cases hk
  | some fd =>
      obtain ⟨hfd, -, hlt⟩ := h.current fd k hk
      refine ⟨hlt, h.whole fd k hk, fun fd' k' hk' => ?_⟩
      cases hfd.symm.trans (h.current fd' k' hk').1
      exact Option.some.inj (hk'.symm.trans hk)

theorem Sound.write (h : Sound s) {fd : Option Nat} {k : Nat} (hk : fd.bind s.descriptors = some k)
    {bytes : List UInt8} {point : ThreadPoint} {finished : List (List UInt8)}
    (hheld : finished ++ point.held = s.finished ++ s.point.held) (hother : ∀ k', k' ≠ k → point.partOn k' = [])
    (hserver : s.kind = .tcpServer → point.partOn k = [])
    (hwhole : ∃ w, Whole finished w ∧ s.streams k ++ bytes = w ++ point.partOn k)
    (hintact : Intact (finished ++ point.held) (s.streams k ++ bytes)) :
    Sound { s with
      streams := Function.update s.streams k (s.streams k ++ bytes), point := point, finished := finished } := by
  obtain ⟨hlt, -, honly⟩ := h.eq_of_open hk
  refine ⟨?_, h.current, fun k' hk' => ?_, fun hkind k' => ?_, fun fd' k' hk' => ?_, fun k' => ?_⟩
  · show s.enqueued = finished ++ point.held ++ s.outgoingQueue.items
    rw [hheld]
    exact h.history
  · have hne : k' ≠ k := (hlt.trans_le hk').ne'
    refine ⟨?_, hother k' hne⟩
    show Function.update s.streams k _ k' = []
    rw [Function.update_of_ne hne]
    exact (h.later k' hk').1
  · obtain rfl | hne := eq_or_ne k' k
    · exact hserver hkind
    · exact hother k' hne
  · obtain rfl := honly fd' k' hk'
    show ∃ w, Whole finished w ∧ Function.update s.streams k' _ k' = w ++ point.partOn k'
    rw [Function.update_self]
    exact hwhole
  · show Intact (finished ++ point.held) (Function.update s.streams k _ k')
    obtain rfl | hne := eq_or_ne k' k
    · rw [Function.update_self]
      exact hintact
    · rw [Function.update_of_ne hne, hheld]
      exact h.intact k'

theorem Sound.serverSend (h : Sound s) (hkind : s.kind = .tcpServer) (hheld : s.point.held = [data])
    (fd : Option Nat) (ret : SendReturn)
    (hall : ∀ count, (s.send fd data ret).2 = .takes count → count = 0 ∨ count = data.length) :
    Sound (s.serverSend fd data ret) := by
  unfold SenderThread.serverSend
  obtain ⟨hsame, hret⟩ | ⟨k, count, hk, -, hsend⟩ := send_cases s fd data ret
  · rw [← Prod.mk.eta (p := s.send fd data ret), hsame]
    obtain hret | hret := hret
    · rw [hret]
      exact h.finish_closed hheld
    · rw [hret]
      exact h.finish_closed hheld
  · obtain ⟨-, ⟨w, hw, hstream⟩, -⟩ := h.eq_of_open hk
    rw [h.server hkind, List.append_nil] at hstream
    have hwhole : Whole (s.finished ++ [data]) (s.streams k ++ data.take count) := by
      rw [hstream]
      obtain rfl | rfl := hall count (congrArg Prod.snd hsend)
      · rw [List.take_zero, List.append_nil]
        exact hw.mono (List.sublist_append_left _ _)
      · rw [List.take_length]
        exact hw.append data
    rw [hsend]
    refine h.write hk ?_ (fun _ _ => rfl) (fun _ => rfl) ⟨_, hwhole, (List.append_nil _).symm⟩ ?_
    · rw [hheld]
      exact List.append_nil _
    · exact hwhole.intact.mono (List.sublist_append_left _ _)

/-- What the open connection has taken of the buffer, where it is the one on which the buffer was begun. -/
theorem partOn_sending {fd begun : Option Nat} {offset k : Nat} (hbegun : 0 < offset → begun = some k) :
    (ThreadPoint.sending fd data offset begun).partOn k = data.take offset := by
  show (if begun = some k then data.take offset else []) = data.take offset
  split_ifs with h
  · rfl
  · obtain rfl | hpos := Nat.eq_zero_or_pos offset
    · rfl
    · exact absurd (hbegun hpos) h

theorem Sound.clientSend (h : Sound s) (hkind : s.kind = .tcpClient) {fd begun : Option Nat} {offset : Nat}
    (hpoint : s.point = .sending fd data offset begun) (ret : SendReturn)
    (hon : 0 < offset → offset < data.length →
      (s.send fd (data.drop offset) ret).2 ≠ .wouldBlock ∧ ∀ k, fd.bind s.descriptors = some k → begun = some k) :
    Sound (s.clientSend fd data offset ret) := by
  have hheld : s.point.held = [data] := by rw [hpoint]; rfl
  unfold SenderThread.clientSend
  split_ifs with hlt
  · obtain ⟨hsame, hret⟩ | ⟨k, count, hk, hle, hsend⟩ := send_cases s fd (data.drop offset) ret
    · rw [← Prod.mk.eta (p := s.send fd (data.drop offset) ret), hsame]
      obtain hret | hret := hret
      · rw [hret]
        -- `EAGAIN` drops the rest of the buffer, so nothing of it may be out
        have hzero : offset = 0 := by
          by_contra hne
          exact (hon (Nat.pos_of_ne_zero hne) hlt).1 hret
        subst hzero
        refine h.finish_unwritten hheld fun k => ?_
        rw [hpoint]
        exact ite_self _
      · rw [hret]
        exact h.finish_closed hheld
    · obtain ⟨-, ⟨w, hw, hstream⟩, -⟩ := h.eq_of_open hk
      rw [hpoint, partOn_sending fun hpos => (hon hpos hlt).2 k hk] at hstream
      have hpart : (ThreadPoint.sending fd data (offset + count)
          (if offset + count = 0 then none else some k)).partOn k = data.take (offset + count) :=
        partOn_sending fun hpos => if_neg hpos.ne'
      have hbytes : s.streams k ++ (data.drop offset).take count = w ++ data.take (offset + count) := by
        rw [hstream, List.append_assoc, List.take_add]
      rw [hsend]
      simp only [hk]
      refine h.write hk ?_ (fun k' hne => ?_) (fun hserver => ?_) ⟨w, hw, ?_⟩ ?_
      · rw [hheld]
        rfl
      · show (if (if offset + count = 0 then none else some k) = some k' then _ else []) = []
        refine if_neg fun heq => ?_
        split_ifs at heq
        exact hne (Option.some.inj heq).symm
      · cases hkind.symm.trans hserver
      · rw [hpart]
        exact hbytes
      · rw [hbytes]
        exact hw.intact_append data (offset + count)
  · -- the loop is at its end
    refine h.finish hheld fun fd' k hk => ?_
    obtain ⟨w, hw, hstream⟩ := h.whole fd' k hk
    rw [hstream, hpoint]
    show Whole _ (w ++ if begun = some k then data.take offset else [])
    split_ifs
    · rw [List.take_of_length_le (not_lt.mp hlt)]
      exact hw.append data
    · rw [List.append_nil]
      exact hw.mono (List.sublist_append_left _ _)

theorem Sound.serverStep (h : Sound s) (hkind : s.kind = .tcpServer) (ret : SendReturn)
    (hC : Undisturbed s (.thread ret)) : Sound (s.serverStep ret) := by
  unfold SenderThread.serverStep
  split
  · rename_i data hpoint
    have hheld : s.point.held = [data] := by rw [hpoint]; rfl
    split_ifs
    · exact h.move hheld.symm fun k => (h.server hkind k).symm
    · exact h.finish_unwritten hheld (h.server hkind)
  · rename_i data hpoint
    refine h.move (by rw [hpoint]; rfl) fun k => ?_
    rw [h.server hkind]
    rfl
  · rename_i fd data offset begun hpoint
    exact h.serverSend hkind (by rw [hpoint]; rfl) fd ret ((undisturbed_server hkind hpoint).mp hC)
  · rename_i hholding hready hsending
    refine h.dequeue ?_ (h.server hkind)
    cases hpoint : s.point with
    | top => rfl
    | checked => rfl
    | holding data => exact absurd hpoint (hholding data)
    | ready data => exact absurd hpoint (hready data)
    | sending fd data offset begun => exact absurd hpoint (hsending fd data offset begun)

theorem Sound.clientStep (h : Sound s) (hkind : s.kind = .tcpClient) (ret : SendReturn)
    (hC : Undisturbed s (.thread ret)) : Sound (s.clientStep ret) := by
  unfold SenderThread.clientStep
  split
  · rename_i hpoint
    split_ifs
    · exact h.move (by rw [hpoint]; rfl) fun k => (by rw [hpoint]; rfl)
    · exact h
  · rename_i hpoint
    exact h.dequeue (by rw [hpoint]; rfl) fun k => (by rw [hpoint]; rfl)
  · rename_i fd data offset begun hpoint
    exact h.clientSend hkind hpoint ret ((undisturbed_client hkind hpoint).mp hC)
  · rename_i data hpoint
    exact h.move (by rw [hpoint]; rfl) fun k => (by rw [hpoint]; rfl)
  · rename_i data hpoint
    exact h.move (by rw [hpoint]; rfl) fun k => (by rw [hpoint]; rfl)

theorem Sound.enqueue (h : Sound s) (data : List UInt8) : Sound (step s (.enqueue data)) := by
  unfold SenderThread.step
  rw [s.kind.asyncSendData_eq]
  unfold EdgeOffloading.asyncSendData BoundedQueue.tryEnqueue
  split_ifs
  · exact h
  · refine ⟨?_, h.current, h.later, h.server, h.whole, h.intact⟩
    show s.enqueued ++ [data] = s.finished ++ s.point.held ++ (s.outgoingQueue.items ++ [data])
    rw [h.history, List.append_assoc]
  · exact h

theorem Sound.step (s : SenderThread) (e : Event) (h : Sound s) (hC : Undisturbed s e) : Sound (step s e) := by
  cases e with
  | enqueue data => exact h.enqueue data
  | connect fd => exact h.connect fd
  | lost => exact h.handleDisconnectDetected.1
  | thread ret =>
      show Sound (s.threadStep ret)
      unfold SenderThread.threadStep
      split
      · rename_i hkind
        exact h.serverStep hkind ret hC
      · rename_i hkind
        exact h.clientStep hkind ret hC

/-- In every undisturbed run, from every queue, every connection carries whole buffers in the order of the queue, up to
the end of the last one. -/
theorem intact_of_undisturbed (kind : GatewayTransport) (outgoingQueue : BoundedQueue (List UInt8)) (es : List Event)
    (hC : Run.Along SenderThread.step Undisturbed (init kind outgoingQueue) es) (pre : List Event) (hpre : pre <+: es) :
    StreamsIntact (Run.run SenderThread.step (init kind outgoingQueue) pre) :=
  (Run.run_invariant_on_the_way SenderThread.step Sound.step (sound_init kind outgoingQueue) hC pre hpre).streamsIntact

/-- The client gets its buffer out in two calls. -/
theorem intact_of_undisturbed_two_parts :
    let queue : BoundedQueue (List UInt8) := ⟨1024, [], Nat.zero_le _⟩
    let es := [.connect (some 7), .enqueue [1, 2], .thread .fails, .thread .fails, .thread .fails, .thread (.takes 1),
      .thread (.takes 1), .thread .fails]
    Run.Along SenderThread.step Undisturbed (init .tcpClient queue) es ∧
      StreamsIntact (Run.run SenderThread.step (init .tcpClient queue) es) ∧
        (Run.run SenderThread.step (init .tcpClient queue) es).streams 0 = [1, 2] := by
  intro queue es
  have hC : Run.Along SenderThread.step Undisturbed (init .tcpClient queue) es := by
    refine ⟨trivial, trivial, trivial, trivial, trivial, ?_, ?_, ?_, trivial⟩
    · rw [undisturbed_client (by decide +kernel)
        (show _ = ThreadPoint.sending (some 7) [1, 2] 0 none by decide +kernel)]
      exact fun h => absurd h (lt_irrefl 0)
    · rw [undisturbed_client (by decide +kernel)
        (show _ = ThreadPoint.sending (some 7) [1, 2] 1 (some 0) by decide +kernel)]
      refine fun _ _ => ⟨by decide +kernel, fun k hk => ?_⟩
      rw [← hk]
      decide +kernel
    · rw [undisturbed_client (by decide +kernel)
        (show _ = ThreadPoint.sending (some 7) [1, 2] 2 (some 0) by decide +kernel)]
      exact fun _ h => absurd h (lt_irrefl 2)
  exact ⟨hC, intact_of_undisturbed .tcpClient queue es hC es List.prefix_rfl, by decide +kernel⟩

/-- `::send` of the server takes one byte of three, and the next buffer follows. The client is stopped by `EAGAIN` after
one byte. -/
theorem not_intact_of_disturbed :
    let queue : BoundedQueue (List UInt8) := ⟨1024, [], Nat.zero_le _⟩
    let server := [.connect (some 7), .enqueue [1, 2, 3], .enqueue [4, 5], .thread .fails, .thread .fails,
      .thread .fails, .thread (.takes 1), .thread .fails, .thread .fails, .thread .fails, .thread (.takes 2)]
    let client := [.connect (some 7), .enqueue [1, 2, 3], .enqueue [4, 5], .thread .fails, .thread .fails,
      .thread .fails, .thread (.takes 1), .thread .wouldBlock, .thread .fails, .thread .fails, .thread .fails,
      .thread (.takes 2)]
    (Run.run SenderThread.step (init .tcpServer queue) server).streams 0 = [1, 4, 5] ∧
      ¬ StreamsIntact (Run.run SenderThread.step (init .tcpServer queue) server) ∧
        (Run.run SenderThread.step (init .tcpClient queue) client).streams 0 = [1, 4, 5] ∧
          ¬ StreamsIntact (Run.run SenderThread.step (init .tcpClient queue) client) := by
  refine ⟨by decide +kernel, fun h => ?_, by decide +kernel, fun h => ?_⟩
  · exact absurd (h 0) (by decide +kernel)
  · exact absurd (h 0) (by decide +kernel)

end SenderThread

end EdgeOffloading
