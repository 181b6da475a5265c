import EdgeOffloading.Bridge.Worker

/-!
# Messages and connections

The receive buffer is emptied when the thread starts and not when it connects again. What a lost connection leaves in
it is the front of what the next one brings.

* `Separate`: every message is made of bytes of one connection, and the messages of a connection are those that
  reassembly finds from its first byte on;
* `separate_along`: it holds all along a run in which the buffer is empty when the first bytes of a connection are read.
-/

namespace EdgeOffloading

open Framing

theorem mem_of_mem_splitOrigins {msgs : List RoutedMessage} {origins part : List Nat} {o : Nat}
    (hpart : part ∈ splitOrigins msgs origins) (ho : o ∈ part) : o ∈ origins := by
  induction msgs generalizing origins with
  | nil => cases hpart
  | cons msg msgs ih =>
      rcases List.mem_cons.mp hpart with rfl | hpart
      · exact List.mem_of_mem_take ho
      · exact List.mem_of_mem_drop (ih hpart)

theorem length_splitOrigins (msgs : List RoutedMessage) (origins : List Nat)
    (h : (msgs.map RoutedMessage.data).flatten.length ≤ origins.length) :
    (splitOrigins msgs origins).map List.length = msgs.map fun msg => msg.data.length := by
  induction msgs generalizing origins with
  | nil => rfl
  | cons msg msgs ih =>
      rw [List.map_cons, List.flatten_cons, List.length_append] at h
      have hrest := ih (origins.drop msg.data.length) (by rw [List.length_drop]; omega)
      simp only [splitOrigins, List.map_cons, hrest, List.length_take]
      rw [min_eq_left (by omega)]

/-- The reads on one connection. -/
def onConnection (log : List SocketRead) (connection : Nat) : List SocketRead :=
  log.filter fun r => r.connection = connection

theorem onConnection_concat (log : List SocketRead) (r : SocketRead) (connection : Nat) :
    onConnection (log ++ [r]) connection =
      if r.connection = connection then onConnection log connection ++ [r] else onConnection log connection := by
  unfold onConnection
  by_cases h : r.connection = connection <;> simp [List.filter_append, h]

namespace Worker

/-- What has been routed is kept apart by connection. -/
structure Separate (w : Worker) : Prop where
  single : ∀ r ∈ w.log, ∀ origins ∈ r.origins, ∀ o ∈ origins, o = r.connection
  /-- Every byte of every message has its origin. -/
  tagged : ∀ r ∈ w.log, r.origins.map List.length = r.routed.map fun msg => msg.data.length
  fromFirst : ∀ connection, ((onConnection w.log connection).flatMap SocketRead.routed).map RoutedMessage.data =
    (feed headerScanner [] ((onConnection w.log connection).map SocketRead.chunk)).1

theorem Separate.record {w w' : Worker} {r : SocketRead} (h : Separate w) (hlog : w'.log = w.log ++ [r])
    (hsingle : ∀ origins ∈ r.origins, ∀ o ∈ origins, o = r.connection)
    (htagged : r.origins.map List.length = r.routed.map fun msg => msg.data.length)
    (hrouted : r.routed.map RoutedMessage.data =
      (drain headerScanner
        ((feed headerScanner [] ((onConnection w.log r.connection).map SocketRead.chunk)).2 ++ r.chunk)).1) :
    Separate w' := by
  have hmem : ∀ x ∈ w'.log, x ∈ w.log ∨ x = r := by
    intro x hx
    rw [hlog] at hx
    rcases List.mem_append.mp hx with hx | hx
    · exact Or.inl hx
    · exact Or.inr (List.mem_singleton.mp hx)
  refine ⟨?_, ?_, ?_⟩
  · intro x hx
    rcases hmem x hx with hx | rfl
    · exact h.single x hx
    · exact hsingle
  · intro x hx
    rcases hmem x hx with hx | rfl
    · exact h.tagged x hx
    · exact htagged
  · intro connection
    rw [hlog, onConnection_concat]
    split_ifs with hcurrent
    · subst hcurrent
      rw [List.flatMap_append, List.map_append, List.map_append, h.fromFirst, List.map_singleton, feed_concat,
        List.flatMap_singleton, hrouted]
    · exact h.fromFirst connection

/-- The buffer is empty when the first bytes of a connection are read. -/
def CleanStart (w : Worker) (e : Event) : Prop :=
  w.incoming e ≠ [] → (∀ r ∈ w.log, r.connection ≠ w.client.opened) → w.handler.receiveBuffer = []

/-- The invariant: once a connection has been read from, the buffer holds its bytes only. -/
structure Tracks (w : Worker) : Prop where
  owned : Owned w
  separate : Separate w
  past : ∀ r ∈ w.log, r.connection ≤ w.client.opened
  length : w.origins.length = w.handler.receiveBuffer.length
  current : w.client.isConnected = true → onConnection w.log w.client.opened ≠ [] →
    (∀ o ∈ w.origins, o = w.client.opened) ∧
      w.handler.receiveBuffer = (feed headerScanner [] ((onConnection w.log w.client.opened).map SocketRead.chunk)).2

theorem tracks_quiet {w w' : Worker} (h : Tracks w) (howned : Owned w') (hq : Quiet w w') : Tracks w' := by
  have hlog := hq.log
  refine ⟨howned, ⟨?_, ?_, ?_⟩, ?_, ?_, ?_⟩
  · rw [hlog]; exact h.separate.single
  · rw [hlog]; exact h.separate.tagged
  · rw [hlog]; exact h.separate.fromFirst
  · intro r hr
    rw [hlog] at hr
    exact (h.past r hr).trans hq.opened
  · rw [hq.origins, hq.buffer]
    exact h.length
  · intro hconn hread
    rw [hlog] at hread ⊢
    rw [hq.origins, hq.buffer]
    by_cases hsame : w'.client.opened = w.client.opened
    · rw [hsame] at hread ⊢
      exact h.current (hq.connected hsame hconn) hread
    · -- nothing has been read on a connection that is new
      obtain ⟨r, hr⟩ := List.exists_mem_of_ne_nil _ hread
      obtain ⟨hmem, hr⟩ := List.mem_filter.mp hr
      have hle := h.past r hmem
      have hlt := hq.opened
      have heq : r.connection = w'.client.opened := of_decide_eq_true hr
      omega

theorem Tracks.buffer_of_cleanStart {w : Worker} {e : Event} (h : Tracks w) (hclean : CleanStart w e)
    (hreads : Reads w (w.incoming e) (w.step e)) : (∀ o ∈ w.origins, o = w.client.opened) ∧
      w.handler.receiveBuffer =
        (feed headerScanner [] ((onConnection w.log w.client.opened).map SocketRead.chunk)).2 := by
  by_cases hfirst : onConnection w.log w.client.opened = []
  · have hempty : w.handler.receiveBuffer = [] := by
      apply hclean hreads.ne_nil
      intro r hr heq
      have hmem : r ∈ onConnection w.log w.client.opened := List.mem_filter.mpr ⟨hr, decide_eq_true heq⟩
      rw [hfirst] at hmem
      cases hmem
    have horigins : w.origins = [] := by
      apply List.length_eq_zero_iff.mp
      rw [h.length, hempty]
      rfl
    rw [hfirst, hempty, horigins]
    exact ⟨fun o ho => absurd ho List.not_mem_nil, rfl⟩
  · exact h.current hreads.connected hfirst

theorem tracks_reads {w : Worker} {e : Event} (h : Tracks w) (howned : Owned (w.step e)) (hclean : CleanStart w e)
    (hreads : Reads w (w.incoming e) (w.step e)) : Tracks (w.step e) := by
  obtain ⟨horigins, hbuffer⟩ := h.buffer_of_cleanStart hclean hreads
  obtain ⟨routed, origins, rfl, hrouted, hleft, hlog⟩ := hreads.history
  have hlen := drain_length headerScanner (w.handler.receiveBuffer ++ w.incoming e)
  have hcount : (w.origins ++ List.replicate (w.incoming e).length w.client.opened).length =
      (w.handler.receiveBuffer ++ w.incoming e).length := by
    rw [List.length_append, List.length_append, List.length_replicate, h.length]
  have hall : ∀ o ∈ w.origins ++ List.replicate (w.incoming e).length w.client.opened, o = w.client.opened := by
    intro o ho
    rcases List.mem_append.mp ho with ho | ho
    · exact horigins o ho
    · exact List.eq_of_mem_replicate ho
  have hbuffer' := hreads.buffer
  rw [hbuffer] at hrouted hbuffer'
  refine ⟨howned, ?_, ?_, ?_, ?_⟩
  · refine h.separate.record hlog (fun part hpart o ho => hall o (mem_of_mem_splitOrigins hpart ho)) ?_ hrouted
    apply length_splitOrigins
    rw [hrouted, ← hbuffer, hcount]
    omega
  · intro r hr
    rw [hlog] at hr
    rw [hreads.opened]
    rcases List.mem_append.mp hr with hr | hr
    · exact h.past r hr
    · obtain rfl := List.mem_singleton.mp hr
      exact le_rfl
  · rw [hleft, List.length_drop, hcount, hreads.buffer]
    omega
  · intro _ _
    constructor
    · intro o ho
      rw [hleft] at ho
      rw [hreads.opened]
      exact hall o (List.mem_of_mem_drop ho)
    · rw [hreads.opened, hlog, onConnection_concat, if_pos rfl, List.map_append, List.map_singleton, feed_concat]
      exact hbuffer'

theorem tracks_step (w : Worker) (e : Event) (h : Tracks w) (hclean : CleanStart w e) : Tracks (w.step e) := by
  have howned := owned_step h.owned e
  rcases step_cases w e with ⟨hq, -⟩ | ⟨hjoined, -, hreset, hempty⟩ | hreads
  · exact tracks_quiet h howned hq
  · -- the thread starts: nothing is connected
    have hnot := h.owned.joined hjoined
    refine ⟨howned, ?_, ?_, ?_, ?_⟩
    · rw [hreset]; exact ⟨h.separate.single, h.separate.tagged, h.separate.fromFirst⟩
    · rw [hreset]; exact h.past
    · rw [hempty, hreset]
      rfl
    · intro hconn
      rw [hreset] at hconn
      exact absurd (hnot.symm.trans hconn) (by decide)
  · exact tracks_reads h howned hclean hreads

theorem Fresh.tracks {w : Worker} (h : Fresh w) : Tracks w := by
  have hnot : w.client.isConnected = false := by
    unfold TcpClientTransport.isConnected
    rw [h.socket]
    rfl
  have hnone : ∀ r, r ∉ w.log := fun r hr => by
    rw [h.log] at hr
    cases hr
  refine ⟨⟨fun hrun => ?_, fun _ => hnot⟩, ⟨?_, ?_, fun c => ?_⟩, ?_, ?_, fun hconn => ?_⟩
  · exact absurd (h.running.symm.trans hrun) (by decide)
  · exact fun r hr => absurd hr (hnone r)
  · exact fun r hr => absurd hr (hnone r)
  · rw [h.log]
    rfl
  · exact fun r hr => absurd hr (hnone r)
  · rw [h.origins, h.buffer]
    rfl
  · exact absurd (hnot.symm.trans hconn) (by decide)

/-- **Messages do not mix connections** in a run whose first read on each connection finds the buffer empty. -/
theorem separate_along {gatewayId targetIp : String} {targetPort : Int} {inputQueue : QueueId}
    {config : TransportHandlerConfig} {retries : Nat} {w : Worker}
    (hc : create gatewayId targetIp targetPort inputQueue config retries = some w) (es : List Event)
    (hclean : Run.Along step CleanStart w es) : ∀ pre, pre <+: es → Separate (Run.run step w pre) := by
  intro pre hpre
  exact (Run.run_invariant_on_the_way step tracks_step (fresh_of_create hc).tracks hclean pre hpre).separate

/-! ## Runs -/

/-- A frame, then the peer closes and the worker connects again. -/
def wholeThenClosed : List Event :=
  [.start, .connectCycle true, .arrive sampleFrame.bytes, .iterate sampleIteration, .peerClose,
    .iterate sampleIteration, .connectCycle true, .arrive sampleFrame.bytes, .iterate sampleIteration]

/-- The same with the last byte of the first frame missing. -/
def cutThenClosed : List Event :=
  [.start, .connectCycle true, .arrive (sampleFrame.bytes.take 16), .iterate sampleIteration, .peerClose,
    .iterate sampleIteration, .connectCycle true, .arrive sampleFrame.bytes, .iterate sampleIteration]

/-- With the last byte missing, a message is sent, which takes a new connection. -/
def cutThenResent : List Event :=
  [.start, .connectCycle true, .arrive (sampleFrame.bytes.take 16), .iterate sampleIteration, .enqueue [0x01],
    .iterate sampleIteration, .arrive sampleFrame.bytes, .iterate sampleIteration]

instance (w : Worker) (e : Event) : Decidable (CleanStart w e) := inferInstanceAs (Decidable (_ → _ → _))

theorem separate_wholeThenClosed : (Run.run step sampleWorker wholeThenClosed).log.length = 2 ∧
    Separate (Run.run step sampleWorker wholeThenClosed) := by
  refine ⟨by decide, separate_along create_sampleWorker wholeThenClosed ?_ _ List.prefix_rfl⟩
  simp only [wholeThenClosed, Run.along_cons, Run.along_nil]
  decide

theorem not_separate_after_cut : create "60:5" "10.0.0.5" 6000 0 default 5 = some sampleWorker ∧
    ¬ Separate (Run.run step sampleWorker cutThenClosed) ∧ ¬ Separate (Run.run step sampleWorker cutThenResent) := by
  refine ⟨create_sampleWorker, fun h => ?_, fun h => ?_⟩
  · exact absurd h.single (by decide)
  · exact absurd h.single (by decide)

end Worker

end EdgeOffloading
