import EdgeOffloading.Bridge.Worker

/-!
# Progress of the data-plane worker

An iteration that finds input does not look at the outgoing queue. If the buffer is full it does not read either, and
the worker iterates without doing anything: a frame longer than the buffer is never complete and never dropped.

* `NeverStuck`: the buffer has room, an iteration with input takes bytes off the socket or drops the connection, and an
  iteration for the output takes the next message;
* `neverStuck_along`: it holds all along a run in which no header announces more than the buffer holds, and in every
  part of the run the output gets all iterations but those paid for by a byte or a lost connection;
* `fills_of_long_frame`, `iterate_of_full`: any longer frame leads to the state that nothing leaves.
-/

namespace EdgeOffloading

open Framing

/-- The bytes that wait in the socket. -/
def TcpClientTransport.unread (c : TcpClientTransport) : Nat :=
  match c.socket with
  | none => 0
  | some s => s.arrived.length

theorem TcpClientTransport.Renews.unread_le {c c' : TcpClientTransport} (h : c.Renews c') : c'.unread ≤ c.unread := by
  have hnone : c'.socket = none → c'.unread ≤ c.unread := by
    intro hs
    unfold unread
    rw [hs]
    exact Nat.zero_le _
  rcases Nat.eq_or_lt_of_le h.opened with heq | hlt
  · rcases h.socket heq.symm with hs | hs
    · unfold unread
      rw [hs]
    · exact hnone hs
  · rcases h.later hlt with hs | hs
    · unfold unread
      rw [hs]
      exact Nat.zero_le _
    · exact hnone hs

namespace Worker

/-- Bytes have been taken off the socket. -/
def TakesBytes (w w' : Worker) : Prop :=
  ∃ s chunk rest, chunk ≠ [] ∧ w.client.socket = some s ∧ s.arrived = chunk ++ rest ∧
    w'.client.socket = some { s with arrived := rest }

structure NeverStuck (w : Worker) : Prop where
  notFull : w.handler.receiveBuffer.length < w.handler.config.maxReceiveBufferSize
  progress : ∀ env, w.atWork = true → w.client.dataAvailable = true →
    TakesBytes w (w.iterate env) ∨ (w.iterate env).handler.connectedStatus = false
  served : ∀ env, w.turn env = .output → (w.iterate env).outgoing = w.outgoing.tail

/-- No header that the loop comes to announces more than the buffer holds. -/
def HeadersFit (w : Worker) (e : Event) : Prop :=
  minHeaderLen ≤ w.handler.config.maxReceiveBufferSize ∧
    ∀ front n, Front headerScanner (w.handler.receiveBuffer ++ w.incoming e) front → scanHeader front = .frame n →
      n ≤ w.handler.config.maxReceiveBufferSize

/-- The buffer has room. -/
def HasRoom (w : Worker) : Prop := w.handler.receiveBuffer.length < w.handler.config.maxReceiveBufferSize

theorem hasRoom_iff (w : Worker) : HasRoom w ↔ w.handler.freeSpace ≠ 0 := by
  unfold HasRoom TransportHandler.freeSpace
  omega

theorem length_of_scan_more {buffer : List UInt8} (h : scanHeader buffer = .more) : buffer.length < minHeaderLen := by
  unfold scanHeader at h
  split_ifs at h with hlen
  · exact hlen
  · cases hp : parseMessageHeader buffer with
    | none => rw [hp] at h; cases h
    | some info => rw [hp] at h; cases h

theorem hasRoom_step (w : Worker) (e : Event) (h : HasRoom w) (hfit : HeadersFit w e) : HasRoom (w.step e) := by
  unfold HasRoom
  rcases step_cases w e with ⟨hq, -⟩ | ⟨-, -, -, hempty⟩ | hreads
  · rw [hq.buffer, hq.config]
    exact h
  · rw [hempty]
    exact (w.step e).handler.config.size_pos
  · rw [hreads.config, hreads.buffer]
    rcases drain_rest headerScanner (w.handler.receiveBuffer ++ w.incoming e) with hnil | ⟨hfront, hmore | ⟨n, hn, hlt⟩⟩
    · rw [hnil]
      exact w.handler.config.size_pos
    · exact lt_of_lt_of_le (length_of_scan_more hmore) hfit.1
    · exact lt_of_lt_of_le hlt (hfit.2 _ n hfront hn)

theorem iterate_of_input {w : Worker} {env : Iteration} (h : w.turn env = .input) :
    w.iterate env = w.handleIncoming env := by
  unfold iterate
  rw [h]

theorem iterate_of_output {w : Worker} {env : Iteration} (h : w.turn env = .output) :
    w.iterate env = w.handleOutgoing env := by
  unfold iterate
  rw [h]

theorem iterate_of_lost {w : Worker} {env : Iteration} (h : w.turn env = .lost) :
    w.iterate env = w.update w.handler.dropConnection w.client.disconnect := by
  unfold iterate
  rw [h]

theorem input_of_hasRoom {w : Worker} (h : HasRoom w) {env : Iteration} (hinput : w.turn env = .input) :
    TakesBytes w (w.iterate env) ∨
      (w.iterate env).handler.connectedStatus = false ∧ (w.iterate env).client.unread = 0 := by
  rw [iterate_of_input hinput]
  rcases handleIncoming_cases hinput with ⟨hfull, -⟩ | ⟨-, -, hdrop⟩ | ⟨hreads, s, rest, hs, harrived, hs'⟩
  · exact absurd hfull ((hasRoom_iff w).mp h)
  · rw [hdrop]
    exact Or.inr ⟨rfl, rfl⟩
  · exact Or.inl ⟨s, _, rest, hreads.ne_nil, hs, harrived, hs'⟩

theorem outgoing_of_input {w : Worker} {env : Iteration} (h : w.turn env = .input) :
    (w.iterate env).outgoing = w.outgoing := by
  rw [iterate_of_input h]
  unfold handleIncoming
  split_ifs
  · rfl
  · cases w.client.receiveData w.handler.freeSpace env.recv with
    | mk c received => cases received <;> rfl

theorem neverStuck_of_hasRoom {w : Worker} (h : HasRoom w) : NeverStuck w := by
  refine ⟨h, fun env hwork hdata => ?_, fun env hout => ?_⟩
  · have hturn : w.turn env = .lost ∨ w.turn env = .input := by
      unfold turn
      rw [if_neg (by simp [hwork])]
      split_ifs
      · exact Or.inl rfl
      · exact Or.inr rfl
    rcases hturn with hlost | hinput
    · rw [iterate_of_lost hlost]
      exact Or.inr rfl
    · rcases input_of_hasRoom h hinput with htakes | ⟨hdrop, -⟩
      · exact Or.inl htakes
      · exact Or.inr hdrop
  · rw [iterate_of_output hout]
    exact (w.handleOutgoing_cases env).2.2.2

/-! ## The output's share -/

/-- One for each iteration of a connected worker. -/
def iterations (w : Worker) : Event → Nat
  | .iterate _ => if w.atWork then 1 else 0
  | _ => 0

/-- One for each iteration that looks at the outgoing queue. -/
def outputTurns (w : Worker) : Event → Nat
  | .iterate env => if w.turn env = .output then 1 else 0
  | _ => 0

/-- The bytes that arrive. -/
def arrivals (_ : Worker) : Event → Nat
  | .arrive bytes => bytes.length
  | _ => 0

/-- One for each time that the worker goes back to connecting. -/
def drops (w : Worker) (e : Event) : Nat :=
  if w.handler.connectedStatus && !(w.step e).handler.connectedStatus then 1 else 0

theorem unread_onSocket_le (w : Worker) (f : Socket → Socket) (n : Nat)
    (hf : ∀ s, (f s).arrived.length ≤ s.arrived.length + n) : (w.onSocket f).client.unread ≤ w.client.unread + n := by
  unfold onSocket update TcpClientTransport.unread
  cases w.client.socket with
  | none => exact Nat.zero_le _
  | some s => exact hf s

theorem charge_iterate (w : Worker) (env : Iteration) (h : HasRoom w) :
    iterations w (.iterate env) + (w.iterate env).client.unread ≤
      w.client.unread + (outputTurns w (.iterate env) + drops w (.iterate env)) := by
  cases hturn : w.turn env with
  | idle =>
      have hidle := w.turn_eq_idle_iff.mp hturn
      have hsame : w.iterate env = w := by unfold iterate; rw [hturn]
      simp only [iterations, hidle, hsame]
      simp
  | output =>
      have hle := (w.renews_handleOutgoing env).unread_le
      rw [iterate_of_output hturn]
      simp only [iterations, outputTurns, hturn]
      split_ifs <;> omega
  | lost =>
      have hwork : w.atWork = true := by
        by_contra hidle
        rw [w.turn_eq_idle_iff.mpr (by simpa using hidle)] at hturn
        cases hturn
      have hlost := iterate_of_lost hturn
      have hdrop : drops w (.iterate env) = 1 := by
        unfold drops
        rw [(w.atWork_iff.mp hwork).2.2]
        simp [step, hlost, update, TransportHandler.dropConnection]
      have hnone : (w.iterate env).client.unread = 0 := by rw [hlost]; rfl
      rw [hdrop, hnone]
      simp only [iterations, hwork]
      simp
      omega
  | input =>
      obtain ⟨hwork, -, -⟩ := w.turn_input hturn
      have hone : iterations w (.iterate env) = 1 := if_pos hwork
      rw [hone]
      rcases input_of_hasRoom h hturn with ⟨s, chunk, rest, hne, hs, harrived, hs'⟩ | ⟨hdropped, hnone⟩
      · have hpos := List.length_pos_of_ne_nil hne
        have hunread : w.client.unread = chunk.length + rest.length := by
          unfold TcpClientTransport.unread
          rw [hs, ← List.length_append, ← harrived]
        have hunread' : (w.iterate env).client.unread = rest.length := by
          unfold TcpClientTransport.unread
          rw [hs']
        omega
      · have hdrop : drops w (.iterate env) = 1 := by
          unfold drops
          rw [(w.atWork_iff.mp hwork).2.2]
          simp [step, hdropped]
        omega

/-- **One step**: an iteration is an iteration for the output, or a byte or the connection is gone. -/
theorem charge_step (w : Worker) (e : Event) (h : HasRoom w) :
    iterations w e + (w.step e).client.unread ≤
      w.client.unread + (outputTurns w e + (arrivals w e + drops w e)) := by
  cases e with
  | start =>
      have hsame : (w.step .start).client.unread = w.client.unread := rfl
      simp only [iterations, hsame]
      omega
  | stop =>
      have hnone : (w.step .stop).client.unread = 0 := rfl
      simp only [iterations, hnone]
      omega
  | connectCycle success =>
      have hle : (w.step (.connectCycle success)).client.unread ≤ w.client.unread := by
        simp only [step]
        split_ifs
        · exact (w.client.renews_connect success).unread_le
        · exact le_rfl
      simp only [iterations]
      omega
  | arrive bytes =>
      have hle : (w.step (.arrive bytes)).client.unread ≤ w.client.unread + bytes.length := by
        apply unread_onSocket_le
        intro s
        split_ifs
        · omega
        · rw [List.length_append]
      simp only [iterations, arrivals]
      omega
  | peerClose =>
      have hle : (w.step .peerClose).client.unread ≤ w.client.unread + 0 := unread_onSocket_le _ _ 0 fun s => le_rfl
      simp only [iterations]
      omega
  | enqueue message =>
      have hsame : (w.step (.enqueue message)).client.unread = w.client.unread := rfl
      simp only [iterations, hsame]
      omega
  | iterate env =>
      have hiterate := charge_iterate w env h
      simp only [arrivals, step]
      omega

/-- **The worker never gets stuck** in a run whose headers all fit the buffer; over every part of it, the output gets
all iterations but those that a byte or a lost connection pays for. -/
theorem neverStuck_along {gatewayId targetIp : String} {targetPort : Int} {inputQueue : QueueId}
    {config : TransportHandlerConfig} {retries : Nat} {w : Worker}
    (hc : create gatewayId targetIp targetPort inputQueue config retries = some w) (es : List Event)
    (hfit : Run.Along step HeadersFit w es) :
    (∀ pre, pre <+: es → NeverStuck (Run.run step w pre)) ∧
      ∀ pre part, pre ++ part <+: es →
        Run.total step iterations (Run.run step w pre) part ≤
          (Run.run step w pre).client.unread + (Run.total step outputTurns (Run.run step w pre) part +
            (Run.total step arrivals (Run.run step w pre) part + Run.total step drops (Run.run step w pre) part)) := by
  have hroom : HasRoom w := by
    unfold HasRoom
    rw [(fresh_of_create hc).buffer]
    exact w.handler.config.size_pos
  have hrooms := Run.run_invariant_on_the_way step hasRoom_step hroom hfit
  refine ⟨fun pre hpre => neverStuck_of_hasRoom (hrooms pre hpre), fun pre part hpart => ?_⟩
  obtain ⟨post, rfl⟩ := hpart
  rw [List.append_assoc, Run.Along.append, Run.Along.append] at hfit
  have hpre := hrooms pre ⟨part ++ post, by rw [List.append_assoc]⟩
  have hcharge := @Run.total_le_of_charge _ _ step HasRoom HeadersFit iterations
    (fun w e => outputTurns w e + (arrivals w e + drops w e)) (fun w => w.client.unread) hasRoom_step
    (fun w e hw _ => charge_step w e hw) part _ hpre hfit.2.1
  rw [Run.total_add, Run.total_add] at hcharge
  exact hcharge

/-! ## Frames that do not fit -/

theorem iterate_of_full {w : Worker} {env : Iteration} (hfull : w.handler.freeSpace = 0)
    (hinput : w.turn env = .input) : w.iterate env = w := by
  rw [iterate_of_input hinput]
  exact if_pos hfull

theorem incoming_of_recv {w : Worker} {env : Iteration} {s : Socket} {more : Nat} (hinput : w.turn env = .input)
    (hspace : w.handler.freeSpace ≠ 0) (hs : w.client.socket = some s) (harrived : s.arrived ≠ [])
    (hrecv : env.recv = .returns more) :
    w.incoming (.iterate env) = s.arrived.take (min (more + 1) w.handler.freeSpace) := by
  have hread : w.incoming (.iterate env) = (w.client.receiveData w.handler.freeSpace env.recv).2.getD [] :=
    if_pos ⟨hinput, hspace⟩
  rw [hread, hrecv]
  unfold TcpClientTransport.receiveData
  rw [hs]
  dsimp only
  rw [if_neg harrived, Option.getD_some]

theorem turn_of_arrived {w : Worker} {env : Iteration} {s : Socket} (hwork : w.atWork = true)
    (hgood : env.badDescriptor = false) (hs : w.client.socket = some s) (harrived : s.arrived ≠ []) :
    w.turn env = .input := by
  have hconn : w.client.isConnected = true := w.client.isConnected_iff.mpr ⟨s, hs⟩
  have hdata : w.client.dataAvailable = true := by
    unfold TcpClientTransport.dataAvailable
    rw [hs]
    simp [harrived]
  unfold turn
  rw [if_neg (by simp [hwork]), if_neg (by simp [hgood, hconn]), if_pos hdata]

theorem fills_of_long_frame {w : Worker} {env : Iteration} {f : Frame} {s : Socket} {more : Nat}
    (hpay : f.payload.length < 2 ^ 32) (hinput : w.turn env = .input) (hempty : w.handler.receiveBuffer = [])
    (hs : w.client.socket = some s) (hfront : f.bytes <+: s.arrived)
    (hlong : w.handler.config.maxReceiveBufferSize < f.bytes.length)
    (htopic : minHeaderLen + f.topicLength ≤ w.handler.config.maxReceiveBufferSize) (hrecv : env.recv = .returns more)
    (hmore : w.handler.config.maxReceiveBufferSize ≤ more + 1) :
    (w.iterate env).handler.freeSpace = 0 ∧
      ∀ env' : Iteration, env'.badDescriptor = false → (w.iterate env).turn env' = .input := by
  have hfree : w.handler.freeSpace = w.handler.config.maxReceiveBufferSize := by
    unfold TransportHandler.freeSpace
    rw [hempty, List.length_nil, Nat.sub_zero]
  have hpos := w.handler.config.size_pos
  have harrived : s.arrived ≠ [] := by
    apply List.ne_nil_of_length_pos
    exact lt_of_lt_of_le (by omega) hfront.length_le
  have hread : w.incoming (.iterate env) = f.bytes.take w.handler.config.maxReceiveBufferSize := by
    obtain ⟨tail, htail⟩ := hfront
    rw [incoming_of_recv hinput (by omega) hs harrived hrecv, hfree, min_eq_right hmore, ← htail,
      List.take_append_of_le_length hlong.le]
  have hlen : (f.bytes.take w.handler.config.maxReceiveBufferSize).length = w.handler.config.maxReceiveBufferSize := by
    rw [List.length_take, min_eq_left hlong.le]
  rw [iterate_of_input hinput]
  rcases handleIncoming_cases hinput with ⟨hfull, -⟩ | ⟨-, hnothing, -⟩ | ⟨hreads, s₀, rest, hs₀, hrest, hs'⟩
  · omega
  · rw [hread] at hnothing
    rw [hnothing, List.length_nil] at hlen
    omega
  · -- the header is read and announces more than there is
    have hscan : headerScanner.scan (f.bytes.take w.handler.config.maxReceiveBufferSize) = .frame f.bytes.length := by
      rw [headerScanner_scan, scanHeader, if_neg (by omega),
        f.parse_cut hpay (List.take_prefix _ _) (by omega), if_neg (by omega)]
    have hbuffer := hreads.buffer
    rw [hempty, List.nil_append, hread, drain_short headerScanner hscan (by omega)] at hbuffer
    constructor
    · unfold TransportHandler.freeSpace
      rw [hbuffer, hreads.config]
      dsimp only
      rw [hlen, Nat.sub_self]
    · intro env' hgood
      obtain rfl : s₀ = s := Option.some.inj (hs₀.symm.trans hs)
      have hlen' := congrArg List.length hrest
      have hle := hfront.length_le
      rw [hread, List.length_append, hlen] at hlen'
      have hwork : (w.handleIncoming env).atWork = true := hreads.atWork.trans (w.turn_input hinput).1
      apply turn_of_arrived hwork hgood hs'
      apply List.ne_nil_of_length_pos
      dsimp only
      omega

theorem run_iterate_of_full {w : Worker} {env : Iteration} (hfull : w.handler.freeSpace = 0)
    (hinput : w.turn env = .input) (n : Nat) : Run.run step w (List.replicate n (.iterate env)) = w := by
  induction n with
  | zero => rfl
  | succ n ih =>
      rw [List.replicate_succ, Run.run_cons]
      have hsame : w.step (.iterate env) = w := iterate_of_full hfull hinput
      rw [hsame]
      exact ih

theorem headersFit_of_frames {w : Worker} {e : Event} (hmin : minHeaderLen ≤ w.handler.config.maxReceiveBufferSize)
    (fs : List Frame) (hfs : ∀ f ∈ fs, f.bytes.length ≤ w.handler.config.maxReceiveBufferSize) {p : List UInt8}
    (hp : p = [] ∨ ∃ f : Frame, f.bytes.length ≤ w.handler.config.maxReceiveBufferSize ∧ p <+: f.bytes ∧ p ≠ f.bytes)
    (hbuffer : w.handler.receiveBuffer ++ w.incoming e = (fs.map Frame.bytes).flatten ++ p) : HeadersFit w e := by
  have hrec : ∀ f : Frame, f.bytes.length ≤ w.handler.config.maxReceiveBufferSize →
      Recognises headerScanner f.bytes := by
    intro f hlen
    have hlt := w.handler.config.size_lt
    rw [f.length_bytes] at hlen
    exact recognises_frame f (by omega)
  refine ⟨hmin, fun front n hfront hn => ?_⟩
  rw [hbuffer] at hfront
  refine announced_le headerScanner (fs.map Frame.bytes) (fun b hb => ?_) ?_ hfront hn
  · obtain ⟨f, hf, rfl⟩ := List.mem_map.mp hb
    exact ⟨hrec f (hfs f hf), hfs f hf⟩
  · rcases hp with rfl | ⟨f, hlen, hpf, hne⟩
    · exact Or.inl rfl
    · exact Or.inr ⟨f.bytes, hrec f hlen, hlen, hpf, hne⟩

/-- A frame in two reads, with a message for the gateway in between. -/
def frameInTwo : List Event :=
  [.start, .connectCycle true, .arrive (sampleFrame.bytes.take 16), .iterate sampleIteration, .enqueue [0x01],
    .arrive (sampleFrame.bytes.drop 16), .iterate sampleIteration, .iterate sampleIteration]

theorem neverStuck_frameInTwo : NeverStuck (Run.run step sampleWorker frameInTwo) := by
  have hmin : minHeaderLen ≤ (default : TransportHandlerConfig).maxReceiveBufferSize := by decide
  refine (neverStuck_along create_sampleWorker frameInTwo ?_).1 _ List.prefix_rfl
  simp only [frameInTwo, Run.along_cons, Run.along_nil, and_true]
  have hcut : sampleFrame.bytes.take 16 <+: sampleFrame.bytes ∧ sampleFrame.bytes.take 16 ≠ sampleFrame.bytes := by
    decide
  have hlen : sampleFrame.bytes.length ≤ (default : TransportHandlerConfig).maxReceiveBufferSize := by decide
  refine ⟨?_, ?_, ?_, ?_, ?_, ?_, ?_, ?_⟩
  · exact headersFit_of_frames hmin [] (by decide) (p := []) (Or.inl rfl) (by decide +kernel)
  · exact headersFit_of_frames hmin [] (by decide) (p := []) (Or.inl rfl) (by decide +kernel)
  · exact headersFit_of_frames hmin [] (by decide) (p := []) (Or.inl rfl) (by decide +kernel)
  · exact headersFit_of_frames hmin [] (by decide) (Or.inr ⟨sampleFrame, hlen, hcut⟩) (by decide +kernel)
  · exact headersFit_of_frames hmin [] (by decide) (Or.inr ⟨sampleFrame, hlen, hcut⟩) (by decide +kernel)
  · exact headersFit_of_frames hmin [] (by decide) (Or.inr ⟨sampleFrame, hlen, hcut⟩) (by decide +kernel)
  · exact headersFit_of_frames hmin [sampleFrame] (by decide) (p := []) (Or.inl rfl) (by decide +kernel)
  · exact headersFit_of_frames hmin [] (by decide) (p := []) (Or.inl rfl) (by decide +kernel)

/-- A frame with a payload of 9000 bytes. -/
def longFrame : Frame := { sampleFrame with payload := List.replicate 9000 0 }

/-- As much is read as fits the buffer. -/
def fillingIteration : Iteration := { sampleIteration with recv := .returns 8191 }

def longFrameArrives : List Event :=
  [.start, .connectCycle true, .enqueue [0x01], .arrive longFrame.bytes]

/-- The long frame fills the buffer; from then on nothing is read and the message for the gateway waits. -/
theorem stuck_of_longFrame :
    create "60:5" "10.0.0.5" 6000 0 default 5 = some sampleWorker ∧ longFrame.payload.length < 2 ^ 32 ∧
      ¬ NeverStuck (Run.run step sampleWorker (longFrameArrives ++ [Event.iterate fillingIteration])) ∧
      ∀ n, (Run.run step sampleWorker (longFrameArrives ++ [Event.iterate fillingIteration] ++
        List.replicate n (Event.iterate fillingIteration))).outgoing = [[0x01]] := by
  have hlength : longFrame.payload.length = 9000 := List.length_replicate
  have hbytes : longFrame.bytes.length = 9015 := by
    rw [longFrame.length_bytes, hlength]
    rfl
  have hinput : (Run.run step sampleWorker longFrameArrives).turn fillingIteration = .input := rfl
  obtain ⟨hfull, hagain⟩ := @fills_of_long_frame (Run.run step sampleWorker longFrameArrives) fillingIteration longFrame
    ⟨longFrame.bytes, false⟩ 8191 (by omega) hinput rfl rfl List.prefix_rfl
    (lt_of_lt_of_le (by decide) hbytes.ge) (by decide) rfl (by decide)
  have hrun : Run.run step sampleWorker (longFrameArrives ++ [Event.iterate fillingIteration]) =
      (Run.run step sampleWorker longFrameArrives).iterate fillingIteration := by
    rw [Run.run_append, Run.run_cons, Run.run_nil]
    simp only [step]
  refine ⟨create_sampleWorker, by omega, fun hnot => ?_, fun n => ?_⟩
  · rw [hrun] at hnot
    exact (hasRoom_iff _).mp hnot.notFull hfull
  · rw [Run.run_append, hrun, run_iterate_of_full hfull (hagain fillingIteration rfl)]
    exact outgoing_of_input hinput

end Worker

end EdgeOffloading
