import EdgeOffloading.Bridge.TransportHandler

/-!
# Reassembly of the data-plane stream

One connection delivers a concatenation of frames in chunks of any size. `receiveAll` is the run of
`handle_incoming_data` over the chunks.

* `receiveAll_data`: the run takes off what `Framing.feed` takes off;
* `routed_eq_frames_iff`: exactly the frames are routed iff no chunk ends between the eleventh byte of a frame and the
  end of its topic. A buffer that ends there is answered like corrupt data and thrown away.
-/

namespace EdgeOffloading

namespace TransportHandler

/-- Connected, with nothing received yet. -/
structure AtStart (h : TransportHandler) : Prop where
  tcp : h.tcpConnected = true
  running : h.shutdownRequested = false
  empty : h.receiveBuffer = []

/-- One call of `handle_incoming_data` for each chunk, each with the routing table of that moment. -/
def receiveAll (h : TransportHandler) : List (RoutingTable × List UInt8) → TransportHandler × List RoutedMessage
  | [] => (h, [])
  | (table, chunk) :: calls =>
    let first := h.handleIncomingData table (.bytes chunk)
    let rest := receiveAll first.1 calls
    (rest.1, first.2 ++ rest.2)

/-- Every chunk fits the free space it is read into. -/
def ChunksFit (h : TransportHandler) : List (RoutingTable × List UInt8) → Prop
  | [] => True
  | (table, chunk) :: calls =>
    chunk.length ≤ h.freeSpace ∧ ChunksFit (h.handleIncomingData table (.bytes chunk)).1 calls

instance decidableChunksFit (h : TransportHandler) :
    (calls : List (RoutingTable × List UInt8)) → Decidable (h.ChunksFit calls)
  | [] => inferInstanceAs (Decidable True)
  | (table, chunk) :: calls =>
    have := decidableChunksFit (h.handleIncomingData table (.bytes chunk)).1 calls
    inferInstanceAs (Decidable (_ ∧ _))

theorem atStart_of_create {gatewayId targetIp : String} {targetPort : Int} {inputQueue : QueueId}
    {config : TransportHandlerConfig} {h : TransportHandler}
    (hc : create gatewayId targetIp targetPort inputQueue config = some h) : AtStart (h.start.connectCycle true) := by
  unfold create at hc
  split_ifs at hc
  simp only [Option.some.injEq] at hc
  subst hc
  exact ⟨rfl, rfl, rfl⟩

theorem handleIncomingData_bytes (h : TransportHandler) (htcp : h.tcpConnected = true)
    (hrun : h.shutdownRequested = false) (table : RoutingTable) {chunk : List UInt8} (hne : chunk ≠ [])
    (hfit : chunk.length ≤ h.freeSpace) :
    h.handleIncomingData table (.bytes chunk) =
      ({ h with receiveBuffer := (processBuffer table (h.receiveBuffer ++ chunk)).2 },
        (processBuffer table (h.receiveBuffer ++ chunk)).1) := by
  obtain ⟨b, chunk, rfl⟩ := List.exists_cons_of_ne_nil hne
  have hspace : h.freeSpace ≠ 0 := by rw [List.length_cons] at hfit; omega
  unfold handleIncomingData
  rw [if_neg (by simp [htcp]), if_neg hspace]
  dsimp only
  rw [if_neg (by simp [hrun]), List.take_of_length_le hfit]

theorem receiveAll_data : ∀ (calls : List (RoutingTable × List UInt8)) (h : TransportHandler),
    h.tcpConnected = true → h.shutdownRequested = false → (∀ c ∈ calls, c.2 ≠ []) → h.ChunksFit calls →
    (h.receiveAll calls).2.map RoutedMessage.data =
      (Framing.feed headerScanner h.receiveBuffer (calls.map Prod.snd)).1 := by
  intro calls
  induction calls with
  | nil => intro h _ _ _ _; rfl
  | cons c calls ih =>
      obtain ⟨table, chunk⟩ := c
      intro h htcp hrun hne hfit
      obtain ⟨hfit, hrest⟩ := hfit
      have hcall := h.handleIncomingData_bytes htcp hrun table (hne (table, chunk) (by simp)) hfit
      have hdrain := processBuffer_eq_drain table (h.receiveBuffer ++ chunk)
      rw [hcall] at hrest
      simp only [receiveAll, hcall, List.map_append, List.map_cons, Framing.feed, ← hdrain]
      rw [ih _ (by exact htcp) (by exact hrun) (fun c hc => hne c (by simp [hc])) hrest]

end TransportHandler

/-! ## Frames under the header scanner -/

theorem recognises_frame (f : Frame) (hpay : f.payload.length < 2 ^ 32) :
    Framing.Recognises headerScanner f.bytes where
  whole rest := by
    rw [headerScanner_scan, scanHeader, if_neg (by rw [List.length_append, f.length_bytes]; omega), f.parse_frame hpay]
  part p hp hne := by
    rw [headerScanner_scan, scanHeader]
    by_cases hlen : p.length < minHeaderLen
    · rw [if_pos hlen]; exact Or.inl rfl
    · rw [if_neg hlen, f.parse_cut hpay hp (by omega)]
      split_ifs
      · exact Or.inr (Or.inl rfl)
      · exact Or.inr (Or.inr rfl)

theorem scan_cut_bad_iff (f : Frame) (hpay : f.payload.length < 2 ^ 32) {p : List UInt8} (hp : p <+: f.bytes) :
    scanHeader p = .bad ↔ minHeaderLen ≤ p.length ∧ p.length < minHeaderLen + f.topicLength := by
  unfold scanHeader
  by_cases hlen : p.length < minHeaderLen
  · rw [if_pos hlen]
    constructor
    · intro h; cases h
    · intro h; omega
  · rw [if_neg hlen, f.parse_cut hpay hp (by omega)]
    split_ifs with hcut
    · exact ⟨fun _ => ⟨by omega, hcut⟩, fun _ => rfl⟩
    · constructor
      · intro h; cases h
      · intro h; omega

/-- Some frame's topic has begun and not ended after the first `n` bytes of the stream. -/
def InsideTopic (fs : List Frame) (n : Nat) : Prop :=
  ∃ pre f post, fs = pre ++ f :: post ∧ (pre.map Frame.bytes).flatten.length + minHeaderLen ≤ n ∧
    n < (pre.map Frame.bytes).flatten.length + minHeaderLen + f.topicLength

theorem insideTopic_iff_bad (fs : List Frame) (hpay : ∀ f ∈ fs, f.payload.length < 2 ^ 32) {P : List UInt8}
    (hP : P <+: (fs.map Frame.bytes).flatten) :
    InsideTopic fs P.length ↔ ∃ p, Framing.EndsIn (fs.map Frame.bytes) P p ∧ headerScanner.scan p = .bad := by
  constructor
  · rintro ⟨pre, f, post, rfl, hlo, hhi⟩
    rw [List.map_append, List.map_cons, List.flatten_append, List.flatten_cons] at hP
    have hpre : (pre.map Frame.bytes).flatten <+: P :=
      List.prefix_of_prefix_length_le (List.prefix_append _ _) hP (by omega)
    obtain ⟨p, rfl⟩ := hpre
    rw [List.prefix_append_right_inj] at hP
    rw [List.length_append] at hlo hhi
    have hpf : p <+: f.bytes :=
      List.prefix_of_prefix_length_le hP (List.prefix_append _ _) (by rw [f.length_bytes]; omega)
    refine ⟨p, ⟨pre.map Frame.bytes, f.bytes, post.map Frame.bytes, by simp, rfl, hpf, ?_⟩, ?_⟩
    · intro hp
      rw [hp, f.length_bytes] at hhi
      omega
    · exact (scan_cut_bad_iff f (hpay f (by simp)) hpf).mpr ⟨by omega, by omega⟩
  · rintro ⟨p, ⟨pre', f', post', hfs, rfl, hpf, -⟩, hbad⟩
    obtain ⟨pre, rest, rfl, rfl, hrest⟩ := List.map_eq_append_iff.mp hfs
    obtain ⟨f, post, rfl, rfl, rfl⟩ := List.map_eq_cons_iff.mp hrest
    have hcut := (scan_cut_bad_iff f (hpay f (by simp)) hpf).mp hbad
    refine ⟨pre, f, post, rfl, ?_, ?_⟩
    · rw [List.length_append]; omega
    · rw [List.length_append]; omega

/-! ## The whole run -/

/-- Over frames that fit the buffer and chunks that fit the free space, the routed messages are the frames iff no
chunk ends inside a topic. -/
theorem routed_eq_frames_iff (h : TransportHandler) (hstart : h.AtStart) (fs : List Frame)
    (hlen : ∀ f ∈ fs, f.bytes.length ≤ h.config.maxReceiveBufferSize) (calls : List (RoutingTable × List UInt8))
    (hcut : (calls.map Prod.snd).flatten = (fs.map Frame.bytes).flatten) (hne : ∀ c ∈ calls, c.2 ≠ [])
    (hfit : h.ChunksFit calls) :
    (h.receiveAll calls).2.map RoutedMessage.data = fs.map Frame.bytes ↔
      ∀ c₁ c₂, calls = c₁ ++ c₂ → ¬ InsideTopic fs (c₁.map Prod.snd).flatten.length := by
  have hpay : ∀ f ∈ fs, f.payload.length < 2 ^ 32 := by
    intro f hf
    have h1 := hlen f hf
    have h2 := h.config.size_lt
    rw [f.length_bytes] at h1
    omega
  have hrec : ∀ b ∈ fs.map Frame.bytes, Framing.Recognises headerScanner b := by
    intro b hb
    obtain ⟨f, hf, rfl⟩ := List.mem_map.mp hb
    exact recognises_frame f (hpay f hf)
  have hfront : ∀ c₁ c₂, calls = c₁ ++ c₂ → (c₁.map Prod.snd).flatten <+: (fs.map Frame.bytes).flatten := by
    rintro c₁ c₂ rfl
    rw [← hcut, List.map_append, List.flatten_append]
    exact List.prefix_append _ _
  rw [h.receiveAll_data calls hstart.tcp hstart.running hne hfit, hstart.empty,
    Framing.feed_eq_iff headerScanner _ _ hrec hcut]
  constructor
  · intro hall c₁ c₂ hc hin
    obtain ⟨p, hends, hbad⟩ := (insideTopic_iff_bad fs hpay (hfront c₁ c₂ hc)).mp hin
    refine hall (c₁.map Prod.snd) (c₂.map Prod.snd) (by rw [hc, List.map_append]) ?_ p hends hbad
    rintro h0
    obtain ⟨pre, f, post, -, hlo, -⟩ := hin
    rw [h0, List.flatten_nil, List.length_nil] at hlo
    simp only [minHeaderLen] at hlo
    omega
  · intro hall d₁ d₂ hd _ p hends hbad
    obtain ⟨c₁, c₂, rfl, rfl, rfl⟩ := List.map_eq_append_iff.mp hd
    exact hall c₁ c₂ rfl ((insideTopic_iff_bad fs hpay (hfront c₁ c₂ rfl)).mpr ⟨p, hends, hbad⟩)

/-- A handler as the Bridge builds it, right after its first connection. -/
def sampleHandler : TransportHandler :=
  { config := default, gatewayId := "60:5", targetIp := "10.0.0.5", targetPort := 6000, inputQueue := 0,
    receiveBuffer := [], shutdownRequested := false, connectedStatus := true, tcpConnected := true,
    failedConnectCycles := 0, threadJoinable := true, threadRunning := true }

/-- A string on the topic `chat`. -/
def sampleFrame : Frame :=
  { topic := [0x63, 0x68, 0x61, 0x74], type := .string, idGroup := 60, identifierInGroup := 5, options := {},
    payload := [0x68, 0x69] }

theorem routed_eq_frames_of_cut_in_payload :
    (sampleHandler.receiveAll [(.empty, sampleFrame.bytes.take 16), (.empty, sampleFrame.bytes.drop 16)]).2.map
      RoutedMessage.data = [sampleFrame].map Frame.bytes := by
  refine (routed_eq_frames_iff sampleHandler ⟨rfl, rfl, rfl⟩ [sampleFrame] (by decide) _ (by decide) (by decide)
    (by decide)).mpr ?_
  rintro c₁ c₂ hc ⟨pre, f, post, hf, hlo, hhi⟩
  obtain ⟨rfl, rfl, rfl⟩ : pre = [] ∧ f = sampleFrame ∧ post = [] := by
    cases pre <;> simp_all
  rcases c₁ with _ | ⟨a, _ | ⟨b, c₁⟩⟩
  · simp [minHeaderLen] at hlo
  · obtain ⟨rfl, -⟩ := List.cons.inj hc
    exact absurd hhi (by decide)
  · simp only [List.cons_append, List.cons.injEq] at hc
    obtain ⟨rfl, rfl, hc⟩ := hc
    obtain ⟨rfl, -⟩ := List.append_eq_nil_iff.mp hc.symm
    exact absurd hhi (by decide)

/-- Cut after two of the four bytes of its topic, the frame is lost. -/
theorem not_routed_eq_frames_of_cut_in_topic :
    ¬ ∀ (h : TransportHandler) (fs : List Frame) (calls : List (RoutingTable × List UInt8)), h.AtStart →
      (∀ f ∈ fs, f.bytes.length ≤ h.config.maxReceiveBufferSize) →
      (calls.map Prod.snd).flatten = (fs.map Frame.bytes).flatten → (∀ c ∈ calls, c.2 ≠ []) → h.ChunksFit calls →
      (h.receiveAll calls).2.map RoutedMessage.data = fs.map Frame.bytes := by
  intro hall
  have h := hall sampleHandler [sampleFrame]
    [(.empty, sampleFrame.bytes.take 13), (.empty, sampleFrame.bytes.drop 13)] ⟨rfl, rfl, rfl⟩ (by decide) (by decide)
    (by decide) (by decide)
  exact absurd h (by decide)

end EdgeOffloading
