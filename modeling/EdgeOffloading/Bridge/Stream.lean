import EdgeOffloading.Bridge.Reassembly
import EdgeOffloading.Lib.Segments

/-!
# Reassembly of any stream

`handle_incoming_data` on bytes that need not be frames: garbage, cut frames, frames that announce more than the buffer
holds.

* `processRounds_processBuffer`: the inner loop ends;
* `receiveAll_segments`: what is routed are segments of the received stream, and the buffer is its end;
* `receiveAll_sound`: both, with the bound of the buffer and the header of each message, over all chunkings.
-/

namespace EdgeOffloading

open Framing

/-! ## The inner loop -/

/-- The inner loop with a bound on its rounds; `none` while it goes on. -/
def processRounds (table : RoutingTable) : Nat → List UInt8 → Option (List RoutedMessage × List UInt8)
  | 0, _ => none
  | rounds + 1, buffer =>
    if buffer.length < minHeaderLen then some ([], buffer)
    else
      match parseMessageHeader buffer with
      | none => some ([], [])
      | some headerInfo =>
        let total := headerInfo.totalMessageLength
        if total ≤ buffer.length then
          (processRounds table rounds (buffer.drop total)).map fun rest =>
            (⟨headerInfo.routingKey, buffer.take total, table.getDestinations headerInfo.routingKey⟩ :: rest.1, rest.2)
        else some ([], buffer)

theorem processRounds_eq (table : RoutingTable) (rounds : Nat) (buffer : List UInt8) (h : buffer.length ≤ rounds) :
    processRounds table (rounds + 1) buffer = some (processLoop table rounds buffer) := by
  induction rounds generalizing buffer with
  | zero =>
      rw [List.length_eq_zero_iff.mp (Nat.le_zero.mp h)]
      rfl
  | succ rounds ih =>
      unfold processRounds processLoop
      by_cases hlen : buffer.length < minHeaderLen
      · rw [if_pos hlen, if_pos hlen]
      · rw [if_neg hlen, if_neg hlen]
        cases hp : parseMessageHeader buffer with
        | none => rfl
        | some info =>
            dsimp only
            by_cases hle : info.totalMessageLength ≤ buffer.length
            · have hpos := totalMessageLength_pos hp
              have hdrop : (buffer.drop info.totalMessageLength).length ≤ rounds := by
                rw [List.length_drop]
                unfold minHeaderLen at hpos
                omega
              rw [if_pos hle, if_pos hle, ih _ hdrop]
              rfl
            · rw [if_neg hle, if_neg hle]

/-- **The inner loop ends**, at the latest after as many rounds as there are bytes. -/
theorem processRounds_processBuffer (table : RoutingTable) (buffer : List UInt8) :
    processRounds table (buffer.length + 1) buffer = some (processBuffer table buffer) :=
  processRounds_eq table buffer.length buffer le_rfl

/-! ## The header of a routed message -/

/-- The message starts with the magic number and is as long as its header says. -/
def WellHeaded (data : List UInt8) : Prop :=
  data.take 2 = [0xA5, 0xC3] ∧ data.length = 11 + (byteAt data 10).toNat + readUint32BigEndian data 6

theorem byteAt_append {data rest : List UInt8} {i : Nat} (h : i < data.length) :
    byteAt (data ++ rest) i = byteAt data i := by
  unfold byteAt
  rw [List.getD_eq_getElem?_getD, List.getD_eq_getElem?_getD, List.getElem?_append_left h]

theorem take_two_of_magic {data : List UInt8} (hlong : 2 ≤ data.length)
    (hmagic : readUint16BigEndian data 0 = expectedMagicNumber) : data.take 2 = [0xA5, 0xC3] := by
  obtain ⟨a, b, tail, rfl⟩ : ∃ a b tail, data = a :: b :: tail := by
    rcases data with _ | ⟨a, _ | ⟨b, tail⟩⟩
    · simp at hlong
    · simp at hlong
    · exact ⟨a, b, tail, rfl⟩
  -- the two bytes are determined by their value
  have hvalue : a.toNat * 256 + b.toNat = 0xA5C3 := hmagic
  have ha := a.toNat_lt
  have hb := b.toNat_lt
  have hfirst : a = 0xA5 := UInt8.toNat_inj.mp (by show _ = 165; omega)
  have hsecond : b = 0xC3 := UInt8.toNat_inj.mp (by show _ = 195; omega)
  rw [hfirst, hsecond]
  rfl

theorem wellHeaded_of_scan {data rest : List UInt8} (h : scanHeader (data ++ rest) = .frame data.length) :
    WellHeaded data := by
  unfold scanHeader at h
  split_ifs at h with hlen
  cases hp : parseMessageHeader (data ++ rest) with
  | none =>
      rw [hp] at h
      cases h
  | some info =>
      rw [hp] at h
      have htotal : info.totalMessageLength = data.length := Verdict.frame.inj h
      have hlong : 11 ≤ data.length := htotal ▸ totalMessageLength_pos hp
      have hbyte : ∀ i < minHeaderLen, byteAt (data ++ rest) i = byteAt data i := by
        intro i hi
        apply byteAt_append
        exact hi.trans_le hlong
      unfold parseMessageHeader at hp
      rw [readMagic_congr hbyte, readSize_congr hbyte, hbyte 10 (by decide)] at hp
      dsimp only at hp
      split_ifs at hp with hmagic hshort
      rw [← Option.some.inj hp] at htotal
      exact ⟨take_two_of_magic (by omega) (not_not.mp hmagic), htotal.symm⟩

/-! ## Whole runs -/

theorem wellHeaded_of_mem_processBuffer (table : RoutingTable) (buffer : List UInt8) {msg : RoutedMessage}
    (h : msg ∈ (processBuffer table buffer).1) : WellHeaded msg.data := by
  have hdrain := congrArg Prod.fst (processBuffer_eq_drain table buffer)
  have hmem : msg.data ∈ (drain headerScanner buffer).1 := by
    rw [← hdrain]
    exact List.mem_map_of_mem h
  obtain ⟨rest, hscan⟩ := announced_of_mem_drain headerScanner buffer hmem
  exact wellHeaded_of_scan hscan

theorem segments_processBuffer (table : RoutingTable) (buffer : List UInt8) : ∃ stop, stop ≤ buffer.length ∧
    Segments buffer 0 ((processBuffer table buffer).1.map RoutedMessage.data) stop ∧
    (processBuffer table buffer).2 = buffer.drop stop := by
  have hdrain := processBuffer_eq_drain table buffer
  obtain ⟨stop, hstop, hseg, hrest⟩ := segments_drain headerScanner buffer
  rw [← hdrain] at hseg hrest
  exact ⟨stop, hstop, hseg, hrest⟩

namespace TransportHandler

/-- What one call makes of the buffer: the messages are segments of it with the chunk, and the buffer is its end. -/
structure Consumes (h : TransportHandler) (chunk : List UInt8) (h' : TransportHandler) (msgs : List RoutedMessage) :
    Prop where
  tcp : h'.tcpConnected = h.tcpConnected
  config : h'.config = h.config
  segments : ∃ stop, stop ≤ (h.receiveBuffer ++ chunk).length ∧
    Segments (h.receiveBuffer ++ chunk) 0 (msgs.map RoutedMessage.data) stop ∧
    h'.receiveBuffer = (h.receiveBuffer ++ chunk).drop stop
  headed : ∀ msg ∈ msgs, WellHeaded msg.data

theorem consumes_handleIncomingData {h : TransportHandler} (htcp : h.tcpConnected = true) (table : RoutingTable)
    {chunk : List UInt8} (hne : chunk ≠ []) (hfit : chunk.length ≤ h.freeSpace) :
    Consumes h chunk (h.handleIncomingData table (.bytes chunk)).1 (h.handleIncomingData table (.bytes chunk)).2 := by
  cases hrun : h.shutdownRequested with
  | false =>
      rw [h.handleIncomingData_bytes htcp hrun table hne hfit]
      exact ⟨rfl, rfl, segments_processBuffer table _, fun msg hmsg => wellHeaded_of_mem_processBuffer table _ hmsg⟩
  | true =>
      -- the bytes are stored and not looked at
      have hcall : h.handleIncomingData table (.bytes chunk) =
          ({ h with receiveBuffer := h.receiveBuffer ++ chunk }, []) := by
        obtain ⟨b, chunk, rfl⟩ := List.exists_cons_of_ne_nil hne
        have hspace : h.freeSpace ≠ 0 := by rw [List.length_cons] at hfit; omega
        unfold handleIncomingData
        rw [if_neg (by simp [htcp]), if_neg hspace]
        dsimp only
        rw [if_pos hrun, List.take_of_length_le hfit]
      rw [hcall]
      exact ⟨rfl, rfl, ⟨0, Nat.zero_le _, le_rfl, rfl⟩, fun msg hmsg => absurd hmsg List.not_mem_nil⟩

/-- All bytes of the calls, in order. -/
def streamOf (calls : List (RoutingTable × List UInt8)) : List UInt8 := (calls.map Prod.snd).flatten

/-- **Over the calls**, with the stream `before` received and the buffer as its end from `k` on. -/
theorem receiveAll_segments : ∀ (calls : List (RoutingTable × List UInt8)) (h : TransportHandler) (before : List UInt8)
    (k : Nat), h.tcpConnected = true → k ≤ before.length → h.receiveBuffer = before.drop k → (∀ c ∈ calls, c.2 ≠ []) →
    h.ChunksFit calls → ∃ stop, stop ≤ (before ++ streamOf calls).length ∧
      Segments (before ++ streamOf calls) k ((h.receiveAll calls).2.map RoutedMessage.data) stop ∧
      (h.receiveAll calls).1.receiveBuffer = (before ++ streamOf calls).drop stop := by
  intro calls
  induction calls with
  | nil =>
      intro h before k _ hk hbuf _ _
      have hnil : before ++ streamOf [] = before := List.append_nil before
      rw [hnil]
      exact ⟨k, hk, le_rfl, hbuf⟩
  | cons c calls ih =>
      obtain ⟨table, chunk⟩ := c
      intro h before k htcp hk hbuf hne hfit
      have hchunk : chunk ≠ [] := hne (table, chunk) List.mem_cons_self
      have hcall := consumes_handleIncomingData htcp table hchunk hfit.1
      obtain ⟨stop, hstop, hseg, hrest⟩ := hcall.segments
      -- the buffer with the chunk is the end of what has been received with it
      have hjoin : h.receiveBuffer ++ chunk = (before ++ chunk).drop k := by
        rw [hbuf, List.drop_append_of_le_length hk]
      rw [hjoin] at hstop hseg hrest
      rw [List.length_drop] at hstop
      have hlen : (before ++ chunk).length = before.length + chunk.length := List.length_append
      have hstream : before ++ streamOf ((table, chunk) :: calls) = before ++ chunk ++ streamOf calls := by
        simp [streamOf]
      rw [List.drop_drop] at hrest
      obtain ⟨stop', hstop', hseg', hrest'⟩ := ih _ (before ++ chunk) (k + stop) (hcall.tcp.trans htcp) (by omega) hrest
        (fun c hc => hne c (List.mem_cons_of_mem _ hc)) hfit.2
      rw [hstream]
      refine ⟨stop', hstop', ?_, hrest'⟩
      show Segments _ k ((_ ++ _ : List RoutedMessage).map RoutedMessage.data) stop'
      rw [List.map_append]
      have hshift : Segments (before ++ chunk) (k + 0) _ (k + stop) := hseg.shift
      rw [Nat.add_zero] at hshift
      exact (hshift.mono (streamOf calls)).append hseg'

theorem headed_receiveAll : ∀ (calls : List (RoutingTable × List UInt8)) (h : TransportHandler),
    h.tcpConnected = true → (∀ c ∈ calls, c.2 ≠ []) → h.ChunksFit calls →
    ∀ msg ∈ (h.receiveAll calls).2, WellHeaded msg.data := by
  intro calls
  induction calls with
  | nil =>
      intro h _ _ _ msg hmsg
      cases hmsg
  | cons c calls ih =>
      obtain ⟨table, chunk⟩ := c
      intro h htcp hne hfit msg hmsg
      have hchunk : chunk ≠ [] := hne (table, chunk) List.mem_cons_self
      have hcall := consumes_handleIncomingData htcp table hchunk hfit.1
      rcases List.mem_append.mp hmsg with hmsg | hmsg
      · exact hcall.headed msg hmsg
      · exact ih _ (hcall.tcp.trans htcp) (fun c hc => hne c (List.mem_cons_of_mem _ hc)) hfit.2 msg hmsg

theorem watermark_receiveAll : ∀ (calls : List (RoutingTable × List UInt8)) (h : TransportHandler),
    h.tcpConnected = true → h.receiveBuffer.length ≤ h.config.maxReceiveBufferSize → (∀ c ∈ calls, c.2 ≠ []) →
    h.ChunksFit calls → (h.receiveAll calls).1.receiveBuffer.length ≤ h.config.maxReceiveBufferSize := by
  intro calls
  induction calls with
  | nil => intro h _ hle _ _; exact hle
  | cons c calls ih =>
      obtain ⟨table, chunk⟩ := c
      intro h htcp hle hne hfit
      have hchunk : chunk ≠ [] := hne (table, chunk) List.mem_cons_self
      have hcall := consumes_handleIncomingData htcp table hchunk hfit.1
      obtain ⟨stop, -, -, hrest⟩ := hcall.segments
      have hfree : chunk.length ≤ h.config.maxReceiveBufferSize - h.receiveBuffer.length := hfit.1
      have hle' : (h.handleIncomingData table (.bytes chunk)).1.receiveBuffer.length ≤
          (h.handleIncomingData table (.bytes chunk)).1.config.maxReceiveBufferSize := by
        rw [hrest, hcall.config, List.length_drop, List.length_append]
        omega
      have hrun := ih _ (hcall.tcp.trans htcp) hle' (fun c hc => hne c (List.mem_cons_of_mem _ hc)) hfit.2
      rw [hcall.config] at hrun
      exact hrun

/-- What can be said about a run over any bytes. -/
structure Sound (h : TransportHandler) (calls : List (RoutingTable × List UInt8)) : Prop where
  watermark : ∀ pre, pre <+: calls → (h.receiveAll pre).1.receiveBuffer.length ≤ h.config.maxReceiveBufferSize
  terminates : ∀ table buffer, ∃ rounds, processRounds table rounds buffer = some (processBuffer table buffer)
  segments : ∃ offsets : List Nat,
    List.Forall₂ (fun offset data => ((streamOf calls).drop offset).take data.length = data) offsets
        ((h.receiveAll calls).2.map RoutedMessage.data) ∧
      (offsets.zip ((h.receiveAll calls).2.map RoutedMessage.data)).Pairwise (fun a b => a.1 + a.2.length ≤ b.1) ∧
      offsets.Pairwise (· < ·)
  headed : ∀ msg ∈ (h.receiveAll calls).2, WellHeaded msg.data

theorem chunksFit_front {pre calls : List (RoutingTable × List UInt8)} (h : TransportHandler) (hpre : pre <+: calls)
    (hfit : h.ChunksFit calls) : h.ChunksFit pre := by
  induction pre generalizing calls h with
  | nil => trivial
  | cons c pre ih =>
      obtain ⟨post, rfl⟩ := hpre
      obtain ⟨table, chunk⟩ := c
      exact ⟨hfit.1, ih _ (List.prefix_append pre post) hfit.2⟩

/-- **Reassembly of any stream**, in any chunks that fit the free space. -/
theorem receiveAll_sound (h : TransportHandler) (htcp : h.tcpConnected = true) (hempty : h.receiveBuffer = [])
    (calls : List (RoutingTable × List UInt8)) (hne : ∀ c ∈ calls, c.2 ≠ []) (hfit : h.ChunksFit calls) :
    Sound h calls := by
  have hheaded := headed_receiveAll calls h htcp hne hfit
  refine ⟨fun pre hpre => ?_, fun table buffer => ⟨_, processRounds_processBuffer table buffer⟩, ?_, hheaded⟩
  · refine watermark_receiveAll pre h htcp ?_ (fun c hc => hne c (hpre.subset hc)) (chunksFit_front h hpre hfit)
    rw [hempty]
    exact Nat.zero_le _
  · obtain ⟨stop, -, hseg, -⟩ := receiveAll_segments calls h [] 0 htcp le_rfl hempty hne hfit
    obtain ⟨offsets, hall, hpair, hlt, -⟩ := hseg.offsets fun data hdata => by
      obtain ⟨msg, hmsg, rfl⟩ := List.mem_map.mp hdata
      intro hnil
      have hlen := (hheaded msg hmsg).2
      rw [hnil, List.length_nil] at hlen
      omega
    exact ⟨offsets, hall, hpair, hlt⟩

/-- A frame behind two bytes of garbage is not seen; a frame in chunks of its own is. -/
theorem receiveAll_sound_garbage :
    Sound sampleHandler [(.empty, [0x00, 0x01] ++ sampleFrame.bytes), (.empty, sampleFrame.bytes)] ∧
      (sampleHandler.receiveAll [(.empty, [0x00, 0x01] ++ sampleFrame.bytes), (.empty, sampleFrame.bytes)]).2.map
        RoutedMessage.data = [sampleFrame.bytes] :=
  ⟨receiveAll_sound sampleHandler rfl rfl _ (by decide) (by decide), by decide⟩

end TransportHandler

end EdgeOffloading
