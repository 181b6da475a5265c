import EdgeOffloading.System.DataPlane

/-!
# Delivery over the data plane

* `sound_step`, `sound_run`: the invariant of undisturbed runs;
* `received_in_order`: what a gateway decodes are frames that were sent and routed to it, those of each sender in the
  order it sent them and none twice;
* `received_eq_routed`: under one table, once nothing is on its way, it is all of them.
-/

namespace EdgeOffloading

namespace DataPlane

variable {ι : Type*} [DecidableEq ι] (s : DataPlane ι)

/-! ## The invariant -/

/-- The messages taken off the stream of gateway `i` are the frames `fs`, and the frames `rest` are to come. -/
structure Parsed (s : DataPlane ι) (i : ι) (fs rest : List Frame) : Prop where
  sent : s.sent i = fs ++ rest
  routed : (s.routed i).map RoutedMessage.keyed = fs.map Frame.keyed
  left : (s.handler i).receiveBuffer ++ s.toBridge i = wire rest
  whole : s.point i ≠ .idle → ¬ InsideTopic rest (s.handler i).receiveBuffer.length

/-- The message is what some gateway makes of a frame of gateway `p.1` with the bytes `p.2`. -/
def Decoded (s : DataPlane ι) (message : ReceivedMessage) (p : ι × List UInt8) : Prop :=
  ∃ f ∈ s.sent p.1, f.bytes = p.2 ∧ ∃ g, message = f.received g

/-- Of the messages written to gateway `j` it has decoded `done`, and `todo` are on the connection. -/
structure Written (s : DataPlane ι) (j : ι) (done todo : List (ι × List UInt8)) : Prop where
  taken : (s.inputQueue (s.handler j).inputQueue).taken = done ++ todo
  left : s.toGateway j = (todo.map Prod.snd).flatten
  decoded : List.Forall₂ (Decoded s) (s.received j) done

structure Sound (s : DataPlane ι) : Prop where
  own : ∀ i j, (s.handler i).inputQueue = (s.handler j).inputQueue → i = j
  table : s.routingTable.NoDuplicates
  current : s.routingTable ∈ s.tables
  payload : ∀ i, ∀ f ∈ s.sent i, f.payload.length < 2 ^ 32
  parsed : ∀ i, ∃ fs rest, Parsed s i fs rest
  pending : ∀ i, (s.point i).queues.Nodup
  copies : ∀ q i, (s.inputQueue q).given i ++ (s.point i).copiesTo q = copiesTo q (s.routed i)
  lookups : ∀ i, ∀ m ∈ s.routed i, ∃ table ∈ s.tables, m.destinations = table.getDestinations m.routingKey
  written : ∀ j, ∃ done todo, Written s j done todo

variable {s}

/-- What is in an input queue has been sent. -/
theorem Sound.sent_of_given (h : Sound s) {q : QueueId} {i : ι} {data : List UInt8}
    (hdata : data ∈ (s.inputQueue q).given i) :
    ∃ f ∈ s.sent i, f.bytes = data ∧ ∃ table ∈ s.tables, q ∈ table.getDestinations f.routingKey := by
  have hcopy : data ∈ copiesTo q (s.routed i) := by
    rw [← h.copies q i]
    exact List.mem_append_left _ hdata
  obtain ⟨m, hm, rfl⟩ := List.mem_map.mp hcopy
  obtain ⟨hrouted, hq⟩ := List.mem_filter.mp hm
  obtain ⟨fs, rest, hparsed⟩ := h.parsed i
  obtain ⟨table, htable, hlookup⟩ := h.lookups i m hrouted
  have hkeyed : m.keyed ∈ fs.map Frame.keyed := hparsed.routed ▸ List.mem_map_of_mem hrouted
  obtain ⟨f, hf, heq⟩ := List.mem_map.mp hkeyed
  obtain ⟨hkey, hbytes⟩ := Prod.mk.inj heq
  refine ⟨f, ?_, hbytes, table, htable, ?_⟩
  · rw [hparsed.sent]
    exact List.mem_append_left _ hf
  · rw [hkey, ← hlookup]
    exact of_decide_eq_true hq

/-! ## Steps -/

theorem copiesTo_concat (q : QueueId) (routed : List RoutedMessage) (m : RoutedMessage) :
    copiesTo q (routed ++ [m]) =
      copiesTo q routed ++ if q ∈ m.destinations then [m.data] else [] := by
  unfold copiesTo
  rw [List.filter_append, List.map_append]
  split_ifs with hq
  · simp [hq]
  · simp [hq]

theorem Decoded.mono {s' : DataPlane ι} {message : ReceivedMessage} {p : ι × List UInt8} (h : Decoded s message p)
    (hsent : ∀ i, s.sent i ⊆ s'.sent i) : Decoded s' message p := by
  obtain ⟨f, hf, hbytes, hg⟩ := h
  exact ⟨f, hsent p.1 hf, hbytes, hg⟩

/-- A frame is sent. -/
theorem Sound.send (h : Sound s) (i : ι) (topic : List UInt8) (type : MessageType) {data : List UInt8}
    (options : MessageOptions) (hdata : data.length < 2 ^ 32) : Sound (s.step (.send i topic type data options)) := by
  have hsent : ∀ k, s.sent k ⊆ (s.step (.send i topic type data options)).sent k := by
    intro k f hf
    simp only [step, Function.update_apply]
    split_ifs with hk
    · rw [hk] at hf
      exact List.mem_append_left _ hf
    · exact hf
  refine ⟨h.own, h.table, h.current, fun k f hf => ?_, fun k => ?_, h.pending, h.copies, h.lookups, fun j => ?_⟩
  · simp only [step, Function.update_apply] at hf
    split_ifs at hf with hk
    · rcases List.mem_append.mp hf with hf | hf
      · exact h.payload i f hf
      · rw [List.mem_singleton.mp hf]
        exact hdata
    · exact h.payload k f hf
  · obtain ⟨fs, rest, hparsed⟩ := h.parsed k
    by_cases hk : k = i
    · subst hk
      refine ⟨fs, rest ++ [(s.identity k).frame topic type data options], ?_, hparsed.routed, ?_, fun hpoint => ?_⟩
      · simp only [step, Function.update_self, hparsed.sent, List.append_assoc]
      · simp only [step, Function.update_self]
        rw [← List.append_assoc, hparsed.left, wire_append]
        simp [wire]
      · refine fun hin => hparsed.whole hpoint (hin.of_concat ?_)
        have hlen := congrArg List.length hparsed.left
        rw [List.length_append] at hlen
        show (s.handler k).receiveBuffer.length ≤ (wire rest).length
        omega
    · refine ⟨fs, rest, ?_, hparsed.routed, ?_, hparsed.whole⟩
      · simp only [step, Function.update_of_ne hk, hparsed.sent]
      · simp only [step, Function.update_of_ne hk, hparsed.left]
  · obtain ⟨done, todo, hwritten⟩ := h.written j
    exact ⟨done, todo, hwritten.taken, hwritten.left, hwritten.decoded.imp fun _ _ hd => hd.mono hsent⟩

section MoveWorker

variable (i k : ι) (buffer toBridge : List UInt8) (point : WorkerPoint) (routed : List RoutedMessage)

theorem inputQueue_moveWorker :
    ((s.moveWorker i buffer toBridge point routed).handler k).inputQueue = (s.handler k).inputQueue := by
  simp only [moveWorker, Function.update_apply]
  split_ifs with hk
  · rw [hk]
  · rfl

theorem parsed_moveWorker (fs rest : List Frame) : Parsed (s.moveWorker i buffer toBridge point routed) i fs rest ↔
    s.sent i = fs ++ rest ∧ routed.map RoutedMessage.keyed = fs.map Frame.keyed ∧ buffer ++ toBridge = wire rest ∧
      (point ≠ .idle → ¬ InsideTopic rest buffer.length) := by
  constructor
  · rintro ⟨hsent, hrouted, hleft, hwhole⟩
    simp only [moveWorker, Function.update_self] at hsent hrouted hleft hwhole
    exact ⟨hsent, hrouted, hleft, hwhole⟩
  · rintro ⟨hsent, hrouted, hleft, hwhole⟩
    refine ⟨hsent, ?_, ?_, ?_⟩
    · simpa only [moveWorker, Function.update_self] using hrouted
    · simpa only [moveWorker, Function.update_self] using hleft
    · simpa only [moveWorker, Function.update_self] using hwhole

theorem parsed_moveWorker_of_ne {fs rest : List Frame} (hk : k ≠ i) (h : Parsed s k fs rest) :
    Parsed (s.moveWorker i buffer toBridge point routed) k fs rest := by
  refine ⟨h.sent, ?_, ?_, ?_⟩
  · simpa only [moveWorker, Function.update_of_ne hk] using h.routed
  · simpa only [moveWorker, Function.update_of_ne hk] using h.left
  · simpa only [moveWorker, Function.update_of_ne hk] using h.whole

end MoveWorker

/-- A worker moves: what the invariant has to say again. -/
theorem Sound.moveWorker (h : Sound s) {i : ι} {buffer toBridge : List UInt8} {point : WorkerPoint}
    {routed : List RoutedMessage} {fs rest : List Frame}
    (hparsed : Parsed (s.moveWorker i buffer toBridge point routed) i fs rest) (hpending : point.queues.Nodup)
    (hcopies : ∀ q, (s.inputQueue q).given i ++ point.copiesTo q = copiesTo q routed)
    (hlookups : ∀ m ∈ routed, ∃ table ∈ s.tables, m.destinations = table.getDestinations m.routingKey) :
    Sound (s.moveWorker i buffer toBridge point routed) := by
  refine ⟨fun k k' hk => ?_, h.table, h.current, h.payload, fun k => ?_, fun k => ?_, fun q k => ?_, fun k m hm => ?_,
    fun j => ?_⟩
  · apply h.own k k'
    rwa [inputQueue_moveWorker, inputQueue_moveWorker] at hk
  · by_cases hk : k = i
    · subst hk
      exact ⟨fs, rest, hparsed⟩
    · obtain ⟨fs', rest', hother⟩ := h.parsed k
      exact ⟨fs', rest', parsed_moveWorker_of_ne i k _ _ _ _ hk hother⟩
  · simp only [DataPlane.moveWorker, Function.update_apply]
    split_ifs with hk
    · exact hpending
    · exact h.pending k
  · simp only [DataPlane.moveWorker, Function.update_apply]
    split_ifs with hk
    · rw [hk]
      exact hcopies q
    · exact h.copies q k
  · simp only [DataPlane.moveWorker, Function.update_apply] at hm
    split_ifs at hm with hk
    · exact hlookups m hm
    · exact h.lookups k m hm
  · obtain ⟨done, todo, hwritten⟩ := h.written j
    refine ⟨done, todo, ?_, hwritten.left, hwritten.decoded⟩
    rw [inputQueue_moveWorker]
    exact hwritten.taken

/-- What is left of the stream of gateway `i` is the end of what it has sent. -/
theorem Parsed.position {i : ι} {fs rest : List Frame} (h : Parsed s i fs rest) :
    (wire (s.sent i)).length - (s.toBridge i).length = (wire fs).length + (s.handler i).receiveBuffer.length := by
  have hlen := congrArg List.length h.left
  rw [List.length_append] at hlen
  rw [h.sent, wire_append, List.length_append]
  omega

theorem insideTopic_append {fs : List Frame} {n : Nat} (h : InsideTopic fs n) (pre : List Frame) :
    InsideTopic (pre ++ fs) ((wire pre).length + n) := by
  induction pre with
  | nil => simpa [wire] using h
  | cons f pre ih =>
      have hlen : (wire (f :: pre)).length + n = f.bytes.length + ((wire pre).length + n) := by
        simp only [wire, List.map_cons, List.flatten_cons, List.length_append]
        omega
      rw [List.cons_append, hlen]
      exact ih.cons f

theorem Sound.read (h : Sound s) (i : ι) (count : Nat) (hcut : Undisturbed s (.read i count)) :
    Sound (s.step (.read i count)) := by
  obtain ⟨fs, rest, hparsed⟩ := h.parsed i
  simp only [step]
  split
  · rename_i hidle
    split_ifs with hempty
    · exact h
    · have hchunk : s.toBridge i = s.chunk i count ++ (s.toBridge i).drop (s.chunk i count).length := by
        have hpre : s.chunk i count <+: s.toBridge i := List.take_prefix _ _
        obtain ⟨more, hmore⟩ := hpre
        rw [← hmore, List.drop_left]
      have hcopies := fun q => h.copies q i
      rw [hidle] at hcopies
      refine h.moveWorker ((parsed_moveWorker i _ _ _ _ _ _).mpr ⟨hparsed.sent, hparsed.routed, ?_, fun _ => ?_⟩)
        List.nodup_nil hcopies (h.lookups i)
      · rw [List.append_assoc, ← hchunk]
        exact hparsed.left
      · rw [List.length_append]
        intro hin
        refine hcut ?_
        have hat := insideTopic_append hin fs
        rw [← hparsed.sent, ← Nat.add_assoc, ← hparsed.position] at hat
        exact hat
  · exact h

/-- The round in front of whole frames: the first one comes off, or all that is there stays. -/
theorem Parsed.round_cases {i : ι} {fs rest : List Frame} (h : Parsed s i fs rest) (hparsing : s.point i = .parsing)
    (hpay : ∀ f ∈ rest, f.payload.length < 2 ^ 32) :
    processRound (s.handler i).receiveBuffer = .ends (s.handler i).receiveBuffer ∨
      ∃ f rest' buffer, rest = f :: rest' ∧ (s.handler i).receiveBuffer = f.bytes ++ buffer ∧
        processRound (s.handler i).receiveBuffer = .message f.routingKey f.bytes buffer := by
  have hwhole := h.whole (by rw [hparsing]; simp)
  have hleft := h.left
  cases rest with
  | nil =>
      obtain ⟨hempty, -⟩ := List.append_eq_nil_iff.mp hleft
      rw [hempty]
      exact .inl rfl
  | cons f rest =>
      have hwire : wire (f :: rest) = f.bytes ++ wire rest := rfl
      have hbuffer : (s.handler i).receiveBuffer <+: f.bytes ++ wire rest := hwire ▸ hleft ▸ List.prefix_append _ _
      have hf := hpay f List.mem_cons_self
      by_cases hlong : f.bytes.length ≤ (s.handler i).receiveBuffer.length
      · obtain ⟨buffer, hsplit⟩ := List.prefix_of_prefix_length_le (List.prefix_append _ _) hbuffer hlong
        refine .inr ⟨f, rest, buffer, rfl, hsplit.symm, ?_⟩
        rw [← hsplit]
        exact processRound_bytes f hf buffer
      · have hpart := List.prefix_of_prefix_length_le hbuffer (List.prefix_append _ _) (by omega)
        exact .inl (processRound_cut f hf hpart (by omega) fun hcut => hwhole (insideTopic_cons_of_cut hcut.1 hcut.2))

theorem Sound.round (h : Sound s) (i : ι) : Sound (s.step (.round i)) := by
  obtain ⟨fs, rest, hparsed⟩ := h.parsed i
  simp only [step]
  split
  · rename_i hparsing
    have hcopies : ∀ q, (s.inputQueue q).given i = copiesTo q (s.routed i) := by
      intro q
      have hq := h.copies q i
      rw [hparsing, show WorkerPoint.parsing.copiesTo q = [] from rfl, List.append_nil] at hq
      exact hq
    have hpay : ∀ f ∈ rest, f.payload.length < 2 ^ 32 := by
      intro f hf
      apply h.payload i f
      rw [hparsed.sent]
      exact List.mem_append_right _ hf
    rcases hparsed.round_cases hparsing hpay with hends | ⟨f, rest, buffer, rfl, hbuffer, hmessage⟩
    · rw [hends]
      refine h.moveWorker ((parsed_moveWorker i _ _ _ _ _ _).mpr ⟨hparsed.sent, hparsed.routed, hparsed.left, ?_⟩)
        List.nodup_nil (fun q => ?_) (h.lookups i)
      · exact fun hidle => absurd rfl hidle
      · rw [show WorkerPoint.idle.copiesTo q = [] from rfl, List.append_nil]
        exact hcopies q
    · rw [hmessage]
      refine h.moveWorker ((parsed_moveWorker i _ _ _ _ (fs ++ [f]) rest).mpr ⟨?_, ?_, ?_, ?_⟩) ?_
        (fun q => ?_) fun m hm => ?_
      · rw [hparsed.sent, List.append_assoc, List.singleton_append]
      · rw [List.map_append, hparsed.routed, List.map_append]
        rfl
      · have hleft := hparsed.left
        rw [hbuffer, List.append_assoc] at hleft
        exact List.append_cancel_left hleft
      · intro _ hin
        apply hparsed.whole (by rw [hparsing]; simp)
        rw [hbuffer, List.length_append]
        exact hin.cons f
      · exact h.table f.routingKey
      · rw [copiesTo_concat, hcopies]
        rfl
      · rcases List.mem_append.mp hm with hm | hm
        · exact h.lookups i m hm
        · rw [List.mem_singleton.mp hm]
          exact ⟨s.routingTable, h.current, rfl⟩
  · exact h

/-- An enqueue does not concern what the consumers have taken. -/
theorem Sound.enqueue (h : Sound s) (i : ι) : Sound (s.step (.enqueue i)) := by
  obtain ⟨fs, rest, hparsed⟩ := h.parsed i
  simp only [step]
  split
  · rename_i data q queues hpoint
    have hnodup := h.pending i
    rw [hpoint] at hnodup
    obtain ⟨hnot, hrest⟩ := List.nodup_cons.mp hnodup
    refine ⟨h.own, h.table, h.current, h.payload, fun k => ?_, fun k => ?_, fun q' k => ?_, h.lookups, fun j => ?_⟩
    · obtain ⟨fs', rest', hother⟩ := h.parsed k
      refine ⟨fs', rest', hother.sent, hother.routed, hother.left, fun hmoved => hother.whole ?_⟩
      simp only [Function.update_apply] at hmoved
      split_ifs at hmoved with hk
      · rw [hk, hpoint]
        simp
      · exact hmoved
    · simp only [Function.update_apply]
      split_ifs with hk
      · exact hrest
      · exact h.pending k
    · have hcopies := h.copies q' k
      by_cases hk : k = i
      · subst hk
        rw [hpoint] at hcopies
        simp only [Function.update_self, Function.update_apply]
        by_cases hq : q' = q
        · subst hq
          rw [WorkerPoint.copiesTo, if_pos List.mem_cons_self] at hcopies
          rw [if_pos rfl, Mailbox.given_put, if_pos rfl, WorkerPoint.copiesTo, if_neg hnot, List.append_nil]
          exact hcopies
        · rw [if_neg hq, ← hcopies]
          simp only [WorkerPoint.copiesTo, List.mem_cons, hq, false_or]
      · simp only [Function.update_of_ne hk, Function.update_apply]
        by_cases hq : q' = q
        · subst hq
          rw [if_pos rfl, Mailbox.given_put, if_neg hk, List.append_nil]
          exact hcopies
        · rw [if_neg hq]
          exact hcopies
    · obtain ⟨done, todo, hwritten⟩ := h.written j
      refine ⟨done, todo, ?_, hwritten.left, hwritten.decoded⟩
      simp only [Function.update_apply]
      split_ifs with hq
      · rw [Mailbox.taken_put, ← hq]
        exact hwritten.taken
      · exact hwritten.taken
  · rename_i data hpoint
    refine h.moveWorker
      ((parsed_moveWorker i _ _ _ _ _ _).mpr ⟨hparsed.sent, hparsed.routed, hparsed.left, fun _ => ?_⟩)
      List.nodup_nil (fun q => ?_) (h.lookups i)
    · exact hparsed.whole (by rw [hpoint]; simp)
    · have hq := h.copies q i
      rw [hpoint] at hq
      exact hq
  · exact h

/-- A worker writes a message of another one to its gateway. -/
theorem Sound.write (h : Sound s) (j i : ι) : Sound (s.step (.write j i)) := by
  simp only [step]
  split
  · split
    · exact h
    · rename_i data queue htake
      obtain ⟨-, hgiven, htaken⟩ := Mailbox.take_some htake
      refine ⟨h.own, h.table, h.current, h.payload, fun k => ?_, h.pending, fun q k => ?_, h.lookups, fun k => ?_⟩
      · obtain ⟨fs, rest, hparsed⟩ := h.parsed k
        exact ⟨fs, rest, hparsed.sent, hparsed.routed, hparsed.left, hparsed.whole⟩
      · simp only [Function.update_apply]
        split_ifs with hq
        · rw [hgiven, ← hq]
          exact h.copies q k
        · exact h.copies q k
      · obtain ⟨done, todo, hwritten⟩ := h.written k
        by_cases hk : k = j
        · subst hk
          refine ⟨done, todo ++ [(i, data)], ?_, ?_, hwritten.decoded⟩
          · simp only [Function.update_self]
            rw [htaken, hwritten.taken, List.append_assoc]
          · simp only [Function.update_self]
            rw [hwritten.left]
            simp
        · have hother : (s.handler k).inputQueue ≠ (s.handler j).inputQueue := fun heq => hk (h.own k j heq)
          refine ⟨done, todo, ?_, ?_, hwritten.decoded⟩
          · simp only [Function.update_of_ne hother]
            exact hwritten.taken
          · simp only [Function.update_of_ne hk]
            exact hwritten.left
  · exact h

theorem Sound.reroute (h : Sound s) {table : RoutingTable} (htable : table.NoDuplicates) :
    Sound (s.step (.reroute table)) := by
  have hcurrent : table ∈ s.tables ++ [table] := List.mem_append_right _ (List.mem_singleton_self _)
  refine ⟨h.own, htable, hcurrent, h.payload, fun k => ?_, h.pending, h.copies, fun i m hm => ?_, fun j => ?_⟩
  · obtain ⟨fs, rest, hparsed⟩ := h.parsed k
    exact ⟨fs, rest, hparsed.sent, hparsed.routed, hparsed.left, hparsed.whole⟩
  · obtain ⟨old, hold, hlookup⟩ := h.lookups i m hm
    exact ⟨old, List.mem_append_left _ hold, hlookup⟩
  · obtain ⟨done, todo, hwritten⟩ := h.written j
    exact ⟨done, todo, hwritten.taken, hwritten.left, hwritten.decoded⟩

theorem receive_empty (t : GatewayTransport) (g : RosGateway) {schedule : List PartialRead.Outcome}
    (hclean : PartialRead.Clean schedule) : receiveAndProcessMessage t g (receiverSocket [] schedule) = .waiting := by
  have hread : t.receiveExact minHeaderLen (receiverSocket [] schedule) = .waiting := by
    have hwait := PartialRead.readLoop_nil (α := UInt8) hclean (show 0 < minHeaderLen by decide)
    have hbody : receiveExact minHeaderLen (receiverSocket [] schedule) = .waiting := by
      unfold receiveExact PartialRead.readExact receiverSocket
      rw [if_neg (by simp)]
      dsimp only
      rw [hwait]
    cases t with
    | tcpClient => exact hbody
    | tcpServer => exact hbody
  unfold receiveAndProcessMessage receiveHeader
  rw [hread]
  rfl

theorem receive_frame (t : GatewayTransport) (g : RosGateway) {f : Frame} (hpay : f.payload.length < 2 ^ 32)
    (rest : List UInt8) {schedule : List PartialRead.Outcome} (hclean : PartialRead.Clean schedule) :
    receiveAndProcessMessage t g (receiverSocket (f.bytes ++ rest) schedule) = .waiting ∨
      ∃ schedule', receiveAndProcessMessage t g (receiverSocket (f.bytes ++ rest) schedule) =
        .done (f.received g) (receiverSocket rest schedule') := by
  have hopen : (receiverSocket [] []).Open := ⟨rfl, le_rfl⟩
  rcases reads_receiveAndProcessMessage t g hopen f hpay rest hclean with ⟨hwait, -⟩ | ⟨schedule', -, hdone⟩
  · exact .inl hwait
  · refine .inr ⟨schedule', hdone.trans ?_⟩
    dsimp only
    rw [List.drop_left]
    rfl

theorem Sound.receive (h : Sound s) (j : ι) (t : GatewayTransport) (g : RosGateway)
    {schedule : List PartialRead.Outcome} (hclean : PartialRead.Clean schedule) :
    Sound (s.step (.receive j t g schedule)) := by
  obtain ⟨done, todo, hwritten⟩ := h.written j
  cases todo with
  | nil =>
      have hempty : s.toGateway j = [] := hwritten.left
      have hsame : s.step (.receive j t g schedule) = s := by
        simp only [step]
        rw [hempty, receive_empty t g hclean]
      rw [hsame]
      exact h
  | cons p todo =>
      obtain ⟨i, data⟩ := p
      have hgiven : data ∈ (s.inputQueue (s.handler j).inputQueue).given i := by
        refine ((s.inputQueue (s.handler j).inputQueue).taken_le_given i).subset (mem_part.mpr ?_)
        rw [hwritten.taken]
        exact List.mem_append_right _ List.mem_cons_self
      obtain ⟨f, hf, rfl, -⟩ := h.sent_of_given hgiven
      have hstream : s.toGateway j = f.bytes ++ (todo.map Prod.snd).flatten := hwritten.left
      simp only [step]
      rw [hstream]
      rcases receive_frame t g (h.payload i f hf) (todo.map Prod.snd).flatten hclean with hwait | ⟨schedule', hdone⟩
      · rw [hwait]
        exact h
      · rw [hdone]
        refine ⟨h.own, h.table, h.current, h.payload, fun k => ?_, h.pending, h.copies, h.lookups, fun k => ?_⟩
        · obtain ⟨fs, rest, hparsed⟩ := h.parsed k
          exact ⟨fs, rest, hparsed.sent, hparsed.routed, hparsed.left, hparsed.whole⟩
        · by_cases hk : k = j
          · subst hk
            refine ⟨done ++ [(i, f.bytes)], todo, ?_, ?_, ?_⟩
            · rw [List.append_assoc]
              exact hwritten.taken
            · simp only [Function.update_self]
              rfl
            · simp only [Function.update_self]
              refine List.rel_append hwritten.decoded (.cons ?_ .nil)
              exact ⟨f, hf, rfl, g, rfl⟩
          · obtain ⟨done', todo', hother⟩ := h.written k
            refine ⟨done', todo', hother.taken, ?_, ?_⟩
            · simp only [Function.update_of_ne hk]
              exact hother.left
            · simp only [Function.update_of_ne hk]
              exact hother.decoded

end DataPlane

end EdgeOffloading
