import EdgeOffloading.Bridge.Reassembly

/-!
# The inner loop of the worker, round by round

`handle_incoming_data` takes the messages off the buffer one in each round of its inner loop, looks the destinations of
each up and enqueues a copy to each of them, so that the routing table may change and other workers may enqueue between
two messages of one chunk.

* `processRound_bytes`, `processRound_cut`: a round on a whole frame and on a part of one;
* `processBuffer_eq_round`: the loop of `processBuffer` is its first round and the loop behind it.
-/

namespace EdgeOffloading

/-- What one round does: it ends the loop with this buffer, or takes a message off the front. -/
inductive Round where
  | ends (buffer : List UInt8)
  | message (routingKey : RoutingKey) (data rest : List UInt8)
  deriving DecidableEq, Repr

def processRound (buffer : List UInt8) : Round :=
  if buffer.length < minHeaderLen then .ends buffer
  else
    match parseMessageHeader buffer with
    | none => .ends []
    | some headerInfo =>
      let total := headerInfo.totalMessageLength
      if total ≤ buffer.length then .message headerInfo.routingKey (buffer.take total) (buffer.drop total)
      else .ends buffer

theorem processRound_bytes (f : Frame) (hpay : f.payload.length < 2 ^ 32) (rest : List UInt8) :
    processRound (f.bytes ++ rest) = .message f.routingKey f.bytes rest := by
  have hlong : minHeaderLen ≤ (f.bytes ++ rest).length := by
    rw [List.length_append, f.length_bytes]
    omega
  unfold processRound
  rw [if_neg (by omega), f.parse_frame hpay]
  dsimp only
  rw [if_pos (by rw [List.length_append]; omega), List.take_left, List.drop_left]

/-- A part of a frame stays, unless it ends inside the topic. -/
theorem processRound_cut (f : Frame) (hpay : f.payload.length < 2 ^ 32) {p : List UInt8} (hp : p <+: f.bytes)
    (hshort : p.length < f.bytes.length)
    (htopic : ¬ (minHeaderLen ≤ p.length ∧ p.length < minHeaderLen + f.topicLength)) :
    processRound p = .ends p := by
  unfold processRound
  by_cases hlen : p.length < minHeaderLen
  · rw [if_pos hlen]
  · rw [if_neg hlen, f.parse_cut hpay hp (by omega), if_neg (by omega)]
    dsimp only
    rw [if_neg (by omega)]

theorem length_rest_of_message {buffer data rest : List UInt8} {key : RoutingKey}
    (h : processRound buffer = .message key data rest) : rest.length < buffer.length := by
  unfold processRound at h
  split_ifs at h with hlen
  cases hp : parseMessageHeader buffer with
  | none =>
      rw [hp] at h
      cases h
  | some info =>
      have hpos := totalMessageLength_pos hp
      rw [hp] at h
      dsimp only at h
      split_ifs at h with hle
      obtain ⟨-, -, rfl⟩ := Round.message.inj h
      rw [List.length_drop]
      unfold minHeaderLen at hpos hlen
      omega

theorem processLoop_succ (table : RoutingTable) (fuel : Nat) (buffer : List UInt8) :
    processLoop table (fuel + 1) buffer =
      match processRound buffer with
      | .ends buffer => ([], buffer)
      | .message key data rest =>
        (⟨key, data, table.getDestinations key⟩ :: (processLoop table fuel rest).1,
          (processLoop table fuel rest).2) := by
  unfold processRound
  conv_lhs => unfold processLoop
  split_ifs
  · rfl
  · cases parseMessageHeader buffer with
    | none => rfl
    | some info =>
        dsimp only
        split_ifs <;> rfl

theorem processLoop_fuel (table : RoutingTable) : ∀ (fuel fuel' : Nat) (buffer : List UInt8), buffer.length ≤ fuel →
    buffer.length ≤ fuel' → processLoop table fuel buffer = processLoop table fuel' buffer := by
  have hnil : ∀ fuel, processLoop table fuel [] = ([], []) := by
    intro fuel
    cases fuel <;> rfl
  intro fuel
  induction fuel with
  | zero =>
      intro fuel' buffer h _
      rw [List.length_eq_zero_iff.mp (Nat.le_zero.mp h), hnil, hnil]
  | succ fuel ih =>
      intro fuel' buffer h h'
      cases fuel' with
      | zero => rw [List.length_eq_zero_iff.mp (Nat.le_zero.mp h'), hnil, hnil]
      | succ fuel' =>
          rw [processLoop_succ, processLoop_succ]
          cases hround : processRound buffer with
          | ends buffer => rfl
          | message key data rest =>
              have hrest := length_rest_of_message hround
              dsimp only
              rw [ih fuel' rest (by omega) (by omega)]

theorem processBuffer_eq_round (table : RoutingTable) (buffer : List UInt8) :
    processBuffer table buffer =
      match processRound buffer with
      | .ends buffer => ([], buffer)
      | .message key data rest =>
        (⟨key, data, table.getDestinations key⟩ :: (processBuffer table rest).1, (processBuffer table rest).2) := by
  have hfuel : processBuffer table buffer = processLoop table (buffer.length + 1) buffer :=
    processLoop_fuel table _ _ buffer le_rfl (Nat.le_succ _)
  rw [hfuel, processLoop_succ]
  cases hround : processRound buffer with
  | ends buffer => rfl
  | message key data rest =>
      have hrest := length_rest_of_message hround
      dsimp only [processBuffer]
      rw [processLoop_fuel table buffer.length rest.length rest (by omega) le_rfl]

/-! ## Positions in the stream -/

theorem InsideTopic.cons {fs : List Frame} {n : Nat} (f : Frame) (h : InsideTopic fs n) :
    InsideTopic (f :: fs) (f.bytes.length + n) := by
  obtain ⟨pre, g, post, rfl, hlo, hhi⟩ := h
  refine ⟨f :: pre, g, post, rfl, ?_, ?_⟩
  · rw [List.map_cons, List.flatten_cons, List.length_append]
    omega
  · rw [List.map_cons, List.flatten_cons, List.length_append]
    omega

/-- A position within the frames is not moved by one frame more. -/
theorem InsideTopic.of_concat {fs : List Frame} {f : Frame} {n : Nat} (h : InsideTopic (fs ++ [f]) n)
    (hn : n ≤ (fs.map Frame.bytes).flatten.length) : InsideTopic fs n := by
  obtain ⟨pre, g, post, hfs, hlo, hhi⟩ := h
  rcases List.eq_nil_or_concat post with rfl | ⟨post, g', rfl⟩
  · obtain ⟨rfl, -⟩ := List.append_inj' hfs rfl
    unfold minHeaderLen at hlo
    omega
  · rw [List.concat_eq_append, ← List.cons_append, ← List.append_assoc] at hfs
    obtain ⟨rfl, -⟩ := List.append_inj' hfs rfl
    exact ⟨pre, g, post, rfl, hlo, hhi⟩

theorem insideTopic_cons_of_cut {f : Frame} {fs : List Frame} {n : Nat} (hlo : minHeaderLen ≤ n)
    (hhi : n < minHeaderLen + f.topicLength) : InsideTopic (f :: fs) n :=
  ⟨[], f, fs, rfl, by simpa using hlo, by simpa using hhi⟩

end EdgeOffloading
