import EdgeOffloading.Transport.Client

/-!
# Sending with reconnects, byte by byte

`send_data` of the client transport with its two loops: the rounds of the retry loop, and in each of them `::send` until
nothing remains. `offset` and `remaining` live across the rounds and start over only when a reconnect succeeds; a round
after a failed reconnect works on the closed descriptor, where `::send` fails.

What `::send` returns and whether `connect` succeeds is given by two lists; a call that has used one up is still in
progress. Beside the state stands what each connection has received from the call.

* `sendDataBytes_exact`: the connection in use when the call returns true has received the message, every other one a
  part of it from the start, and a call that returns false leaves the transport disconnected;
* `sendDataBytes_refines`: the call is one of `sendData`.
-/

namespace EdgeOffloading

/-- What `::send` returns: a number of bytes, where 0 stands for the end of the connection, or an error. -/
inductive SendReturn where
  | takes (count : Nat)
  /-- `EAGAIN` or `EWOULDBLOCK`. -/
  | wouldBlock
  | fails
  deriving DecidableEq, Repr

namespace TcpClientTransport

/-- A call of `send_data` that is under way. -/
structure SendCall where
  transport : TcpClientTransport
  offset : Nat := 0
  remaining : Nat
  /-- What the connections have received from this call, by their numbers. -/
  received : Nat → List UInt8 := fun _ => []
  reconnects : Nat := 0

namespace SendCall

variable (s : SendCall)

/-- `count` bytes from the offset on go out on the connection. -/
def advance (data : List UInt8) (count : Nat) : SendCall :=
  { s with
    offset := s.offset + count
    remaining := s.remaining - count
    received := Function.update s.received s.transport.opened
      (s.received s.transport.opened ++ (data.drop s.offset).take count) }

def disconnect : SendCall := { s with transport := s.transport.disconnect }

/-- The reconnect; the message starts over if it succeeds. -/
def reconnect (data : List UInt8) (success : Bool) : SendCall :=
  let s := { s with transport := s.transport.connect success, reconnects := s.reconnects + 1 }
  if success then { s with offset := 0, remaining := data.length } else s

end SendCall

/-- The inner loop, and whether it ended with nothing remaining or with an exception. -/
def sendRemaining (data : List UInt8) : SendCall → List SendReturn → Option (SendCall × List SendReturn × Bool)
  | s, [] =>
    if s.remaining = 0 then some (s, [], true) else if s.transport.isConnected then none else some (s, [], false)
  | s, r :: returns =>
    if s.remaining = 0 then some (s, r :: returns, true)
    else if !s.transport.isConnected then some (s, r :: returns, false)
    else
      match r with
      | .wouldBlock => sendRemaining data s returns
      | .fails => some (s, returns, false)
      | .takes count =>
        if min count s.remaining = 0 then some (s, returns, false)
        else sendRemaining data (s.advance data (min count s.remaining)) returns

/-- The rounds that are left of the retry loop. -/
def retryRounds (data : List UInt8) : Nat → SendCall → List SendReturn → List Bool → Option (SendCall × Bool)
  | 0, s, _, _ => some (s, false)
  | rounds + 1, s, returns, connects =>
    match sendRemaining data s returns with
    | none => none
    | some (s, _, true) => some (s, true)
    | some (s, returns, false) =>
      if rounds = 0 then some (s.disconnect, false)
      else
        match connects with
        | [] => none
        | success :: connects =>
          if success = false ∧ rounds = 1 then some (s.disconnect.reconnect data success, false)
          else retryRounds data rounds (s.disconnect.reconnect data success) returns connects

/-- `send_data`; `none` while it has not returned. -/
def sendDataBytes (c : TcpClientTransport) (data : List UInt8) (returns : List SendReturn) (connects : List Bool) :
    Option (SendCall × Bool) :=
  let s : SendCall := { transport := c, remaining := data.length }
  if !c.isConnected then some (s, false) else retryRounds data (c.maxRetries + 1) s returns connects

/-! ## What the connections have received -/

/-- The offset counts what the connection in use has received, and a closed one is left with something to send. -/
structure SendCall.Tracks (data : List UInt8) (s : SendCall) : Prop where
  length : s.offset + s.remaining = data.length
  current : s.transport.isConnected = true → s.received s.transport.opened = data.take s.offset
  part : ∀ k, s.received k <+: data
  later : ∀ k, s.transport.opened < k → s.received k = []
  closed : s.transport.isConnected = false → 0 < s.remaining

variable {data : List UInt8} {s s' : SendCall} {returns rest : List SendReturn} {connects : List Bool}

theorem SendCall.Tracks.advance (h : s.Tracks data) (hopen : s.transport.isConnected = true) {count : Nat}
    (hcount : count ≤ s.remaining) : (s.advance data count).Tracks data := by
  have hlength := h.length
  have htaken : s.received s.transport.opened ++ (data.drop s.offset).take count = data.take (s.offset + count) := by
    rw [h.current hopen, List.take_add]
  refine ⟨?_, ?_, ?_, ?_, ?_⟩
  · show s.offset + count + (s.remaining - count) = data.length
    omega
  · intro _
    show Function.update s.received s.transport.opened _ s.transport.opened = _
    rw [Function.update_self]
    exact htaken
  · intro k
    show Function.update s.received s.transport.opened _ k <+: data
    rw [htaken, Function.update_apply]
    split_ifs
    · exact List.take_prefix _ data
    · exact h.part k
  · intro k hk
    show Function.update s.received s.transport.opened _ k = []
    rw [Function.update_of_ne (by rintro rfl; exact lt_irrefl _ hk)]
    exact h.later k hk
  · intro hclosed
    cases hopen.symm.trans hclosed

theorem SendCall.Tracks.disconnect (h : s.Tracks data) (hpos : 0 < s.remaining) : s.disconnect.Tracks data :=
  ⟨h.length, fun hopen => (by cases hopen), h.part, h.later, fun _ => hpos⟩

theorem SendCall.Tracks.reconnect (h : s.Tracks data) (hpos : 0 < s.remaining) (success : Bool) :
    (s.reconnect data success).Tracks data := by
  cases success with
  | false => exact ⟨h.length, fun hopen => (by cases hopen), h.part, h.later, fun _ => hpos⟩
  | true =>
      refine ⟨?_, fun _ => ?_, h.part, fun k hk => ?_, fun hclosed => by cases hclosed⟩
      · exact Nat.zero_add _
      -- nothing has gone out on the new connection yet
      · exact h.later _ (Nat.lt_succ_self _)
      · exact h.later k ((Nat.lt_succ_self _).trans hk)

theorem sendRemaining_spec (h : s.Tracks data) {done : Bool}
    (hr : sendRemaining data s returns = some (s', rest, done)) :
    s'.Tracks data ∧ s'.transport = s.transport ∧ s'.reconnects = s.reconnects ∧
      (done = true → s'.remaining = 0 ∧ s'.transport.isConnected = true) ∧ (done = false → 0 < s'.remaining) := by
  have hdone : ∀ {s}, SendCall.Tracks data s → s.remaining = 0 → s.transport.isConnected = true := by
    intro s h hzero
    by_contra hclosed
    have := h.closed (Bool.eq_false_iff.mpr hclosed)
    omega
  induction returns generalizing s with
  | nil =>
      unfold sendRemaining at hr
      split_ifs at hr with hzero hopen
      · cases hr
        exact ⟨h, rfl, rfl, fun _ => ⟨hzero, hdone h hzero⟩, fun hfalse => by cases hfalse⟩
      · cases hr
        exact ⟨h, rfl, rfl, fun htrue => (by cases htrue), fun _ => Nat.pos_of_ne_zero hzero⟩
  | cons r returns ih =>
      unfold sendRemaining at hr
      split_ifs at hr with hzero hclosed
      · cases hr
        exact ⟨h, rfl, rfl, fun _ => ⟨hzero, hdone h hzero⟩, fun hfalse => by cases hfalse⟩
      · cases hr
        exact ⟨h, rfl, rfl, fun htrue => (by cases htrue), fun _ => Nat.pos_of_ne_zero hzero⟩
      · have hpos := Nat.pos_of_ne_zero hzero
        cases r with
        | wouldBlock => exact ih h hr
        | fails =>
            cases hr
            exact ⟨h, rfl, rfl, fun htrue => (by cases htrue), fun _ => hpos⟩
        | takes count =>
            dsimp only at hr
            split_ifs at hr with hend
            · cases hr
              exact ⟨h, rfl, rfl, fun htrue => (by cases htrue), fun _ => hpos⟩
            · have hopen : s.transport.isConnected = true := by simpa using hclosed
              have hnext := ih (h.advance hopen (min_le_right count s.remaining)) hr
              exact hnext

theorem retryRounds_spec {rounds : Nat} (h : s.Tracks data) {ok : Bool}
    (hr : retryRounds data (rounds + 1) s returns connects = some (s', ok)) :
    s'.Tracks data ∧ s'.reconnects ≤ s.reconnects + rounds ∧
      (ok = true → s'.remaining = 0 ∧ s'.transport.isConnected = true) ∧
      (ok = false → s'.transport.isConnected = false) := by
  induction rounds generalizing s returns connects with
  | zero =>
      unfold retryRounds at hr
      split at hr
      · cases hr
      · rename_i s₁ rest hsend
        cases hr
        obtain ⟨htracks, -, hreconnects, hdone, -⟩ := sendRemaining_spec h hsend
        exact ⟨htracks, hreconnects.le, fun _ => hdone rfl, fun hfalse => by cases hfalse⟩
      · rename_i s₁ rest hsend
        rw [if_pos rfl] at hr
        cases hr
        obtain ⟨htracks, -, hreconnects, -, hpos⟩ := sendRemaining_spec h hsend
        exact ⟨htracks.disconnect (hpos rfl), hreconnects.le, fun htrue => (by cases htrue), fun _ => rfl⟩
  | succ rounds ih =>
      unfold retryRounds at hr
      split at hr
      · cases hr
      · rename_i s₁ rest hsend
        cases hr
        obtain ⟨htracks, -, hreconnects, hdone, -⟩ := sendRemaining_spec h hsend
        exact ⟨htracks, by omega, fun _ => hdone rfl, fun hfalse => by cases hfalse⟩
      · rename_i s₁ rest hsend
        rw [if_neg (Nat.succ_ne_zero rounds)] at hr
        obtain ⟨htracks, -, hreconnects, -, hpos⟩ := sendRemaining_spec h hsend
        have hagain : ∀ success, (s₁.disconnect.reconnect data success).Tracks data :=
          (htracks.disconnect (hpos rfl)).reconnect (hpos rfl)
        have hcount : ∀ success, (s₁.disconnect.reconnect data success).reconnects = s.reconnects + 1 := by
          intro success
          rw [← hreconnects]
          cases success <;> rfl
        split at hr
        · cases hr
        · rename_i success connects
          split_ifs at hr with hlast
          · obtain ⟨rfl, -⟩ := hlast
            cases hr
            exact ⟨hagain false, by rw [hcount]; omega, fun htrue => (by cases htrue), fun _ => rfl⟩
          · obtain ⟨htracks', hreconnects', hends⟩ := ih (hagain success) hr
            rw [hcount] at hreconnects'
            exact ⟨htracks', by omega, hends⟩

theorem tracks_start {c : TcpClientTransport} (hopen : c.isConnected = true) (data : List UInt8) :
    SendCall.Tracks data { transport := c, remaining := data.length } := by
  refine ⟨Nat.zero_add _, fun _ => rfl, fun _ => List.nil_prefix, fun _ _ => rfl, fun hclosed => ?_⟩
  cases hopen.symm.trans hclosed

/-- **Sending with reconnects.** -/
theorem sendDataBytes_exact (c : TcpClientTransport) (data : List UInt8) (returns : List SendReturn)
    (connects : List Bool) {s : SendCall} {ok : Bool} (h : c.sendDataBytes data returns connects = some (s, ok)) :
    (ok = true →
        s.transport.isConnected = true ∧ s.received s.transport.opened = data ∧
          (∀ k, k ≠ s.transport.opened → s.received k <+: data) ∧ s.reconnects ≤ c.maxRetries) ∧
      (ok = false → c.isConnected = true → s.transport.isConnected = false) := by
  unfold sendDataBytes at h
  dsimp only at h
  split_ifs at h with hclosed
  · cases h
    refine ⟨fun htrue => (by cases htrue), fun _ hopen => ?_⟩
    simp [hopen] at hclosed
  · have hopen : c.isConnected = true := by simpa using hclosed
    obtain ⟨htracks, hreconnects, hdone, hgiven⟩ := retryRounds_spec (tracks_start hopen data) h
    refine ⟨fun hok => ?_, fun hok _ => hgiven hok⟩
    obtain ⟨hzero, hconnected⟩ := hdone hok
    have hlength := htracks.length
    have hall : s.received s.transport.opened = data := by
      rw [htracks.current hconnected]
      exact List.take_of_length_le (by omega)
    exact ⟨hconnected, hall, fun k _ => htracks.part k, by simpa using hreconnects⟩

/-- Two bytes go out, the connection fails, and the whole message goes out on the next one. -/
theorem sendDataBytes_exact_sample :
    ∃ s, sendDataBytes { maxRetries := 1, socket := some {}, opened := 1 } [1, 2, 3]
          [.takes 2, .wouldBlock, .fails, .takes 1, .takes 5] [true] = some (s, true) ∧
      s.received 1 = [1, 2] ∧ s.received s.transport.opened = [1, 2, 3] := by
  refine ⟨_, rfl, by decide, ?_⟩
  exact ((sendDataBytes_exact { maxRetries := 1, socket := some {}, opened := 1 } [1, 2, 3]
    [.takes 2, .wouldBlock, .fails, .takes 1, .takes 5] [true] rfl).1 rfl).2.1

/-! ## Refinement -/

theorem sendLoop_congr {attempts attempts' : Nat → SendAttempt} (rounds : Nat) {retry : Nat}
    (h : ∀ i, retry ≤ i → attempts i = attempts' i) (c : TcpClientTransport) :
    sendLoop attempts rounds retry c = sendLoop attempts' rounds retry c := by
  induction rounds generalizing retry c with
  | zero => rfl
  | succ rounds ih =>
      have hnext : ∀ c, sendLoop attempts rounds (retry + 1) c = sendLoop attempts' rounds (retry + 1) c :=
        ih fun i hi => h i (by omega)
      unfold sendLoop
      rw [h retry le_rfl, hnext, hnext]

theorem sendLoop_failed (attempts : Nat → SendAttempt) {rounds : Nat} (hrounds : rounds ≠ 0) (retry : Nat)
    (c : TcpClientTransport) (success : Bool) (hlast : ¬(success = false ∧ rounds = 1)) :
    sendLoop (Function.update attempts retry ⟨false, success⟩) (rounds + 1) retry c =
      sendLoop attempts rounds (retry + 1) (c.disconnect.connect success) := by
  have hcongr : ∀ c, sendLoop (Function.update attempts retry ⟨false, success⟩) rounds (retry + 1) c =
      sendLoop attempts rounds (retry + 1) c :=
    sendLoop_congr rounds fun i hi => Function.update_of_ne (by omega) _ _
  rw [sendLoop, Function.update_self, hcongr, hcongr]
  cases success with
  | true =>
      simp only [Bool.and_false, Bool.false_eq_true, if_false, if_neg hrounds, if_true]
      rfl
  | false =>
      have hone : rounds ≠ 1 := fun hone => hlast ⟨rfl, hone⟩
      simp only [Bool.and_false, Bool.false_eq_true, if_false, if_neg hrounds, if_neg hone]
      rfl

theorem sendLoop_sent (h : s.Tracks data) (hsend : sendRemaining data s returns = some (s', rest, true))
    (rounds retry : Nat) :
    sendLoop (fun _ => ⟨true, false⟩) (rounds + 1) retry s.transport = (s'.transport, true) := by
  obtain ⟨-, htransport, -, hdone, -⟩ := sendRemaining_spec h hsend
  rw [sendLoop, ← htransport, if_pos (by simp [(hdone rfl).2])]

theorem retryRounds_refines {rounds : Nat} (h : s.Tracks data) {ok : Bool}
    (hr : retryRounds data (rounds + 1) s returns connects = some (s', ok)) (retry : Nat) :
    ∃ attempts, sendLoop attempts (rounds + 1) retry s.transport = (s'.transport, ok) := by
  induction rounds generalizing s returns connects retry with
  | zero =>
      unfold retryRounds at hr
      split at hr
      · cases hr
      · rename_i s₁ rest hsend
        cases hr
        exact ⟨_, sendLoop_sent h hsend 0 retry⟩
      · rename_i s₁ rest hsend
        rw [if_pos rfl] at hr
        cases hr
        obtain ⟨-, htransport, -⟩ := sendRemaining_spec h hsend
        refine ⟨fun _ => ⟨false, false⟩, ?_⟩
        rw [sendLoop, ← htransport, if_neg (by simp), if_pos rfl]
        rfl
  | succ rounds ih =>
      unfold retryRounds at hr
      split at hr
      · cases hr
      · rename_i s₁ rest hsend
        cases hr
        exact ⟨_, sendLoop_sent h hsend (rounds + 1) retry⟩
      · rename_i s₁ rest hsend
        rw [if_neg (Nat.succ_ne_zero rounds)] at hr
        obtain ⟨htracks, htransport, -, -, hpos⟩ := sendRemaining_spec h hsend
        split at hr
        · cases hr
        · rename_i success connects
          have hagain : (s₁.disconnect.reconnect data success).transport = s.transport.disconnect.connect success := by
            rw [← htransport]
            cases success <;> rfl
          split_ifs at hr with hlast
          · obtain ⟨rfl, hone⟩ := hlast
            cases hr
            refine ⟨fun _ => ⟨false, false⟩, ?_⟩
            rw [hagain, hone, sendLoop, if_neg (by simp), if_neg Nat.one_ne_zero, if_neg (by simp), if_pos rfl]
            rfl
          · obtain ⟨attempts, hattempts⟩ :=
              ih ((htracks.disconnect (hpos rfl)).reconnect (hpos rfl) success) hr (retry + 1)
            refine ⟨Function.update attempts retry ⟨false, success⟩, ?_⟩
            rw [sendLoop_failed attempts (Nat.succ_ne_zero rounds) retry _ success hlast, ← hagain, hattempts]

/-- **A call of `send_data` is one of the coarser model.** -/
theorem sendDataBytes_refines {c : TcpClientTransport} {ok : Bool}
    (h : c.sendDataBytes data returns connects = some (s, ok)) :
    ∃ attempts, c.sendData attempts = (s.transport, ok) := by
  unfold sendDataBytes at h
  dsimp only at h
  unfold sendData
  split_ifs at h with hclosed
  · cases h
    exact ⟨fun _ => ⟨false, false⟩, if_pos hclosed⟩
  · have hopen : c.isConnected = true := by simpa using hclosed
    obtain ⟨attempts, hattempts⟩ := retryRounds_refines (tracks_start hopen data) h 0
    exact ⟨attempts, (if_neg hclosed).trans hattempts⟩

end TcpClientTransport

end EdgeOffloading
