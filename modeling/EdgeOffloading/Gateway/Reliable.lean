import EdgeOffloading.Gateway.Controller
import EdgeOffloading.Lib.Delivery
import EdgeOffloading.Lib.Run

/-!
# Reliable sending in a gateway, step by step

`BridgeCpClient::send_reliable_message` hands a message to the transport and then, under the lock, records it; the
client thread processes ACKs and looks for timeouts in between. `BridgeCpClient` has a send as one step and no clock
(`forget`). Messages are told apart by their calls, so that the log does not depend on the width of the counter.

* `uninterrupted_send`, `forget_ack`, `forget_check`: the steps as `BridgeCpClient` has them;
* `respects_of_undisturbed`: ACKs and the retry bound are respected in every run in which no ACK arrives while its
  message waits to be recorded or has a number that `int` does not hold, and no message times out after its third retry.
-/

namespace EdgeOffloading

open Delivery Run
open Protocol (ackNumber)

/-- A `PendingAck` of the gateway, with the call it belongs to. -/
structure AwaitedAck where
  message : Json
  timeSent : Nat
  call : Nat

/-- A call whose message is with the transport and not yet in the map. -/
structure QueuedSend where
  call : Nat
  seqNum : Nat
  message : Json

/-- The client with its clock, its calls in progress, how many there have been, and the log of calls. -/
structure ClientSending where
  sequenceNumber : Nat := 1
  pendingAcks : List (Nat × AwaitedAck) := []
  queued : List QueuedSend := []
  calls : Nat := 0
  clock : Nat := 0
  log : List Entry := []

inductive ClientEvent where
  /-- The first half of `send_reliable_message`. -/
  | enqueue (message : Nat → Json) (result : BridgeCpClient.SendResult)
  | record (call elapsed : Nat)
  | ack (payload : Json)
  /-- A pass, with the outcome of each resend and the time until its next reading of the clock. -/
  | check (elapsed : Nat) (outcome : Nat → BridgeCpClient.SendResult × Nat)

namespace ClientSending

variable (s : ClientSending)

/-- `ack_timeout_`, in nanoseconds. -/
def ackTimeout : Nat := 5 * 10 ^ 9

def timedOut (now : Nat) (p : AwaitedAck) : Bool := ackTimeout < now - p.timeSent

/-- The sequence number of a call. -/
def numberOf (call : Nat) : Nat := (call + 1) % 2 ^ 64

/-- A call draws its number before it learns what becomes of the message. -/
def enqueue (message : Nat → Json) : BridgeCpClient.SendResult → ClientSending
  | .notConnected => s
  | .refused => { s with sequenceNumber := (s.sequenceNumber + 1) % 2 ^ 64, calls := s.calls + 1 }
  | .success =>
    { s with
      sequenceNumber := (s.sequenceNumber + 1) % 2 ^ 64
      calls := s.calls + 1
      queued := s.queued ++ [⟨s.calls, s.sequenceNumber, message s.sequenceNumber⟩]
      log := .sent s.calls :: s.log }

def record (call elapsed : Nat) : ClientSending :=
  match s.queued.find? fun q => q.call = call with
  | none => s
  | some q =>
    let now := s.clock + elapsed
    { s with
      pendingAcks := (s.pendingAcks.filter fun e => e.1 ≠ q.seqNum) ++ [(q.seqNum, ⟨q.message, now, q.call⟩)]
      queued := s.queued.filter fun q' => q'.call ≠ call
      clock := now }

/-- The calls that an ACK with the number is about. -/
def callsOf (n : Nat) : List Nat := (List.range s.calls).filter fun call => numberOf call = n

/-- The number is read as an `int`; where it does not convert, the exception ends the process and nothing follows. -/
def ack (payload : Json) : ClientSending :=
  if payload.contains "ack_sequence_number" then
    match (payload.get "ack_sequence_number").asInt with
    | none => s
    | some n =>
      { s with
        pendingAcks := s.pendingAcks.filter fun e => (e.1 : Int) ≠ n % 2 ^ 64
        log := ((ackNumber payload).toList.flatMap s.callsOf).map Entry.acked ++ s.log }
  else s

/-- Whether a pass sends the entry again. -/
def resent (now : Nat) (outcome : Nat → BridgeCpClient.SendResult × Nat) (e : Nat × AwaitedAck) : Bool :=
  timedOut now e.2 && (outcome e.1).1 = .success

/-- A resend that succeeds starts a new timeout, one that fails keeps the old time. -/
def check (elapsed : Nat) (outcome : Nat → BridgeCpClient.SendResult × Nat) : ClientSending :=
  let now := s.clock + elapsed
  let again := s.pendingAcks.filter (resent now outcome)
  { s with
    pendingAcks := s.pendingAcks.map fun e =>
      if resent now outcome e then (e.1, { e.2 with timeSent := now + (outcome e.1).2 }) else e
    clock := (again.map fun e => now + (outcome e.1).2).foldl max now
    log := batch (again.map fun e => e.2.call) now ++ s.log }

def step : ClientEvent → ClientSending
  | .enqueue message result => s.enqueue message result
  | .record call elapsed => s.record call elapsed
  | .ack payload => s.ack payload
  | .check elapsed outcome => s.check elapsed outcome

/-- ACKs are respected, and no message is transmitted more often than once and three times again. -/
def Respects : Prop := NoResendAfterAck s.log ∧ ∀ call, transmissions call s.log ≤ 1 + 3

/-- The steps that the client can cope with. An ACK finds its message in the map if it finds it anywhere, under a number
that an `int` holds; a message that is sent again has been sent again less than three times. -/
def Undisturbed : ClientEvent → Prop
  | .enqueue _ _ => True
  | .record _ _ => True
  | .ack payload =>
    ∀ n, ackNumber payload = some n →
      (∀ q ∈ s.queued, q.seqNum ≠ n) ∧ (n ∈ s.pendingAcks.map Prod.fst → n < 2 ^ 31)
  | .check elapsed outcome =>
    ∀ e ∈ s.pendingAcks, resent (s.clock + elapsed) outcome e = true → resends e.2.call s.log < 3

/-! ## The steps in `BridgeCpClient` -/

/-- The client without clock and log. -/
def forget : BridgeCpClient := ⟨s.sequenceNumber, s.pendingAcks.map fun e => (e.1, e.2.message)⟩

variable {s}

theorem forget_filter (p : Nat → Bool) :
    (s.pendingAcks.filter fun e => p e.1).map (fun e => (e.1, e.2.message)) =
      s.forget.pendingAcks.filter fun e => p e.1 := by
  rw [forget, List.filter_map]
  rfl

theorem uninterrupted_send (hfresh : ∀ q ∈ s.queued, q.call ≠ s.calls) (message : Nat → Json)
    (result : BridgeCpClient.SendResult) (elapsed : Nat) :
    (run step s [.enqueue message result, .record s.calls elapsed]).forget =
      (s.forget.sendReliableMessage message result).1 := by
  have hnone : s.queued.find? (fun q => q.call = s.calls) = none :=
    List.find?_eq_none.mpr fun q hq => by simp [hfresh q hq]
  cases result with
  | notConnected => simp only [run_cons, run_nil, step, enqueue, record, hnone]; rfl
  | refused => simp only [run_cons, run_nil, step, enqueue, record, hnone]; rfl
  | success =>
      let q : QueuedSend := ⟨s.calls, s.sequenceNumber, message s.sequenceNumber⟩
      have hfound : (s.queued ++ [q]).find? (fun q => q.call = s.calls) = some q := by
        rw [List.find?_append, hnone, Option.none_or]
        simp [q]
      have hothers := forget_filter (s := s) fun n => n ≠ s.sequenceNumber
      simp only [run_cons, run_nil, step, enqueue, record]
      rw [hfound]
      simp only [forget, List.map_append, List.map_singleton, BridgeCpClient.sendReliableMessage] at hothers ⊢
      rw [hothers]
      rfl

theorem forget_ack {payload : Json} {n : Int} (hc : payload.contains "ack_sequence_number" = true)
    (hn : (payload.get "ack_sequence_number").asInt = some n) : (s.ack payload).forget = s.forget.handleAck n := by
  have hothers := forget_filter (s := s) fun k => (k : Int) ≠ n % 2 ^ 64
  rw [ack, if_pos hc, hn, BridgeCpClient.handleAck, ← hothers]
  rfl

theorem forget_check (elapsed : Nat) (outcome : Nat → BridgeCpClient.SendResult × Nat) :
    (s.check elapsed outcome).forget = s.forget := by
  simp only [forget, check, List.map_map]
  congr 1
  apply List.map_congr_left
  intro e _
  dsimp only [Function.comp_apply]
  split <;> rfl

/-! ## The invariant -/

structure Inv (s : ClientSending) : Prop where
  next : s.sequenceNumber = numberOf s.calls
  keys : (s.pendingAcks.map Prod.fst).Nodup
  numbered : ∀ e ∈ s.pendingAcks, e.1 = numberOf e.2.call
  queued : ∀ q ∈ s.queued, q.seqNum = numberOf q.call
  awaited : ∀ e ∈ s.pendingAcks, e.2.call < s.calls ∧ ¬ AckedAfter e.2.call s.log
  waiting : ∀ q ∈ s.queued, q.call < s.calls ∧ ¬ AckedAfter q.call s.log
  future : ∀ call, s.calls ≤ call → transmissions call s.log = 0
  sends : ∀ call, sends call s.log ≤ 1
  resends : ∀ call, resends call s.log ≤ 3
  quiet : NoResendAfterAck s.log

theorem inv_init : Inv {} := by
  refine ⟨rfl, List.nodup_nil, ?_, ?_, ?_, ?_, fun _ _ => rfl, fun _ => Nat.zero_le 1, fun _ => Nat.zero_le 3,
    everyResend_nil⟩
  · exact fun e he => absurd he List.not_mem_nil
  · exact fun q hq => absurd hq List.not_mem_nil
  · exact fun e he => absurd he List.not_mem_nil
  · exact fun q hq => absurd hq List.not_mem_nil

theorem numberOf_succ (call : Nat) : (numberOf call + 1) % 2 ^ 64 = numberOf (call + 1) := by
  unfold numberOf
  rw [Nat.mod_add_mod]

theorem inv_enqueue (h : s.Inv) (message : Nat → Json) (result : BridgeCpClient.SendResult) :
    (s.enqueue message result).Inv := by
  have hnext : (s.sequenceNumber + 1) % 2 ^ 64 = numberOf (s.calls + 1) := by rw [h.next, numberOf_succ]
  cases result with
  | notConnected => exact h
  | refused =>
      refine ⟨hnext, h.keys, h.numbered, h.queued, ?_, ?_, ?_, h.sends, h.resends, h.quiet⟩
      · exact fun e he => ⟨(h.awaited e he).1.trans (Nat.lt_succ_self _), (h.awaited e he).2⟩
      · exact fun q hq => ⟨(h.waiting q hq).1.trans (Nat.lt_succ_self _), (h.waiting q hq).2⟩
      · exact fun call hle => h.future call (Nat.le_of_succ_le hle)
  | success =>
      have hfresh := h.future s.calls le_rfl
      have hunsent : Delivery.sends s.calls s.log = 0 := (Nat.add_eq_zero_iff.mp hfresh).1
      have hacked : ∀ call, AckedAfter call (.sent s.calls :: s.log) ↔ AckedAfter call s.log := fun call =>
        ackedAfter_cons_of_ne (by simp)
      refine ⟨hnext, h.keys, h.numbered, ?_, ?_, ?_, ?_, ?_, ?_, h.quiet.cons (by simp)⟩
      · intro q hq
        rcases List.mem_append.mp hq with hq | hq
        · exact h.queued q hq
        · rw [List.mem_singleton.mp hq]
          exact h.next
      · intro e he
        exact ⟨(h.awaited e he).1.trans (Nat.lt_succ_self _), fun hack => (h.awaited e he).2 ((hacked _).mp hack)⟩
      · intro q hq
        rcases List.mem_append.mp hq with hq | hq
        · exact ⟨(h.waiting q hq).1.trans (Nat.lt_succ_self _), fun hack => (h.waiting q hq).2 ((hacked _).mp hack)⟩
        · rw [List.mem_singleton.mp hq]
          exact ⟨Nat.lt_succ_self _, fun hack => not_ackedAfter_of_transmissions hfresh ((hacked _).mp hack)⟩
      · intro call hle
        have hlt : s.calls < call := hle
        exact (transmissions_cons_sent_of_ne hlt.ne' _).trans (h.future call hlt.le)
      · intro call
        show Delivery.sends call (.sent s.calls :: s.log) ≤ 1
        rw [sends_cons_sent]
        split
        · rename_i heq
          rw [← heq, hunsent]
        · exact h.sends call
      · intro call
        exact (resends_cons_sent _ _ _).le.trans (h.resends call)

theorem inv_record (h : s.Inv) (call elapsed : Nat) : (s.record call elapsed).Inv := by
  unfold record
  split
  · exact h
  · rename_i q hfound
    have hq := List.mem_of_find?_eq_some hfound
    refine ⟨h.next, ?_, ?_, ?_, ?_, ?_, h.future, h.sends, h.resends, h.quiet⟩
    · rw [List.map_append, List.map_singleton, ← List.concat_eq_append, List.nodup_concat]
      refine ⟨fun hn => ?_, h.keys.sublist (List.filter_sublist.map _)⟩
      obtain ⟨e, he, heq⟩ := List.mem_map.mp hn
      exact of_decide_eq_true (List.mem_filter.mp he).2 heq
    · intro e he
      rcases List.mem_append.mp he with he | he
      · exact h.numbered e (List.mem_filter.mp he).1
      · rw [List.mem_singleton.mp he]
        exact h.queued q hq
    · exact fun q' hq' => h.queued q' (List.mem_filter.mp hq').1
    · intro e he
      rcases List.mem_append.mp he with he | he
      · exact h.awaited e (List.mem_filter.mp he).1
      · rw [List.mem_singleton.mp he]
        exact h.waiting q hq
    · exact fun q' hq' => h.waiting q' (List.mem_filter.mp hq').1

theorem int_of_ackNumber {payload : Json} {n : Nat} {k : Int} (hn : ackNumber payload = some n) (hlt : n < 2 ^ 31)
    (hk : (payload.get "ack_sequence_number").asInt = some k) : k % 2 ^ 64 = n := by
  unfold ackNumber at hn
  split at hn
  · cases hv : payload.get "ack_sequence_number" with
    | int v =>
        rw [hv] at hn hk
        simp only [Json.asUInt64, Json.asInt, Option.some.injEq] at hn hk
        rw [← hk, Int.bmod_def]
        omega
    | float v =>
        rw [hv] at hn hk
        simp only [Json.asUInt64, Json.asInt, Option.some.injEq] at hn hk
        rw [← hk, Int.bmod_def]
        omega
    | _ => rw [hv] at hn; cases hn
  · cases hn

theorem mem_callsOf {n call : Nat} : call ∈ s.callsOf n ↔ call < s.calls ∧ numberOf call = n := by
  simp [callsOf]

theorem inv_ack (h : s.Inv) {payload : Json} (hack : s.Undisturbed (.ack payload)) : (s.ack payload).Inv := by
  unfold ack
  split
  · split
    · exact h
    · rename_i k hk
      have hsub : (s.pendingAcks.filter fun e => (e.1 : Int) ≠ k % 2 ^ 64).Sublist s.pendingAcks := List.filter_sublist
      refine ⟨h.next, h.keys.sublist (hsub.map _), ?_, h.queued, ?_, ?_, ?_, ?_, ?_, h.quiet.acks _⟩
      · exact fun e he => h.numbered e (List.mem_filter.mp he).1
      · intro e he
        obtain ⟨he, hne⟩ := List.mem_filter.mp he
        refine ⟨(h.awaited e he).1, fun hacked => (h.awaited e he).2 ((ackedAfter_acks ?_).mp hacked)⟩
        intro hmem
        -- an ACK for this entry would have erased it
        obtain ⟨n, hn, hcall⟩ := List.mem_flatMap.mp hmem
        have hn : ackNumber payload = some n := Option.mem_toList.mp hn
        have hkey : e.1 = n := (h.numbered e he).trans (mem_callsOf.mp hcall).2
        have hlt := (hack n hn).2 (hkey ▸ List.mem_map_of_mem he)
        have hint := int_of_ackNumber hn hlt hk
        exact of_decide_eq_true hne (by rw [hkey, hint])
      · intro q hq
        refine ⟨(h.waiting q hq).1, fun hacked => (h.waiting q hq).2 ((ackedAfter_acks ?_).mp hacked)⟩
        intro hmem
        obtain ⟨n, hn, hcall⟩ := List.mem_flatMap.mp hmem
        have hn : ackNumber payload = some n := Option.mem_toList.mp hn
        exact (hack n hn).1 q hq ((h.queued q hq).trans (mem_callsOf.mp hcall).2)
      · exact fun call hle => (transmissions_acks _ _ _).trans (h.future call hle)
      · exact fun call => (sends_acks _ _ _).le.trans (h.sends call)
      · exact fun call => (resends_acks _ _ _).le.trans (h.resends call)
  · exact h

theorem Inv.calls_nodup (h : s.Inv) : (s.pendingAcks.map fun e => e.2.call).Nodup := by
  have hkeys : s.pendingAcks.map Prod.fst = (s.pendingAcks.map fun e => e.2.call).map numberOf := by
    rw [List.map_map]
    exact List.map_congr_left h.numbered
  exact List.Nodup.of_map numberOf (hkeys ▸ h.keys)

theorem inv_check (h : s.Inv) {elapsed : Nat} {outcome : Nat → BridgeCpClient.SendResult × Nat}
    (hcheck : s.Undisturbed (.check elapsed outcome)) : (s.check elapsed outcome).Inv := by
  let now := s.clock + elapsed
  let again := (s.pendingAcks.filter (resent now outcome)).map fun e => e.2.call
  have hnodup : again.Nodup := h.calls_nodup.sublist (List.filter_sublist.map _)
  have hagain : ∀ call ∈ again, call < s.calls ∧ ¬ AckedAfter call s.log ∧ Delivery.resends call s.log < 3 := by
    intro call hcall
    obtain ⟨e, he, rfl⟩ := List.mem_map.mp hcall
    obtain ⟨he, hresent⟩ := List.mem_filter.mp he
    exact ⟨(h.awaited e he).1, (h.awaited e he).2, hcheck e he hresent⟩
  have hpending : ∀ e ∈ (s.check elapsed outcome).pendingAcks,
      ∃ e' ∈ s.pendingAcks, e.1 = e'.1 ∧ e.2.call = e'.2.call := by
    intro e he
    obtain ⟨e', he', rfl⟩ := List.mem_map.mp he
    refine ⟨e', he', ?_⟩
    split <;> exact ⟨rfl, rfl⟩
  refine ⟨h.next, ?_, ?_, h.queued, ?_, ?_, ?_, ?_, ?_, ?_⟩
  · have hkeys : (s.check elapsed outcome).pendingAcks.map Prod.fst = s.pendingAcks.map Prod.fst := by
      simp only [check, List.map_map]
      apply List.map_congr_left
      intro e _
      dsimp only [Function.comp_apply]
      split <;> rfl
    rw [hkeys]
    exact h.keys
  · intro e he
    obtain ⟨e', he', hkey, hcall⟩ := hpending e he
    rw [hkey, hcall]
    exact h.numbered e' he'
  · intro e he
    obtain ⟨e', he', -, hcall⟩ := hpending e he
    rw [hcall]
    exact ⟨(h.awaited e' he').1, fun hacked => (h.awaited e' he').2 ((ackedAfter_batch _ _).mp hacked)⟩
  · intro q hq
    exact ⟨(h.waiting q hq).1, fun hacked => (h.waiting q hq).2 ((ackedAfter_batch _ _).mp hacked)⟩
  · intro call hle
    have hnot : call ∉ again := fun hmem => absurd (hagain call hmem).1 (Nat.not_lt.mpr hle)
    exact (transmissions_batch_of_notMem hnot _ _).trans (h.future call hle)
  · exact fun call => (sends_batch _ _ _ _).le.trans (h.sends call)
  · exact fun call => resends_batch_le hnodup (fun m hm => (hagain m hm).2.2) (h.resends call) _
  · exact h.quiet.batch hnodup (fun call hmem => (hagain call hmem).2.1) _

theorem inv_step (h : s.Inv) {e : ClientEvent} (he : s.Undisturbed e) : (s.step e).Inv := by
  cases e with
  | enqueue message result => exact inv_enqueue h message result
  | record call elapsed => exact inv_record h call elapsed
  | ack payload => exact inv_ack h he
  | check elapsed outcome => exact inv_check h he

theorem Inv.respects (h : s.Inv) : s.Respects := by
  refine ⟨h.quiet, fun call => ?_⟩
  have hsends := h.sends call
  have hresends := h.resends call
  unfold transmissions
  omega

/-! ## Runs -/

/-- **Reliable sending** in every state of every run of steps that the client can cope with. -/
theorem respects_of_undisturbed {es : List ClientEvent} (h : Along step Undisturbed {} es) :
    ∀ pre, pre <+: es → (run step {} pre).Respects := by
  intro pre hpre
  have hinv : (run step {} pre).Inv :=
    run_invariant_on_the_way step (I := Inv) (C := Undisturbed) (fun _ _ hs he => inv_step hs he) inv_init h pre hpre
  exact hinv.respects

/-- Every send succeeds, at once. -/
def allSent : Nat → BridgeCpClient.SendResult × Nat := fun _ => (.success, 0)

/-- A pass after six seconds in which every send succeeds. -/
def sixSecondsLater : ClientEvent := .check (6 * 10 ^ 9) allSent

def ackOne : ClientEvent := .ack (.obj [("ack_sequence_number", .int 1)])

/-- A message that is sent again once and then acknowledged. -/
def sentAgain : List ClientEvent :=
  [.enqueue (fun n => .int n) .success, .record 0 0, sixSecondsLater, ackOne, sixSecondsLater]

/-- The ACK comes before the message is in the map. -/
def ackedTooEarly : List ClientEvent :=
  [.enqueue (fun n => .int n) .success, ackOne, .record 0 0, sixSecondsLater]

/-- No ACK comes. -/
def neverAcked : List ClientEvent :=
  [.enqueue (fun n => .int n) .success, .record 0 0, sixSecondsLater, sixSecondsLater, sixSecondsLater, sixSecondsLater]

theorem respects_of_undisturbed_sentAgain :
    (run step {} sentAgain).log = [.acked 0, .resent 0 (6 * 10 ^ 9), .sent 0] ∧
      ∀ pre, pre <+: sentAgain → (run step {} pre).Respects := by
  refine ⟨by decide +kernel, respects_of_undisturbed ⟨trivial, trivial, ?_, ?_, ?_, trivial⟩⟩
  · show ∀ e ∈ (run step {} (sentAgain.take 2)).pendingAcks, _ → _
    decide +kernel
  · intro n hn
    have hone : 1 = n := Option.some.inj hn
    subst hone
    exact ⟨fun q hq => absurd hq List.not_mem_nil, fun _ => by decide⟩
  · show ∀ e ∈ (run step {} (sentAgain.take 4)).pendingAcks, _ → _
    decide +kernel

/-- An ACK that comes too early is forgotten, and a message without an ACK is sent again for ever. -/
theorem ackedTooEarly_neverAcked_not_respects :
    (run step {} ackedTooEarly).log = [.resent 0 (6 * 10 ^ 9), .acked 0, .sent 0] ∧
      ¬ (run step {} ackedTooEarly).Respects ∧
      transmissions 0 (run step {} neverAcked).log = 5 ∧ ¬ (run step {} neverAcked).Respects := by
  have hearly : (run step {} ackedTooEarly).log = [.resent 0 (6 * 10 ^ 9), .acked 0, .sent 0] := by decide +kernel
  have hnever : transmissions 0 (run step {} neverAcked).log = 5 := by decide +kernel
  refine ⟨hearly, fun h => ?_, hnever, fun h => ?_⟩
  · have hquiet := h.1 [] 0 (6 * 10 ^ 9) [.acked 0, .sent 0] hearly
    have htransmitted : 0 < transmissions 0 [.sent 0] := by decide
    exact hquiet (.inl ⟨rfl, htransmitted⟩)
  · have hbound := h.2 0
    omega

end ClientSending

end EdgeOffloading
