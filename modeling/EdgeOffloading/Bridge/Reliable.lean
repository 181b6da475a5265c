import EdgeOffloading.Bridge.Connection
import EdgeOffloading.Lib.Delivery
import EdgeOffloading.Lib.Run
import EdgeOffloading.Protocol.Messages

/-!
# Reliable sending in the Bridge, step by step

Several threads call `send_reliable_message` of one connection while its own thread processes ACKs and looks for
timeouts. A call draws its number, records the message under the lock, calls `send_to` without it, and erases the
message under the lock again if that failed; `handle_ack` and `check_for_timeouts` hold the lock from start to end. The
clock is monotone: an event says how much time has passed since the last reading.

* `uninterrupted_call`: a call that nothing interrupts is `ReliableSender.sendReliableMessage`;
* `inv_step`: what every step keeps as long as the counter does not wrap;
* `reliable_of_draws`: numbers, retries, ACKs and the fate of every entry in every run of less than `2 ^ 64 - 1` calls.
-/

namespace EdgeOffloading

open Delivery Run
open Protocol (ackNumber)

/-- Where a call of `send_reliable_message` stands. -/
inductive CallPoint where
  /-- It has its number. -/
  | drawn
  /-- The message is in the map. -/
  | recorded
  /-- `send_to` has failed. -/
  | failed
  deriving DecidableEq, Repr

structure SendCall where
  seqNum : Nat
  message : Json
  point : CallPoint

/-- The sender with the calls in progress, the numbers drawn so far, and the log. -/
structure Sending where
  sender : ReliableSender := {}
  clock : Nat := 0
  calls : List SendCall := []
  used : List Nat := []
  log : List Entry := []

inductive SendEvent where
  | draw (message : Json)
  | record (seqNum elapsed : Nat)
  | sendTo (seqNum : Nat) (ok : Bool)
  | eraseFailed (seqNum : Nat)
  | ack (payload : Json)
  | check (elapsed : Nat)

/-- The numbers that a pass retransmits. -/
def ReliableSender.retried (s : ReliableSender) (now : Nat) : List Nat :=
  (s.pendingAcks.filter fun e => timedOut now e.2 && e.2.retryCount < maxRetryCount).map Prod.fst

namespace Sending

variable (s : Sending)

def findCall (seqNum : Nat) (point : CallPoint) : Option SendCall :=
  s.calls.find? fun c => c.seqNum = seqNum ∧ c.point = point

/-- The calls, with the one of the number moved on. -/
def advance (seqNum : Nat) (point : CallPoint) : List SendCall :=
  s.calls.map fun c => if c.seqNum = seqNum then { c with point := point } else c

/-- The calls without the one of the number. -/
def finish (seqNum : Nat) : List SendCall := s.calls.filter fun c => c.seqNum ≠ seqNum

def draw (message : Json) : Sending :=
  let seqNum := s.sender.sequenceNumber
  { s with
    sender := { s.sender with sequenceNumber := (seqNum + 1) % 2 ^ 64 }
    calls := s.calls ++ [⟨seqNum, message.set "sequence_number" (.int seqNum), .drawn⟩]
    used := s.used ++ [seqNum] }

def record (seqNum elapsed : Nat) : Sending :=
  match s.findCall seqNum .drawn with
  | none => s
  | some call =>
    let now := s.clock + elapsed
    { s with
      sender := { s.sender with pendingAcks := s.sender.erase seqNum ++ [(seqNum, ⟨call.message, now, 0⟩)] }
      clock := now
      calls := s.advance seqNum .recorded }

def sendTo (seqNum : Nat) (ok : Bool) : Sending :=
  match s.findCall seqNum .recorded with
  | none => s
  | some _ =>
    { s with
      calls := if ok then s.finish seqNum else s.advance seqNum .failed
      log := .sent seqNum :: s.log }

def eraseFailed (seqNum : Nat) : Sending :=
  match s.findCall seqNum .failed with
  | none => s
  | some _ =>
    { s with sender := { s.sender with pendingAcks := s.sender.erase seqNum }, calls := s.finish seqNum }

/-- An ACK whose number does not convert is dropped with its message. -/
def ack (payload : Json) : Sending :=
  match s.sender.handleAck payload with
  | none => s
  | some sender => { s with sender := sender, log := ((ackNumber payload).map Entry.acked).toList ++ s.log }

def check (elapsed : Nat) : Sending :=
  let now := s.clock + elapsed
  { s with
    sender := (s.sender.checkForTimeouts now).1
    clock := now
    log := batch (s.sender.retried now) now ++ s.log }

def step : SendEvent → Sending
  | .draw message => s.draw message
  | .record seqNum elapsed => s.record seqNum elapsed
  | .sendTo seqNum ok => s.sendTo seqNum ok
  | .eraseFailed seqNum => s.eraseFailed seqNum
  | .ack payload => s.ack payload
  | .check elapsed => s.check elapsed

/-- The numbers of the unacknowledged messages. -/
def keys : List Nat := s.sender.pendingAcks.map Prod.fst

end Sending

/-! ## The sender -/

namespace ReliableSender

variable {s : ReliableSender}

theorem mem_erase {n : Nat} {e : Nat × PendingAck} : e ∈ s.erase n ↔ e ∈ s.pendingAcks ∧ e.1 ≠ n := by
  simp [erase]

/-- `handle_ack` erases the number it can read. -/
theorem handleAck_eq {s' : ReliableSender} {payload : Json} (h : s.handleAck payload = some s') :
    s'.sequenceNumber = s.sequenceNumber ∧
      ∀ e, e ∈ s'.pendingAcks ↔ e ∈ s.pendingAcks ∧ ackNumber payload ≠ some e.1 := by
  unfold handleAck at h
  unfold ackNumber
  by_cases hc : payload.contains "ack_sequence_number" = true
  · rw [hc] at h
    simp only [Bool.not_true, Bool.false_eq_true, if_false] at h
    obtain ⟨n, hn, rfl⟩ := Option.map_eq_some_iff.mp h
    refine ⟨rfl, fun e => ?_⟩
    rw [if_pos hc, hn, mem_erase]
    simp [eq_comm]
  · rw [Bool.not_eq_true] at hc
    rw [hc] at h
    simp only [Bool.not_false, if_true, Option.some.injEq] at h
    subst h
    refine ⟨rfl, fun e => ?_⟩
    simp [hc]

theorem handleAck_sublist {s' : ReliableSender} {payload : Json} (h : s.handleAck payload = some s') :
    s'.pendingAcks.Sublist s.pendingAcks := by
  unfold handleAck at h
  split at h
  · cases h
    exact List.Sublist.refl _
  · obtain ⟨n, hn, rfl⟩ := Option.map_eq_some_iff.mp h
    exact List.filter_sublist

/-- What a pass leaves: an entry that has not timed out, or one with a retry more. -/
theorem mem_checkForTimeouts {now : Nat} {e : Nat × PendingAck} (h : e ∈ (s.checkForTimeouts now).1.pendingAcks) :
    (e ∈ s.pendingAcks ∧ timedOut now e.2 = false) ∨
      ∃ p, (e.1, p) ∈ s.pendingAcks ∧ timedOut now p = true ∧ p.retryCount < maxRetryCount ∧
        e.2 = { p with retryCount := p.retryCount + 1, timeSent := now } := by
  obtain ⟨⟨n, p⟩, hmem, heq⟩ := List.mem_filterMap.mp h
  dsimp only at heq
  split at heq
  · rename_i hout
    split at heq
    · rename_i hlt
      cases heq
      exact .inr ⟨p, hmem, hout, hlt, rfl⟩
    · cases heq
  · rename_i hout
    cases heq
    exact .inl ⟨hmem, Bool.not_eq_true _ ▸ hout⟩

theorem mem_retried {now n : Nat} :
    n ∈ s.retried now ↔ ∃ p, (n, p) ∈ s.pendingAcks ∧ timedOut now p = true ∧ p.retryCount < maxRetryCount := by
  simp only [retried, List.mem_map, List.mem_filter, Bool.and_eq_true, decide_eq_true_eq, Prod.exists]
  constructor
  · rintro ⟨m, p, hp, rfl⟩
    exact ⟨p, hp⟩
  · rintro ⟨p, hp⟩
    exact ⟨n, p, hp, rfl⟩

theorem retried_nodup (h : (s.pendingAcks.map Prod.fst).Nodup) (now : Nat) : (s.retried now).Nodup :=
  h.sublist (List.filter_sublist.map Prod.fst)

/-- Keys are kept or dropped by a pass. -/
theorem keys_checkForTimeouts (now : Nat) :
    ((s.checkForTimeouts now).1.pendingAcks.map Prod.fst).Sublist (s.pendingAcks.map Prod.fst) := by
  unfold checkForTimeouts
  dsimp only
  induction s.pendingAcks with
  | nil => exact List.Sublist.refl _
  | cons e l ih =>
      obtain ⟨n, p⟩ := e
      rw [List.filterMap_cons]
      dsimp only
      split
      · rename_i hnone
        exact ih.cons _
      · rename_i e' hsome
        have hkey : e'.1 = n := by
          split at hsome
          · split at hsome
            · cases hsome; rfl
            · cases hsome
          · cases hsome; rfl
        rw [List.map_cons, List.map_cons, hkey]
        exact ih.cons_cons n

end ReliableSender

/-! ## The invariant -/

namespace Sending

variable {s : Sending}

/-- What is known of an entry of the map. -/
structure EntryInv (s : Sending) (e : Nat × PendingAck) : Prop where
  used : e.1 ≤ s.used.length
  bound : e.2.retryCount ≤ ReliableSender.maxRetryCount
  retries : e.2.retryCount = resends e.1 s.log
  past : e.2.timeSent ≤ s.clock
  last : ∀ t, .resent e.1 t ∈ s.log → t ≤ e.2.timeSent
  unacked : ¬ AckedAfter e.1 s.log

/-- What is known of a call in progress. -/
structure CallInv (s : Sending) (c : SendCall) : Prop where
  used : c.seqNum ≤ s.used.length
  drawn : c.point = .drawn → c.seqNum ∉ s.keys ∧ transmissions c.seqNum s.log = 0
  recorded : c.point = .recorded → sends c.seqNum s.log = 0

structure Inv (s : Sending) : Prop where
  used : s.used = List.range' 1 s.used.length
  next : s.sender.sequenceNumber = s.used.length + 1
  keys : s.keys.Nodup
  calls : (s.calls.map SendCall.seqNum).Nodup
  entry : ∀ e ∈ s.sender.pendingAcks, EntryInv s e
  call : ∀ c ∈ s.calls, CallInv s c
  future : ∀ n, s.used.length < n → transmissions n s.log = 0
  sends : ∀ n, sends n s.log ≤ 1
  resends : ∀ n, resends n s.log ≤ ReliableSender.maxRetryCount
  quiet : NoResendAfterAck s.log
  spaced : Spaced ReliableSender.ackTimeout s.log

/-- Time and calls may pass. -/
theorem EntryInv.keep {s' : Sending} {e : Nat × PendingAck} (h : EntryInv s e)
    (hused : s.used.length ≤ s'.used.length) (hclock : s.clock ≤ s'.clock) (hlog : s'.log = s.log) : EntryInv s' e :=
  ⟨h.used.trans hused, h.bound, hlog ▸ h.retries, h.past.trans hclock, hlog ▸ h.last, hlog ▸ h.unacked⟩

theorem CallInv.keep {s' : Sending} {c : SendCall} (h : CallInv s c) (hused : s.used.length ≤ s'.used.length)
    (hkeys : s'.keys ⊆ s.keys) (hlog : s'.log = s.log) : CallInv s' c := by
  refine ⟨h.used.trans hused, fun hdrawn => ?_, hlog ▸ h.recorded⟩
  obtain ⟨hkey, hnone⟩ := h.drawn hdrawn
  exact ⟨fun hmem => hkey (hkeys hmem), hlog ▸ hnone⟩

theorem inv_init : Inv {} := by
  refine ⟨rfl, rfl, List.nodup_nil, List.nodup_nil, ?_, ?_, fun n _ => rfl, fun n => Nat.zero_le 1,
    fun n => Nat.zero_le 3, everyResend_nil, everyResend_nil⟩
  · exact fun e he => absurd he List.not_mem_nil
  · exact fun c hc => absurd hc List.not_mem_nil

theorem mem_keys {n : Nat} : n ∈ s.keys ↔ ∃ p, (n, p) ∈ s.sender.pendingAcks := by
  simp [keys]

theorem Inv.entry_unique (h : s.Inv) {n : Nat} {p p' : PendingAck} (hp : (n, p) ∈ s.sender.pendingAcks)
    (hp' : (n, p') ∈ s.sender.pendingAcks) : p = p' :=
  congrArg Prod.snd (List.inj_on_of_nodup_map h.keys hp hp' rfl)

theorem mem_of_findCall {n : Nat} {point : CallPoint} {c : SendCall} (h : s.findCall n point = some c) :
    c ∈ s.calls ∧ c.seqNum = n ∧ c.point = point := by
  have hfound := List.find?_some h
  exact ⟨List.mem_of_find?_eq_some h, of_decide_eq_true hfound⟩

theorem map_seqNum_advance (n : Nat) (point : CallPoint) :
    (s.advance n point).map SendCall.seqNum = s.calls.map SendCall.seqNum := by
  rw [advance, List.map_map]
  apply List.map_congr_left
  intro c _
  dsimp only [Function.comp_apply]
  split <;> rfl

theorem nodup_finish (h : s.Inv) (n : Nat) : ((s.finish n).map SendCall.seqNum).Nodup :=
  h.calls.sublist (List.filter_sublist.map _)

/-- A call after the one of `n` has moved on. -/
theorem mem_advance {n : Nat} {point : CallPoint} {c : SendCall} (h : c ∈ s.advance n point) :
    (c ∈ s.calls ∧ c.seqNum ≠ n) ∨ (c.seqNum = n ∧ c.point = point) := by
  obtain ⟨c', hc', rfl⟩ := List.mem_map.mp h
  by_cases hn : c'.seqNum = n
  · rw [if_pos hn]
    exact .inr ⟨hn, rfl⟩
  · rw [if_neg hn]
    exact .inl ⟨hc', hn⟩

/-! ### Steps -/

theorem inv_draw (h : s.Inv) (hmax : s.used.length + 2 < 2 ^ 64) (message : Json) : (s.draw message).Inv := by
  have hlen : (s.draw message).used.length = s.used.length + 1 := by simp [draw]
  have hnew : s.sender.sequenceNumber = s.used.length + 1 := h.next
  have hfresh : transmissions s.sender.sequenceNumber s.log = 0 := h.future _ (by omega)
  refine ⟨?_, ?_, h.keys, ?_, ?_, ?_, ?_, h.sends, h.resends, h.quiet, h.spaced⟩
  · rw [hlen, List.range'_1_concat, ← h.used]
    simp [draw, hnew, Nat.add_comm]
  · rw [hlen]
    show (s.sender.sequenceNumber + 1) % 2 ^ 64 = _
    rw [hnew, Nat.mod_eq_of_lt (by omega)]
  · show ((s.calls ++ [_]).map SendCall.seqNum).Nodup
    rw [List.map_append, List.map_singleton, ← List.concat_eq_append, List.nodup_concat]
    refine ⟨fun hn => ?_, h.calls⟩
    obtain ⟨c, hc, heq⟩ := List.mem_map.mp hn
    have := (h.call c hc).used
    dsimp only at heq
    omega
  · exact fun e he => (h.entry e he).keep (hlen ▸ Nat.le_succ _) le_rfl rfl
  · intro c hc
    rcases List.mem_append.mp hc with hc | hc
    · exact (h.call c hc).keep (hlen ▸ Nat.le_succ _) (List.Subset.refl _) rfl
    · obtain rfl := List.mem_singleton.mp hc
      refine ⟨by rw [hlen]; exact hnew.le, fun _ => ⟨?_, hfresh⟩, fun hpoint => by cases hpoint⟩
      intro hkey
      obtain ⟨p, hp⟩ := mem_keys.mp hkey
      have := (h.entry _ hp).used
      dsimp only at this
      omega
  · intro n hn
    rw [hlen] at hn
    exact h.future n (by omega)

theorem inv_record (h : s.Inv) (n elapsed : Nat) : (s.record n elapsed).Inv := by
  unfold record
  split
  · exact h
  · rename_i call hcall
    obtain ⟨hmem, rfl, hpoint⟩ := mem_of_findCall hcall
    obtain ⟨hkey, hnone⟩ := (h.call call hmem).drawn hpoint
    obtain ⟨hsends, hresends⟩ := Nat.add_eq_zero_iff.mp hnone
    have herase : s.sender.erase call.seqNum = s.sender.pendingAcks := by
      refine List.filter_eq_self.mpr fun e he => decide_eq_true fun heq => hkey ?_
      rw [← heq]
      exact List.mem_map_of_mem he
    dsimp only
    rw [herase]
    refine ⟨h.used, h.next, ?_, ?_, ?_, ?_, h.future, h.sends, h.resends, h.quiet, h.spaced⟩
    · show ((s.sender.pendingAcks ++ [_]).map Prod.fst).Nodup
      rw [List.map_append, List.map_singleton, ← List.concat_eq_append, List.nodup_concat]
      exact ⟨hkey, h.keys⟩
    · rw [map_seqNum_advance]
      exact h.calls
    · intro e he
      rcases List.mem_append.mp he with he | he
      · exact (h.entry e he).keep le_rfl (Nat.le_add_right _ _) rfl
      · obtain rfl := List.mem_singleton.mp he
        refine ⟨(h.call call hmem).used, Nat.zero_le _, hresends.symm, le_rfl, ?_,
          not_ackedAfter_of_transmissions hnone⟩
        intro t ht
        exact absurd hresends (resends_pos ht).ne'
    · intro c hc
      rcases mem_advance hc with ⟨hc, hne⟩ | ⟨heq, hrec⟩
      · have hcinv := h.call c hc
        refine ⟨hcinv.used, fun hdrawn => ⟨?_, (hcinv.drawn hdrawn).2⟩, hcinv.recorded⟩
        intro hmem'
        obtain ⟨p, hp⟩ := mem_keys.mp hmem'
        rcases List.mem_append.mp hp with hp | hp
        · exact (hcinv.drawn hdrawn).1 (mem_keys.mpr ⟨p, hp⟩)
        · exact hne (congrArg Prod.fst (List.mem_singleton.mp hp))
      · refine ⟨by rw [heq]; exact (h.call call hmem).used, fun hdrawn => ?_, fun _ => by rw [heq]; exact hsends⟩
        rw [hrec] at hdrawn
        cases hdrawn

theorem inv_sendTo (h : s.Inv) (n : Nat) (ok : Bool) : (s.sendTo n ok).Inv := by
  unfold sendTo
  split
  · exact h
  · rename_i call hcall
    obtain ⟨hmem, rfl, hpoint⟩ := mem_of_findCall hcall
    have hnone := (h.call call hmem).recorded hpoint
    have hcalls : ∀ c ∈ (if ok then s.finish call.seqNum else s.advance call.seqNum .failed),
        (c ∈ s.calls ∧ c.seqNum ≠ call.seqNum) ∨ (c.seqNum = call.seqNum ∧ c.point = .failed) := by
      intro c hc
      split at hc
      · obtain ⟨hc, hne⟩ := List.mem_filter.mp hc
        exact .inl ⟨hc, of_decide_eq_true hne⟩
      · exact mem_advance hc
    have hother : ∀ n, n ≠ call.seqNum → sends n (.sent call.seqNum :: s.log) = sends n s.log := by
      intro n hne
      rw [sends_cons_sent, if_neg (Ne.symm hne), Nat.add_zero]
    refine ⟨h.used, h.next, h.keys, ?_, ?_, ?_, ?_, ?_, ?_, h.quiet.cons (by simp), h.spaced.cons (by simp)⟩
    · show ((if ok then s.finish call.seqNum else s.advance call.seqNum .failed).map SendCall.seqNum).Nodup
      split
      · exact nodup_finish h _
      · rw [map_seqNum_advance]
        exact h.calls
    · intro e he
      have hentry := h.entry e he
      refine ⟨hentry.used, hentry.bound, ?_, hentry.past, fun t ht => hentry.last t ?_, ?_⟩
      · rw [resends_cons_sent]
        exact hentry.retries
      · simpa using ht
      · rw [ackedAfter_cons_of_ne (by simp)]
        exact hentry.unacked
    · intro c hc
      rcases hcalls c hc with ⟨hc, hne⟩ | ⟨heq, hfailed⟩
      · have hcinv := h.call c hc
        refine ⟨hcinv.used, fun hdrawn => ⟨(hcinv.drawn hdrawn).1, ?_⟩, fun hrec => ?_⟩
        · exact (transmissions_cons_sent_of_ne hne _).trans (hcinv.drawn hdrawn).2
        · rw [hother _ hne]
          exact hcinv.recorded hrec
      · refine ⟨by rw [heq]; exact (h.call call hmem).used, fun hdrawn => ?_, fun hrec => ?_⟩
        · rw [hfailed] at hdrawn
          cases hdrawn
        · rw [hfailed] at hrec
          cases hrec
    · intro n hn
      have hne : n ≠ call.seqNum := by
        have := (h.call call hmem).used
        dsimp only at hn
        omega
      exact (transmissions_cons_sent_of_ne hne _).trans (h.future n hn)
    · intro n
      by_cases hne : n = call.seqNum
      · rw [hne, sends_cons_sent, if_pos rfl, hnone]
      · rw [hother n hne]
        exact h.sends n
    · intro n
      rw [resends_cons_sent]
      exact h.resends n

theorem inv_eraseFailed (h : s.Inv) (n : Nat) : (s.eraseFailed n).Inv := by
  unfold eraseFailed
  split
  · exact h
  · refine ⟨h.used, h.next, ?_, nodup_finish h n, ?_, ?_, h.future, h.sends, h.resends, h.quiet, h.spaced⟩
    · exact h.keys.sublist (List.filter_sublist.map _)
    · exact fun e he => (h.entry e (ReliableSender.mem_erase.mp he).1).keep le_rfl le_rfl rfl
    · exact fun c hc => (h.call c (List.mem_filter.mp hc).1).keep le_rfl (List.filter_sublist.map _).subset rfl

theorem inv_ack (h : s.Inv) (payload : Json) : (s.ack payload).Inv := by
  unfold ack
  split
  · exact h
  · rename_i sender hack
    obtain ⟨hnext, hmem⟩ := ReliableSender.handleAck_eq hack
    have hsub : sender.pendingAcks.Sublist s.sender.pendingAcks := ReliableSender.handleAck_sublist hack
    have hkeys : sender.pendingAcks.map Prod.fst ⊆ s.keys := (hsub.map _).subset
    cases hn : ackNumber payload with
    | none =>
        refine ⟨h.used, hnext.trans h.next, h.keys.sublist (hsub.map _), h.calls, ?_, ?_, h.future, h.sends, h.resends,
          h.quiet, h.spaced⟩
        · exact fun e he => (h.entry e ((hmem e).mp he).1).keep le_rfl le_rfl rfl
        · exact fun c hc => (h.call c hc).keep le_rfl hkeys rfl
    | some n =>
        refine ⟨h.used, hnext.trans h.next, h.keys.sublist (hsub.map _), h.calls, ?_, ?_, ?_, ?_, ?_,
          h.quiet.cons (by simp), h.spaced.cons (by simp)⟩
        · intro e he
          obtain ⟨he, hne⟩ := (hmem e).mp he
          have hentry := h.entry e he
          refine ⟨hentry.used, hentry.bound, ?_, hentry.past, fun t ht => hentry.last t ?_, ?_⟩
          · exact hentry.retries.trans (resends_cons_acked _ _ _).symm
          · simpa using ht
          · -- the entry is another message's
            rw [hn] at hne
            have hother : Entry.acked n ≠ .acked e.1 := fun heq => hne (by cases heq; rfl)
            exact fun hacked => hentry.unacked ((ackedAfter_cons_of_ne hother).mp hacked)
        · intro c hc
          have hcinv := h.call c hc
          refine ⟨hcinv.used, fun hdrawn => ⟨fun hkey => (hcinv.drawn hdrawn).1 (hkeys hkey), ?_⟩, fun hrec => ?_⟩
          · exact (transmissions_cons_acked _ _ _).trans (hcinv.drawn hdrawn).2
          · exact (sends_cons_acked _ _ _).trans (hcinv.recorded hrec)
        · exact fun m hm => (transmissions_cons_acked _ _ _).trans (h.future m hm)
        · exact fun m => (sends_cons_acked _ _ _).le.trans (h.sends m)
        · exact fun m => (resends_cons_acked _ _ _).le.trans (h.resends m)

/-- What a pass knows of a number that it retransmits. -/
theorem Inv.of_mem_retried (h : s.Inv) {now n : Nat} (hn : n ∈ s.sender.retried now) :
    ∃ p, (n, p) ∈ s.sender.pendingAcks ∧ Delivery.resends n s.log < ReliableSender.maxRetryCount ∧
      ¬ AckedAfter n s.log ∧ ∀ t, .resent n t ∈ s.log → t + ReliableSender.ackTimeout < now := by
  obtain ⟨p, hp, hout, hlt⟩ := ReliableSender.mem_retried.mp hn
  have hentry := h.entry _ hp
  refine ⟨p, hp, hentry.retries ▸ hlt, hentry.unacked, fun t ht => ?_⟩
  have hlast : t ≤ p.timeSent := hentry.last t ht
  have hlate : ReliableSender.ackTimeout < now - p.timeSent := of_decide_eq_true hout
  omega

theorem Inv.transmissions_check (h : s.Inv) {now n : Nat} (hn : n ∉ s.keys) :
    transmissions n (batch (s.sender.retried now) now ++ s.log) = transmissions n s.log := by
  have hnot : n ∉ s.sender.retried now := by
    intro hmem
    obtain ⟨p, hp, -⟩ := h.of_mem_retried hmem
    exact hn (mem_keys.mpr ⟨p, hp⟩)
  exact transmissions_batch_of_notMem hnot _ _

/-- The entries after a pass: those that are not timed out, and those that go out again. -/
theorem Inv.entry_check (h : s.Inv) (elapsed : Nat) :
    ∀ e ∈ (s.check elapsed).sender.pendingAcks, EntryInv (s.check elapsed) e := by
  rintro ⟨n, p'⟩ he
  rcases ReliableSender.mem_checkForTimeouts he with ⟨he, hin⟩ | ⟨p, hp, hout, hlt, rfl⟩
  · have hentry := h.entry _ he
    have hnot : n ∉ s.sender.retried (s.clock + elapsed) := by
      intro hmem
      obtain ⟨q, hq, hout, -⟩ := ReliableSender.mem_retried.mp hmem
      rw [h.entry_unique hq he, hin] at hout
      cases hout
    refine ⟨hentry.used, hentry.bound, ?_, hentry.past.trans (Nat.le_add_right _ _), ?_, ?_⟩
    · exact hentry.retries.trans (resends_batch_of_notMem hnot _ _).symm
    · intro t ht
      rcases List.mem_append.mp ht with ht | ht
      · exact absurd (mem_batch ht).1 hnot
      · exact hentry.last t ht
    · exact fun hacked => hentry.unacked ((ackedAfter_batch _ _).mp hacked)
  · have hentry := h.entry _ hp
    have hmem : n ∈ s.sender.retried (s.clock + elapsed) := ReliableSender.mem_retried.mpr ⟨p, hp, hout, hlt⟩
    have hnodup := ReliableSender.retried_nodup h.keys (s.clock + elapsed)
    refine ⟨hentry.used, hlt, ?_, le_rfl, ?_, ?_⟩
    · exact (congrArg (· + 1) hentry.retries).trans (resends_batch_of_mem hnodup hmem _ _).symm
    · intro t ht
      rcases List.mem_append.mp ht with ht | ht
      · exact (mem_batch ht).2.le
      · exact (hentry.last t ht).trans (hentry.past.trans (Nat.le_add_right _ _))
    · exact fun hacked => hentry.unacked ((ackedAfter_batch _ _).mp hacked)

theorem inv_check (h : s.Inv) (elapsed : Nat) : (s.check elapsed).Inv := by
  have hsub := ReliableSender.keys_checkForTimeouts (s := s.sender) (s.clock + elapsed)
  have hnodup := ReliableSender.retried_nodup h.keys (s.clock + elapsed)
  refine ⟨h.used, h.next, h.keys.sublist hsub, h.calls, h.entry_check elapsed, ?_, ?_, ?_, ?_, ?_, ?_⟩
  · intro c hc
    have hcinv := h.call c hc
    refine ⟨hcinv.used, fun hdrawn => ?_, fun hrec => ?_⟩
    · obtain ⟨hkey, hzero⟩ := hcinv.drawn hdrawn
      exact ⟨fun hmem => hkey (hsub.subset hmem), (h.transmissions_check hkey).trans hzero⟩
    · exact (sends_batch _ _ _ _).trans (hcinv.recorded hrec)
  · intro n hn
    have hkey : n ∉ s.keys := by
      intro hmem
      obtain ⟨p, hp⟩ := mem_keys.mp hmem
      exact absurd (h.entry _ hp).used (Nat.not_le.mpr hn)
    exact (h.transmissions_check hkey).trans (h.future n hn)
  · exact fun n => (sends_batch _ _ _ _).le.trans (h.sends n)
  · refine fun n => resends_batch_le hnodup (fun m hm => ?_) (h.resends n) _
    obtain ⟨-, -, hlt, -⟩ := h.of_mem_retried hm
    exact hlt
  · refine h.quiet.batch hnodup (fun n hn => ?_) _
    obtain ⟨-, -, -, hunacked, -⟩ := h.of_mem_retried hn
    exact hunacked
  · apply h.spaced.batch hnodup
    intro n hn
    obtain ⟨-, -, -, -, hlast⟩ := h.of_mem_retried hn
    exact hlast

/-- **Every step keeps the invariant** as long as the counter does not wrap. -/
theorem inv_step (h : s.Inv) {e : SendEvent} (hmax : (s.step e).used.length + 1 < 2 ^ 64) : (s.step e).Inv := by
  cases e with
  | draw message =>
      have hlen : (s.draw message).used.length = s.used.length + 1 := by simp [draw]
      have hmax' : (s.draw message).used.length + 1 < 2 ^ 64 := hmax
      exact inv_draw h (by omega) message
  | record n elapsed => exact inv_record h n elapsed
  | sendTo n ok => exact inv_sendTo h n ok
  | eraseFailed n => exact inv_eraseFailed h n
  | ack payload => exact inv_ack h payload
  | check elapsed => exact inv_check h elapsed

/-! ## Where an entry goes -/

/-- What takes an entry out of the map. -/
inductive Leaves (s : Sending) (n : Nat) (p : PendingAck) : SendEvent → Prop
  | acked {payload : Json} (h : ackNumber payload = some n) : Leaves s n p (.ack payload)
  | failed {c : SendCall} (h : s.findCall n .failed = some c) : Leaves s n p (.eraseFailed n)
  | exhausted {elapsed : Nat} (hout : ReliableSender.timedOut (s.clock + elapsed) p = true)
      (h : p.retryCount = ReliableSender.maxRetryCount) : Leaves s n p (.check elapsed)

/-- The rest of an entry after a pass. -/
theorem mem_keys_check {n elapsed : Nat} {p : PendingAck} (h : (n, p) ∈ s.sender.pendingAcks)
    (hkeep : ReliableSender.timedOut (s.clock + elapsed) p = true → p.retryCount < ReliableSender.maxRetryCount) :
    n ∈ (s.check elapsed).keys := by
  by_cases hout : ReliableSender.timedOut (s.clock + elapsed) p = true
  · let p' : PendingAck := { p with retryCount := p.retryCount + 1, timeSent := s.clock + elapsed }
    refine mem_keys.mpr ⟨p', List.mem_filterMap.mpr ⟨(n, p), h, ?_⟩⟩
    dsimp only
    rw [if_pos hout, if_pos (hkeep hout)]
  · refine mem_keys.mpr ⟨p, List.mem_filterMap.mpr ⟨(n, p), h, ?_⟩⟩
    dsimp only
    rw [if_neg hout]

theorem leaves_of_step (h : s.Inv) {n : Nat} {p : PendingAck} (hp : (n, p) ∈ s.sender.pendingAcks) {e : SendEvent}
    (hgone : n ∉ (s.step e).keys) : Leaves s n p e := by
  have hkey : n ∈ s.keys := mem_keys.mpr ⟨p, hp⟩
  cases e with
  | draw message => exact absurd hkey hgone
  | record m elapsed =>
      refine absurd ?_ hgone
      show n ∈ (s.record m elapsed).keys
      unfold record
      split
      · exact hkey
      · by_cases hm : n = m
        · exact mem_keys.mpr ⟨_, List.mem_append_right _ (List.mem_singleton.mpr (by rw [hm]))⟩
        · exact mem_keys.mpr ⟨p, List.mem_append_left _ (ReliableSender.mem_erase.mpr ⟨hp, hm⟩)⟩
  | sendTo m ok =>
      refine absurd ?_ hgone
      show n ∈ (s.sendTo m ok).keys
      unfold sendTo
      split <;> exact hkey
  | eraseFailed m =>
      have hgone' : n ∉ (s.eraseFailed m).keys := hgone
      unfold eraseFailed at hgone'
      split at hgone'
      · exact absurd hkey hgone'
      · rename_i c hc
        by_cases hm : n = m
        · rw [hm]
          exact .failed hc
        · exact absurd (mem_keys.mpr ⟨p, ReliableSender.mem_erase.mpr ⟨hp, hm⟩⟩) hgone'
  | ack payload =>
      have hgone' : n ∉ (s.ack payload).keys := hgone
      unfold ack at hgone'
      split at hgone'
      · exact absurd hkey hgone'
      · rename_i sender hack
        by_cases hn : ackNumber payload = some n
        · exact .acked hn
        · have hkept : (n, p) ∈ sender.pendingAcks := ((ReliableSender.handleAck_eq hack).2 _).mpr ⟨hp, hn⟩
          exact absurd (mem_keys.mpr ⟨p, hkept⟩) hgone'
  | check elapsed =>
      have hbound := (h.entry _ hp).bound
      have hgone' : n ∉ (s.check elapsed).keys := hgone
      by_cases hout : ReliableSender.timedOut (s.clock + elapsed) p = true
      · refine .exhausted hout (le_antisymm hbound ?_)
        by_contra hlt
        exact hgone' (mem_keys_check hp fun _ => Nat.not_le.mp hlt)
      · exact absurd (mem_keys_check hp fun hout' => absurd hout' hout) hgone'

/-! ## A call that nothing interrupts -/

section Call

variable {calls : List SendCall} {c : SendCall} (hcalls : s.calls = calls ++ [c])
  (hfresh : ∀ c' ∈ calls, c'.seqNum ≠ c.seqNum)
include hcalls hfresh

theorem findCall_last : s.findCall c.seqNum c.point = some c := by
  have hnone : calls.find? (fun c' => c'.seqNum = c.seqNum ∧ c'.point = c.point) = none :=
    List.find?_eq_none.mpr fun c' hc' => by simp [hfresh c' hc']
  rw [findCall, hcalls, List.find?_append, hnone, Option.none_or]
  simp

theorem advance_last (point : CallPoint) : s.advance c.seqNum point = calls ++ [{ c with point := point }] := by
  have hsame : calls.map (fun c' => if c'.seqNum = c.seqNum then { c' with point := point } else c') = calls :=
    List.map_congr_left (fun c' hc' => if_neg (hfresh c' hc')) |>.trans (List.map_id' calls)
  rw [advance, hcalls, List.map_append, hsame, List.map_singleton, if_pos rfl]

theorem finish_last : s.finish c.seqNum = calls := by
  have hsame : calls.filter (fun c' => c'.seqNum ≠ c.seqNum) = calls :=
    List.filter_eq_self.mpr fun c' hc' => decide_eq_true (hfresh c' hc')
  rw [finish, hcalls, List.filter_append, hsame]
  simp

end Call

/-- The steps of a call, taken one after the other. -/
def callEvents (seqNum : Nat) (message : Json) (elapsed : Nat) (ok : Bool) : List SendEvent :=
  [.draw message, .record seqNum elapsed, .sendTo seqNum ok, .eraseFailed seqNum]

theorem uninterrupted_call (hfresh : ∀ c ∈ s.calls, c.seqNum ≠ s.sender.sequenceNumber) (message : Json)
    (elapsed : Nat) (ok : Bool) :
    (run step s (callEvents s.sender.sequenceNumber message elapsed ok)).sender =
      (s.sender.sendReliableMessage message (s.clock + elapsed) fun _ => ok).1 := by
  let c : SendCall := ⟨s.sender.sequenceNumber, message.set "sequence_number" (.int s.sender.sequenceNumber), .drawn⟩
  have hlast : (s.draw message).calls = s.calls ++ [c] := rfl
  have hdrawn : (s.draw message).findCall c.seqNum .drawn = some c := findCall_last hlast hfresh
  let s₂ := (s.draw message).record c.seqNum elapsed
  have hs₂ : s₂.sender.pendingAcks = s.sender.erase c.seqNum ++ [(c.seqNum, ⟨c.message, s.clock + elapsed, 0⟩)] ∧
      s₂.sender.sequenceNumber = (s.sender.sequenceNumber + 1) % 2 ^ 64 ∧
      s₂.calls = s.calls ++ [{ c with point := .recorded }] := by
    simp only [s₂, record, hdrawn]
    exact ⟨rfl, rfl, advance_last hlast hfresh _⟩
  obtain ⟨hpending, hnumber, hcalls⟩ := hs₂
  have hrecorded : s₂.findCall c.seqNum .recorded = some { c with point := .recorded } := findCall_last hcalls hfresh
  have hlost : s₂.sender.erase c.seqNum = s.sender.erase c.seqNum := by
    rw [ReliableSender.erase, hpending, List.filter_append, ReliableSender.erase, List.filter_filter]
    simp
  show ((s₂.sendTo c.seqNum ok).eraseFailed c.seqNum).sender = _
  cases ok with
  | true =>
      have hsent : (s₂.sendTo c.seqNum true).calls = s.calls ∧ (s₂.sendTo c.seqNum true).sender = s₂.sender := by
        simp only [sendTo, hrecorded, and_true]
        exact finish_last (c := { c with point := .recorded }) hcalls hfresh
      have hnone : (s₂.sendTo c.seqNum true).findCall c.seqNum .failed = none := by
        rw [findCall, hsent.1]
        exact List.find?_eq_none.mpr fun c' hc' => by simp [c, hfresh c' hc']
      simp only [eraseFailed, hnone]
      rw [hsent.2, ReliableSender.sendReliableMessage, if_pos rfl, ← hnumber, ← hpending]
  | false =>
      have hsent : (s₂.sendTo c.seqNum false).calls = s.calls ++ [{ c with point := .failed }] ∧
          (s₂.sendTo c.seqNum false).sender = s₂.sender := by
        simp only [sendTo, hrecorded, and_true]
        exact advance_last (c := { c with point := .recorded }) hcalls hfresh _
      have hfailed : (s₂.sendTo c.seqNum false).findCall c.seqNum .failed = some { c with point := .failed } :=
        findCall_last hsent.1 hfresh
      simp only [eraseFailed, hfailed]
      rw [hsent.2, hlost, ReliableSender.sendReliableMessage, if_neg Bool.false_ne_true, ← hnumber]

/-! ## Runs -/

/-- The number of calls that have drawn their number. -/
def draws (es : List SendEvent) : Nat := es.countP fun | .draw _ => true | _ => false

theorem length_used_step (e : SendEvent) : (s.step e).used.length = s.used.length + draws [e] := by
  cases e with
  | draw message => simp [step, Sending.draw, draws]
  | record n elapsed =>
      show (s.record n elapsed).used.length = _
      unfold record
      split <;> rfl
  | sendTo n ok =>
      show (s.sendTo n ok).used.length = _
      unfold sendTo
      split <;> rfl
  | eraseFailed n =>
      show (s.eraseFailed n).used.length = _
      unfold eraseFailed
      split <;> rfl
  | ack payload =>
      show (s.ack payload).used.length = _
      unfold ack
      split <;> rfl
  | check elapsed => rfl

theorem length_used_run (es : List SendEvent) : (run step {} es).used.length = draws es := by
  induction es using List.reverseRecOn with
  | nil => rfl
  | append_singleton es e ih =>
      rw [run_append, run_cons, run_nil, length_used_step, ih]
      simp [draws]

/-- The invariant along a run of less than `2 ^ 64 - 1` calls. -/
theorem inv_run (es : List SendEvent) (h : draws es < 2 ^ 64 - 1) : (run step {} es).Inv := by
  induction es using List.reverseRecOn with
  | nil => exact inv_init
  | append_singleton es e ih =>
      have hle : draws es ≤ draws (es ++ [e]) := by simp [draws]
      have hlen := length_used_run (es ++ [e])
      rw [run_append, run_cons, run_nil] at hlen ⊢
      exact inv_step (ih (hle.trans_lt h)) (by omega)

/-- What reliable sending promises of a state and of the step after it. -/
structure Reliable (s : Sending) : Prop where
  numbers : s.used = List.range' 1 s.used.length
  distinct : s.used.Nodup
  below : ∀ n ∈ s.keys, n < s.sender.sequenceNumber
  bound : ∀ e ∈ s.sender.pendingAcks, e.2.retryCount ≤ 3
  retries : ∀ e ∈ s.sender.pendingAcks, e.2.retryCount = resends e.1 s.log
  total : ∀ n, transmissions n s.log ≤ 4
  quiet : NoResendAfterAck s.log
  spaced : Spaced ReliableSender.ackTimeout s.log
  leaves : ∀ n p, (n, p) ∈ s.sender.pendingAcks → ∀ e, n ∉ (s.step e).keys → Leaves s n p e

theorem Inv.reliable (h : s.Inv) : s.Reliable := by
  refine ⟨h.used, ?_, ?_, fun e he => (h.entry e he).bound, fun e he => (h.entry e he).retries, ?_, h.quiet, h.spaced,
    fun n p hp e hgone => leaves_of_step h hp hgone⟩
  · rw [h.used]
    exact List.nodup_range'
  · intro n hn
    obtain ⟨p, hp⟩ := mem_keys.mp hn
    have hle : n ≤ s.used.length := (h.entry _ hp).used
    have hnext := h.next
    omega
  · intro n
    have hsends := h.sends n
    have hresends : Delivery.resends n s.log ≤ 3 := h.resends n
    unfold transmissions
    omega

/-- **Reliable sending** in every run of less than `2 ^ 64 - 1` calls, however they are interleaved. -/
theorem reliable_of_draws (es : List SendEvent) (h : draws es < 2 ^ 64 - 1) : (run step {} es).Reliable :=
  (inv_run es h).reliable

/-- A message that is retransmitted after six seconds and then acknowledged. -/
def resentThenAcked : List SendEvent :=
  [.draw (.obj []), .record 1 0, .sendTo 1 true, .check (6 * 10 ^ 9),
    .ack (.obj [("ack_sequence_number", .int 1)]), .check (6 * 10 ^ 9)]

theorem reliable_of_draws_resentThenAcked :
    (run step {} resentThenAcked).log = [.acked 1, .resent 1 (6 * 10 ^ 9), .sent 1] ∧
      (run step {} resentThenAcked).Reliable :=
  ⟨by decide +kernel, reliable_of_draws resentThenAcked (by decide)⟩

/-! ## The call that uses the last number -/

/-- `k` calls that have drawn their numbers and done nothing else. -/
theorem run_draws (message : Json) (k : Nat) (hk : k < 2 ^ 64) :
    let s := run step {} (List.replicate k (.draw message))
    s.sender.pendingAcks = [] ∧ s.sender.sequenceNumber = (k + 1) % 2 ^ 64 ∧
      ∀ n, 0 < n → n ≤ k → ∃ c ∈ s.calls, c.seqNum = n ∧ c.point = .drawn := by
  induction k with
  | zero => exact ⟨rfl, rfl, fun n hpos hle => absurd hle (by omega)⟩
  | succ k ih =>
      obtain ⟨hpending, hnext, hcalls⟩ := ih (by omega)
      rw [List.replicate_succ', run_append]
      refine ⟨hpending, ?_, fun n hpos hle => ?_⟩
      · show (_ + 1) % 2 ^ 64 = _
        rw [hnext, Nat.mod_add_mod]
      · rcases Nat.lt_or_ge k n with hlast | hle'
        · refine ⟨_, List.mem_append_right _ (List.mem_singleton.mpr rfl), ?_, rfl⟩
          show (run step {} _).sender.sequenceNumber = n
          rw [hnext, Nat.mod_eq_of_lt (by omega)]
          omega
        · obtain ⟨c, hc, hseq⟩ := hcalls n hpos hle'
          exact ⟨c, List.mem_append_left _ hc, hseq⟩

/-- After the last number the counter is `0`, below every key. -/
theorem not_reliable_of_last {k : Nat} (hk : k + 1 = 2 ^ 64) (message : Json) :
    ¬ (run step {} (List.replicate k (.draw message) ++ [.record k 0])).Reliable := by
  obtain ⟨-, hnext, hcalls⟩ := run_draws message k (by omega)
  obtain ⟨c, hc, hseq, hpoint⟩ := hcalls k (by omega) le_rfl
  intro h
  rw [run_append, run_cons, run_nil] at h
  have hfound : ((run step {} (List.replicate k (.draw message))).findCall k .drawn).isSome := by
    rw [findCall, List.find?_isSome]
    exact ⟨c, hc, decide_eq_true ⟨hseq, hpoint⟩⟩
  obtain ⟨call, hcall⟩ := Option.isSome_iff_exists.mp hfound
  have hbelow := h.below k
  simp only [step, record, hcall, keys, hnext, hk, Nat.mod_self] at hbelow
  exact Nat.not_lt_zero k (hbelow (by simp))

theorem not_reliable_of_all_numbers : ¬ ∀ es, draws es < 2 ^ 64 → (run step {} es).Reliable := by
  intro h
  have hk : (2 ^ 64 - 1) + 1 = 2 ^ 64 := by norm_num
  generalize 2 ^ 64 - 1 = k at hk
  refine not_reliable_of_last hk .null (h _ ?_)
  have hdraws : draws (List.replicate k (.draw .null) ++ [.record k 0]) = k := by
    simp [draws, List.countP_append, List.countP_replicate]
  omega

end Sending

end EdgeOffloading
