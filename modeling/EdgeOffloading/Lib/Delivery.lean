import Mathlib.Tactic

/-!
# Logs of acknowledged delivery

A sender transmits numbered messages, transmits them again, and processes acknowledgements. Its log has the newest entry
first. An acknowledgement is one of a message if the message had been transmitted before it (`AckedAfter`).

* `EveryResend P log`: every retransmission in the log satisfies `P` of its number, its time and what preceded it;
  `EveryResend.cons`, `EveryResend.resent`, `everyResend_resends` are its rules for one more entry and for a batch;
* `NoResendAfterAck.batch`, `Spaced.batch`, `resends_batch_le`: when a batch of retransmissions keeps the rules.
-/

namespace EdgeOffloading.Delivery

inductive Entry where
  /-- The first transmission of a message. -/
  | sent (n : Nat)
  | resent (n time : Nat)
  | acked (n : Nat)
  deriving DecidableEq, Repr

def Entry.isSend (n : Nat) : Entry → Bool
  | .sent m => m = n
  | _ => false

def Entry.isResend (n : Nat) : Entry → Bool
  | .resent m _ => m = n
  | _ => false

def sends (n : Nat) (log : List Entry) : Nat := log.countP (Entry.isSend n)

def resends (n : Nat) (log : List Entry) : Nat := log.countP (Entry.isResend n)

/-- All transmissions of a message. -/
def transmissions (n : Nat) (log : List Entry) : Nat := sends n log + resends n log

/-- The message has been on its way. -/
def Transmitted (n : Nat) (log : List Entry) : Prop := 0 < transmissions n log

/-- An acknowledgement of the message has been processed after a transmission of it. -/
def AckedAfter (n : Nat) : List Entry → Prop
  | [] => False
  | e :: log => e = .acked n ∧ Transmitted n log ∨ AckedAfter n log

/-- Every retransmission satisfies `P` of its number, its time and the log before it. -/
def EveryResend (P : Nat → Nat → List Entry → Prop) (log : List Entry) : Prop :=
  ∀ newer n t older, log = newer ++ .resent n t :: older → P n t older

/-- No message is transmitted again after its acknowledgement. -/
def NoResendAfterAck (log : List Entry) : Prop := EveryResend (fun n _ older => ¬ AckedAfter n older) log

/-- Retransmissions of one message are more than `timeout` apart. -/
def Spaced (timeout : Nat) (log : List Entry) : Prop :=
  EveryResend (fun n t older => ∀ t', .resent n t' ∈ older → t' + timeout < t) log

variable {P : Nat → Nat → List Entry → Prop} {log : List Entry}

theorem everyResend_nil : EveryResend P [] := fun newer n t older h => by
  cases newer <;> cases h

theorem EveryResend.cons (h : EveryResend P log) {e : Entry} (he : ∀ n t, e ≠ .resent n t) :
    EveryResend P (e :: log) := by
  intro newer n t older heq
  cases newer with
  | nil => exact absurd (List.cons.inj heq).1 (he n t)
  | cons e' newer => exact h newer n t older (List.cons.inj heq).2

theorem EveryResend.resent (h : EveryResend P log) {n t : Nat} (hn : P n t log) :
    EveryResend P (.resent n t :: log) := by
  intro newer m t' older heq
  cases newer with
  | nil =>
      obtain ⟨he, rfl⟩ := List.cons.inj heq
      cases he
      exact hn
  | cons e' newer => exact h newer m t' older (List.cons.inj heq).2

theorem EveryResend.acks (h : EveryResend P log) (ns : List Nat) : EveryResend P (ns.map Entry.acked ++ log) := by
  induction ns with
  | nil => exact h
  | cons n ns ih => exact ih.cons (by simp)

/-- The entries of a batch of retransmissions at one time. -/
def batch (ns : List Nat) (t : Nat) : List Entry := ns.map fun n => .resent n t

/-- A batch without repetition, where retransmissions of others do not disturb `P`. -/
theorem everyResend_resends {t : Nat} (hstable : ∀ n m log, m ≠ n → P n t log → P n t (.resent m t :: log))
    (h : EveryResend P log) {ns : List Nat} (hnodup : ns.Nodup) (hns : ∀ n ∈ ns, P n t log) :
    EveryResend P (batch ns t ++ log) := by
  induction ns with
  | nil => exact h
  | cons n ns ih =>
      obtain ⟨hn, hnodup⟩ := List.nodup_cons.mp hnodup
      have hothers : ∀ l : List Nat, n ∉ l → P n t (batch l t ++ log) := by
        intro l hl
        induction l with
        | nil => exact hns n List.mem_cons_self
        | cons m l ihl =>
            obtain ⟨hm, hl⟩ := not_or.mp (List.mem_cons.not.mp hl)
            exact hstable n m _ (Ne.symm hm) (ihl hl)
      exact (ih hnodup fun m hm => hns m (List.mem_cons_of_mem n hm)).resent (hothers ns hn)

/-! ## Counting -/

theorem sends_cons_sent (n m : Nat) (log : List Entry) :
    sends n (.sent m :: log) = sends n log + if m = n then 1 else 0 := by
  simp [sends, List.countP_cons, Entry.isSend]

theorem resends_cons_sent (n m : Nat) (log : List Entry) : resends n (.sent m :: log) = resends n log := by
  simp [resends, Entry.isResend]

theorem transmissions_cons_sent_of_ne {n m : Nat} (h : n ≠ m) (log : List Entry) :
    transmissions n (.sent m :: log) = transmissions n log := by
  rw [transmissions, sends_cons_sent, resends_cons_sent, if_neg (Ne.symm h), Nat.add_zero, transmissions]

theorem sends_cons_acked (n m : Nat) (log : List Entry) : sends n (.acked m :: log) = sends n log := by
  simp [sends, Entry.isSend]

theorem resends_cons_acked (n m : Nat) (log : List Entry) : resends n (.acked m :: log) = resends n log := by
  simp [resends, Entry.isResend]

theorem transmissions_cons_acked (n m : Nat) (log : List Entry) :
    transmissions n (.acked m :: log) = transmissions n log := by
  rw [transmissions, sends_cons_acked, resends_cons_acked, transmissions]

theorem resends_batch (n : Nat) (ns : List Nat) (t : Nat) (log : List Entry) :
    resends n (batch ns t ++ log) = ns.count n + resends n log := by
  induction ns with
  | nil => simp [batch, resends]
  | cons m ns ih =>
      have hcons : resends n (batch (m :: ns) t ++ log) =
          resends n (batch ns t ++ log) + if m = n then 1 else 0 := by
        simp [batch, resends, List.countP_cons, Entry.isResend]
      rw [hcons, ih, List.count_cons]
      by_cases hm : m = n
      · simp [hm]
        omega
      · simp [hm]

theorem sends_batch (n : Nat) (ns : List Nat) (t : Nat) (log : List Entry) :
    sends n (batch ns t ++ log) = sends n log := by
  induction ns with
  | nil => rfl
  | cons m ns ih =>
      have hcons : sends n (batch (m :: ns) t ++ log) = sends n (batch ns t ++ log) := by
        simp [batch, sends, Entry.isSend]
      rw [hcons, ih]

theorem resends_batch_of_mem {n : Nat} {ns : List Nat} (hnodup : ns.Nodup) (h : n ∈ ns) (t : Nat)
    (log : List Entry) : resends n (batch ns t ++ log) = resends n log + 1 := by
  rw [resends_batch, List.count_eq_one_of_mem hnodup h, Nat.add_comm]

theorem resends_batch_of_notMem {n : Nat} {ns : List Nat} (h : n ∉ ns) (t : Nat) (log : List Entry) :
    resends n (batch ns t ++ log) = resends n log := by
  rw [resends_batch, List.count_eq_zero_of_not_mem h, Nat.zero_add]

theorem transmissions_batch_of_notMem {n : Nat} {ns : List Nat} (h : n ∉ ns) (t : Nat) (log : List Entry) :
    transmissions n (batch ns t ++ log) = transmissions n log := by
  rw [transmissions, sends_batch, resends_batch_of_notMem h, transmissions]

/-- A bound on the retransmissions survives a batch of messages that have not reached it. -/
theorem resends_batch_le {n bound : Nat} {ns : List Nat} (hnodup : ns.Nodup)
    (hns : ∀ m ∈ ns, resends m log < bound) (h : resends n log ≤ bound) (t : Nat) :
    resends n (batch ns t ++ log) ≤ bound := by
  by_cases hn : n ∈ ns
  · rw [resends_batch_of_mem hnodup hn]
    exact hns n hn
  · rw [resends_batch_of_notMem hn]
    exact h

theorem resends_pos {n t : Nat} (h : .resent n t ∈ log) : 0 < resends n log :=
  List.countP_pos_iff.mpr ⟨_, h, by simp [Entry.isResend]⟩

theorem mem_batch {n t t' : Nat} {ns : List Nat} (h : .resent n t' ∈ batch ns t) : n ∈ ns ∧ t' = t := by
  obtain ⟨m, hm, heq⟩ := List.mem_map.mp h
  cases heq
  exact ⟨hm, rfl⟩

theorem sends_acks (n : Nat) (ns : List Nat) (log : List Entry) :
    sends n (ns.map Entry.acked ++ log) = sends n log := by
  induction ns with
  | nil => rfl
  | cons m ns ih => rw [List.map_cons, List.cons_append, sends_cons_acked, ih]

theorem resends_acks (n : Nat) (ns : List Nat) (log : List Entry) :
    resends n (ns.map Entry.acked ++ log) = resends n log := by
  induction ns with
  | nil => rfl
  | cons m ns ih => rw [List.map_cons, List.cons_append, resends_cons_acked, ih]

theorem transmissions_acks (n : Nat) (ns : List Nat) (log : List Entry) :
    transmissions n (ns.map Entry.acked ++ log) = transmissions n log := by
  rw [transmissions, sends_acks, resends_acks, transmissions]

/-! ## Acknowledgements -/

theorem ackedAfter_cons_of_ne {n : Nat} {e : Entry} (he : e ≠ .acked n) :
    AckedAfter n (e :: log) ↔ AckedAfter n log := by
  simp [AckedAfter, he]

theorem ackedAfter_batch {n : Nat} (ns : List Nat) (t : Nat) : AckedAfter n (batch ns t ++ log) ↔ AckedAfter n log := by
  induction ns with
  | nil => exact Iff.rfl
  | cons m ns ih =>
      have hne : Entry.resent m t ≠ .acked n := by simp
      exact (ackedAfter_cons_of_ne hne).trans ih

/-- Acknowledgements of others. -/
theorem ackedAfter_acks {n : Nat} {ns : List Nat} (h : n ∉ ns) :
    AckedAfter n (ns.map Entry.acked ++ log) ↔ AckedAfter n log := by
  induction ns with
  | nil => exact Iff.rfl
  | cons m ns ih =>
      obtain ⟨hm, hns⟩ := not_or.mp (List.mem_cons.not.mp h)
      have hne : Entry.acked m ≠ .acked n := fun heq => hm (Entry.acked.inj heq).symm
      exact (ackedAfter_cons_of_ne hne).trans (ih hns)

/-- Only a message that was transmitted has an acknowledgement. -/
theorem AckedAfter.transmitted {n : Nat} (h : AckedAfter n log) : Transmitted n log := by
  induction log with
  | nil => exact h.elim
  | cons e log ih =>
      have hmono : Transmitted n log → Transmitted n (e :: log) := by
        intro ht
        unfold Transmitted transmissions sends resends at ht ⊢
        simp only [List.countP_cons]
        omega
      rcases h with ⟨-, ht⟩ | h
      · exact hmono ht
      · exact hmono (ih h)

theorem not_ackedAfter_of_transmissions {n : Nat} (h : transmissions n log = 0) : ¬ AckedAfter n log :=
  fun hacked => absurd h hacked.transmitted.ne'

/-! ## Batches -/

theorem NoResendAfterAck.batch (h : NoResendAfterAck log) {ns : List Nat} (hnodup : ns.Nodup)
    (hns : ∀ n ∈ ns, ¬ AckedAfter n log) (t : Nat) : NoResendAfterAck (batch ns t ++ log) := by
  refine everyResend_resends (fun n m log _ hlog hacked => ?_) h hnodup hns
  have hne : Entry.resent m t ≠ .acked n := by simp
  exact hlog ((ackedAfter_cons_of_ne hne).mp hacked)

theorem Spaced.batch {timeout : Nat} (h : Spaced timeout log) {ns : List Nat} (hnodup : ns.Nodup) {t : Nat}
    (hns : ∀ n ∈ ns, ∀ t', .resent n t' ∈ log → t' + timeout < t) : Spaced timeout (batch ns t ++ log) := by
  refine everyResend_resends (fun n m log hne hlog t' ht' => ?_) h hnodup hns
  rcases List.mem_cons.mp ht' with heq | ht'
  · cases heq
    exact absurd rfl hne
  · exact hlog t' ht'

end EdgeOffloading.Delivery
