import Mathlib.Data.List.Basic
import Mathlib.Tactic

/-!
# Exact reads over partial reads

A reader asks a source for elements and gets some of them, none for the moment, or the news that the source has failed
or ended. `readExact n` asks until it has `n` elements.

* `reads_readExact`: over outcomes without failure, the read has taken exactly the next `n` elements or still waits, and
  it waits only if fewer than `n` outcomes deliver something;
* `Reads.andThen`: readers compose, and their elements add up.
-/

namespace EdgeOffloading.PartialRead

/-- What one read of the source returns: `extra + 1` elements or as many as were asked for and are there, nothing for
now, an error, the end. -/
inductive Outcome where
  | got (extra : Nat)
  | again
  | error
  | closed
  deriving DecidableEq, Repr

/-- The elements to come and the outcomes of the next reads. -/
structure Source (α : Type*) where
  stream : List α
  schedule : List Outcome

/-- A reader has its value, has failed, or waits when the outcomes end. -/
inductive Result (β ρ : Type*) where
  | done (value : β) (rest : ρ)
  | failed (rest : ρ)
  | waiting

def Result.andThen {β γ ρ : Type*} (r : Result β ρ) (next : β → ρ → Result γ ρ) : Result γ ρ :=
  match r with
  | .done value rest => next value rest
  | .failed rest => .failed rest
  | .waiting => .waiting

variable {α : Type*}

def readLoop (size : Nat) : List Outcome → List α → List α → Result (List α) (Source α)
  | [], acc, stream => if size ≤ acc.length then .done acc ⟨stream, []⟩ else .waiting
  | o :: schedule, acc, stream =>
    if size ≤ acc.length then .done acc ⟨stream, o :: schedule⟩
    else
      match o with
      | .got extra =>
        let count := min (extra + 1) (size - acc.length)
        readLoop size schedule (acc ++ stream.take count) (stream.drop count)
      | .again => readLoop size schedule acc stream
      | .error | .closed => .failed ⟨stream, schedule⟩

def readExact (size : Nat) (s : Source α) : Result (List α) (Source α) := readLoop size s.schedule [] s.stream

/-- No failure and no end among the outcomes. -/
def Clean (schedule : List Outcome) : Prop := ∀ o ∈ schedule, o ≠ .error ∧ o ≠ .closed

instance (schedule : List Outcome) : Decidable (Clean schedule) :=
  inferInstanceAs (Decidable (∀ o ∈ schedule, _))

/-- The outcomes that deliver something. -/
def supply (schedule : List Outcome) : Nat :=
  schedule.countP fun o => match o with
    | .got _ => true
    | _ => false

theorem Clean.tail {o : Outcome} {schedule : List Outcome} (h : Clean (o :: schedule)) : Clean schedule :=
  fun o' ho' => h o' (List.mem_cons_of_mem o ho')

/-- What a read of `n` elements of the stream leaves. -/
structure ReadOff (n : Nat) (schedule schedule' : List Outcome) : Prop where
  clean : Clean schedule'
  supply : supply schedule ≤ supply schedule' + n

theorem ReadOff.trans {n n' : Nat} {schedule schedule' schedule'' : List Outcome} (h : ReadOff n schedule schedule')
    (h' : ReadOff n' schedule' schedule'') : ReadOff (n + n') schedule schedule'' := by
  refine ⟨h'.clean, ?_⟩
  have h1 := h.supply
  have h2 := h'.supply
  omega

theorem readLoop_clean (size : Nat) : ∀ (schedule : List Outcome) (acc stream : List α), Clean schedule →
    acc.length ≤ size → size ≤ acc.length + stream.length →
    (readLoop size schedule acc stream = .waiting ∧ supply schedule < size - acc.length) ∨
      ∃ schedule', ReadOff (size - acc.length) schedule schedule' ∧
        readLoop size schedule acc stream =
          .done (acc ++ stream.take (size - acc.length)) ⟨stream.drop (size - acc.length), schedule'⟩ := by
  intro schedule
  induction schedule with
  | nil =>
      intro acc stream hclean hle _
      unfold readLoop
      by_cases hfull : size ≤ acc.length
      · rw [if_pos hfull, show size - acc.length = 0 by omega]
        exact .inr ⟨[], ⟨hclean, le_rfl⟩, by simp⟩
      · rw [if_neg hfull]
        refine .inl ⟨rfl, ?_⟩
        show 0 < size - acc.length
        omega
  | cons o schedule ih =>
      intro acc stream hclean hle hstream
      unfold readLoop
      by_cases hfull : size ≤ acc.length
      · rw [if_pos hfull, show size - acc.length = 0 by omega]
        exact .inr ⟨o :: schedule, ⟨hclean, by omega⟩, by simp⟩
      · rw [if_neg hfull]
        cases o with
        | error => exact absurd rfl (hclean .error List.mem_cons_self).1
        | closed => exact absurd rfl (hclean .closed List.mem_cons_self).2
        | again =>
            have hsupply : supply (.again :: schedule) = supply schedule := by simp [supply]
            rcases ih acc stream hclean.tail hle hstream with ⟨hwait, hfew⟩ | ⟨schedule', hread, hdone⟩
            · exact .inl ⟨hwait, by rw [hsupply]; exact hfew⟩
            · exact .inr ⟨schedule', ⟨hread.clean, by rw [hsupply]; exact hread.supply⟩, hdone⟩
        | got extra =>
            have hsupply : supply (.got extra :: schedule) = supply schedule + 1 := by simp [supply]
            dsimp only
            -- the elements of this read; the loop goes on behind them
            obtain ⟨count, hcount⟩ : ∃ count, count = min (extra + 1) (size - acc.length) := ⟨_, rfl⟩
            have hcount1 : 1 ≤ count := by omega
            have hcount2 : count ≤ size - acc.length := by omega
            have htake : (stream.take count).length = count := by rw [List.length_take]; omega
            rw [← hcount]
            have hacc : (acc ++ stream.take count).length = acc.length + count := by rw [List.length_append, htake]
            rcases ih (acc ++ stream.take count) (stream.drop count) hclean.tail (by omega)
              (by rw [hacc, List.length_drop]; omega) with ⟨hwait, hfew⟩ | ⟨schedule', hread, hdone⟩
            · refine .inl ⟨hwait, ?_⟩
              rw [hsupply]
              omega
            · refine .inr ⟨schedule', ⟨hread.clean, ?_⟩, ?_⟩
              · have h := hread.supply
                rw [hsupply]
                omega
              · have hrest : size - acc.length = count + (size - (acc ++ stream.take count).length) := by omega
                rw [hdone, hrest, List.take_add, List.drop_drop, List.append_assoc]

theorem readLoop_nil {size : Nat} {schedule : List Outcome} (hclean : Clean schedule) (hsize : 0 < size) :
    readLoop size schedule [] ([] : List α) = .waiting := by
  induction schedule with
  | nil => exact if_neg (Nat.not_le.mpr hsize)
  | cons o schedule ih =>
      unfold readLoop
      rw [if_neg (by rw [List.length_nil]; omega)]
      cases o with
      | error => exact absurd rfl (hclean .error List.mem_cons_self).1
      | closed => exact absurd rfl (hclean .closed List.mem_cons_self).2
      | again => exact ih hclean.tail
      | got extra => simpa using ih hclean.tail

/-! ## Readers -/

section Reads

variable {β γ ρ : Type*} (mk : Source α → ρ)

/-- A reader of `n` elements that returns `value`: it has taken them off, or waits because the outcomes were too few.
The source is part of a state that `mk` builds around it. -/
def Reads (s : Source α) (n : Nat) (value : β) (r : Result β ρ) : Prop :=
  (r = .waiting ∧ supply s.schedule < n) ∨
    ∃ schedule', ReadOff n s.schedule schedule' ∧ r = .done value (mk ⟨s.stream.drop n, schedule'⟩)

variable {mk}

theorem reads_done {s : Source α} (hclean : Clean s.schedule) (value : β) :
    Reads mk s 0 value (.done value (mk s)) :=
  .inr ⟨s.schedule, ⟨hclean, le_rfl⟩, rfl⟩

theorem Reads.andThen {s : Source α} {n m : Nat} {value : β} {value' : γ} {r : Result β ρ} {next : β → ρ → Result γ ρ}
    (h : Reads mk s n value r)
    (h' : ∀ schedule', Clean schedule' →
      Reads mk ⟨s.stream.drop n, schedule'⟩ m value' (next value (mk ⟨s.stream.drop n, schedule'⟩))) :
    Reads mk s (n + m) value' (r.andThen next) := by
  rcases h with ⟨rfl, hfew⟩ | ⟨schedule', hread, rfl⟩
  · exact .inl ⟨rfl, by omega⟩
  · have hsupply := hread.supply
    rcases h' schedule' hread.clean with ⟨hwait, hfew⟩ | ⟨schedule'', hread', hdone⟩
    · refine .inl ⟨hwait, ?_⟩
      dsimp only at hfew
      omega
    · refine .inr ⟨schedule'', hread.trans hread', hdone.trans ?_⟩
      rw [List.drop_drop]

theorem Reads.done {s : Source α} {n : Nat} {value : β} {r : Result β ρ} (h : Reads mk s n value r)
    (henough : n ≤ supply s.schedule) :
    ∃ schedule', ReadOff n s.schedule schedule' ∧ r = .done value (mk ⟨s.stream.drop n, schedule'⟩) := by
  rcases h with ⟨-, hfew⟩ | h
  · omega
  · exact h

end Reads

/-- **An exact read** over outcomes without failure. -/
theorem reads_readExact {size : Nat} {s : Source α} (hclean : Clean s.schedule) (hstream : size ≤ s.stream.length) :
    Reads id s size (s.stream.take size) (readExact size s) := by
  have h := readLoop_clean size s.schedule [] s.stream hclean (Nat.zero_le _) (by simpa using hstream)
  unfold Reads readExact
  simpa using h

end EdgeOffloading.PartialRead
