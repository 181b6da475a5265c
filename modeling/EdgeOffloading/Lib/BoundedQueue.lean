import Mathlib.Tactic

/-!
# Bounded queues

A first-in first-out queue that never holds more than its capacity. `tryEnqueue` refuses an element when the queue is
full and changes nothing then; `tryDequeue` takes the oldest element off.
-/

namespace EdgeOffloading

structure BoundedQueue (α : Type*) where
  capacity : Nat
  items : List α
  bounded : items.length ≤ capacity

namespace BoundedQueue

variable {α : Type*} (q : BoundedQueue α)

def full : Bool := q.items.length = q.capacity

theorem length_concat_le (a : α) (h : q.items.length < q.capacity) : (q.items ++ [a]).length ≤ q.capacity := by
  rw [List.length_append]
  exact h

def tryEnqueue (a : α) : Option (BoundedQueue α) :=
  if h : q.items.length < q.capacity then some ⟨q.capacity, q.items ++ [a], q.length_concat_le a h⟩ else none

theorem length_tail_le : q.items.tail.length ≤ q.capacity := by
  rw [List.length_tail]
  exact (Nat.sub_le _ _).trans q.bounded

/-- The oldest element with what is left. -/
def tryDequeue : Option (α × BoundedQueue α) :=
  q.items.head?.map fun a => (a, ⟨q.capacity, q.items.tail, q.length_tail_le⟩)

theorem tryEnqueue_isSome_iff (a : α) : (q.tryEnqueue a).isSome = true ↔ q.full = false := by
  have hle := q.bounded
  unfold tryEnqueue full
  split_ifs with h
  · simp [h.ne]
  · simp only [Option.isSome_none, Bool.false_eq_true, decide_eq_false_iff_not, false_iff, not_not]
    omega

end BoundedQueue

end EdgeOffloading
