import Mathlib.Tactic

/-!
# Queues with several producers

A mailbox keeps the elements of each producer in their order and promises nothing about elements of different
producers: the consumer may get the oldest element of any of them next. Beside what waits stands the history, what each
producer has given and what has been taken.

* `Mailbox.accounted`: what has been taken of a producer and what waits of it is what it has given, in its order;
* `Mailbox.taken_le_given`: so what has been taken of a producer are the first elements it has given;
* `part_concat`: one more element of some producer.
-/

namespace EdgeOffloading

variable {ι α : Type*} [DecidableEq ι]

/-- The elements of producer `i`. -/
def part (i : ι) (order : List (ι × α)) : List α := (order.filter fun p => p.1 = i).map Prod.snd

@[simp] theorem part_nil (i : ι) : part i ([] : List (ι × α)) = [] := rfl

theorem part_append (i : ι) (order order' : List (ι × α)) :
    part i (order ++ order') = part i order ++ part i order' := by
  unfold part
  rw [List.filter_append, List.map_append]

theorem part_concat (i j : ι) (order : List (ι × α)) (a : α) :
    part i (order ++ [(j, a)]) = part i order ++ if j = i then [a] else [] := by
  rw [part_append]
  unfold part
  by_cases h : j = i
  · simp [h]
  · simp [h]

theorem mem_part {i : ι} {order : List (ι × α)} {a : α} : a ∈ part i order ↔ (i, a) ∈ order := by
  unfold part
  simp only [List.mem_map, List.mem_filter, decide_eq_true_eq]
  constructor
  · rintro ⟨⟨j, b⟩, ⟨hmem, rfl⟩, rfl⟩
    exact hmem
  · intro h
    exact ⟨(i, a), ⟨h, rfl⟩, rfl⟩

/-- The elements that wait, by their producer, with the history that accounts for them. -/
structure Mailbox (ι α : Type*) [DecidableEq ι] where
  waiting : ι → List α
  given : ι → List α
  taken : List (ι × α)
  accounted : ∀ i, part i taken ++ waiting i = given i

namespace Mailbox

def empty : Mailbox ι α := ⟨fun _ => [], fun _ => [], [], fun _ => rfl⟩

variable (m : Mailbox ι α)

def put (i : ι) (a : α) : Mailbox ι α where
  waiting := Function.update m.waiting i (m.waiting i ++ [a])
  given := Function.update m.given i (m.given i ++ [a])
  taken := m.taken
  accounted := by
    intro j
    rw [Function.update_apply, Function.update_apply]
    split_ifs with hj
    · rw [← List.append_assoc, hj, m.accounted i]
    · exact m.accounted j

/-- The oldest element of producer `i`, with what is left. -/
def take (i : ι) : Option (α × Mailbox ι α) :=
  match h : m.waiting i with
  | [] => none
  | a :: rest =>
    some (a, {
      waiting := Function.update m.waiting i rest
      given := m.given
      taken := m.taken ++ [(i, a)]
      accounted := by
        intro j
        rw [part_concat, Function.update_apply, ← m.accounted j]
        by_cases hj : j = i
        · rw [if_pos hj, if_pos hj.symm, hj, h, List.append_assoc, List.singleton_append]
        · rw [if_neg hj, if_neg (Ne.symm hj), List.append_nil] })

theorem given_put (i j : ι) (a : α) : (m.put i a).given j = m.given j ++ if j = i then [a] else [] := by
  simp only [put, Function.update_apply]
  split_ifs with hj
  · rw [hj]
  · rw [List.append_nil]

@[simp] theorem taken_put (i : ι) (a : α) : (m.put i a).taken = m.taken := rfl

/-- What taking does. -/
theorem take_some {m m' : Mailbox ι α} {i : ι} {a : α} (h : m.take i = some (a, m')) :
    (∃ rest, m.waiting i = a :: rest ∧ m'.waiting = Function.update m.waiting i rest) ∧ m'.given = m.given ∧
      m'.taken = m.taken ++ [(i, a)] := by
  unfold take at h
  split at h
  · cases h
  · rename_i b rest hwaiting
    obtain ⟨rfl, rfl⟩ := Prod.mk.inj (Option.some.inj h)
    exact ⟨⟨rest, hwaiting, rfl⟩, rfl, rfl⟩

/-- **What has been taken of a producer** are the first elements it has given. -/
theorem taken_le_given (i : ι) : part i m.taken <+: m.given i := by
  rw [← m.accounted i]
  exact List.prefix_append _ _

end Mailbox

end EdgeOffloading
