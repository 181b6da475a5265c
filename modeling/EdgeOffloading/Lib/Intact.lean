import Mathlib.Tactic

/-!
# Streams of whole blocks

Blocks are written to a stream one after the other, some of them not at all and the last one perhaps not to its end.

* `Whole xs w`: the stream `w` is some of the blocks `xs`, in their order;
* `Intact xs w`: it is so up to the end of the last one.

A stream that is whole may take the next block (`Whole.append`) or a part of it (`Whole.intact_append`).
-/

namespace EdgeOffloading

variable {α : Type*} {xs ys : List (List α)} {w x : List α}

/-- Some of the blocks, each of them to its end. -/
def Whole (xs : List (List α)) (w : List α) : Prop := ∃ bs : List (List α), bs.Sublist xs ∧ w = bs.flatten

/-- Some of the blocks, the last one perhaps not to its end. -/
def Intact (xs : List (List α)) (w : List α) : Prop := ∃ bs : List (List α), bs.Sublist xs ∧ w <+: bs.flatten

instance [DecidableEq α] (xs : List (List α)) (w : List α) : Decidable (Intact xs w) :=
  decidable_of_iff (∃ bs ∈ xs.sublists, w <+: bs.flatten) (exists_congr fun _ => and_congr_left' List.mem_sublists)

theorem whole_nil (xs : List (List α)) : Whole xs [] := ⟨[], List.nil_sublist xs, rfl⟩

theorem intact_nil (xs : List (List α)) : Intact xs [] := ⟨[], List.nil_sublist xs, List.nil_prefix⟩

theorem Whole.intact (h : Whole xs w) : Intact xs w := by
  obtain ⟨bs, hbs, rfl⟩ := h
  exact ⟨bs, hbs, List.prefix_rfl⟩

theorem Whole.mono (h : Whole xs w) (hxs : xs.Sublist ys) : Whole ys w := by
  obtain ⟨bs, hbs, rfl⟩ := h
  exact ⟨bs, hbs.trans hxs, rfl⟩

theorem Intact.mono (h : Intact xs w) (hxs : xs.Sublist ys) : Intact ys w := by
  obtain ⟨bs, hbs, hw⟩ := h
  exact ⟨bs, hbs.trans hxs, hw⟩

/-- The next block is written. -/
theorem Whole.append (h : Whole xs w) (x : List α) : Whole (xs ++ [x]) (w ++ x) := by
  obtain ⟨bs, hbs, rfl⟩ := h
  refine ⟨bs ++ [x], hbs.append (List.Sublist.refl [x]), ?_⟩
  rw [List.flatten_append, List.flatten_singleton]

/-- The next block is begun. -/
theorem Whole.intact_append (h : Whole xs w) (x : List α) (n : Nat) : Intact (xs ++ [x]) (w ++ x.take n) := by
  obtain ⟨bs, hbs, hw⟩ := h.append x
  refine ⟨bs, hbs, ?_⟩
  rw [← hw]
  exact (List.prefix_append_right_inj w).mpr (List.take_prefix n x)

end EdgeOffloading
