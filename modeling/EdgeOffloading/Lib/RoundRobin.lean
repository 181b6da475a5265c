import Mathlib.Data.List.Rotate
import Mathlib.Tactic

/-!
# Taking turns

A list is served in turn by an index that points behind the entry served last. The index may be left behind the end of
the list, by serving its last entry or because the list got shorter; then the next turn starts over.

* `turns_eq_map`: the entries that a number of turns serve, by their positions;
* `turns_mul`: as many turns as the list is long, or a multiple, serve the rotated list again and again;
* `count_turns`: so each entry has its turn exactly once a round, wherever the index was.
-/

namespace EdgeOffloading.RoundRobin

variable {α : Type*}

/-- The position that is served next. -/
def start (l : List α) (idx : Nat) : Nat := if l.length ≤ idx then 0 else idx

/-- The index after a turn, and the entry that is served. -/
def turn (l : List α) (idx : Nat) : Nat × Option α :=
  if l = [] then (idx, none) else (start l idx + 1, l[start l idx]?)

def turns (l : List α) : Nat → Nat → List (Option α)
  | _, 0 => []
  | idx, m + 1 => (turn l idx).2 :: turns l (turn l idx).1 m

variable {l : List α}

theorem start_lt (hl : l ≠ []) (idx : Nat) : start l idx < l.length := by
  have hpos := List.length_pos_iff.mpr hl
  unfold start
  split <;> omega

theorem start_succ {p : Nat} (hp : p < l.length) : start l (p + 1) = (p + 1) % l.length := by
  unfold start
  split
  · rw [show p + 1 = l.length by omega, Nat.mod_self]
  · rw [Nat.mod_eq_of_lt (by omega)]

/-- **The positions of the entries that are served.** -/
theorem turns_eq_map (hl : l ≠ []) (m : Nat) :
    ∀ idx, turns l idx m = (List.range m).map fun j => l[(start l idx + j) % l.length]? := by
  induction m with
  | zero => intro idx; rfl
  | succ m ih =>
      intro idx
      have hp := start_lt hl idx
      have hturn : turn l idx = (start l idx + 1, l[start l idx]?) := if_neg hl
      have hfirst : l[start l idx]? = l[(start l idx + 0) % l.length]? := by
        rw [Nat.add_zero, Nat.mod_eq_of_lt hp]
      rw [turns, hturn, ih, start_succ hp, List.range_succ_eq_map, List.map_cons, List.map_map, ← hfirst]
      congr 1
      apply List.map_congr_left
      intro j _
      show l[((start l idx + 1) % l.length + j) % l.length]? = l[(start l idx + (j + 1)) % l.length]?
      rw [Nat.mod_add_mod, Nat.add_assoc, Nat.add_comm 1 j]

theorem round_eq_rotate {p : Nat} (hp : p < l.length) :
    (List.range l.length).map (fun j => l[(p + j) % l.length]?) = (l.rotate p).map some := by
  apply List.ext_getElem
  · rw [List.length_map, List.length_range, List.length_map, List.length_rotate]
  · intro j hj hj'
    have hlt : (j + p) % l.length < l.length := Nat.mod_lt _ (by omega)
    rw [List.getElem_map, List.getElem_map, List.getElem_range, List.getElem_rotate, Nat.add_comm p j,
      List.getElem?_eq_getElem hlt]

theorem turns_mul (hl : l ≠ []) (idx k : Nat) :
    turns l idx (k * l.length) = (List.replicate k ((l.rotate (start l idx)).map some)).flatten := by
  rw [turns_eq_map hl]
  induction k with
  | zero => rw [Nat.zero_mul]; rfl
  | succ k ih =>
      rw [Nat.succ_mul, List.range_add, List.map_append, ih, List.replicate_succ', List.flatten_concat,
        ← round_eq_rotate (start_lt hl idx), List.map_map]
      congr 1
      apply List.map_congr_left
      intro j _
      show l[(start l idx + (k * l.length + j)) % l.length]? = l[(start l idx + j) % l.length]?
      rw [Nat.add_left_comm, Nat.mul_add_mod_self_right]

/-- **Everyone has the same number of turns.** -/
theorem count_turns [DecidableEq α] (hl : l.Nodup) {a : α} (ha : a ∈ l) (idx k : Nat) :
    (turns l idx (k * l.length)).count (some a) = k := by
  have hround : ((l.rotate (start l idx)).map some).count (some a) = 1 := by
    rw [List.count_map_of_injective _ _ (Option.some_injective α), (List.rotate_perm l _).count_eq]
    exact List.count_eq_one_of_mem hl ha
  rw [turns_mul (List.ne_nil_of_mem ha), List.count_flatten, List.map_replicate, hround, List.sum_replicate]
  simp

theorem mem_of_mem_turns (hl : l ≠ []) {idx m : Nat} {o : Option α} (ho : o ∈ turns l idx m) : ∃ a ∈ l, o = some a := by
  rw [turns_eq_map hl] at ho
  obtain ⟨j, -, rfl⟩ := List.mem_map.mp ho
  have hlt : (start l idx + j) % l.length < l.length := Nat.mod_lt _ (List.length_pos_iff.mpr hl)
  exact ⟨_, List.getElem_mem hlt, List.getElem?_eq_getElem hlt⟩

end EdgeOffloading.RoundRobin
