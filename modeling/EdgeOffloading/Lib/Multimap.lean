import Mathlib.Data.List.Nodup
import Mathlib.Tactic

/-!
# Multimaps filled by appending

A multimap gives every key the list of its values, in the order they were appended; `pushAll` appends a list of pairs.

* `pushAll_apply`, `mem_pushAll`: what is under a key after `pushAll`;
* `nodup_pushAll`: when no key gets the same value twice;
* `clearAll_pushAll_iff`: when clearing the keys of some pairs takes away these pairs and nothing else.
-/

namespace EdgeOffloading.Multimap

variable {κ ν : Type*} [DecidableEq κ]

def push (m : κ → List ν) (k : κ) (v : ν) : κ → List ν := Function.update m k (m k ++ [v])

def pushAll (m : κ → List ν) (ps : List (κ × ν)) : κ → List ν := ps.foldl (fun m p => push m p.1 p.2) m

/-- Drop everything under a key. -/
def clear (m : κ → List ν) (k : κ) : κ → List ν := Function.update m k []

def clearAll (m : κ → List ν) (ks : List κ) : κ → List ν := ks.foldl clear m

@[simp] theorem pushAll_nil (m : κ → List ν) : pushAll m [] = m := rfl

@[simp] theorem pushAll_cons (m : κ → List ν) (p : κ × ν) (ps : List (κ × ν)) :
    pushAll m (p :: ps) = pushAll (push m p.1 p.2) ps := rfl

theorem pushAll_append (m : κ → List ν) (ps qs : List (κ × ν)) :
    pushAll m (ps ++ qs) = pushAll (pushAll m ps) qs :=
  List.foldl_append

/-- A key gets the values of its own pairs, in their order. -/
theorem pushAll_apply (m : κ → List ν) (ps : List (κ × ν)) (k : κ) :
    pushAll m ps k = m k ++ (ps.filter fun p => p.1 = k).map Prod.snd := by
  induction ps generalizing m with
  | nil => simp
  | cons p ps ih =>
      rw [pushAll_cons, ih, push]
      by_cases h : p.1 = k
      · rw [List.filter_cons_of_pos (by simpa using h), ← h, Function.update_self]
        simp
      · rw [List.filter_cons_of_neg (by simpa using h), Function.update_of_ne (Ne.symm h)]

theorem mem_push (m : κ → List ν) (k k' : κ) (v v' : ν) :
    v' ∈ push m k v k' ↔ v' ∈ m k' ∨ k' = k ∧ v' = v := by
  unfold push
  by_cases h : k' = k
  · subst h; simp
  · simp [h]

theorem mem_pushAll (m : κ → List ν) (ps : List (κ × ν)) (k : κ) (v : ν) :
    v ∈ pushAll m ps k ↔ v ∈ m k ∨ (k, v) ∈ ps := by
  rw [pushAll_apply, List.mem_append, List.mem_map]
  constructor
  · rintro (h | ⟨p, hp, rfl⟩)
    · exact Or.inl h
    · obtain ⟨hmem, hkey⟩ := List.mem_filter.mp hp
      rw [decide_eq_true_eq] at hkey
      exact Or.inr (hkey ▸ hmem)
  · rintro (h | h)
    · exact Or.inl h
    · exact Or.inr ⟨(k, v), List.mem_filter.mpr ⟨h, decide_eq_true rfl⟩, rfl⟩

/-- The values under a key only grow at the end. -/
theorem prefix_pushAll (m : κ → List ν) (ps : List (κ × ν)) (k : κ) : m k <+: pushAll m ps k := by
  rw [pushAll_apply]
  exact List.prefix_append _ _

theorem nodup_push (m : κ → List ν) (hm : ∀ k, (m k).Nodup) (k : κ) (v : ν) :
    (∀ k', (push m k v k').Nodup) ↔ v ∉ m k := by
  constructor
  · intro h hv
    have := h k
    rw [push, Function.update_self, List.nodup_append] at this
    exact this.2.2 v hv v (by simp) rfl
  · intro h k'
    by_cases hk : k' = k
    · subst hk
      rw [push, Function.update_self, List.nodup_append]
      refine ⟨hm k', by simp, ?_⟩
      rintro a ha b hb rfl
      rw [List.mem_singleton] at hb
      exact h (hb ▸ ha)
    · rw [push, Function.update_of_ne hk]
      exact hm k'

/-- **Appending pairs creates no duplicate iff the pairs are distinct and none of them is there already.** -/
theorem nodup_pushAll (m : κ → List ν) (hm : ∀ k, (m k).Nodup) (ps : List (κ × ν)) :
    (∀ k, (pushAll m ps k).Nodup) ↔ ps.Nodup ∧ ∀ p ∈ ps, p.2 ∉ m p.1 := by
  induction ps generalizing m with
  | nil => simpa using hm
  | cons p ps ih =>
      by_cases hp : p.2 ∈ m p.1
      · have hbad : ¬ ∀ k, (pushAll m (p :: ps) k).Nodup := fun h =>
          (nodup_push m hm p.1 p.2).mp
            (fun k => (h k).sublist (prefix_pushAll (push m p.1 p.2) ps k).sublist) hp
        constructor
        · intro h; exact absurd h hbad
        · rintro ⟨-, h⟩; exact absurd hp (h p (by simp))
      · rw [pushAll_cons, ih _ ((nodup_push m hm p.1 p.2).mpr hp), List.nodup_cons]
        constructor
        · rintro ⟨hnd, hnew⟩
          refine ⟨⟨fun hmem => hnew p hmem ?_, hnd⟩, ?_⟩
          · rw [mem_push]; exact Or.inr ⟨rfl, rfl⟩
          · intro q hq
            rcases List.mem_cons.mp hq with rfl | hq
            · exact hp
            · exact fun h => hnew q hq ((mem_push m _ _ _ _).mpr (Or.inl h))
        · rintro ⟨⟨hpps, hnd⟩, hnew⟩
          refine ⟨hnd, fun q hq hmem => ?_⟩
          rcases (mem_push m _ _ _ _).mp hmem with h | ⟨h1, h2⟩
          · exact hnew q (by simp [hq]) h
          · exact hpps (by rwa [← Prod.ext h1 h2])

/-! ## Clearing -/

theorem clearAll_append (m : κ → List ν) (ks ls : List κ) : clearAll m (ks ++ ls) = clearAll (clearAll m ks) ls :=
  List.foldl_append

theorem clearAll_apply (m : κ → List ν) (ks : List κ) (k : κ) : clearAll m ks k = if k ∈ ks then [] else m k := by
  induction ks generalizing m with
  | nil => rfl
  | cons l ks ih =>
      rw [clearAll, List.foldl_cons, ← clearAll, ih, clear, Function.update_apply]
      by_cases hks : k ∈ ks
      · simp [hks]
      · by_cases hl : k = l <;> simp [hks, hl]

/-- A key without a pair keeps its values, and only such a key does. -/
theorem pushAll_apply_eq_iff (m : κ → List ν) (ps : List (κ × ν)) (k : κ) :
    pushAll m ps k = m k ↔ k ∉ ps.map Prod.fst := by
  rw [pushAll_apply, List.append_right_eq_self, List.map_eq_nil_iff, List.filter_eq_nil_iff]
  simp only [decide_eq_true_eq, List.mem_map, not_exists, not_and]

/-- **Clearing the keys of `ps` undoes the appending of `ps` and leaves `qs`** iff no key of `ps` had values before and
none is a key of `qs`. -/
theorem clearAll_pushAll_iff (m : κ → List ν) (ps qs : List (κ × ν)) :
    (∀ k, clearAll (pushAll (pushAll m ps) qs) (ps.map Prod.fst) k = pushAll m qs k) ↔
      ∀ k ∈ ps.map Prod.fst, m k = [] ∧ k ∉ qs.map Prod.fst := by
  constructor
  · intro h k hk
    have hkey := h k
    rw [clearAll_apply, if_pos hk, pushAll_apply, eq_comm, List.append_eq_nil_iff] at hkey
    refine ⟨hkey.1, (pushAll_apply_eq_iff m qs k).mp ?_⟩
    rw [pushAll_apply, hkey.2, List.append_nil]
  · intro h k
    rw [clearAll_apply]
    split_ifs with hk
    · obtain ⟨hnil, hqs⟩ := h k hk
      rw [(pushAll_apply_eq_iff m qs k).mpr hqs, hnil]
    · rw [pushAll_apply _ qs, (pushAll_apply_eq_iff m ps k).mpr hk, ← pushAll_apply]

end EdgeOffloading.Multimap
