import Mathlib.Tactic

/-!
# Resources held by the entries of a list

Every entry holds one resource (`res`). `Exclusive` says that no resource is held twice; then `holder` is the one entry
that holds a resource, and it follows the list when an entry is added to a free resource or entries are dropped.
-/

namespace EdgeOffloading.Allocation

variable {ε ρ : Type*} {res : ε → ρ} {l : List ε}

variable (res) in
/-- No resource is held twice. -/
def Exclusive (l : List ε) : Prop := (l.map res).Nodup

theorem Exclusive.eq_of_res_eq (h : Exclusive res l) {e e' : ε} (he : e ∈ l) (he' : e' ∈ l) (hres : res e = res e') :
    e = e' :=
  List.inj_on_of_nodup_map h he he' hres

theorem exclusive_append_iff {e : ε} : Exclusive res (l ++ [e]) ↔ res e ∉ l.map res ∧ Exclusive res l := by
  unfold Exclusive
  rw [List.map_append, List.map_singleton, ← List.concat_eq_append, List.nodup_concat]

theorem Exclusive.filter (h : Exclusive res l) (p : ε → Bool) : Exclusive res (l.filter p) :=
  h.sublist (List.filter_sublist.map res)

variable [DecidableEq ρ]

variable (res) in
/-- The first entry that holds the resource. -/
def holder (l : List ε) (r : ρ) : Option ε := l.find? fun e => res e = r

theorem holder_eq_none_iff {r : ρ} : holder res l r = none ↔ ∀ e ∈ l, res e ≠ r := by
  simp [holder]

theorem mem_of_holder {r : ρ} {e : ε} (h : holder res l r = some e) : e ∈ l ∧ res e = r :=
  ⟨List.mem_of_find?_eq_some h, by simpa using List.find?_some h⟩

theorem Exclusive.holder_of_mem (h : Exclusive res l) {e : ε} (he : e ∈ l) : holder res l (res e) = some e := by
  cases hh : holder res l (res e) with
  | none => exact absurd rfl (holder_eq_none_iff.mp hh e he)
  | some e' =>
      obtain ⟨hmem, hres⟩ := mem_of_holder hh
      rw [h.eq_of_res_eq hmem he hres]

theorem Exclusive.append_of_free (h : Exclusive res l) {e : ε} (hfree : holder res l (res e) = none) :
    Exclusive res (l ++ [e]) := by
  refine exclusive_append_iff.mpr ⟨fun hmem => ?_, h⟩
  obtain ⟨e', he', hres⟩ := List.mem_map.mp hmem
  exact holder_eq_none_iff.mp hfree e' he' hres

theorem holder_append_self {e : ε} (hfree : holder res l (res e) = none) :
    holder res (l ++ [e]) (res e) = some e := by
  unfold holder at hfree ⊢
  rw [List.find?_append, hfree, Option.none_or]
  simp

theorem holder_append_of_ne {e : ε} {r : ρ} (hne : res e ≠ r) : holder res (l ++ [e]) r = holder res l r := by
  unfold holder
  rw [List.find?_append]
  simp [hne]

/-- A resource whose holder is kept keeps it. -/
theorem Exclusive.holder_filter (h : Exclusive res l) {p : ε → Bool} {r : ρ} (hkeep : ∀ e ∈ l, res e = r → p e = true) :
    holder res (l.filter p) r = holder res l r := by
  cases hh : holder res l r with
  | none =>
      apply holder_eq_none_iff.mpr
      intro e he
      exact holder_eq_none_iff.mp hh e (List.mem_filter.mp he).1
  | some e =>
      obtain ⟨he, rfl⟩ := mem_of_holder hh
      exact (h.filter p).holder_of_mem (List.mem_filter.mpr ⟨he, hkeep e he rfl⟩)

/-- A resource whose holder is dropped is free. -/
theorem holder_filter_dropped {p : ε → Bool} {r : ρ} (hdrop : ∀ e ∈ l, res e = r → p e = false) :
    holder res (l.filter p) r = none := by
  apply holder_eq_none_iff.mpr
  intro e he hres
  obtain ⟨he, hp⟩ := List.mem_filter.mp he
  rw [hdrop e he hres] at hp
  cases hp

end EdgeOffloading.Allocation
