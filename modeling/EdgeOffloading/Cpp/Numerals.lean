import EdgeOffloading.Cpp.Text

/-!
# Decimal numerals

`std::stoi` reads more than numerals: white space, a sign and what follows the digits are no part of the number. Two
stricter notions to compare it with:

* `IsNumeral ds n`: digits alone, with the value `n`; leading zeros are allowed;
* `Plain ds`: digits alone and no superfluous zero, which is what `std::to_string` writes (`plain_toDigits`,
  `toDigits_digitsValue`).
-/

namespace EdgeOffloading

/-- The characters are digits and nothing else, and their value is `n`. -/
def IsNumeral (ds : List Char) (n : Nat) : Prop := ds ≠ [] ∧ (∀ d ∈ ds, d.isDigit = true) ∧ digitsValue ds = n

/-- Digits alone, the first of several not `0`. -/
def Plain (ds : List Char) : Prop :=
  ds ≠ [] ∧ (∀ d ∈ ds, d.isDigit = true) ∧ (1 < ds.length → ds.head? ≠ some '0')

instance (ds : List Char) : Decidable (Plain ds) :=
  inferInstanceAs (Decidable (ds ≠ [] ∧ (∀ d ∈ ds, d.isDigit = true) ∧ (1 < ds.length → ds.head? ≠ some '0')))

theorem stoi_nil : stoi [] = none := rfl

theorem isNumeral_iff {ds : List Char} (hall : ∀ d ∈ ds, d.isDigit = true) {n : Nat} (hn : n < 2 ^ 31) :
    IsNumeral ds n ↔ stoi ds = some (n : Int) := by
  constructor
  · rintro ⟨hne, -, rfl⟩
    rw [stoi_of_isDigit hne hall, if_pos hn]
  · intro h
    have hne : ds ≠ [] := by
      rintro rfl
      rw [stoi_nil] at h
      cases h
    rw [stoi_of_isDigit hne hall] at h
    split at h
    · have hvalue := Option.some.inj h
      exact ⟨hne, hall, by omega⟩
    · cases h

/-! ## What `std::to_string` writes -/

theorem digitsValue_concat (ds : List Char) (d : Char) :
    digitsValue (ds ++ [d]) = 10 * digitsValue ds + (d.toNat - '0'.toNat) := by
  unfold digitsValue
  rw [List.foldl_append]
  rfl

theorem toNat_of_isDigit {d : Char} (h : d.isDigit = true) : 48 ≤ d.toNat ∧ d.toNat ≤ 57 :=
  Char.isDigit_iff_toNat.mp h

theorem digitChar_of_isDigit {d : Char} (h : d.isDigit = true) : Nat.digitChar (d.toNat - '0'.toNat) = d := by
  obtain ⟨hmin, hmax⟩ := toNat_of_isDigit h
  have hd : d = Char.ofNat d.toNat := (Char.ofNat_toNat d).symm
  rw [hd]
  generalize d.toNat = k at hmin hmax
  interval_cases k <;> decide

theorem head_toDigits_ne {n : Nat} (hn : 0 < n) : (Nat.toDigits 10 n).head? ≠ some '0' := by
  induction n using Nat.strong_induction_on with
  | _ n ih =>
      rcases lt_or_ge n 10 with hlt | hge
      · rw [Nat.toDigits_of_lt_base hlt]
        simp
        omega
      · rw [Nat.toDigits_of_base_le (by decide) hge, List.head?_append_of_ne_nil _ Nat.toDigits_ne_nil]
        exact ih (n / 10) (by omega) (by omega)

theorem plain_toDigits (n : Nat) : Plain (Nat.toDigits 10 n) := by
  refine ⟨Nat.toDigits_ne_nil, fun d hd => isDigit_of_mem_toDigits hd, fun hlen => ?_⟩
  apply head_toDigits_ne
  by_contra hzero
  obtain rfl : n = 0 := by omega
  rw [Nat.toDigits_zero] at hlen
  exact absurd hlen (by decide)

/-- The digits before the last are plain too, and their value is not zero. -/
theorem Plain.of_concat {ds : List Char} {d : Char} (h : Plain (ds ++ [d])) (hne : ds ≠ []) :
    Plain ds ∧ ds.head? ≠ some '0' := by
  obtain ⟨-, hall, hhead⟩ := h
  have hlen : 0 < ds.length := List.length_pos_iff.mpr hne
  have hzero : ds.head? ≠ some '0' := by
    have := hhead (by simp; omega)
    rwa [List.head?_append_of_ne_nil _ hne] at this
  exact ⟨⟨hne, fun c hc => hall c (List.mem_append_left _ hc), fun _ => hzero⟩, hzero⟩

/-- **A plain numeral is what `std::to_string` writes for its value.** -/
theorem toDigits_digitsValue {ds : List Char} (h : Plain ds) : Nat.toDigits 10 (digitsValue ds) = ds := by
  induction ds using List.reverseRecOn with
  | nil => exact absurd rfl h.1
  | append_singleton ds d ih =>
      have hd : d.isDigit = true := h.2.1 d (by simp)
      obtain ⟨hmin, hmax⟩ := toNat_of_isDigit hd
      have hbase : d.toNat - '0'.toNat < 10 := by
        rw [show '0'.toNat = 48 from rfl]
        omega
      rw [digitsValue_concat]
      by_cases hne : ds = []
      · subst hne
        rw [show digitsValue [] = 0 from rfl, Nat.mul_zero, Nat.zero_add, Nat.toDigits_of_lt_base hbase,
          digitChar_of_isDigit hd]
        rfl
      · obtain ⟨hds, hhead⟩ := h.of_concat hne
        -- a value of zero would be written with a zero in front
        have hpos : 0 < digitsValue ds := by
          by_contra hzero
          have hnil := ih hds
          rw [show digitsValue ds = 0 by omega, Nat.toDigits_zero] at hnil
          rw [← hnil] at hhead
          exact hhead rfl
        rw [← Nat.toDigits_append_toDigits (by decide) hpos hbase, ih hds, Nat.toDigits_of_lt_base hbase,
          digitChar_of_isDigit hd]

/-- A plain numeral is the one of the `int` that `std::stoi` reads. -/
theorem eq_toDigits_of_stoi {ds : List Char} (h : Plain ds) {n : Nat} (hn : stoi ds = some (n : Int)) :
    ds = Nat.toDigits 10 n := by
  rw [stoi_of_isDigit h.1 h.2.1] at hn
  split at hn
  · have hvalue := Option.some.inj hn
    rw [← toDigits_digitsValue h]
    congr 1
    omega
  · cases hn

end EdgeOffloading
