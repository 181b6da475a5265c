import EdgeOffloading.Manager.DiscoveryClient

/-!
# Text conversions of Python

`str.strip` takes white space off both ends of a text and nothing out of its middle; `int` reads back what `str` and
`std::to_string` write.

* `stripBy_of_head`: only the end of the text is stripped when its first character is no space;
* `pyInt_toString`: `int(str(n))` is `n`.
-/

namespace EdgeOffloading

/-! ## `str.strip` -/

variable {space : Char → Bool} {a b : Char}

theorem stripBy_of_head (mid tail : List Char) (ha : space a = false) (hb : space b = false) :
    stripBy space (a :: (mid ++ b :: tail)) = a :: (mid ++ b :: (tail.reverse.dropWhile space).reverse) := by
  unfold stripBy
  rw [List.dropWhile_cons_of_neg (by simp [ha])]
  have hrev : (a :: (mid ++ b :: tail)).reverse = tail.reverse ++ b :: (mid.reverse ++ [a]) := by simp
  rw [hrev, List.dropWhile_append]
  split
  · rename_i hempty
    rw [List.isEmpty_iff.mp hempty, List.dropWhile_cons_of_neg (by simp [hb])]
    simp
  · simp

theorem stripBy_of_ends (mid : List Char) (ha : space a = false) (hb : space b = false) :
    stripBy space (a :: (mid ++ [b])) = a :: (mid ++ [b]) :=
  stripBy_of_head mid [] ha hb

theorem stripBy_singleton (ha : space a = false) : stripBy space [a] = [a] := by
  have hnone : [a].dropWhile space = [a] := List.dropWhile_cons_of_neg (by simp [ha])
  unfold stripBy
  rw [hnone, List.reverse_singleton, hnone, List.reverse_singleton]

/-! ## `int` -/

theorem isIntSpace_of_isDigit {c : Char} (h : c.isDigit = true) : isIntSpace c = false := by
  have hrange : 48 ≤ c.toNat ∧ c.toNat ≤ 57 := Char.isDigit_iff_toNat.mp h
  obtain ⟨hlo, hhi⟩ := hrange
  have hspace : isPySpace c = false := by
    simp only [isPySpace, Bool.or_eq_false_iff, Bool.and_eq_false_iff, decide_eq_false_iff_not]
    omega
  rw [isIntSpace, hspace, Bool.false_and]

theorem groupedDigits_of_digits {ds : List Char} (hne : ds ≠ []) (h : ∀ d ∈ ds, d.isDigit = true) :
    groupedDigits ds = some ds := by
  induction ds with
  | nil => exact absurd rfl hne
  | cons c cs ih =>
      have hc : c.isDigit = true := h c List.mem_cons_self
      cases cs with
      | nil => rw [groupedDigits, if_pos hc]
      | cons d cs =>
          have hd : d ≠ '_' := by
            rintro rfl
            exact absurd (h '_' (List.mem_cons_of_mem _ List.mem_cons_self)) (by decide)
          rw [groupedDigits]
          · rw [if_pos hc, ih (List.cons_ne_nil d cs) fun e he => h e (List.mem_cons_of_mem _ he)]
            rfl
          · exact List.cons_ne_nil d cs
          · exact fun cs' heq => hd (List.cons.inj heq).1

theorem pyInt_of_digits {s : String} {sign : Int} {ds : List Char} (hstrip : stripBy isIntSpace s.toList = s.toList)
    (hsign : takeSign s.toList = (sign, ds)) (hne : ds ≠ []) (hall : ∀ d ∈ ds, d.isDigit = true) :
    pyInt s = some (sign * digitsValue ds) := by
  unfold pyInt
  rw [hstrip, hsign]
  dsimp only
  rw [groupedDigits_of_digits hne hall, Option.map_some]

theorem pyInt_toString_nat (n : Nat) : pyInt (toString n) = some (n : Int) := by
  have hall : ∀ d ∈ Nat.toDigits 10 n, d.isDigit = true := fun d hd => isDigit_of_mem_toDigits hd
  obtain ⟨c, cs, hcs⟩ := List.exists_cons_of_ne_nil (Nat.toDigits_ne_nil (b := 10) (n := n))
  have hspace : ∀ d ∈ c :: cs, isIntSpace d = false := fun d hd => isIntSpace_of_isDigit (hall d (hcs ▸ hd))
  have hstrip : stripBy isIntSpace (toString n).toList = (toString n).toList := by
    rw [toList_toString, hcs]
    rcases List.eq_nil_or_concat cs with rfl | ⟨mid, b, rfl⟩
    · exact stripBy_singleton (hspace c List.mem_cons_self)
    · rw [List.concat_eq_append]
      exact stripBy_of_ends mid (hspace c List.mem_cons_self) (hspace b (by simp))
  have hsign : takeSign (toString n).toList = (1, Nat.toDigits 10 n) := by
    rw [toList_toString, hcs]
    exact takeSign_of_isDigit (hall c (hcs ▸ List.mem_cons_self)) cs
  rw [pyInt_of_digits hstrip hsign Nat.toDigits_ne_nil hall, digitsValue_toDigits, one_mul]

/-- **`int(str(n))`** is `n`. -/
theorem pyInt_toString (n : Int) : pyInt (toString n) = some n := by
  cases n with
  | ofNat k => exact pyInt_toString_nat k
  | negSucc k =>
      have hall : ∀ d ∈ Nat.toDigits 10 (k + 1), d.isDigit = true := fun d hd => isDigit_of_mem_toDigits hd
      have htext : (toString (Int.negSucc k)).toList = '-' :: Nat.toDigits 10 (k + 1) := by
        rw [show toString (Int.negSucc k) = "-" ++ toString (k + 1) from rfl, String.toList_append, toList_toString]
        rfl
      have hstrip : stripBy isIntSpace (toString (Int.negSucc k)).toList = (toString (Int.negSucc k)).toList := by
        rw [htext, ← List.dropLast_append_getLast (Nat.toDigits_ne_nil (b := 10) (n := k + 1))]
        exact stripBy_of_ends _ (by decide) (isIntSpace_of_isDigit (hall _ (List.getLast_mem _)))
      have hsign : takeSign (toString (Int.negSucc k)).toList = (-1, Nat.toDigits 10 (k + 1)) := by
        rw [htext]
        rfl
      rw [pyInt_of_digits hstrip hsign Nat.toDigits_ne_nil hall, digitsValue_toDigits]
      exact congrArg some (by omega)

end EdgeOffloading
