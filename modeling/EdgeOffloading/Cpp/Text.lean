import Mathlib.Data.List.TakeWhile
import Mathlib.Tactic

/-!
# Text conversions of the C++ standard library

`splitAtColon` is `find(':')` with the two `substr` calls around it, `stoi` is `std::stoi` in base ten: leading white
space, an optional sign, digits, anything after them ignored; an empty numeral and a value outside `int` throw (`none`).
-/

namespace EdgeOffloading

/-- The characters before and after the first colon. -/
def splitAtColon : List Char → Option (List Char × List Char)
  | [] => none
  | c :: cs => if c = ':' then some ([], cs) else (splitAtColon cs).map fun p => (c :: p.1, p.2)

def isSpace (c : Char) : Bool := c ∈ [' ', '\t', '\n', '\x0b', '\x0c', '\r']

/-- The value of a decimal numeral, most significant digit first. -/
def digitsValue (ds : List Char) : Nat := ds.foldl (fun n c => 10 * n + (c.toNat - '0'.toNat)) 0

/-- The sign and the rest of a numeral. -/
def takeSign : List Char → Int × List Char
  | '-' :: cs => (-1, cs)
  | '+' :: cs => (1, cs)
  | cs => (1, cs)

def stoi (s : List Char) : Option Int :=
  let (sign, cs) := takeSign (s.dropWhile isSpace)
  let ds := cs.takeWhile Char.isDigit
  if ds = [] then none
  else
    let n := sign * digitsValue ds
    if -(2 ^ 31) ≤ n ∧ n < 2 ^ 31 then some n else none

example : stoi " +60x".toList = some 60 := by decide

/-! ## Numerals that `std::to_string` writes -/

theorem splitAtColon_append {cs : List Char} (h : ':' ∉ cs) (ds : List Char) :
    splitAtColon (cs ++ ':' :: ds) = some (cs, ds) := by
  induction cs with
  | nil => rfl
  | cons c cs ih =>
      obtain ⟨hc, hcs⟩ := not_or.mp (List.mem_cons.not.mp h)
      rw [List.cons_append, splitAtColon, if_neg (Ne.symm hc), ih hcs]
      rfl

/-- The colon that was found stands between the two parts. -/
theorem eq_of_splitAtColon {s cs ds : List Char} (h : splitAtColon s = some (cs, ds)) : s = cs ++ ':' :: ds := by
  induction s generalizing cs with
  | nil => cases h
  | cons c s ih =>
      rw [splitAtColon] at h
      split at h
      · rename_i hc
        cases h
        rw [hc, List.nil_append]
      · obtain ⟨p, hp, heq⟩ := Option.map_eq_some_iff.mp h
        cases heq
        rw [List.cons_append, ← ih hp]

theorem toList_toString (n : Nat) : (toString n).toList = Nat.toDigits 10 n := by
  rw [Nat.toString_eq_repr, Nat.toList_repr]

theorem isDigit_of_mem_toDigits {n : Nat} {c : Char} (h : c ∈ Nat.toDigits 10 n) : c.isDigit = true :=
  Nat.isDigit_of_mem_toDigits (by decide) (by decide) h

theorem colon_notMem_toDigits (n : Nat) : ':' ∉ Nat.toDigits 10 n := fun h =>
  absurd (isDigit_of_mem_toDigits h) (by decide)

theorem takeSign_of_isDigit {c : Char} (hc : c.isDigit = true) (cs : List Char) :
    takeSign (c :: cs) = (1, c :: cs) := by
  unfold takeSign
  split
  · rename_i h
    cases h
    exact absurd hc (by decide)
  · rename_i h
    cases h
    exact absurd hc (by decide)
  · rfl

theorem takeSign_dropWhile_of_isDigit {c : Char} (hc : c.isDigit = true) (cs : List Char) :
    takeSign ((c :: cs).dropWhile isSpace) = (1, c :: cs) := by
  have hspace : isSpace c = false := by
    unfold isSpace
    simp only [List.mem_cons, List.not_mem_nil, or_false, decide_eq_false_iff_not]
    rintro (rfl | rfl | rfl | rfl | rfl | rfl) <;> exact absurd hc (by decide)
  rw [List.dropWhile_cons_of_neg (by rw [hspace]; simp)]
  exact takeSign_of_isDigit hc cs

theorem stoi_range {s : List Char} {n : Int} (h : stoi s = some n) : -(2 ^ 31) ≤ n ∧ n < 2 ^ 31 := by
  unfold stoi at h
  dsimp only at h
  split at h
  · cases h
  · split at h
    · rename_i hrange
      cases h
      exact hrange
    · cases h

/-- Digits alone: their value, if it fits into `int`. -/
theorem stoi_of_isDigit {ds : List Char} (hne : ds ≠ []) (hall : ∀ d ∈ ds, d.isDigit = true) :
    stoi ds = if digitsValue ds < 2 ^ 31 then some (digitsValue ds : Int) else none := by
  obtain ⟨c, cs, rfl⟩ := List.exists_cons_of_ne_nil hne
  unfold stoi
  rw [takeSign_dropWhile_of_isDigit (hall c (by simp))]
  dsimp only
  rw [List.takeWhile_eq_self_iff.mpr hall, if_neg hne, one_mul]
  have hrange : (-(2 ^ 31) ≤ (digitsValue (c :: cs) : Int) ∧ (digitsValue (c :: cs) : Int) < 2 ^ 31) ↔
      digitsValue (c :: cs) < 2 ^ 31 := by omega
  simp only [hrange]

theorem digitsValue_toDigits (n : Nat) : digitsValue (Nat.toDigits 10 n) = n := Nat.ofDigitChars_ten_toDigits

/-- A numeral without a sign: its value, if it fits into `int`. -/
theorem stoi_toDigits_eq (n : Nat) : stoi (Nat.toDigits 10 n) = if n < 2 ^ 31 then some (n : Int) else none := by
  have hall : ∀ d ∈ Nat.toDigits 10 n, d.isDigit = true := fun d hd => isDigit_of_mem_toDigits hd
  rw [stoi_of_isDigit Nat.toDigits_ne_nil hall, digitsValue_toDigits]

/-- **`std::stoi` reads back what `std::to_string` wrote.** -/
theorem stoi_toDigits {n : Nat} (hn : n < 2 ^ 31) : stoi (Nat.toDigits 10 n) = some (n : Int) := by
  rw [stoi_toDigits_eq, if_pos hn]

theorem stoi_neg_toDigits {n : Nat} (hn : n ≤ 2 ^ 31) : stoi ('-' :: Nat.toDigits 10 n) = some (-(n : Int)) := by
  have hall : ∀ d ∈ Nat.toDigits 10 n, d.isDigit = true := fun d hd => isDigit_of_mem_toDigits hd
  unfold stoi
  rw [show takeSign (('-' :: Nat.toDigits 10 n).dropWhile isSpace) = (-1, Nat.toDigits 10 n) from rfl]
  dsimp only
  rw [List.takeWhile_eq_self_iff.mpr hall, if_neg Nat.toDigits_ne_nil, digitsValue_toDigits,
    if_pos (by omega), neg_one_mul]

/-- `std::to_string` of different numbers differs: a digit is no minus sign. -/
theorem toString_int_inj {a : Int} {n : Nat} (h : toString a = toString n) : a = n := by
  have hlist := congrArg String.toList h
  rw [toList_toString] at hlist
  cases a with
  | ofNat k =>
      rw [show toString (Int.ofNat k) = toString k from rfl, toList_toString] at hlist
      have hvalue := congrArg (fun ds => Nat.ofDigitChars 10 ds 0) hlist
      simpa using hvalue
  | negSucc k =>
      rw [show toString (Int.negSucc k) = "-" ++ toString (k + 1) from rfl, String.toList_append] at hlist
      have hminus : '-' ∈ Nat.toDigits 10 n := hlist ▸ List.mem_append_left _ (List.mem_singleton.mpr rfl)
      exact absurd (isDigit_of_mem_toDigits hminus) (by decide)

theorem stoi_toString {n : Int} (hmin : -(2 ^ 31) ≤ n) (hmax : n < 2 ^ 31) : stoi (toString n).toList = some n := by
  cases n with
  | ofNat k =>
      rw [show toString (Int.ofNat k) = toString k from rfl, toList_toString]
      exact stoi_toDigits (by simp at hmax; omega)
  | negSucc k =>
      rw [show toString (Int.negSucc k) = "-" ++ toString (k + 1) from rfl, String.toList_append, toList_toString]
      have h := stoi_neg_toDigits (n := k + 1) (by omega)
      rw [show "-".toList ++ Nat.toDigits 10 (k + 1) = '-' :: Nat.toDigits 10 (k + 1) from rfl, h]
      congr 1

end EdgeOffloading
