import Mathlib.Tactic

/-!
# Delimited lines

A line is its fields with a delimiter between them (`List.intercalate`). `fields d s` reads a line the way a loop of
`std::getline` with the delimiter `d` does: a delimiter ends a field, and the end of the line ends one only if there is
something in it. So a line that ends in a delimiter loses its last, empty field:

* `fields_intercalate`: fields free of the delimiter, the last one not empty, are read back;
* `fields_intercalate_nil`: with an empty last field, all the others are;
* `notMem_of_mem_fields`: what is read is free of the delimiter, whatever the line was;
* `intercalate_fields`: with the delimiters put back, the line is lost up to a delimiter at its end;
* `fields_intercalate_eq_iff`: the lists of fields that come back.
-/

namespace EdgeOffloading.Fields

variable {α : Type*} [DecidableEq α] {d : α}

/-- The fields of a line, as repeated `std::getline` calls return them. -/
def fields (d : α) : List α → List (List α)
  | [] => []
  | c :: s =>
      if c = d then [] :: fields d s
      else
        match fields d s with
        | [] => [[c]]
        | f :: fs => (c :: f) :: fs

theorem fields_nil : fields d [] = [] := rfl

theorem fields_cons_self (s : List α) : fields d (d :: s) = [] :: fields d s := if_pos rfl

theorem fields_cons_of_ne {c : α} (h : c ≠ d) {s f : List α} {fs : List (List α)} (hs : fields d s = f :: fs) :
    fields d (c :: s) = (c :: f) :: fs := by
  rw [fields, if_neg h, hs]

theorem fields_append_cons {f : List α} (hf : d ∉ f) (s : List α) : fields d (f ++ d :: s) = f :: fields d s := by
  induction f with
  | nil => exact fields_cons_self s
  | cons c f ih =>
      obtain ⟨hc, hf⟩ := not_or.mp (List.mem_cons.not.mp hf)
      exact fields_cons_of_ne (Ne.symm hc) (ih hf)

theorem fields_of_notMem {f : List α} (hf : d ∉ f) (hne : f ≠ []) : fields d f = [f] := by
  induction f with
  | nil => exact absurd rfl hne
  | cons c f ih =>
      obtain ⟨hc, hf⟩ := not_or.mp (List.mem_cons.not.mp hf)
      rcases eq_or_ne f [] with rfl | hne'
      · rw [fields, if_neg (Ne.symm hc), fields_nil]
      · exact fields_cons_of_ne (Ne.symm hc) (ih hf hne')

theorem notMem_of_mem_fields {s f : List α} (hf : f ∈ fields d s) : d ∉ f := by
  induction s generalizing f with
  | nil => exact absurd hf List.not_mem_nil
  | cons c s ih =>
      by_cases hc : c = d
      · rw [hc, fields_cons_self] at hf
        rcases List.mem_cons.mp hf with rfl | hf
        · exact List.not_mem_nil
        · exact ih hf
      · cases hs : fields d s with
        | nil =>
            rw [fields, if_neg hc, hs] at hf
            rw [List.mem_singleton.mp hf]
            exact fun hd => hc (List.mem_singleton.mp hd).symm
        | cons g gs =>
            rw [fields_cons_of_ne hc hs] at hf
            rw [hs] at ih
            rcases List.mem_cons.mp hf with rfl | hf
            · exact List.not_mem_cons_of_ne_of_not_mem (Ne.symm hc) (ih List.mem_cons_self)
            · exact ih (List.mem_cons_of_mem g hf)

theorem fields_intercalate_append {fs : List (List α)} (hfs : ∀ f ∈ fs, d ∉ f) (s : List α) :
    fields d ([d].intercalate (fs ++ [s])) = fs ++ fields d s := by
  induction fs with
  | nil => rw [List.nil_append, List.intercalate_singleton, List.nil_append]
  | cons f fs ih =>
      have hne : fs ++ [s] ≠ [] := List.append_ne_nil_of_right_ne_nil fs (List.cons_ne_nil s [])
      rw [List.cons_append, List.intercalate_cons_of_ne_nil hne, List.append_assoc, List.singleton_append,
        fields_append_cons (hfs f List.mem_cons_self), ih fun g hg => hfs g (List.mem_cons_of_mem f hg)]
      rfl

/-- **A line whose last field is not empty is read back.** -/
theorem fields_intercalate {fs : List (List α)} {l : List α} (hfs : ∀ f ∈ fs, d ∉ f) (hl : d ∉ l) (hne : l ≠ []) :
    fields d ([d].intercalate (fs ++ [l])) = fs ++ [l] := by
  rw [fields_intercalate_append hfs, fields_of_notMem hl hne]

/-- **An empty last field is lost.** -/
theorem fields_intercalate_nil {fs : List (List α)} (hfs : ∀ f ∈ fs, d ∉ f) :
    fields d ([d].intercalate (fs ++ [[]])) = fs := by
  rw [fields_intercalate_append hfs, fields_nil, List.append_nil]

/-! ## The law of the two -/

theorem fields_eq_nil_iff {s : List α} : fields d s = [] ↔ s = [] := by
  constructor
  · intro h
    cases s with
    | nil => rfl
    | cons c s =>
        by_cases hc : c = d
        · rw [hc, fields_cons_self] at h
          exact absurd h (List.cons_ne_nil _ _)
        · cases hs : fields d s with
          | nil =>
              rw [fields, if_neg hc, hs] at h
              exact absurd h (List.cons_ne_nil _ _)
          | cons f fs =>
              rw [fields_cons_of_ne hc hs] at h
              exact absurd h (List.cons_ne_nil _ _)
  · rintro rfl
    exact fields_nil

theorem intercalate_cons_head {β : Type*} (d c : β) (f : List β) (fs : List (List β)) :
    [d].intercalate ((c :: f) :: fs) = c :: [d].intercalate (f :: fs) := by
  cases fs with
  | nil => rw [List.intercalate_singleton, List.intercalate_singleton]
  | cons g gs =>
      have hne : g :: gs ≠ [] := List.cons_ne_nil g gs
      rw [List.intercalate_cons_of_ne_nil hne, List.intercalate_cons_of_ne_nil hne]
      rfl

/-- **A line is its fields with the delimiters between them**, up to a delimiter at its end. -/
theorem intercalate_fields (d : α) (s : List α) :
    [d].intercalate (fields d s) = if s.getLast? = some d then s.dropLast else s := by
  induction s with
  | nil => rfl
  | cons c s ih =>
      -- the last character of a longer line is behind its first one
      have htail : s ≠ [] →
          (if (c :: s).getLast? = some d then (c :: s).dropLast else c :: s) =
            c :: if s.getLast? = some d then s.dropLast else s := by
        intro hne
        rw [List.getLast?_cons_of_ne_nil hne, List.dropLast_cons_of_ne_nil hne]
        split <;> rfl
      by_cases hc : c = d
      · rw [hc, fields_cons_self]
        rw [hc] at htail
        rcases eq_or_ne s [] with rfl | hne
        · rw [fields_nil, List.intercalate_singleton, List.getLast?_singleton, if_pos rfl]
          rfl
        · rw [htail hne, List.intercalate_cons_of_ne_nil (fields_eq_nil_iff.not.mpr hne), ih]
          rfl
      · rcases eq_or_ne s [] with rfl | hne
        · have hlast : ([c] : List α).getLast? ≠ some d := by
            intro h
            exact hc (Option.some.inj h)
          rw [fields, if_neg hc, fields_nil, List.intercalate_singleton, if_neg hlast]
        · obtain ⟨f, fs, hs⟩ := List.exists_cons_of_ne_nil (fields_eq_nil_iff.not.mpr hne : fields d s ≠ [])
          rw [fields_cons_of_ne hc hs, intercalate_cons_head, ← hs, ih, htail hne]

/-- **Fields come back unless the last of them is empty.** -/
theorem fields_intercalate_eq_iff {ts : List (List α)} (hts : ∀ t ∈ ts, d ∉ t) :
    fields d ([d].intercalate ts) = ts ↔ ts = [] ∨ ∃ t, ts.getLast? = some t ∧ t ≠ [] := by
  rcases List.eq_nil_or_concat' ts with rfl | ⟨fs, l, rfl⟩
  · exact ⟨fun _ => .inl rfl, fun _ => rfl⟩
  · have hfs : ∀ f ∈ fs, d ∉ f := fun f hf => hts f (List.mem_append_left _ hf)
    have hl : d ∉ l := hts l (List.mem_append_right _ (List.mem_singleton_self l))
    have hne : fs ++ [l] ≠ [] := List.append_ne_nil_of_right_ne_nil fs (List.cons_ne_nil l [])
    constructor
    · intro h
      refine .inr ⟨l, List.getLast?_concat, ?_⟩
      rintro rfl
      rw [fields_intercalate_nil hfs] at h
      -- the line has a field less
      exact absurd (congrArg List.length h) (by simp)
    · rintro (hnil | ⟨t, ht, htne⟩)
      · exact absurd hnil hne
      · rw [List.getLast?_concat] at ht
        rw [Option.some.inj ht] at hl ⊢
        exact fields_intercalate hfs hl htne

end EdgeOffloading.Fields
