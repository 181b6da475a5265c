import Mathlib.Data.List.Infix
import Mathlib.Tactic

/-!
# Words that mark the beginning of a record

Records are written one after the other on a stream without anything between them, each begun by the same word. A word
without a border does not overlap itself, so that a reader who finds it anywhere in the stream is at the beginning of a
record, as long as no record has the word inside.

* `exists_record`: the occurrences of the word in the stream are the beginnings of the records;
* `unbordered_of_take`: the borders to look for;
* `exists_field`: a word without the separator is inside one of the fields.
-/

namespace EdgeOffloading.Marker

variable {α : Type*} {w : List α}

/-- Nothing but the word itself is both at its beginning and at its end. -/
def Unbordered (w : List α) : Prop := ∀ p, p ≠ [] → p <+: w → p <:+ w → p = w

theorem unbordered_of_take (h : ∀ k, 0 < k → k < w.length → ¬ w.take k <:+ w) : Unbordered w := by
  intro p hne hpre hsuf
  by_contra hlt
  have hlength : p.length < w.length := by
    refine lt_of_le_of_ne hpre.length_le fun heq => hlt ?_
    exact hpre.eq_of_length heq
  refine h p.length (List.length_pos_of_ne_nil hne) hlength ?_
  rwa [← List.prefix_iff_eq_take.mp hpre]

theorem not_prefix_inside (hw : Unbordered w) {body rest : List α} (hbody : ¬ w <:+: body)
    (hrest : rest = [] ∨ w <+: rest) {pre mid : List α} (hsplit : w ++ body = pre ++ mid) (hpre : pre ≠ [])
    (hmid : mid ≠ []) : ¬ w <+: mid ++ rest := by
  intro hfound
  have hpos := List.length_pos_of_ne_nil hpre
  by_cases hlong : w.length ≤ mid.length
  · have hin : w <+: mid := List.prefix_of_prefix_length_le hfound (List.prefix_append _ _) hlong
    by_cases hfar : w.length ≤ pre.length
    · -- inside the body
      obtain ⟨pre', rfl⟩ := List.prefix_of_prefix_length_le (hsplit ▸ List.prefix_append _ _)
        (List.prefix_append _ _) hfar
      rw [List.append_assoc] at hsplit
      rw [List.append_cancel_left hsplit] at hbody
      exact hbody (hin.isInfix.trans (List.suffix_append _ _).isInfix)
    · -- over the end of the word
      obtain ⟨p, rfl⟩ := List.prefix_of_prefix_length_le (hsplit ▸ List.prefix_append pre mid)
        (List.prefix_append w body) (by omega)
      rw [List.append_assoc] at hsplit
      have hp : p <+: mid := by
        rw [← List.append_cancel_left hsplit]
        exact List.prefix_append _ _
      have hlength : (pre ++ p).length = pre.length + p.length := List.length_append
      have heq := hw p (List.ne_nil_of_length_pos (by omega))
        (List.prefix_of_prefix_length_le hp hin (by omega)) (List.suffix_append _ _)
      have := congrArg List.length heq
      omega
  · -- over the beginning of the next record
    have hin : mid <+: w := List.prefix_of_prefix_length_le (List.prefix_append _ _) hfound (by omega)
    obtain ⟨p, rfl⟩ := hin
    rw [List.prefix_append_right_inj] at hfound
    have hlength : (mid ++ p).length = mid.length + p.length := List.length_append
    have hmidpos := List.length_pos_of_ne_nil hmid
    rcases hrest with rfl | hnext
    · have := hfound.length_le
      simp only [List.length_nil] at this
      omega
    · have heq := hw p (List.ne_nil_of_length_pos (by omega))
        (List.prefix_of_prefix_length_le hfound hnext (by omega)) (List.suffix_append _ _)
      have := congrArg List.length heq
      omega

/-- **The word is found at the beginnings of the records** alone. -/
theorem exists_record (hne : w ≠ []) (hw : Unbordered w) {bodies : List (List α)} (hbodies : ∀ b ∈ bodies, ¬ w <:+: b)
    {pre rest : List α} (hstream : (bodies.map (w ++ ·)).flatten = pre ++ rest) (hfound : w <+: rest) :
    ∃ body ∈ bodies, ∃ more, rest = w ++ body ++ more := by
  induction bodies generalizing pre with
  | nil =>
      obtain ⟨-, rfl⟩ := List.append_eq_nil_iff.mp hstream.symm
      exact absurd (List.prefix_nil.mp hfound) hne
  | cons body bodies ih =>
      rw [List.map_cons, List.flatten_cons] at hstream
      have htail : ∀ b ∈ bodies, ¬ w <:+: b := fun b hb => hbodies b (List.mem_cons_of_mem body hb)
      by_cases hpre : pre = []
      · rw [hpre, List.nil_append] at hstream
        exact ⟨body, List.mem_cons_self, _, hstream.symm⟩
      · by_cases hfar : (w ++ body).length ≤ pre.length
        · obtain ⟨pre', rfl⟩ := List.prefix_of_prefix_length_le (hstream ▸ List.prefix_append _ _)
            (List.prefix_append pre rest) hfar
          rw [List.append_assoc (w ++ body)] at hstream
          obtain ⟨body', hbody', more, hrest⟩ := ih htail (List.append_cancel_left hstream)
          exact ⟨body', List.mem_cons_of_mem body hbody', more, hrest⟩
        · obtain ⟨mid, hmid⟩ := List.prefix_of_prefix_length_le (hstream ▸ List.prefix_append pre rest)
            (List.prefix_append (w ++ body) _) (by omega)
          have hmidne : mid ≠ [] := by
            rintro rfl
            rw [List.append_nil] at hmid
            exact hfar (hmid ▸ le_rfl)
          rw [← hmid, List.append_assoc] at hstream
          have hnext : (bodies.map (w ++ ·)).flatten = [] ∨ w <+: (bodies.map (w ++ ·)).flatten := by
            cases bodies with
            | nil => exact .inl rfl
            | cons b bodies =>
                rw [List.map_cons, List.flatten_cons, List.append_assoc]
                exact .inr (List.prefix_append _ _)
          rw [← List.append_cancel_left hstream] at hfound
          exact absurd hfound (not_prefix_inside hw (hbodies body List.mem_cons_self) hnext hmid.symm hpre hmidne)

/-! ## Fields -/

theorem infix_append_cons {d : α} (hd : d ∉ w) {a b : List α} (h : w <:+: a ++ d :: b) : w <:+: a ∨ w <:+: b := by
  obtain ⟨s, t, heq⟩ := h
  rcases List.append_eq_append_iff.mp heq with ⟨bs, ha, -⟩ | ⟨as, hs, hb⟩
  · rw [ha]
    exact .inl ⟨s, bs, rfl⟩
  · cases as with
    | nil =>
        rw [List.append_nil] at hs
        rw [← hs]
        exact .inl (List.suffix_append s w).isInfix
    | cons x as =>
        obtain ⟨rfl, rfl⟩ := List.cons.inj hb
        -- the word ends behind the separator, so it begins there too
        rcases List.append_eq_append_iff.mp hs with ⟨ys, -, hw⟩ | ⟨xs, -, hx⟩
        · exact absurd (hw ▸ List.mem_append_right ys List.mem_cons_self) hd
        · cases xs with
          | nil =>
              rw [List.nil_append] at hx
              exact absurd (hx ▸ List.mem_cons_self) hd
          | cons y xs =>
              obtain ⟨-, rfl⟩ := List.cons.inj hx
              exact .inr ⟨xs, t, rfl⟩

theorem exists_field {d : α} (hne : w ≠ []) (hd : d ∉ w) {fs : List (List α)} (h : w <:+: [d].intercalate fs) :
    ∃ f ∈ fs, w <:+: f := by
  induction fs with
  | nil => exact absurd (List.infix_nil.mp h) hne
  | cons f fs ih =>
      cases fs with
      | nil =>
          rw [List.intercalate_singleton] at h
          exact ⟨f, List.mem_cons_self, h⟩
      | cons g gs =>
          rw [List.intercalate_cons_cons, List.append_assoc, List.singleton_append] at h
          rcases infix_append_cons hd h with hf | htail
          · exact ⟨f, List.mem_cons_self, hf⟩
          · obtain ⟨f', hf', hin⟩ := ih htail
            exact ⟨f', List.mem_cons_of_mem f hf', hin⟩

end EdgeOffloading.Marker
