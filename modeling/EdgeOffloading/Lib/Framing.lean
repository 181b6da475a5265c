import Mathlib.Data.List.Flatten
import Mathlib.Data.List.Infix
import Mathlib.Tactic

/-!
# Splitting a stream into frames, chunk by chunk

A scanner looks at the front of a buffer and answers that it needs more elements, that the buffer is bad, or that a
frame of `n` elements starts there. `drain` takes the complete frames off the front of a buffer and throws the whole
buffer away on a bad verdict; `feed` appends chunk after chunk and drains after each.

* `drain_flatten`: whole frames followed by a proper prefix of a further frame come off exactly, and the prefix stays
  unless the scanner calls it bad;
* `feed_eq_iff`: over frames the scanner recognises, `feed` returns exactly the frames iff no chunk ends on a proper
  prefix of a frame that the scanner calls bad.
-/

namespace EdgeOffloading.Framing

/-- What a scanner says about the front of a buffer. -/
inductive Verdict where
  | more
  | bad
  | frame (n : Nat)
  deriving DecidableEq, Repr

/-- A scanner: it waits on the empty buffer and announces no empty frame. -/
structure Scanner (α : Type*) where
  scan : List α → Verdict
  nil : scan [] = .more
  pos : ∀ buf, scan buf ≠ .frame 0

variable {α : Type*} (S : Scanner α)

def drainLoop : Nat → List α → List (List α) × List α
  | 0, buf => ([], buf)
  | fuel + 1, buf =>
    match S.scan buf with
    | .more => ([], buf)
    | .bad => ([], [])
    | .frame n =>
      if n ≤ buf.length then
        (buf.take n :: (drainLoop fuel (buf.drop n)).1, (drainLoop fuel (buf.drop n)).2)
      else ([], buf)

/-- Every frame is at least one element long, so the buffer's length is enough fuel (`drainLoop_fuel`). -/
def drain (buf : List α) : List (List α) × List α := drainLoop S buf.length buf

/-- The frames taken off while the chunks arrive, and what is left in the buffer. -/
def feed : List α → List (List α) → List (List α) × List α
  | buf, [] => ([], buf)
  | buf, c :: cs => ((drain S (buf ++ c)).1 ++ (feed (drain S (buf ++ c)).2 cs).1, (feed (drain S (buf ++ c)).2 cs).2)

theorem drainLoop_nil (fuel : Nat) : drainLoop S fuel [] = ([], []) := by
  cases fuel with
  | zero => rfl
  | succ fuel => simp only [drainLoop, S.nil]

theorem drainLoop_fuel : ∀ (fuel fuel' : Nat) (buf : List α), buf.length ≤ fuel → buf.length ≤ fuel' →
    drainLoop S fuel buf = drainLoop S fuel' buf := by
  intro fuel
  induction fuel with
  | zero =>
      intro fuel' buf h _
      rw [List.length_eq_zero_iff.mp (Nat.le_zero.mp h), drainLoop_nil, drainLoop_nil]
  | succ fuel ih =>
      intro fuel' buf h h'
      cases fuel' with
      | zero => rw [List.length_eq_zero_iff.mp (Nat.le_zero.mp h'), drainLoop_nil, drainLoop_nil]
      | succ fuel' =>
          unfold drainLoop
          cases hv : S.scan buf with
          | more => rfl
          | bad => rfl
          | frame n =>
              have hn : n ≠ 0 := fun h0 => S.pos buf (by rw [hv, h0])
              dsimp only
              split_ifs with hle
              · rw [ih fuel' (buf.drop n) (by rw [List.length_drop]; omega) (by rw [List.length_drop]; omega)]
              · rfl

/-! ## Verdicts at the front of the buffer -/

theorem drain_more {buf : List α} (h : S.scan buf = .more) : drain S buf = ([], buf) := by
  unfold drain
  cases buf with
  | nil => rfl
  | cons a buf => simp only [List.length_cons, drainLoop, h]

theorem drain_bad {buf : List α} (h : S.scan buf = .bad) : drain S buf = ([], []) := by
  unfold drain
  cases buf with
  | nil => rfl
  | cons a buf => simp only [List.length_cons, drainLoop, h]

theorem drain_short {buf : List α} {n : Nat} (h : S.scan buf = .frame n) (hn : buf.length < n) :
    drain S buf = ([], buf) := by
  unfold drain
  cases buf with
  | nil => rfl
  | cons a buf =>
      simp only [List.length_cons] at hn
      simp only [List.length_cons, drainLoop, h, if_neg (Nat.not_le.mpr hn)]

theorem drain_frame {buf : List α} {n : Nat} (h : S.scan buf = .frame n) (hn : n ≤ buf.length) :
    drain S buf = (buf.take n :: (drain S (buf.drop n)).1, (drain S (buf.drop n)).2) := by
  have hn0 : n ≠ 0 := fun h0 => S.pos buf (by rw [h, h0])
  unfold drain
  cases buf with
  | nil => simp at hn; omega
  | cons a buf =>
      rw [List.length_cons]
      conv_lhs => unfold drainLoop
      simp only [h, if_pos hn]
      rw [drainLoop_fuel S buf.length ((a :: buf).drop n).length ((a :: buf).drop n)
        (by rw [List.length_drop, List.length_cons]; omega) le_rfl]

/-- Nothing is made up: what comes off and what stays is no longer than the buffer was. -/
theorem drain_length : ∀ buf : List α,
    (drain S buf).1.flatten.length + (drain S buf).2.length ≤ buf.length := by
  intro buf
  induction hlen : buf.length using Nat.strong_induction_on generalizing buf with
  | _ n ih =>
      subst hlen
      cases hv : S.scan buf with
      | more => rw [drain_more S hv]; simp
      | bad => rw [drain_bad S hv]; simp
      | frame k =>
          have hk : k ≠ 0 := fun h0 => S.pos buf (by rw [hv, h0])
          by_cases hle : k ≤ buf.length
          · have := ih (buf.drop k).length (by rw [List.length_drop]; omega) (buf.drop k) rfl
            rw [List.length_drop] at this
            rw [drain_frame S hv hle, List.flatten_cons, List.length_append, List.length_take]
            dsimp only
            omega
          · rw [drain_short S hv (by omega)]; simp

/-- The fronts that draining comes to: the buffer, and what is behind a complete frame at such a front. -/
inductive Front (buf : List α) : List α → Prop
  | whole : Front buf buf
  | behind {rest : List α} {n : Nat} :
      Front buf rest → S.scan rest = .frame n → n ≤ rest.length → Front buf (rest.drop n)

theorem Front.trans {buf mid rest : List α} (h : Front S buf mid) (h' : Front S mid rest) : Front S buf rest := by
  induction h' with
  | whole => exact h
  | behind _ hscan hle ih => exact .behind ih hscan hle

/-- What stays is nothing, or a front that is too short for the scanner or for its frame. -/
theorem drain_rest (buf : List α) : (drain S buf).2 = [] ∨ Front S buf (drain S buf).2 ∧
    (S.scan (drain S buf).2 = .more ∨ ∃ n, S.scan (drain S buf).2 = .frame n ∧ (drain S buf).2.length < n) := by
  induction hlen : buf.length using Nat.strong_induction_on generalizing buf with
  | _ n ih =>
      subst hlen
      cases hv : S.scan buf with
      | more =>
          rw [drain_more S hv]
          exact Or.inr ⟨.whole, Or.inl hv⟩
      | bad =>
          rw [drain_bad S hv]
          exact Or.inl rfl
      | frame k =>
          have hk : k ≠ 0 := fun h0 => S.pos buf (by rw [hv, h0])
          by_cases hle : k ≤ buf.length
          · rw [drain_frame S hv hle]
            rcases ih (buf.drop k).length (by rw [List.length_drop]; omega) (buf.drop k) rfl with h | ⟨hfront, h⟩
            · exact Or.inl h
            · exact Or.inr ⟨(Front.behind .whole hv hle).trans S hfront, h⟩
          · rw [drain_short S hv (by omega)]
            exact Or.inr ⟨.whole, Or.inr ⟨k, hv, not_le.mp hle⟩⟩

theorem feed_length : ∀ (cs : List (List α)) (buf : List α),
    (feed S buf cs).1.flatten.length ≤ buf.length + cs.flatten.length := by
  intro cs
  induction cs with
  | nil => intro buf; simp [feed]
  | cons c cs ih =>
      intro buf
      have h1 := drain_length S (buf ++ c)
      have h2 := ih (drain S (buf ++ c)).2
      rw [List.length_append] at h1
      simp only [feed, List.flatten_append, List.flatten_cons, List.length_append]
      omega

theorem feed_concat (buf : List α) (cs : List (List α)) (c : List α) :
    feed S buf (cs ++ [c]) =
      ((feed S buf cs).1 ++ (drain S ((feed S buf cs).2 ++ c)).1, (drain S ((feed S buf cs).2 ++ c)).2) := by
  induction cs generalizing buf with
  | nil => simp [feed]
  | cons d cs ih => simp only [List.cons_append, feed, ih, List.append_assoc]

/-! ## Recognised frames -/

/-- The scanner announces the frame once it is all there, and announces nothing else on a proper prefix of it. -/
structure Recognises (f : List α) : Prop where
  whole : ∀ rest, S.scan (f ++ rest) = .frame f.length
  part : ∀ p, p <+: f → p ≠ f → S.scan p = .more ∨ S.scan p = .bad ∨ S.scan p = .frame f.length

theorem Recognises.ne_nil {f : List α} (h : Recognises S f) : f ≠ [] := by
  rintro rfl
  exact S.pos [] (h.whole [])

theorem length_lt_of_cut {p f : List α} (hp : p <+: f) (hne : p ≠ f) : p.length < f.length :=
  lt_of_le_of_ne hp.length_le fun h => hne (hp.eq_of_length h)

theorem drain_append_frame {f : List α} (hf : Recognises S f) (rest : List α) :
    drain S (f ++ rest) = (f :: (drain S rest).1, (drain S rest).2) := by
  rw [drain_frame S (hf.whole rest) (by simp)]
  simp

/-- On a proper prefix of a frame nothing comes off; the prefix is lost exactly on a bad verdict. -/
theorem drain_part {f p : List α} (hf : Recognises S f) (hp : p <+: f) (hne : p ≠ f) :
    drain S p = ([], if S.scan p = .bad then [] else p) := by
  rcases hf.part p hp hne with h | h | h
  · rw [drain_more S h, if_neg (by rw [h]; simp)]
  · rw [drain_bad S h, if_pos h]
  · rw [drain_short S h (length_lt_of_cut hp hne), if_neg (by rw [h]; simp)]

theorem drain_flatten (fs : List (List α)) (hfs : ∀ f ∈ fs, Recognises S f) (p : List α) :
    drain S (fs.flatten ++ p) = (fs ++ (drain S p).1, (drain S p).2) := by
  induction fs with
  | nil => simp
  | cons f fs ih =>
      rw [List.flatten_cons, List.append_assoc, drain_append_frame S (hfs f (by simp)),
        ih fun g hg => hfs g (by simp [hg])]
      simp

/-- In whole frames and the beginning `p` of one more, no front announces more than these frames have. -/
theorem announced_le (fs : List (List α)) {m : Nat} (hfs : ∀ f ∈ fs, Recognises S f ∧ f.length ≤ m) {p : List α}
    (hp : p = [] ∨ ∃ g, Recognises S g ∧ g.length ≤ m ∧ p <+: g ∧ p ≠ g) {front : List α} {n : Nat}
    (hfront : Front S (fs.flatten ++ p) front) (hn : S.scan front = .frame n) : n ≤ m := by
  have hpart : ∀ k, S.scan p = .frame k → p.length < k ∧ k ≤ m := by
    intro k hscan
    rcases hp with rfl | ⟨g, hg, hle, hpg, hne⟩
    · rw [S.nil] at hscan
      cases hscan
    · rcases hg.part p hpg hne with h | h | h
      · rw [h] at hscan; cases hscan
      · rw [h] at hscan; cases hscan
      · rw [h] at hscan
        obtain rfl := Verdict.frame.inj hscan
        exact ⟨length_lt_of_cut hpg hne, hle⟩
  have hsuffix : ∃ gs, gs <:+ fs ∧ front = gs.flatten ++ p := by
    clear hn
    induction hfront with
    | whole => exact ⟨fs, List.suffix_rfl, rfl⟩
    | @behind rest k _ hscan hle ih =>
        obtain ⟨gs, hgs, rfl⟩ := ih
        cases gs with
        | nil =>
            -- the frame begun is not complete
            have hlt := (hpart k hscan).1
            simp only [List.flatten_nil, List.nil_append] at hle
            omega
        | cons g gs =>
            have hwhole := (hfs g (hgs.subset List.mem_cons_self)).1.whole (gs.flatten ++ p)
            rw [List.flatten_cons, List.append_assoc] at hscan ⊢
            rw [hwhole] at hscan
            obtain rfl := Verdict.frame.inj hscan
            exact ⟨gs, (List.suffix_cons g gs).trans hgs, List.drop_left⟩
  obtain ⟨gs, hgs, rfl⟩ := hsuffix
  cases gs with
  | nil => exact (hpart n hn).2
  | cons g gs =>
      obtain ⟨hg, hle⟩ := hfs g (hgs.subset List.mem_cons_self)
      rw [List.flatten_cons, List.append_assoc, hg.whole] at hn
      rw [← Verdict.frame.inj hn]
      exact hle

/-! ## Where a prefix of the stream ends -/

/-- The stream prefix `P` ends after the proper prefix `p` of one of the frames. -/
def EndsIn (fs : List (List α)) (P p : List α) : Prop :=
  ∃ pre f post, fs = pre ++ f :: post ∧ P = pre.flatten ++ p ∧ p <+: f ∧ p ≠ f

theorem EndsIn.cons {fs : List (List α)} {P p : List α} (g : List α) (h : EndsIn fs P p) :
    EndsIn (g :: fs) (g ++ P) p := by
  obtain ⟨pre, f, post, rfl, rfl, hp, hne⟩ := h
  exact ⟨g :: pre, f, post, rfl, by simp, hp, hne⟩

theorem EndsIn.of_cons {fs : List (List α)} {g P p : List α} (h : EndsIn (g :: fs) (g ++ P) p) :
    EndsIn fs P p := by
  obtain ⟨pre, f, post, hfs, hP, hp, hne⟩ := h
  cases pre with
  | nil =>
      simp only [List.nil_append, List.cons.injEq] at hfs
      simp only [List.flatten_nil, List.nil_append] at hP
      have := length_lt_of_cut hp hne
      rw [← hP, ← hfs.1, List.length_append] at this
      omega
  | cons g' pre =>
      simp only [List.cons_append, List.cons.injEq] at hfs
      obtain ⟨rfl, rfl⟩ := hfs
      rw [List.flatten_cons, List.append_assoc] at hP
      exact ⟨pre, f, post, rfl, List.append_cancel_left hP, hp, hne⟩

theorem endsIn_append_iff (pre fs : List (List α)) (P p : List α) :
    EndsIn (pre ++ fs) (pre.flatten ++ P) p ↔ EndsIn fs P p := by
  induction pre with
  | nil => simp
  | cons g pre ih =>
      rw [List.cons_append, List.flatten_cons, List.append_assoc, ← ih]
      exact ⟨EndsIn.of_cons, EndsIn.cons g⟩

/-- The stream prefix `P` is the frames `pre` and a proper prefix `p` of the next one, or the whole stream. -/
structure Cut (fs pre post : List (List α)) (P p : List α) : Prop where
  frames : fs = pre ++ post
  stream : P = pre.flatten ++ p
  part : post = [] ∧ p = [] ∨ ∃ f post', post = f :: post' ∧ p <+: f ∧ p ≠ f

theorem exists_cut (fs : List (List α)) (hne : ∀ f ∈ fs, f ≠ []) (P : List α) (hP : P <+: fs.flatten) :
    ∃ pre post p, Cut fs pre post P p := by
  induction fs generalizing P with
  | nil => exact ⟨[], [], [], rfl, by simpa using hP, Or.inl ⟨rfl, rfl⟩⟩
  | cons f fs ih =>
      rw [List.flatten_cons] at hP
      by_cases hlen : P.length < f.length
      · have hpf : P <+: f := List.prefix_of_prefix_length_le hP (List.prefix_append _ _) hlen.le
        exact ⟨[], f :: fs, P, rfl, by simp, Or.inr ⟨f, fs, rfl, hpf, fun h => by rw [h] at hlen; omega⟩⟩
      · have hfP : f <+: P := List.prefix_of_prefix_length_le (List.prefix_append _ _) hP (by omega)
        obtain ⟨Q, rfl⟩ := hfP
        rw [List.prefix_append_right_inj] at hP
        obtain ⟨pre, post, p, rfl, rfl, hpart⟩ := ih (fun g hg => hne g (by simp [hg])) Q hP
        exact ⟨f :: pre, post, p, rfl, by simp, hpart⟩

namespace Cut

variable {S} {fs pre post : List (List α)} {P p : List α}

theorem drain_eq (h : Cut fs pre post P p) (hfs : ∀ f ∈ fs, Recognises S f) :
    drain S P = (pre, if S.scan p = .bad then [] else p) := by
  have hmem : ∀ f, f ∈ fs ↔ f ∈ pre ∨ f ∈ post := fun f => by rw [h.frames, List.mem_append]
  rw [h.stream, drain_flatten S pre fun f hf => hfs f ((hmem f).mpr (Or.inl hf))]
  rcases h.part with ⟨-, rfl⟩ | ⟨f, post', rfl, hp, hne⟩
  · rw [drain_more S S.nil, S.nil, List.append_nil, if_neg (by simp)]
  · rw [drain_part S (hfs f ((hmem f).mpr (Or.inr (by simp)))) hp hne, List.append_nil]

theorem rest (h : Cut fs pre post P p) {R : List α} (hflat : P ++ R = fs.flatten) : p ++ R = post.flatten := by
  rw [h.stream, h.frames, List.flatten_append, List.append_assoc] at hflat
  exact List.append_cancel_left hflat

theorem endsIn_append_iff (h : Cut fs pre post P p) (R q : List α) :
    EndsIn fs (P ++ R) q ↔ EndsIn post (p ++ R) q := by
  rw [h.frames, h.stream, List.append_assoc, Framing.endsIn_append_iff]

theorem eq_of_endsIn (h : Cut fs pre post P p) {q : List α} (hq : EndsIn fs P q) : q = p := by
  rw [← List.append_nil P, h.endsIn_append_iff, List.append_nil] at hq
  obtain ⟨pre', g, post', hpost, hp, -, -⟩ := hq
  rcases h.part with ⟨rfl, -⟩ | ⟨f, post'', rfl, hpf, hne⟩
  · simp at hpost
  · cases pre' with
    | nil => simpa using hp.symm
    | cons g' pre' =>
        simp only [List.cons_append, List.cons.injEq] at hpost
        have := length_lt_of_cut hpf hne
        rw [hp, ← hpost.1, List.flatten_cons, List.length_append, List.length_append] at this
        omega

theorem endsIn (h : Cut fs pre post P p) (hp : p ≠ []) : EndsIn fs P p := by
  rcases h.part with ⟨-, h0⟩ | ⟨f, post', hpost, hpf, hne⟩
  · exact absurd h0 hp
  · exact ⟨pre, f, post', by rw [h.frames, hpost], h.stream, hpf, hne⟩

theorem post_eq_nil (h : Cut fs pre post P p) (hp : p = post.flatten) : post = [] := by
  rcases h.part with ⟨h0, -⟩ | ⟨f, post', rfl, hpf, hne⟩
  · exact h0
  · have := length_lt_of_cut hpf hne
    rw [hp, List.flatten_cons, List.length_append] at this
    omega

end Cut

/-! ## Feeding chunks -/

/-- A non-empty front of `c :: cs` is `c` or goes on with a non-empty front of `cs`. -/
theorem forall_front_cons {β : Type*} {Q : List β → Prop} (c : β) (cs : List β) :
    (∀ c₁ c₂, c :: cs = c₁ ++ c₂ → c₁ ≠ [] → Q c₁) ↔
      Q [c] ∧ ∀ c₁ c₂, cs = c₁ ++ c₂ → c₁ ≠ [] → Q (c :: c₁) := by
  constructor
  · intro h
    exact ⟨h [c] cs rfl (by simp), fun c₁ c₂ hcs _ => h (c :: c₁) c₂ (by rw [hcs]; rfl) (by simp)⟩
  · rintro ⟨h1, h⟩ c₁ c₂ hcs hc₁
    cases c₁ with
    | nil => exact absurd rfl hc₁
    | cons d c₁ =>
        simp only [List.cons_append, List.cons.injEq] at hcs
        obtain ⟨rfl, hcs⟩ := hcs
        cases c₁ with
        | nil => exact h1
        | cons e c₁ => exact h (e :: c₁) c₂ hcs (by simp)

/-- What has been thrown away is missing: fewer elements are to come than the frames have. -/
theorem feed_ne_of_lost {cs post : List (List α)} {p : List α} (hp : p ≠ []) (hrest : p ++ cs.flatten = post.flatten) :
    (feed S [] cs).1 ≠ post := by
  intro heq
  have hlen := feed_length S cs []
  have hpos := List.length_pos_of_ne_nil hp
  rw [heq, ← hrest] at hlen
  simp only [List.length_append, List.length_nil] at hlen
  omega

/-- Chunk by chunk, with `buf` already received: the statement the induction on the chunks carries. -/
theorem feed_eq_iff_from : ∀ (cs fs : List (List α)) (buf : List α),
    (∀ f ∈ fs, Recognises S f) → buf ++ cs.flatten = fs.flatten → (buf = fs.flatten → fs = []) →
    ((feed S buf cs).1 = fs ↔
      ∀ c₁ c₂, cs = c₁ ++ c₂ → c₁ ≠ [] → ∀ p, EndsIn fs (buf ++ c₁.flatten) p → S.scan p ≠ .bad) := by
  intro cs
  induction cs with
  | nil =>
      intro fs buf _ hflat hbuf
      have hfs : fs = [] := hbuf (by simpa using hflat)
      subst hfs
      simp [feed]
  | cons c cs ih =>
      intro fs buf hfs hflat hbuf
      rw [List.flatten_cons, ← List.append_assoc] at hflat
      obtain ⟨pre, post, p, hcut⟩ := exists_cut fs (fun f hf => (hfs f hf).ne_nil S) (buf ++ c) ⟨cs.flatten, hflat⟩
      have hrest := hcut.rest hflat
      have hfeed : (feed S buf (c :: cs)).1 = fs ↔ (feed S (if S.scan p = .bad then [] else p) cs).1 = post := by
        simp only [feed, hcut.drain_eq hfs]
        rw [hcut.frames, List.append_right_inj]
      have hends : ∀ c₁ q, EndsIn fs (buf ++ (c :: c₁).flatten) q ↔ EndsIn post (p ++ c₁.flatten) q := fun c₁ q => by
        rw [List.flatten_cons, ← List.append_assoc, hcut.endsIn_append_iff]
      rw [hfeed, forall_front_cons]
      by_cases hbad : S.scan p = .bad
      · have hp : p ≠ [] := fun h0 => by rw [h0, S.nil] at hbad; cases hbad
        rw [if_pos hbad]
        constructor
        · intro heq
          exact absurd heq (feed_ne_of_lost S hp hrest)
        · rintro ⟨hnow, -⟩
          exact absurd hbad (hnow p (by simpa using hcut.endsIn hp))
      · have hpost : ∀ f ∈ post, Recognises S f := fun f hf => hfs f (by rw [hcut.frames]; simp [hf])
        rw [if_neg hbad, ih post p hpost hrest hcut.post_eq_nil]
        simp only [hends]
        refine (and_iff_right fun q hq => ?_).symm
        have hqp : q = p := hcut.eq_of_endsIn (by
          rw [← List.append_nil (buf ++ c), hcut.endsIn_append_iff]
          exact hq)
        rwa [hqp]

/-- **Reassembly is exact iff no chunk ends on a prefix that the scanner calls bad.** -/
theorem feed_eq_iff (fs cs : List (List α)) (hfs : ∀ f ∈ fs, Recognises S f) (hflat : cs.flatten = fs.flatten) :
    (feed S [] cs).1 = fs ↔
      ∀ c₁ c₂, cs = c₁ ++ c₂ → c₁ ≠ [] → ∀ p, EndsIn fs c₁.flatten p → S.scan p ≠ .bad := by
  have h := feed_eq_iff_from S cs fs [] hfs (by simpa using hflat) (fun h => by
    cases fs with
    | nil => rfl
    | cons f fs => exact absurd (List.append_eq_nil_iff.mp h.symm).1 ((hfs f (by simp)).ne_nil S))
  simpa using h

end EdgeOffloading.Framing
