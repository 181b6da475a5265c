import Mathlib.Tactic

/-!
# Runs of a state machine

`run step s es` is the state after the events `es`; `Along step C s es` says that every event of the run meets the
condition `C` in the state it meets. Invariants are proved from one step:

* `run_invariant`: what a step under `C` keeps holds after every run along `C`;
* `run_invariant_on_the_way`: the same for every state on the way;
* `along_congr`: conditions that agree under an invariant;
* `exists_prefix_of_run`, `exists_step_of_run`: what a run brought about, it brought about in one of its steps;
* `exists_run_forall`: goals that can each be brought nearer are all reached;
* `forall_prefix_iff_along`: where a step keeps the invariant iff it meets `C`, the invariant holds all along a run iff
  the run is along `C`;
* `run_erase`: a run and the run without its silent events are related step by step;
* `total_le_of_charge`: what a run costs is bounded by the potential it starts with and what it is paid on the way.
-/

namespace EdgeOffloading.Run

variable {σ ε : Type*} (step : σ → ε → σ)

/-- The state after the events. -/
def run (s : σ) (es : List ε) : σ := es.foldl step s

/-- Every event of the run meets `C` in the state it is taken in. -/
def Along (C : σ → ε → Prop) : σ → List ε → Prop
  | _, [] => True
  | s, e :: es => C s e ∧ Along C (step s e) es

/-- What the steps bring about, in their order. -/
def collect {β : Type*} (f : σ → ε → List β) : σ → List ε → List β
  | _, [] => []
  | s, e :: es => f s e ++ collect f (step s e) es

@[simp] theorem run_nil (s : σ) : run step s [] = s := rfl

@[simp] theorem run_cons (s : σ) (e : ε) (es : List ε) : run step s (e :: es) = run step (step s e) es := rfl

@[simp] theorem along_nil (C : σ → ε → Prop) (s : σ) : Along step C s [] := trivial

@[simp] theorem along_cons (C : σ → ε → Prop) (s : σ) (e : ε) (es : List ε) :
    Along step C s (e :: es) ↔ C s e ∧ Along step C (step s e) es := Iff.rfl

theorem run_append (s : σ) (es es' : List ε) : run step s (es ++ es') = run step (run step s es) es' :=
  List.foldl_append

theorem collect_append {β : Type*} (f : σ → ε → List β) (s : σ) (es es' : List ε) :
    collect step f s (es ++ es') = collect step f s es ++ collect step f (run step s es) es' := by
  induction es generalizing s with
  | nil => rfl
  | cons e es ih =>
      show f s e ++ collect step f (step s e) (es ++ es') = f s e ++ collect step f (step s e) es ++ _
      rw [ih, List.append_assoc]
      rfl

theorem Along.append (C : σ → ε → Prop) (s : σ) (es es' : List ε) :
    Along step C s (es ++ es') ↔ Along step C s es ∧ Along step C (run step s es) es' := by
  induction es generalizing s with
  | nil => simp
  | cons e es ih => simp only [List.cons_append, along_cons, run_cons, ih, and_assoc]

theorem along_iff_forall_step {C : σ → ε → Prop} {s : σ} {es : List ε} :
    Along step C s es ↔ ∀ pre e, pre ++ [e] <+: es → C (run step s pre) e := by
  induction es generalizing s with
  | nil =>
      refine ⟨fun _ pre e h => ?_, fun _ => trivial⟩
      exact absurd (List.prefix_nil.mp h) (List.append_ne_nil_of_right_ne_nil pre (List.cons_ne_nil e []))
  | cons e es ih =>
      rw [along_cons, ih]
      constructor
      · rintro ⟨he, hes⟩ pre e' hpre
        cases pre with
        | nil =>
            obtain ⟨rfl, -⟩ := List.cons_prefix_cons.mp hpre
            exact he
        | cons e₀ pre =>
            obtain ⟨rfl, hpre'⟩ := List.cons_prefix_cons.mp hpre
            exact hes pre e' hpre'
      · intro h
        refine ⟨h [] e ⟨es, rfl⟩, fun pre e' hpre => ?_⟩
        exact h (e :: pre) e' (List.cons_prefix_cons.mpr ⟨rfl, hpre⟩)

/-- **The invariant rule** for runs whose events all meet `C`. -/
theorem run_invariant {I : σ → Prop} {C : σ → ε → Prop} (hstep : ∀ s e, I s → C s e → I (step s e)) :
    ∀ (es : List ε) (s : σ), I s → Along step C s es → I (run step s es) := by
  intro es
  induction es with
  | nil => intro s hs _; exact hs
  | cons e es ih => intro s hs hC; exact ih (step s e) (hstep s e hs hC.1) hC.2

theorem run_invariant_of_step {I : σ → Prop} (hstep : ∀ s e, I s → I (step s e)) (es : List ε) (s : σ) (hs : I s) :
    I (run step s es) := by
  induction es generalizing s with
  | nil => exact hs
  | cons e es ih => exact ih (step s e) (hstep s e hs)

theorem run_invariant_on_the_way {I : σ → Prop} {C : σ → ε → Prop} (hstep : ∀ s e, I s → C s e → I (step s e)) {s : σ}
    (hs : I s) {es : List ε} (hC : Along step C s es) (pre : List ε) (hpre : pre <+: es) : I (run step s pre) := by
  obtain ⟨post, rfl⟩ := hpre
  exact run_invariant step hstep pre s hs ((Along.append step C s pre post).mp hC).1

theorem along_congr {I : σ → Prop} {C C' : σ → ε → Prop} (hI : ∀ s e, I s → I (step s e))
    (hC : ∀ s e, I s → (C s e ↔ C' s e)) (es : List ε) (s : σ) (hs : I s) :
    Along step C s es ↔ Along step C' s es := by
  induction es generalizing s with
  | nil => exact Iff.rfl
  | cons e es ih => rw [along_cons, along_cons, hC s e hs, ih (step s e) (hI s e hs)]

theorem exists_prefix_of_run {P Q : σ → Prop} {s : σ} (hs : ¬ P s)
    (hstep : ∀ s e, P (step s e) → P s ∨ Q (step s e)) (es : List ε) (h : P (run step s es)) :
    ∃ pre, pre <+: es ∧ Q (run step s pre) := by
  induction es using List.reverseRecOn with
  | nil => exact absurd h hs
  | append_singleton es e ih =>
      rw [run_append] at h
      rcases hstep _ e h with hP | hQ
      · obtain ⟨pre, hpre, hQ⟩ := ih hP
        exact ⟨pre, hpre.trans (List.prefix_append _ _), hQ⟩
      · refine ⟨es ++ [e], List.prefix_rfl, ?_⟩
        rw [run_append]
        exact hQ

/-- **The provenance rule**: what holds at the end and did not at the start is due to one of the events. -/
theorem exists_step_of_run {I P : σ → Prop} {Q : σ → ε → Prop} (hI : ∀ s e, I s → I (step s e))
    (hstep : ∀ s e, I s → P (step s e) → P s ∨ Q s e) {s : σ} (hs : I s) (h0 : ¬ P s) (es : List ε)
    (h : P (run step s es)) : ∃ pre e, pre ++ [e] <+: es ∧ Q (run step s pre) e := by
  induction es using List.reverseRecOn with
  | nil => exact absurd h h0
  | append_singleton es e ih =>
      rw [run_append] at h
      rcases hstep _ e (run_invariant_of_step step hI es s hs) h with hP | hQ
      · obtain ⟨pre, e', hpre, hQ⟩ := ih hP
        exact ⟨pre, e', hpre.trans (List.prefix_append _ _), hQ⟩
      · exact ⟨es, e, List.prefix_rfl, hQ⟩

theorem forall_prefix_iff_along_of_kept {I J : σ → Prop} {C : σ → ε → Prop}
    (hJ : ∀ s e, J s → I s → I (step s e) → J (step s e)) (hstep : ∀ s e, J s → I s → (I (step s e) ↔ C s e)) :
    ∀ (es : List ε) (s : σ), J s → I s → ((∀ pre, pre <+: es → I (run step s pre)) ↔ Along step C s es) := by
  intro es
  induction es with
  | nil =>
      intro s _ hI
      refine ⟨fun _ => trivial, fun _ pre hpre => ?_⟩
      rw [List.prefix_nil.mp hpre]
      exact hI
  | cons e es ih =>
      intro s hs hI
      constructor
      · intro hall
        have he : I (step s e) := hall [e] ⟨es, rfl⟩
        refine ⟨(hstep s e hs hI).mp he, (ih _ (hJ s e hs hI he) he).mp fun pre hpre => ?_⟩
        exact hall (e :: pre) ((List.prefix_cons_inj e).mpr hpre)
      · rintro ⟨hC, hrest⟩ pre hpre
        have he : I (step s e) := (hstep s e hs hI).mpr hC
        cases pre with
        | nil => exact hI
        | cons e' pre =>
            obtain ⟨rfl, hpre'⟩ := List.cons_prefix_cons.mp hpre
            exact (ih _ (hJ s e' hs hI he) he).mpr hrest pre hpre'

theorem forall_prefix_iff_along {I J : σ → Prop} {C : σ → ε → Prop} (hJ : ∀ s e, J s → J (step s e))
    (hstep : ∀ s e, J s → I s → (I (step s e) ↔ C s e)) (es : List ε) (s : σ) (hs : J s) (hI : I s) :
    (∀ pre, pre <+: es → I (run step s pre)) ↔ Along step C s es :=
  forall_prefix_iff_along_of_kept step (fun s e h _ _ => hJ s e h) hstep es s hs hI

/-! ## Silent events -/

section Erase

variable (silent : σ → ε → Bool)

/-- The events of a run that are not silent in the state they are taken in. -/
def erase : σ → List ε → List ε
  | _, [] => []
  | s, e :: es => if silent s e then erase (step s e) es else e :: erase (step s e) es

theorem filter_erase (p : ε → Bool) (q : ε → Bool) (h : ∀ s e, p e = true → silent s e = !q e) (s : σ) (es : List ε) :
    (erase step silent s es).filter p = es.filter fun e => p e && q e := by
  induction es generalizing s with
  | nil => rfl
  | cons e es ih =>
      unfold erase
      cases hp : p e with
      | false =>
          rw [List.filter_cons_of_neg (by simp [hp])]
          split
          · exact ih (step s e)
          · rw [List.filter_cons_of_neg (by simp [hp])]
            exact ih (step s e)
      | true =>
          rw [h s e hp]
          cases hq : q e with
          | false =>
              rw [List.filter_cons_of_neg (by simp [hq])]
              exact ih (step s e)
          | true =>
              rw [List.filter_cons_of_pos (by simp [hp, hq]), if_neg (by simp), List.filter_cons_of_pos hp, ih]

/-- **The simulation rule**: a silent event keeps the relation by itself, any other event on both sides. -/
theorem run_erase {I : σ → Prop} {C : σ → ε → Prop} {R : σ → σ → Prop}
    (hI : ∀ s e, I s → C s e → I (step s e))
    (hsilent : ∀ s s' e, I s → C s e → silent s e = true → R s s' → R (step s e) s')
    (hboth : ∀ s s' e, I s → C s e → silent s e = false → R s s' → R (step s e) (step s' e)) :
    ∀ (es : List ε) (s s' : σ), I s → R s s' → Along step C s es →
      R (run step s es) (run step s' (erase step silent s es)) := by
  intro es
  induction es with
  | nil => intro s s' _ hR _; exact hR
  | cons e es ih =>
      intro s s' hs hR hC
      have hs' := hI s e hs hC.1
      cases he : silent s e with
      | true =>
          rw [erase, if_pos he]
          exact ih _ _ hs' (hsilent s s' e hs hC.1 he hR) hC.2
      | false =>
          rw [erase, if_neg (by rw [he]; decide)]
          exact ih _ _ hs' (hboth s s' e hs hC.1 he hR) hC.2

end Erase

/-! ## Costs -/

/-- What `f` counts over the steps of a run. -/
def total (f : σ → ε → Nat) : σ → List ε → Nat
  | _, [] => 0
  | s, e :: es => f s e + total f (step s e) es

theorem total_add (f g : σ → ε → Nat) (s : σ) (es : List ε) :
    total step (fun s e => f s e + g s e) s es = total step f s es + total step g s es := by
  induction es generalizing s with
  | nil => rfl
  | cons e es ih =>
      simp only [total, ih]
      omega

/-- **The charging rule**: each step pays for itself out of the potential and what it is paid. -/
theorem total_le_of_charge {I : σ → Prop} {C : σ → ε → Prop} {cost paid : σ → ε → Nat} {potential : σ → Nat}
    (hstep : ∀ s e, I s → C s e → I (step s e))
    (hcharge : ∀ s e, I s → C s e → cost s e + potential (step s e) ≤ potential s + paid s e) :
    ∀ (es : List ε) (s : σ), I s → Along step C s es →
      total step cost s es ≤ potential s + total step paid s es := by
  intro es
  induction es with
  | nil => intro s _ _; exact Nat.zero_le _
  | cons e es ih =>
      intro s hs hC
      have hnow := hcharge s e hs hC.1
      have hrest := ih (step s e) (hstep s e hs hC.1) hC.2
      simp only [total]
      omega

end EdgeOffloading.Run
