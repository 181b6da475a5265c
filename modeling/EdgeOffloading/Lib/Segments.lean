import EdgeOffloading.Lib.Framing

/-!
# Frames as segments of an arbitrary stream

Whatever a stream holds, what `Framing.drain` takes off a buffer are segments of it, one behind the other, and what
stays is its end. Carried over the chunks, with the buffer as the end of all that was received:

* `segments_drain`: one buffer;
* `Segments.append`, `Segments.shift`, `Segments.mono`: how the statements for the single buffers add up;
* `announced_of_mem_drain`: each frame has the length that the scanner announced at its start.
-/

namespace EdgeOffloading.Framing

variable {α : Type*} {S : Scanner α}

/-- The lists are segments of the stream, each behind the one before, the first not before `pos` and the last ending
not behind `stop`. -/
def Segments (stream : List α) : Nat → List (List α) → Nat → Prop
  | pos, [], stop => pos ≤ stop
  | pos, m :: ms, stop =>
    ∃ off, pos ≤ off ∧ (stream.drop off).take m.length = m ∧ Segments stream (off + m.length) ms stop

theorem Segments.append {stream : List α} {ms ms' : List (List α)} {pos mid stop : Nat}
    (h : Segments stream pos ms mid) (h' : Segments stream mid ms' stop) : Segments stream pos (ms ++ ms') stop := by
  induction ms generalizing pos with
  | nil =>
      have hle : pos ≤ mid := h
      cases ms' with
      | nil => exact hle.trans h'
      | cons m ms' =>
          obtain ⟨off, hoff, htake, hrest⟩ := h'
          exact ⟨off, hle.trans hoff, htake, hrest⟩
  | cons m ms ih =>
      obtain ⟨off, hoff, htake, hrest⟩ := h
      exact ⟨off, hoff, htake, ih hrest⟩

theorem Segments.mono {stream : List α} {ms : List (List α)} {pos stop : Nat} (h : Segments stream pos ms stop)
    (more : List α) : Segments (stream ++ more) pos ms stop := by
  induction ms generalizing pos with
  | nil => exact h
  | cons m ms ih =>
      obtain ⟨off, hoff, htake, hrest⟩ := h
      refine ⟨off, hoff, ?_, ih hrest⟩
      cases m with
      | nil => rfl
      | cons a m =>
          have hlen := congrArg List.length htake
          rw [List.length_take, List.length_drop, List.length_cons] at hlen
          rw [List.drop_append_of_le_length (by omega), List.take_append_of_le_length, htake]
          rw [List.length_drop, List.length_cons]
          omega

theorem Segments.shift {stream : List α} {ms : List (List α)} {k pos stop : Nat}
    (h : Segments (stream.drop k) pos ms stop) : Segments stream (k + pos) ms (k + stop) := by
  induction ms generalizing pos with
  | nil => exact Nat.add_le_add_left h k
  | cons m ms ih =>
      obtain ⟨off, hoff, htake, hrest⟩ := h
      refine ⟨k + off, by omega, ?_, ?_⟩
      · rw [← List.drop_drop]
        exact htake
      · rw [Nat.add_assoc]
        exact ih hrest

theorem Segments.offsets {stream : List α} {ms : List (List α)} {pos stop : Nat} (h : Segments stream pos ms stop)
    (hne : ∀ m ∈ ms, m ≠ []) :
    ∃ offs : List Nat, List.Forall₂ (fun off m => (stream.drop off).take m.length = m) offs ms ∧
      (offs.zip ms).Pairwise (fun a b => a.1 + a.2.length ≤ b.1) ∧ offs.Pairwise (· < ·) ∧ ∀ off ∈ offs, pos ≤ off := by
  induction ms generalizing pos with
  | nil => exact ⟨[], .nil, .nil, .nil, by simp⟩
  | cons m ms ih =>
      obtain ⟨off, hoff, htake, hrest⟩ := h
      obtain ⟨offs, hall, hpair, hlt, hle⟩ := ih hrest fun m' hm' => hne m' (List.mem_cons_of_mem m hm')
      have hpos := List.length_pos_of_ne_nil (hne m List.mem_cons_self)
      refine ⟨off :: offs, .cons htake hall, ?_, ?_, ?_⟩
      · refine List.pairwise_cons.mpr ⟨fun b hb => ?_, hpair⟩
        exact hle b.1 (List.of_mem_zip hb).1
      · refine List.pairwise_cons.mpr ⟨fun off' hoff' => ?_, hlt⟩
        have hbehind := hle off' hoff'
        omega
      · intro off' hmem
        rcases List.mem_cons.mp hmem with rfl | hmem
        · exact hoff
        · have hbehind := hle off' hmem
          omega

/-- **One buffer**: the frames are segments of it, and what stays is its end. -/
theorem segments_drain (S : Scanner α) (buf : List α) : ∃ stop, stop ≤ buf.length ∧
    Segments buf 0 (drain S buf).1 stop ∧ (drain S buf).2 = buf.drop stop := by
  induction hlen : buf.length using Nat.strong_induction_on generalizing buf with
  | _ n ih =>
      subst hlen
      cases hv : S.scan buf with
      | more =>
          rw [drain_more S hv]
          exact ⟨0, Nat.zero_le _, le_rfl, rfl⟩
      | bad =>
          rw [drain_bad S hv]
          exact ⟨buf.length, le_rfl, Nat.zero_le _, List.drop_length.symm⟩
      | frame k =>
          have hk : k ≠ 0 := fun h0 => S.pos buf (by rw [hv, h0])
          by_cases hle : k ≤ buf.length
          · have hdrop : (buf.drop k).length = buf.length - k := List.length_drop
            obtain ⟨stop, hstop, hseg, hrest⟩ := ih (buf.drop k).length (by omega) (buf.drop k) rfl
            rw [drain_frame S hv hle]
            refine ⟨k + stop, by omega, ⟨0, le_rfl, ?_, ?_⟩, ?_⟩
            · rw [List.drop_zero, List.length_take, min_eq_left hle]
            · have htake : 0 + (buf.take k).length = k + 0 := by
                rw [List.length_take, min_eq_left hle]
                omega
              rw [htake]
              exact hseg.shift
            · rw [← List.drop_drop]
              exact hrest
          · rw [drain_short S hv (by omega)]
            exact ⟨0, Nat.zero_le _, le_rfl, rfl⟩

theorem announced_of_mem_drain (S : Scanner α) (buf : List α) {m : List α} (hm : m ∈ (drain S buf).1) :
    ∃ rest, S.scan (m ++ rest) = .frame m.length := by
  induction hlen : buf.length using Nat.strong_induction_on generalizing buf with
  | _ n ih =>
      subst hlen
      cases hv : S.scan buf with
      | more =>
          rw [drain_more S hv] at hm
          cases hm
      | bad =>
          rw [drain_bad S hv] at hm
          cases hm
      | frame k =>
          have hk : k ≠ 0 := fun h0 => S.pos buf (by rw [hv, h0])
          by_cases hle : k ≤ buf.length
          · rw [drain_frame S hv hle] at hm
            rcases List.mem_cons.mp hm with rfl | hm
            · refine ⟨buf.drop k, ?_⟩
              rw [List.take_append_drop, List.length_take, min_eq_left hle, hv]
            · exact ih (buf.drop k).length (by rw [List.length_drop]; omega) (buf.drop k) hm rfl
          · rw [drain_short S hv (by omega)] at hm
            cases hm

end EdgeOffloading.Framing
