import Mathlib.Data.List.Infix
import Mathlib.Tactic

/-!
# Receiving without framing

A peer writes the encodings of a list of items one after the other on a stream; the stream arrives in chunks, and the
receiver takes every chunk by itself for the encoding of one item. There is no buffer: a chunk that is no item is
dropped.

* `receive_eq_iff`: the receiver gets exactly the items iff the chunks are exactly their encodings and the receiver goes
  on after every item but the last.
-/

namespace EdgeOffloading.Unframed

variable {β δ : Type*}

/-- What a receiver makes of one chunk. -/
inductive Reading (δ : Type*) where
  /-- The receiver stops. -/
  | stop
  /-- The chunk is dropped. -/
  | skip
  | item (d : δ)

/-- A chunk that does not parse is dropped. -/
def Reading.ofOption : Option δ → Reading δ
  | none => .skip
  | some d => .item d

theorem Reading.ofOption_eq_item {o : Option δ} {d : δ} : Reading.ofOption o = .item d ↔ o = some d := by
  cases o with
  | none => simp [Reading.ofOption]
  | some d' => simp [Reading.ofOption]

/-- The items received from the chunks; the receiver stops after an item on which `goesOn` fails. -/
def receive (read : List β → Reading δ) (goesOn : δ → Bool) : List (List β) → List δ
  | [] => []
  | chunk :: chunks =>
    match read chunk with
    | .stop => []
    | .skip => receive read goesOn chunks
    | .item d => d :: if goesOn d then receive read goesOn chunks else []

section

variable {read : List β → Reading δ} (goesOn : δ → Bool) {encode : δ → List β}

theorem length_receive_le (hpart : ∀ c d, read c = .item d → encode d <:+: c) (chunks : List (List β)) :
    ((receive read goesOn chunks).map encode).flatten.length ≤ chunks.flatten.length := by
  induction chunks with
  | nil => exact Nat.le_refl _
  | cons chunk chunks ih =>
      unfold receive
      cases hread : read chunk with
      | stop => exact Nat.zero_le _
      | skip =>
          simp only [List.flatten_cons, List.length_append]
          omega
      | item d =>
          have hd : (encode d).length ≤ chunk.length := (hpart chunk d hread).length_le
          simp only [List.map_cons, List.flatten_cons, List.length_append]
          split
          · omega
          · simp only [List.map_nil, List.flatten_nil, List.length_nil]
            omega

theorem chunks_eq_of_length_eq (hpart : ∀ c d, read c = .item d → encode d <:+: c) {chunks : List (List β)}
    (hne : ∀ c ∈ chunks, c ≠ [])
    (hlen : ((receive read goesOn chunks).map encode).flatten.length = chunks.flatten.length) :
    chunks = (receive read goesOn chunks).map encode := by
  induction chunks with
  | nil => rfl
  | cons chunk chunks ih =>
      have hpos : 0 < chunk.length := List.length_pos_iff.mpr (hne chunk (by simp))
      have hrest := length_receive_le goesOn hpart chunks
      unfold receive at hlen ⊢
      cases hread : read chunk with
      | stop =>
          simp only [hread, List.map_nil, List.flatten_nil, List.length_nil, List.flatten_cons,
            List.length_append] at hlen
          omega
      | skip =>
          simp only [hread, List.flatten_cons, List.length_append] at hlen
          omega
      | item d =>
          have hd := hpart chunk d hread
          have hdlen : (encode d).length ≤ chunk.length := hd.length_le
          simp only [hread, List.map_cons, List.flatten_cons, List.length_append] at hlen
          cases hgo : goesOn d with
          | true =>
              simp only [hgo, if_true] at hlen
              have hchunk : encode d = chunk := hd.eq_of_length (by omega)
              have htail := ih (fun c hc => hne c (List.mem_cons_of_mem _ hc)) (by omega)
              simp only [List.map_cons, hchunk, hgo, if_true]
              rw [← htail]
          | false =>
              simp only [hgo, Bool.false_eq_true, if_false, List.map_nil, List.flatten_nil, List.length_nil] at hlen
              have hchunk : encode d = chunk := hd.eq_of_length (by omega)
              have hnil : chunks = [] := by
                cases chunks with
                | nil => rfl
                | cons c cs =>
                    have hc : 0 < c.length := List.length_pos_iff.mpr (hne c (by simp))
                    simp only [List.flatten_cons, List.length_append] at hlen
                    omega
              simp [hchunk, hnil, hgo]

theorem receive_map_encode_eq_iff {items : List δ} (hread : ∀ d ∈ items, read (encode d) = .item d) :
    receive read goesOn (items.map encode) = items ↔ ∀ d ∈ items.dropLast, goesOn d = true := by
  induction items with
  | nil => simp [receive]
  | cons d items ih =>
      have ih := ih fun d' hd' => hread d' (List.mem_cons_of_mem _ hd')
      rw [List.map_cons, receive, hread d (by simp)]
      dsimp only
      rw [List.cons_inj_right]
      cases items with
      | nil => cases goesOn d <;> simp [receive]
      | cons d' items =>
          rw [List.dropLast_cons_cons]
          cases hgo : goesOn d with
          | true =>
              rw [if_pos rfl, ih]
              simp [hgo]
          | false => simp [hgo]

/-- **Without framing exactly the items are received iff every chunk is exactly one item.** -/
theorem receive_eq_iff (hpart : ∀ c d, read c = .item d → encode d <:+: c) {items : List δ}
    (hread : ∀ d ∈ items, read (encode d) = .item d) {chunks : List (List β)} (hne : ∀ c ∈ chunks, c ≠ [])
    (hstream : chunks.flatten = (items.map encode).flatten) :
    receive read goesOn chunks = items ↔ chunks = items.map encode ∧ ∀ d ∈ items.dropLast, goesOn d = true := by
  constructor
  · intro h
    have hchunks := chunks_eq_of_length_eq goesOn hpart hne (by rw [h, hstream])
    rw [h] at hchunks
    refine ⟨hchunks, (receive_map_encode_eq_iff goesOn hread).mp ?_⟩
    rw [← hchunks]
    exact h
  · rintro ⟨rfl, hgo⟩
    exact (receive_map_encode_eq_iff goesOn hread).mpr hgo

end

end EdgeOffloading.Unframed
