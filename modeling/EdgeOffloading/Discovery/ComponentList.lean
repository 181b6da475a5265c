import EdgeOffloading.Discovery.Protocol

/-!
# Component lists and their counts

`decode_component_list_response` casts the count field from `int` to `uint32_t` and adds to it in `uint32_t`, in the
bound check, in the loop over the components and in the index of the message. `pushComponents` is that loop, round by
round; `componentDataList_of_pushComponents` ties it to the list of `decodeComponentListResponse`.

* `decodeComponentListResponse_consistent_iff`: what the decoder accepts is what the line says, unless the count field
  reads as `-3`, `-2` or `-1`, where the bound check wraps around.
-/

namespace EdgeOffloading.Discovery

/-! ## The loop -/

/-- The loop over the components from round `i` on, `none` if it has not ended after `steps` rounds. -/
def pushComponents (parts : List String) (componentCount : UInt32) :
    Nat → UInt32 → List String → Option (List String)
  | 0, i, out => if i < componentCount then none else some out
  | steps + 1, i, out =>
      if i < componentCount then
        pushComponents parts componentCount steps (i + 1) (out ++ parts[(2 + i).toNat]?.toList)
      else some out

def componentAt (parts : List String) (i : Nat) : Option String := parts[(2 + UInt32.ofNat i).toNat]?

theorem pushComponents_of_le {parts : List String} {n i : UInt32} (h : n ≤ i) (steps : Nat) (out : List String) :
    pushComponents parts n steps i out = some out := by
  cases steps <;> rw [pushComponents, if_neg (UInt32.not_lt.mpr h)]

theorem toNat_succ_of_lt {i n : UInt32} (h : i < n) : (i + 1).toNat = i.toNat + 1 := by
  rw [UInt32.lt_iff_toNat_lt] at h
  have hn := n.toNat_lt
  rw [UInt32.toNat_add, UInt32.toNat_one]
  omega

theorem componentAt_range {parts : List String} {i n : UInt32} (h : i < n) :
    (List.range' i.toNat (n.toNat - i.toNat)).filterMap (componentAt parts) =
      parts[(2 + i).toNat]?.toList ++
        (List.range' (i + 1).toNat (n.toNat - (i + 1).toNat)).filterMap (componentAt parts) := by
  have hlt := UInt32.lt_iff_toNat_lt.mp h
  obtain ⟨k, hk⟩ : ∃ k, n.toNat - i.toNat = k + 1 := ⟨n.toNat - i.toNat - 1, by omega⟩
  have hat : componentAt parts i.toNat = parts[(2 + i).toNat]? := by
    rw [componentAt, UInt32.ofNat_toNat]
  rw [toNat_succ_of_lt h, show n.toNat - (i.toNat + 1) = k by omega, hk, List.range'_succ, List.filterMap_cons, hat]
  cases parts[(2 + i).toNat]? <;> rfl

/-- **The loop takes as many rounds as the count says and pushes the entries in order.** -/
theorem pushComponents_eq (parts : List String) (n : UInt32) (steps : Nat) :
    ∀ (i : UInt32) (out : List String), i ≤ n →
      pushComponents parts n steps i out =
        if n.toNat ≤ i.toNat + steps then
          some (out ++ (List.range' i.toNat (n.toNat - i.toNat)).filterMap (componentAt parts))
        else none := by
  induction steps with
  | zero =>
      intro i out hi
      by_cases hlt : i < n
      · have hnat := UInt32.lt_iff_toNat_lt.mp hlt
        rw [pushComponents, if_pos hlt, if_neg (by omega)]
      · have hle := UInt32.not_lt.mp hlt
        rw [pushComponents_of_le hle, UInt32.le_antisymm hi hle]
        simp
  | succ steps ih =>
      intro i out hi
      by_cases hlt : i < n
      · have hnat := UInt32.lt_iff_toNat_lt.mp hlt
        have hsucc := toNat_succ_of_lt hlt
        rw [pushComponents, if_pos hlt, ih (i + 1) _ (UInt32.le_iff_toNat_le.mpr (by omega)), hsucc,
          show i.toNat + 1 + steps = i.toNat + (steps + 1) by omega, componentAt_range hlt, hsucc, List.append_assoc]
      · have hle := UInt32.not_lt.mp hlt
        rw [pushComponents_of_le hle, UInt32.le_antisymm hi hle]
        simp

theorem pushComponents_zero (parts : List String) (n : UInt32) (steps : Nat) :
    pushComponents parts n steps 0 [] =
      if n.toNat ≤ steps then some ((List.range n.toNat).filterMap (componentAt parts)) else none := by
  rw [pushComponents_eq parts n steps 0 [] (UInt32.zero_le), UInt32.toNat_zero, Nat.zero_add, Nat.sub_zero,
    List.nil_append, List.range_eq_range']

/-! ## Accepted lines -/

def countField (input : String) : Option Int := (splitString input ';')[1]?.bind fun count => stoi count.toList

theorem decodeComponentListResponse_eq_ok {input : String} {list : ComponentListResponse}
    (h : decodeComponentListResponse input = .ok list) :
    ∃ n : Int, countField input = some n ∧ list.componentCount = UInt32.ofInt n ∧
      (2 + list.componentCount + 1).toNat ≤ (splitString input ';').length ∧
      list.componentDataList =
        (List.range list.componentCount.toNat).filterMap (componentAt (splitString input ';')) ∧
      list.humanReadableMessage = (splitString input ';').getD (2 + list.componentCount).toNat "" := by
  unfold decodeComponentListResponse at h
  dsimp only at h
  split at h
  · rename_i tag count text rest hparts
    obtain ⟨n, hn, h⟩ := bind_eq_ok h
    split at h
    · cases h
    · rename_i hlen
      cases h
      refine ⟨n, ?_, rfl, not_lt.mp hlen, rfl, rfl⟩
      rw [countField, hparts]
      exact readInt_eq_ok hn
  · cases h

theorem componentDataList_of_pushComponents {input : String} {list : ComponentListResponse}
    (h : decodeComponentListResponse input = .ok list) (steps : Nat) :
    pushComponents (splitString input ';') list.componentCount steps 0 [] =
      if list.componentCount.toNat ≤ steps then some list.componentDataList else none := by
  obtain ⟨n, -, -, -, hlist, -⟩ := decodeComponentListResponse_eq_ok h
  rw [pushComponents_zero, hlist]

/-- What a component list owes to the fields it was read from. -/
structure ComponentListResponse.Consistent (list : ComponentListResponse) (parts : List String) : Prop where
  length : list.componentDataList.length = list.componentCount.toNat
  entries : list.componentDataList = (parts.drop 2).take list.componentCount.toNat
  message : parts[2 + list.componentCount.toNat]? = some list.humanReadableMessage
  -- the sums of the bound check and of the index do not wrap around
  bound : (2 + list.componentCount + 1).toNat = 2 + list.componentCount.toNat + 1
  index : ∀ i ≤ list.componentCount, (2 + i).toNat = 2 + i.toNat
  -- no more rounds than fields
  steps : pushComponents parts list.componentCount parts.length 0 [] = some list.componentDataList

/-- The numerals whose cast the bound check wraps around. -/
def WrapsBound (n : Int) : Prop := n = -3 ∨ n = -2 ∨ n = -1

instance (n : Int) : Decidable (WrapsBound n) := inferInstanceAs (Decidable (n = -3 ∨ n = -2 ∨ n = -1))

theorem toNat_ofInt (n : Int) : ((UInt32.ofInt n).toNat : Int) = n % 2 ^ 32 := by
  rw [UInt32.ofInt, UInt32.toNat_ofNat', Int.natCast_mod, Int.toNat_of_nonneg (Int.emod_nonneg n (by decide))]
  simp

theorem wrapsBound_iff {n : Int} (hmin : -(2 ^ 31) ≤ n) (hmax : n < 2 ^ 31) :
    WrapsBound n ↔ 2 ^ 32 ≤ (UInt32.ofInt n).toNat + 3 := by
  have hcast := toNat_ofInt n
  unfold WrapsBound
  omega

theorem two_add_toNat_of_lt {i : UInt32} (h : i.toNat + 2 < 2 ^ 32) : (2 + i).toNat = 2 + i.toNat := by
  rw [UInt32.toNat_add, show (2 : UInt32).toNat = 2 from rfl]
  omega

theorem componentAt_filterMap {parts : List String} {n : Nat} (h : n + 2 < 2 ^ 32) :
    (List.range n).filterMap (componentAt parts) = (parts.drop 2).take n := by
  rw [← filterMap_range_getElem?]
  apply List.filterMap_congr
  intro i hi
  have hlt : i < n := List.mem_range.mp hi
  have hcast : (UInt32.ofNat i).toNat = i := by
    rw [UInt32.toNat_ofNat']
    omega
  rw [componentAt, two_add_toNat_of_lt (by omega), hcast, List.getElem?_drop]

theorem consistent_of_room {input : String} {list : ComponentListResponse}
    (h : decodeComponentListResponse input = .ok list) (hroom : list.componentCount.toNat + 3 < 2 ^ 32) :
    list.Consistent (splitString input ';') := by
  obtain ⟨n, -, -, hlen, hlist, hmessage⟩ := decodeComponentListResponse_eq_ok h
  have htwo : (2 + list.componentCount).toNat = 2 + list.componentCount.toNat := two_add_toNat_of_lt (by omega)
  have hthree : (2 + list.componentCount + 1).toNat = 2 + list.componentCount.toNat + 1 := by
    rw [UInt32.toNat_add, htwo, UInt32.toNat_one]
    omega
  have hentries : list.componentDataList = ((splitString input ';').drop 2).take list.componentCount.toNat := by
    rw [hlist]
    exact componentAt_filterMap (by omega)
  rw [hthree] at hlen
  refine ⟨?_, hentries, ?_, hthree, ?_, ?_⟩
  · rw [hentries, List.length_take, List.length_drop]
    omega
  · rw [hmessage, htwo, List.getD_eq_getElem?_getD, List.getElem?_eq_getElem (by omega), Option.getD_some]
  · intro i hi
    have hnat := UInt32.le_iff_toNat_le.mp hi
    exact two_add_toNat_of_lt (by omega)
  · rw [componentDataList_of_pushComponents h, if_pos (by omega)]

/-- **Component lists and their counts.** An accepted line is read as it is written exactly if its count field is none
of the three numerals that make the bound check wrap around. -/
theorem decodeComponentListResponse_consistent_iff {input : String} {list : ComponentListResponse}
    (h : decodeComponentListResponse input = .ok list) :
    list.Consistent (splitString input ';') ↔ ∀ n, countField input = some n → ¬WrapsBound n := by
  obtain ⟨n, hn, hcount, -⟩ := decodeComponentListResponse_eq_ok h
  have hwraps : WrapsBound n ↔ 2 ^ 32 ≤ list.componentCount.toNat + 3 := by
    obtain ⟨count, -, hstoi⟩ := Option.bind_eq_some_iff.mp hn
    obtain ⟨hmin, hmax⟩ := stoi_range hstoi
    rw [hcount]
    exact wrapsBound_iff hmin hmax
  constructor
  · intro hc m hm hwrap
    rw [hn] at hm
    cases hm
    -- the sum of the bound check is a `uint32_t`
    have hlt := (2 + list.componentCount + 1).toNat_lt
    have hbound := hc.bound
    have hroom := hwraps.mp hwrap
    omega
  · intro hnot
    apply consistent_of_room h
    have hroom := hwraps.not.mp (hnot n hn)
    omega

theorem consistent_one_component :
    ∃ list, decodeComponentListResponse "DISC:LST;1;60:5,V;found" = .ok list ∧
      list.Consistent (splitString "DISC:LST;1;60:5,V;found" ';') := by
  have hok : decodeComponentListResponse "DISC:LST;1;60:5,V;found" =
      .ok { componentCount := 1, componentDataList := ["60:5,V"], humanReadableMessage := "found" } := by
    decide +kernel
  refine ⟨_, hok, (decodeComponentListResponse_consistent_iff hok).mpr ?_⟩
  have hcount : countField "DISC:LST;1;60:5,V;found" = some 1 := by decide +kernel
  intro n hn
  rw [hcount] at hn
  cases hn
  decide

/-- The count `-1` passes the check of a line of four fields, and the message is read from the count field. -/
theorem not_consistent_negative_count :
    ∃ list, decodeComponentListResponse "DISC:LST;-1;60:5,V;found" = .ok list ∧
      list.componentCount = 4294967295 ∧ list.humanReadableMessage = "-1" ∧
      ¬list.Consistent (splitString "DISC:LST;-1;60:5,V;found" ';') := by
  have hparts : splitString "DISC:LST;-1;60:5,V;found" ';' = ["DISC:LST", "-1", "60:5,V", "found"] := by
    decide +kernel
  have hread : readInt "-1" = .ok (-1) := by decide +kernel
  have hok : decodeComponentListResponse "DISC:LST;-1;60:5,V;found" =
      .ok { componentCount := 4294967295
            componentDataList :=
              (List.range (4294967295 : UInt32).toNat).filterMap (componentAt ["DISC:LST", "-1", "60:5,V", "found"])
            humanReadableMessage := "-1" } := by
    rw [decodeComponentListResponse, hparts]
    dsimp only
    rw [hread]
    rfl
  refine ⟨_, hok, rfl, rfl, ?_⟩
  intro hc
  exact absurd hc.bound (by decide)

end EdgeOffloading.Discovery
