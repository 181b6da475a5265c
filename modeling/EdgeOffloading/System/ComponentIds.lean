import EdgeOffloading.Cpp.Numerals
import EdgeOffloading.Gateway.Header
import EdgeOffloading.System.Identity

/-!
# Component ids and their spellings

A gateway writes its id with `std::to_string`. The Bridge compares ids as strings, but what it accepts and the keys it
builds are what `std::stoi` makes of the two parts, so one id may have several accepted spellings.

* `isValidComponentId_iff`: the accepted strings, part by part;
* `canonicalIds_iff`: the accepted strings are the ones that gateways write, and different ones have different source
  ids, exactly where numbers in range are spelled with digits alone and without superfluous zeros.
-/

namespace EdgeOffloading

open Bridge

/-! ## Accepted strings -/

def InByte (n : Int) : Prop := 0 ≤ n ∧ n ≤ 255

/-- The two parts around the first colon, and the numbers in range that `std::stoi` reads there. -/
structure Spells (c : String) (group id : List Char) (g i : Int) : Prop where
  split : splitAtColon c.toList = some (group, id)
  group : stoi group = some g
  id : stoi id = some i
  groupRange : InByte g
  idRange : InByte i

theorem Spells.parts {c : String} {group id : List Char} {g i : Int} (h : Spells c group id g i) :
    componentIdParts c = some (g, i) := by
  unfold componentIdParts
  rw [h.split]
  simp only [h.group, h.id]

theorem isValidComponentId_iff {c : String} :
    isValidComponentId c = true ↔ ∃ group id g i, Spells c group id g i := by
  constructor
  · intro h
    unfold isValidComponentId componentIdParts at h
    cases hsplit : splitAtColon c.toList with
    | none => simp [hsplit] at h
    | some parts =>
        obtain ⟨group, id⟩ := parts
        cases hgroup : stoi group with
        | none => simp [hsplit, hgroup] at h
        | some g =>
            cases hid : stoi id with
            | none => simp [hsplit, hgroup, hid] at h
            | some i =>
                simp only [hsplit, hgroup, hid, Bool.and_eq_true, decide_eq_true_eq] at h
                exact ⟨group, id, g, i, hsplit, hgroup, hid, ⟨h.1.1.1, h.1.1.2⟩, ⟨h.1.2, h.2⟩⟩
  · rintro ⟨group, id, g, i, h⟩
    unfold isValidComponentId
    rw [h.parts]
    simp only [Bool.and_eq_true, decide_eq_true_eq]
    exact ⟨⟨h.groupRange, h.idRange.1⟩, h.idRange.2⟩

/-! ## Canonical strings -/

/-- `std::to_string` of two numbers in range around a colon. -/
def IsCanonical (c : String) : Prop := ∃ identity : Identity, identity.InRange ∧ c = identity.componentId

theorem InByte.lift {n : Int} (h : InByte n) : ∃ k : Nat, n = k ∧ k < 2 ^ 31 := by
  obtain ⟨hmin, hmax⟩ := h
  exact ⟨n.toNat, by omega, by omega⟩

theorem IsCanonical.spells {c : String} (h : IsCanonical c) :
    ∃ group id g i, Spells c group id g i ∧ Plain group ∧ Plain id := by
  obtain ⟨⟨g, i⟩, ⟨hgmin, hgmax, himin, himax⟩, rfl⟩ := h
  obtain ⟨k, rfl, hk⟩ := InByte.lift ⟨hgmin, hgmax⟩
  obtain ⟨l, rfl, hl⟩ := InByte.lift ⟨himin, himax⟩
  refine ⟨Nat.toDigits 10 k, Nat.toDigits 10 l, k, l, ⟨?_, stoi_toDigits hk, stoi_toDigits hl, ⟨hgmin, hgmax⟩,
    ⟨himin, himax⟩⟩, plain_toDigits k, plain_toDigits l⟩
  rw [Identity.toList_componentId]
  exact splitAtColon_append (colon_notMem_toDigits k) _

theorem Spells.isCanonical {c : String} {group id : List Char} {g i : Int} (h : Spells c group id g i)
    (hgroup : Plain group) (hid : Plain id) : IsCanonical c := by
  refine ⟨⟨g, i⟩, ⟨h.groupRange.1, h.groupRange.2, h.idRange⟩, ?_⟩
  obtain ⟨k, rfl, -⟩ := h.groupRange.lift
  obtain ⟨l, rfl, -⟩ := h.idRange.lift
  apply String.toList_inj.mp
  rw [eq_of_splitAtColon h.split, Identity.toList_componentId, eq_toDigits_of_stoi hgroup h.group,
    eq_toDigits_of_stoi hid h.id]

/-- Numbers in range are spelled with digits alone and without superfluous zeros. -/
def WellSpelled (c : String) : Prop := ∀ group id g i, Spells c group id g i → Plain group ∧ Plain id

/-- **The accepted strings.** -/
theorem isValidComponentId_iff_isCanonical {c : String} :
    (isValidComponentId c = true ↔ IsCanonical c) ↔ WellSpelled c := by
  constructor
  · intro h group id g i hs
    obtain ⟨group', id', g', i', hs', hplain⟩ := (h.mp (isValidComponentId_iff.mpr ⟨group, id, g, i, hs⟩)).spells
    obtain ⟨rfl, rfl⟩ : group = group' ∧ id = id' := by simpa using hs.split.symm.trans hs'.split
    exact hplain
  · intro h
    constructor
    · intro hvalid
      obtain ⟨group, id, g, i, hs⟩ := isValidComponentId_iff.mp hvalid
      obtain ⟨hgroup, hid⟩ := h group id g i hs
      exact hs.isCanonical hgroup hid
    · intro hc
      obtain ⟨group, id, g, i, hs, -⟩ := hc.spells
      exact isValidComponentId_iff.mpr ⟨group, id, g, i, hs⟩

/-! ## Source ids -/

theorem routingKeyOf_sourceId_inj {parts parts' : Int × Int} {msgType msgType' : UInt8} (hg : InByte parts.1)
    (hi : InByte parts.2) (hg' : InByte parts'.1) (hi' : InByte parts'.2)
    (h : (routingKeyOf parts msgType).sourceId = (routingKeyOf parts' msgType').sourceId) : parts = parts' := by
  have hcast : ∀ {n : Int}, InByte n → ((UInt8.ofInt n).toNat : Int) = n := by
    rintro n ⟨hmin, hmax⟩
    rw [UInt8.ofInt, UInt8.toNat_ofNat']
    omega
  have hvalue := congrArg UInt16.toNat h
  unfold routingKeyOf constructRoutingKey at hvalue
  rw [toNat_magic, toNat_magic] at hvalue
  have hlow := (UInt8.ofInt parts.2).toNat_lt
  have hlow' := (UInt8.ofInt parts'.2).toNat_lt
  have hg := hcast hg
  have hi := hcast hi
  have hg' := hcast hg'
  have hi' := hcast hi'
  exact Prod.ext (by omega) (by omega)

/-- The accepted ids of two strings are the canonical ones, and if the strings differ, so do the source ids of the keys
that are built from them. -/
structure CanonicalIds (c c' : String) : Prop where
  left : isValidComponentId c = true ↔ IsCanonical c
  right : isValidComponentId c' = true ↔ IsCanonical c'
  sourceIds : isValidComponentId c = true → isValidComponentId c' = true → c ≠ c' →
    ∀ parts parts', componentIdParts c = some parts → componentIdParts c' = some parts' →
      ∀ msgType msgType', (routingKeyOf parts msgType).sourceId ≠ (routingKeyOf parts' msgType').sourceId

theorem IsCanonical.eq {c c' : String} (h : IsCanonical c) (h' : IsCanonical c') {parts : Int × Int}
    (hparts : componentIdParts c = some parts) (hparts' : componentIdParts c' = some parts) : c = c' := by
  obtain ⟨identity, hrange, rfl⟩ := h
  obtain ⟨identity', hrange', rfl⟩ := h'
  rw [Identity.componentIdParts_componentId hrange] at hparts
  rw [Identity.componentIdParts_componentId hrange', ← hparts] at hparts'
  simp only [Option.some.injEq, Prod.mk.injEq] at hparts'
  unfold Identity.componentId
  rw [hparts'.1, hparts'.2]

/-- **Component ids are canonical** exactly where they are well spelled. -/
theorem canonicalIds_iff (c c' : String) : CanonicalIds c c' ↔ WellSpelled c ∧ WellSpelled c' := by
  constructor
  · intro h
    exact ⟨isValidComponentId_iff_isCanonical.mp h.left, isValidComponentId_iff_isCanonical.mp h.right⟩
  · rintro ⟨h, h'⟩
    have hleft := isValidComponentId_iff_isCanonical.mpr h
    have hright := isValidComponentId_iff_isCanonical.mpr h'
    refine ⟨hleft, hright, fun hvalid hvalid' hne parts parts' hparts hparts' msgType msgType' hsource => ?_⟩
    obtain ⟨group, id, g, i, hs⟩ := isValidComponentId_iff.mp hvalid
    obtain ⟨group', id', g', i', hs'⟩ := isValidComponentId_iff.mp hvalid'
    have hnumbers : parts = (g, i) := by simpa [hs.parts] using hparts.symm
    have hnumbers' : parts' = (g', i') := by simpa [hs'.parts] using hparts'.symm
    subst hnumbers hnumbers'
    have hsame := routingKeyOf_sourceId_inj hs.groupRange hs.idRange hs'.groupRange hs'.idRange hsource
    rw [← hsame] at hparts'
    exact hne ((hleft.mp hvalid).eq (hright.mp hvalid') hparts hparts')

/-- ` 60:5x` is accepted, is not what a gateway writes, and has the keys of `60:5`. -/
theorem not_canonicalIds_padded :
    isValidComponentId " 60:5x" = true ∧ isValidComponentId "60:5" = true ∧
      componentIdParts " 60:5x" = componentIdParts "60:5" ∧ ¬IsCanonical " 60:5x" ∧
      ¬CanonicalIds " 60:5x" "60:5" := by
  have hvalid : isValidComponentId " 60:5x" = true := by decide
  have hnot : ¬IsCanonical " 60:5x" := by
    intro h
    obtain ⟨group, id, g, i, hs, hgroup, -⟩ := h.spells
    have hsplit : splitAtColon " 60:5x".toList = some (" 60".toList, "5x".toList) := by decide
    obtain ⟨rfl, -⟩ : " 60".toList = group ∧ "5x".toList = id := by simpa using hsplit.symm.trans hs.split
    exact absurd hgroup.2.1 (by simp)
  refine ⟨hvalid, by decide, by decide, hnot, ?_⟩
  intro h
  exact hnot (h.left.mp hvalid)

end EdgeOffloading
