import Mathlib

/-!
# JSON values and their conversions

The `nlohmann::json` values that the control plane exchanges, and the conversions it applies to them. A conversion
that throws `type_error` is `none`. Integers convert to a narrower integer type by truncation, booleans and floating
point numbers convert to `int` and `uint32_t` as well.
-/

namespace EdgeOffloading

inductive Json where
  | null
  | bool (b : Bool)
  | int (n : Int)
  | float (q : Rat)
  | str (s : String)
  | arr (items : List Json)
  | obj (fields : List (String × Json))
  deriving Repr, Inhabited

namespace Json

/-- `j.find(k)` on an object; other values have no members. -/
def find (j : Json) (k : String) : Option Json :=
  match j with
  | .obj fields => fields.lookup k
  | _ => none

def contains (j : Json) (k : String) : Bool := (j.find k).isSome

/-- `j[k]` of a constant value; every use stands behind `contains`. -/
def get (j : Json) (k : String) : Json := (j.find k).getD .null

/-- `j[k] = v` on an object. -/
def set (j : Json) (k : String) (v : Json) : Json :=
  match j with
  | .obj fields => .obj ((k, v) :: fields.filter fun f => f.1 ≠ k)
  | j => j

/-- A double cast to an integer type drops its fraction. -/
def truncate (q : Rat) : Int := q.num.tdiv q.den

/-- `int x = j`. -/
def asInt : Json → Option Int
  | .int n => some (n.bmod (2 ^ 32))
  | .bool b => some (if b then 1 else 0)
  | .float q => some ((truncate q).bmod (2 ^ 32))
  | _ => none

/-- `uint32_t x = j`. -/
def asUInt32 : Json → Option Nat
  | .int n => some (n % 2 ^ 32).toNat
  | .bool b => some (if b then 1 else 0)
  | .float q => some (truncate q % 2 ^ 32).toNat
  | _ => none

/-- `uint64_t x = j`: the library's own unsigned type, which takes no boolean. -/
def asUInt64 : Json → Option Nat
  | .int n => some (n % 2 ^ 64).toNat
  | .float q => some (truncate q % 2 ^ 64).toNat
  | _ => none

/-- `std::string x = j`. -/
def asString : Json → Option String
  | .str s => some s
  | _ => none

/-- `j.value(k, d)` with an `int` default. -/
def valueInt (j : Json) (k : String) (d : Int) : Option Int :=
  match j with
  | .obj fields =>
    match fields.lookup k with
    | some v => v.asInt
    | none => some d
  | _ => none

/-- `j.value(k, d)` with a `std::string` default. -/
def valueString (j : Json) (k : String) (d : String) : Option String :=
  match j with
  | .obj fields =>
    match fields.lookup k with
    | some v => v.asString
    | none => some d
  | _ => none

/-- `j == n` for an integer `n`. -/
def eqInt : Json → Int → Bool
  | .int m, n => m = n
  | .float q, n => q = n
  | _, _ => false

/-! ## Members that convert -/

theorem contains_of_get_ne_null {j : Json} {k : String} (h : j.get k ≠ .null) : j.contains k = true := by
  unfold get at h
  unfold contains
  cases hf : j.find k with
  | none => rw [hf] at h; exact absurd rfl h
  | some v => rfl

theorem contains_of_asString {j : Json} {k v : String} (h : (j.get k).asString = some v) : j.contains k = true :=
  contains_of_get_ne_null fun h0 => by rw [h0] at h; cases h

theorem contains_of_asInt {j : Json} {k : String} {v : Int} (h : (j.get k).asInt = some v) : j.contains k = true :=
  contains_of_get_ne_null fun h0 => by rw [h0] at h; cases h

theorem contains_of_asUInt32 {j : Json} {k : String} {v : Nat} (h : (j.get k).asUInt32 = some v) :
    j.contains k = true :=
  contains_of_get_ne_null fun h0 => by rw [h0] at h; cases h

theorem valueInt_of_get {j : Json} {k : String} {n : Int} (h : j.get k = .int n) (d : Int) :
    j.valueInt k d = some (n.bmod (2 ^ 32)) := by
  cases j with
  | obj fields =>
      have hlookup : (fields.lookup k).getD .null = .int n := h
      cases hfield : fields.lookup k with
      | none =>
          rw [hfield] at hlookup
          cases hlookup
      | some v =>
          rw [hfield] at hlookup
          obtain rfl : v = .int n := hlookup
          simp only [valueInt, hfield]
          rfl
  | _ => cases h

end Json

end EdgeOffloading
