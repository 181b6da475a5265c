import EdgeOffloading.Cpp.Json

/-!
# The numbers of a parsed document

`nlohmann::json::parse` keeps the integers that fit into 64 bits. Every other number becomes the nearest double, and one
that no double can hold is an `out_of_range`, which is not a `parse_error`.

* `Json.parsed`: what the parser makes of a document, `none` where it throws `out_of_range`;
* `Json.find_parsed`, `Json.get_parsed`: the members of a parsed document are the parsed members.
-/

namespace EdgeOffloading

/-- The nearest integer, the even one of two. -/
def roundHalfEven (q : Rat) : Int :=
  let rest := q - q.floor
  if rest < 1 / 2 ∨ rest = 1 / 2 ∧ q.floor % 2 = 0 then q.floor else q.floor + 1

/-- The nearest double, if it is finite: 53 significant bits, and no unit below the one of the subnormal numbers. -/
def nearestDouble (q : Rat) : Option Rat :=
  let unit : Rat := 2 ^ max (Int.log 2 |q| - 52) (-1074)
  let rounded := roundHalfEven (q / unit) * unit
  if |rounded| < 2 ^ 1024 then some rounded else none

namespace Json

/-- An integer that the parser keeps, as `std::int64_t` or `std::uint64_t`. -/
def FitsInteger (n : Int) : Prop := -2 ^ 63 ≤ n ∧ n < 2 ^ 64

instance (n : Int) : Decidable (FitsInteger n) := inferInstanceAs (Decidable (_ ∧ _))

mutual

/-- `json::parse` of a document. -/
def parsed : Json → Option Json
  | .int n => if FitsInteger n then some (.int n) else (nearestDouble n).map .float
  | .float q => (nearestDouble q).map .float
  | .arr items => (parsedItems items).map .arr
  | .obj fields => (parsedFields fields).map .obj
  | .null => some .null
  | .bool b => some (.bool b)
  | .str s => some (.str s)

def parsedItems : List Json → Option (List Json)
  | [] => some []
  | item :: items => (parsed item).bind fun item => (parsedItems items).map (item :: ·)

def parsedFields : List (String × Json) → Option (List (String × Json))
  | [] => some []
  | (key, value) :: fields => (parsed value).bind fun value => (parsedFields fields).map ((key, value) :: ·)

end

/-- An integer that needs more than 64 bits loses its last bits, and `1e400` is out of range. -/
example : (int (2 ^ 64 + 1)).parsed.isSome = true ∧ nearestDouble (2 ^ 64 + 1) = some (2 ^ 64) ∧
    (obj [("x", float (10 ^ 400))]).parsed.isNone = true := by
  decide +kernel

/-! ## Members -/

variable {j j' : Json}

theorem map_parsed {items items' : List Json} (h : parsedItems items = some items') :
    items.map parsed = items'.map some := by
  induction items generalizing items' with
  | nil =>
      cases h
      rfl
  | cons item items ih =>
      obtain ⟨item', hitem, hitems⟩ := Option.bind_eq_some_iff.mp h
      obtain ⟨rest, hrest, rfl⟩ := Option.map_eq_some_iff.mp hitems
      rw [List.map_cons, List.map_cons, hitem, ih hrest]

theorem lookup_parsed {fields fields' : List (String × Json)} (h : parsedFields fields = some fields') (k : String) :
    (fields.lookup k).map parsed = (fields'.lookup k).map some := by
  induction fields generalizing fields' with
  | nil =>
      cases h
      rfl
  | cons field fields ih =>
      obtain ⟨key, value⟩ := field
      obtain ⟨value', hvalue, hfields⟩ := Option.bind_eq_some_iff.mp h
      obtain ⟨rest, hrest, rfl⟩ := Option.map_eq_some_iff.mp hfields
      rw [List.lookup_cons, List.lookup_cons]
      split
      · rw [Option.map_some, Option.map_some, hvalue]
      · exact ih hrest

theorem parsed_arr {items : List Json} (h : (arr items).parsed = some j') :
    ∃ items', j' = arr items' ∧ items.map parsed = items'.map some := by
  obtain ⟨items', hitems, rfl⟩ := Option.map_eq_some_iff.mp h
  exact ⟨items', rfl, map_parsed hitems⟩

/-- **The members of a parsed document** are what its members are parsed to. -/
theorem find_parsed (h : j.parsed = some j') (k : String) : (j.find k).map parsed = (j'.find k).map some := by
  -- only an object has members, and only an object is parsed to one
  cases j with
  | obj fields =>
      obtain ⟨fields', hfields, rfl⟩ := Option.map_eq_some_iff.mp h
      exact lookup_parsed hfields k
  | arr items =>
      obtain ⟨items', rfl, -⟩ := parsed_arr h
      rfl
  | int n =>
      unfold parsed at h
      split_ifs at h
      · cases h
        rfl
      · obtain ⟨q, -, rfl⟩ := Option.map_eq_some_iff.mp h
        rfl
  | float q =>
      obtain ⟨q', -, rfl⟩ := Option.map_eq_some_iff.mp h
      rfl
  | _ =>
      cases h
      rfl

theorem get_parsed (h : j.parsed = some j') (k : String) : (j.get k).parsed = some (j'.get k) := by
  have hfind := find_parsed h k
  unfold get
  cases hj : j.find k with
  | none =>
      rw [hj, Option.map_none, eq_comm, Option.map_eq_none_iff] at hfind
      rw [hfind]
      rfl
  | some v =>
      rw [hj, Option.map_some, eq_comm, Option.map_eq_some_iff] at hfind
      obtain ⟨v', hv', hv⟩ := hfind
      rw [hv']
      exact hv.symm

end Json

end EdgeOffloading
