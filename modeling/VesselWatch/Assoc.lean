/-
  Assoc.lean --- ordered tables.

  WHAT THIS FILE FIXES.  A table is a list of pairs in which no key comes twice.
  `put` keeps it so: a new key goes to the end, a known key keeps its place and
  gets the new value.  `List.lookup` reads it.

  The lemmas say what each operation does to `List.lookup` and to the row of keys.
-/

set_option autoImplicit false

namespace VesselWatch.Assoc

variable {κ α : Type} [BEq κ]

/-- Sets the value of a key: a new key goes to the end, a known key keeps its place. -/
def put (key : κ) (value : α) : List (κ × α) → List (κ × α)
  | [] => [(key, value)]
  | (k, v) :: rest => if k == key then (k, value) :: rest else (k, v) :: put key value rest

/-- Removes a key. -/
def erase (key : κ) (table : List (κ × α)) : List (κ × α) := table.filter fun p => !(p.1 == key)

/-- The key has a value. -/
def has (key : κ) (table : List (κ × α)) : Bool := table.any fun p => p.1 == key

/-- The table with exactly the pairs given, later ones put over earlier ones. -/
def ofList (pairs : List (κ × α)) : List (κ × α) :=
  pairs.foldl (fun table p => put p.1 p.2 table) []

/-! ## Looking up -/

/-- What was put is found, and nothing else has changed. -/
theorem lookup_put [EquivBEq κ] (key other : κ) (value : α) (table : List (κ × α)) :
    (put key value table).lookup other =
      if other == key then some value else table.lookup other := by
  induction table with
  | nil =>
    cases h : other == key <;> simp [put, List.lookup_cons, h]
  | cons p rest ih =>
    obtain ⟨k, v⟩ := p
    by_cases hk : k == key
    · have : (other == k) = (other == key) := BEq.congr_right hk
      cases h : other == key <;> simp [put, hk, List.lookup_cons, this, h]
    · cases ho : other == k
      · simp [put, hk, List.lookup_cons, ho, ih]
      · have : (other == key) = false := by
          rw [BEq.congr_left ho]
          simpa using hk
        simp [put, hk, List.lookup_cons, ho, this]

/-- A key that was removed is not found, and nothing else has changed. -/
theorem lookup_erase [EquivBEq κ] (key other : κ) (table : List (κ × α)) :
    (erase key table).lookup other = if other == key then none else table.lookup other := by
  induction table with
  | nil => simp [erase]
  | cons p rest ih =>
    obtain ⟨k, v⟩ := p
    unfold erase at ih ⊢
    by_cases hk : k == key
    · have : (other == k) = (other == key) := BEq.congr_right hk
      cases h : other == key <;> simp [hk, List.lookup_cons, this, h, ih]
    · cases ho : other == k
      · simp [hk, List.lookup_cons, ho, ih]
      · have : (other == key) = false := by
          rw [BEq.congr_left ho]
          simpa using hk
        simp [hk, List.lookup_cons, ho, this]

/-- A key has a value when one is found. -/
theorem has_eq_isSome_lookup [EquivBEq κ] (key : κ) (table : List (κ × α)) :
    has key table = (table.lookup key).isSome := by
  induction table with
  | nil => rfl
  | cons p rest ih =>
    obtain ⟨k, v⟩ := p
    unfold has at ih ⊢
    cases h : key == k
    · simp [List.lookup_cons, BEq.comm (a := k), h, ih]
    · simp [List.lookup_cons, BEq.comm (a := k), h]

/-! ## Keys -/

/-- The row of keys after `put`: it stays as it is, or the new key stands at its end. -/
theorem keys_put (key : κ) (value : α) (table : List (κ × α)) :
    (put key value table).map (·.1) =
      if has key table then table.map (·.1) else table.map (·.1) ++ [key] := by
  induction table with
  | nil => rfl
  | cons p rest ih =>
    obtain ⟨k, v⟩ := p
    unfold has at ih ⊢
    by_cases hk : k == key
    · simp [put, hk]
    · simp only [put, hk, List.map_cons, List.any_cons, Bool.false_or, Bool.false_eq_true, if_false, ih]
      split <;> simp

/-- The row of keys after `erase`. -/
theorem keys_erase (key : κ) (table : List (κ × α)) :
    (erase key table).map (·.1) = (table.map (·.1)).filter fun k => !(k == key) := by
  simp [erase, List.filter_map, Function.comp_def]

end VesselWatch.Assoc
