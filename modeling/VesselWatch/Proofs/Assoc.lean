/-
  Proofs/Assoc.lean --- laws of ordered tables.

  A table is known by its row of keys and by what `List.lookup` finds in it
  (`eq_of_lookup_eq`).  Every operation on tables is therefore described by two
  lemmas, one for each of these, and later files open neither the operations nor the
  tables.
-/
import VesselWatch.Assoc
import Mathlib.Data.List.Induction
import Mathlib.Data.List.Nodup

set_option autoImplicit false

namespace VesselWatch.Assoc

variable {κ α : Type} [BEq κ] [LawfulBEq κ]

/-! ## Keys and lookups -/

theorem lookup_isSome_iff_mem_keys {key : κ} {table : List (κ × α)} :
    (table.lookup key).isSome ↔ key ∈ table.map (·.1) := by
  rw [List.lookup_isSome_iff, List.mem_map]
  constructor
  · rintro ⟨p, hp, hkey⟩
    exact ⟨p, hp, (eq_of_beq hkey).symm⟩
  · rintro ⟨p, hp, rfl⟩
    exact ⟨p, hp, beq_self_eq_true _⟩

theorem lookup_eq_none_iff_not_mem_keys {key : κ} {table : List (κ × α)} :
    table.lookup key = none ↔ key ∉ table.map (·.1) := by
  rw [← lookup_isSome_iff_mem_keys, Option.not_isSome_iff_eq_none]

theorem has_iff_mem_keys {key : κ} {table : List (κ × α)} :
    has key table = true ↔ key ∈ table.map (·.1) := by
  rw [has_eq_isSome_lookup, lookup_isSome_iff_mem_keys]

theorem mem_of_lookup_eq_some {key : κ} {value : α} {table : List (κ × α)}
    (found : table.lookup key = some value) : (key, value) ∈ table := by
  obtain ⟨before, after, rfl, _⟩ := List.lookup_eq_some_iff.mp found
  simp

/-- Where no key comes twice, a pair of the table is what its key finds. -/
theorem lookup_eq_some_iff_mem {key : κ} {value : α} {table : List (κ × α)}
    (nodup : (table.map (·.1)).Nodup) :
    table.lookup key = some value ↔ (key, value) ∈ table := by
  refine ⟨mem_of_lookup_eq_some, fun member => ?_⟩
  induction table with
  | nil => simp at member
  | cons p rest ih =>
    obtain ⟨k, v⟩ := p
    rw [List.map_cons, List.nodup_cons] at nodup
    rw [List.lookup_cons]
    rcases List.mem_cons.mp member with same | member
    · cases same
      simp
    · have hne : (key == k) = false := by
        refine beq_eq_false_iff_ne.mpr fun heq => nodup.1 ?_
        exact List.mem_map.mpr ⟨(key, value), member, heq⟩
      rw [hne]
      exact ih nodup.2 member

/-- Two tables with one row of keys and the same lookups are equal. -/
theorem eq_of_lookup_eq {left right : List (κ × α)} (nodup : (left.map (·.1)).Nodup)
    (keys : left.map (·.1) = right.map (·.1))
    (lookups : ∀ key, left.lookup key = right.lookup key) : left = right := by
  induction left generalizing right with
  | nil => exact (List.map_eq_nil_iff.mp keys.symm).symm
  | cons p left ih =>
    obtain ⟨k, v⟩ := p
    cases right with
    | nil => simp at keys
    | cons q right =>
      obtain ⟨k', v'⟩ := q
      rw [List.map_cons, List.map_cons, List.cons.injEq] at keys
      obtain ⟨rfl, keys⟩ := keys
      rw [List.map_cons, List.nodup_cons] at nodup
      have head : v = v' := by simpa using lookups k
      have tail : ∀ key, left.lookup key = right.lookup key := by
        intro key
        by_cases hkey : key = k
        · subst hkey
          rw [lookup_eq_none_iff_not_mem_keys.mpr nodup.1,
            lookup_eq_none_iff_not_mem_keys.mpr (keys ▸ nodup.1)]
        · have := lookups key
          simpa [List.lookup_cons, beq_eq_false_iff_ne.mpr hkey] using this
      rw [head, ih nodup.2 keys tail]

/-! ## What the operations do to the keys -/

theorem keys_put_of_mem {key : κ} {table : List (κ × α)} (value : α)
    (member : key ∈ table.map (·.1)) : (put key value table).map (·.1) = table.map (·.1) := by
  rw [keys_put, if_pos (has_iff_mem_keys.mpr member)]

theorem nodup_keys_put (key : κ) (value : α) {table : List (κ × α)}
    (nodup : (table.map (·.1)).Nodup) : ((put key value table).map (·.1)).Nodup := by
  rw [keys_put]
  split
  · exact nodup
  · next absent =>
    have hkey : key ∉ table.map (·.1) := fun member => absent (has_iff_mem_keys.mpr member)
    rw [List.nodup_append]
    refine ⟨nodup, List.nodup_singleton _, ?_⟩
    intro k hk k' hk' heq
    rw [List.mem_singleton] at hk'
    exact hkey (by rw [← hk', ← heq]; exact hk)

/-- What is in a table after a pair was put into it is that pair or was there before. -/
theorem eq_or_mem_of_mem_put {key : κ} {value : α} {table : List (κ × α)} {p : κ × α}
    (member : p ∈ put key value table) : p = (key, value) ∨ p ∈ table := by
  induction table with
  | nil => exact .inl (List.mem_singleton.mp member)
  | cons q rest ih =>
    obtain ⟨k, v⟩ := q
    unfold put at member
    split at member
    · next hkey =>
      rw [eq_of_beq hkey] at member
      exact (List.mem_cons.mp member).imp_right (List.mem_cons_of_mem _)
    · rcases List.mem_cons.mp member with rfl | hrest
      · exact .inr (List.mem_cons_self ..)
      · exact (ih hrest).imp_right (List.mem_cons_of_mem _)

omit [LawfulBEq κ] in
theorem nodup_keys_erase (key : κ) {table : List (κ × α)} (nodup : (table.map (·.1)).Nodup) :
    ((erase key table).map (·.1)).Nodup := by
  rw [keys_erase]
  exact nodup.filter _

omit [BEq κ] [LawfulBEq κ] in
theorem nodup_keys_filter (keep : κ × α → Bool) {table : List (κ × α)}
    (nodup : (table.map (·.1)).Nodup) : ((table.filter keep).map (·.1)).Nodup :=
  nodup.sublist (List.filter_sublist.map _)

/-! ## Tables cut down by key -/

theorem lookup_filter_keys (keep : κ → Bool) (key : κ) (table : List (κ × α)) :
    (table.filter fun p => keep p.1).lookup key = if keep key then table.lookup key else none := by
  induction table with
  | nil => simp
  | cons p rest ih =>
    obtain ⟨k, v⟩ := p
    by_cases hkey : key = k
    · subst hkey
      by_cases hkeep : keep key
      · simp [hkeep]
      · simpa [hkeep] using ih
    · have hbeq : (key == k) = false := beq_eq_false_iff_ne.mpr hkey
      by_cases hkeep : keep k
      · simpa [hkeep, List.lookup_cons, hbeq] using ih
      · simpa [hkeep, List.lookup_cons, hbeq] using ih

/-! ## Tables whose values are changed -/

omit [BEq κ] [LawfulBEq κ] in
@[simp] theorem keys_map_values (f : κ → α → α) (table : List (κ × α)) :
    (table.map fun p => (p.1, f p.1 p.2)).map (·.1) = table.map (·.1) := by
  simp [Function.comp_def]

theorem lookup_map_values (f : κ → α → α) (key : κ) (table : List (κ × α)) :
    (table.map fun p => (p.1, f p.1 p.2)).lookup key = (table.lookup key).map (f key) := by
  induction table with
  | nil => rfl
  | cons p rest ih =>
    obtain ⟨k, v⟩ := p
    by_cases hkey : key = k
    · subst hkey
      simp
    · have hbeq : (key == k) = false := beq_eq_false_iff_ne.mpr hkey
      simpa [List.lookup_cons, hbeq] using ih

/-- To put a value for a key that the table has is to change the value of that key. -/
theorem put_eq_map [DecidableEq κ] {key : κ} (value : α) {table : List (κ × α)}
    (nodup : (table.map (·.1)).Nodup) (member : key ∈ table.map (·.1)) :
    put key value table = table.map fun p => (p.1, if p.1 = key then value else p.2) := by
  refine eq_of_lookup_eq (nodup_keys_put _ _ nodup) ?_ fun other => ?_
  · rw [keys_put_of_mem value member, keys_map_values (fun k v => if k = key then value else v)]
  · rw [lookup_put, lookup_map_values (fun k v => if k = key then value else v)]
    by_cases hother : other = key
    · subst hother
      obtain ⟨v, hv⟩ := Option.isSome_iff_exists.mp (lookup_isSome_iff_mem_keys.mpr member)
      simp [hv]
    · simp [hother]

/-- A new key goes to the end. -/
theorem put_of_notMem {key : κ} (value : α) {table : List (κ × α)}
    (absent : key ∉ table.map (·.1)) : put key value table = table ++ [(key, value)] := by
  induction table with
  | nil => rfl
  | cons p rest ih =>
    obtain ⟨k, v⟩ := p
    rw [List.map_cons, List.mem_cons, not_or] at absent
    have hk : (k == key) = false := beq_eq_false_iff_ne.mpr (Ne.symm absent.1)
    rw [put, hk, ih absent.2]
    rfl

/-- Where no key comes twice, the pairs of a key are what it finds. -/
theorem filter_key {key : κ} {table : List (κ × α)} (nodup : (table.map (·.1)).Nodup) :
    table.filter (fun p => p.1 == key) =
      ((table.lookup key).map fun value => (key, value)).toList := by
  induction table with
  | nil => rfl
  | cons p rest ih =>
    obtain ⟨k, v⟩ := p
    rw [List.map_cons, List.nodup_cons] at nodup
    by_cases hk : k = key
    · subst hk
      have hrest : rest.lookup k = none := lookup_eq_none_iff_not_mem_keys.mpr nodup.1
      have hnone : rest.filter (fun p => p.1 == k) = [] := by
        rw [ih nodup.2, hrest]
        rfl
      simp [hnone]
    · have hbeq : (k == key) = false := beq_eq_false_iff_ne.mpr hk
      have hbeq' : (key == k) = false := beq_eq_false_iff_ne.mpr (Ne.symm hk)
      rw [List.filter_cons_of_neg (by simp [hk]), ih nodup.2, List.lookup_cons, hbeq']

/-! ## Tables made of a list of pairs -/

/-- Pairs put over a table: the last pair of a key counts, a key without one is as before. -/
theorem lookup_foldl_put (key : κ) (pairs table : List (κ × α)) :
    (pairs.foldl (fun table p => put p.1 p.2 table) table).lookup key =
      ((pairs.filter fun p => p.1 == key).getLast?.map (·.2)).or (table.lookup key) := by
  induction pairs generalizing table with
  | nil => simp
  | cons p rest ih =>
    rw [List.foldl_cons, ih, lookup_put]
    by_cases hkey : key = p.1
    · subst hkey
      cases hrest : (rest.filter fun q => q.1 == p.1).getLast? with
      | none => simp [List.getLast?_cons, hrest]
      | some q => simp [List.getLast?_cons, hrest]
    · have hbeq : (key == p.1) = false := beq_eq_false_iff_ne.mpr hkey
      have hbeq' : (p.1 == key) = false := beq_eq_false_iff_ne.mpr (Ne.symm hkey)
      simp [hbeq, hbeq']

theorem lookup_ofList (key : κ) (pairs : List (κ × α)) :
    (ofList pairs).lookup key = (pairs.filter fun p => p.1 == key).getLast?.map (·.2) := by
  rw [ofList, lookup_foldl_put]
  simp

theorem nodup_keys_ofList (pairs : List (κ × α)) : ((ofList pairs).map (·.1)).Nodup := by
  unfold ofList
  suffices h : ∀ table : List (κ × α), (table.map (·.1)).Nodup →
      ((pairs.foldl (fun table p => put p.1 p.2 table) table).map (·.1)).Nodup from
    h [] List.nodup_nil
  induction pairs with
  | nil => exact fun _ nodup => nodup
  | cons p rest ih => exact fun table nodup => ih _ (nodup_keys_put _ _ nodup)

/-- The keys of the table stand where they came first. -/
theorem keys_ofList (pairs : List (κ × α)) :
    (ofList pairs).map (·.1) = (pairs.map (·.1)).eraseDups := by
  induction pairs using List.reverseRecOn with
  | nil => rfl
  | append_singleton pairs p ih =>
    have hlast : ofList (pairs ++ [p]) = put p.1 p.2 (ofList pairs) := by
      simp [ofList]
    rw [hlast, keys_put, ih, List.map_append, List.eraseDups_append]
    by_cases hkey : p.1 ∈ pairs.map (·.1)
    · have hhas : has p.1 (ofList pairs) = true := by
        rw [has_iff_mem_keys, ih, List.mem_eraseDups]
        exact hkey
      simp [hhas, List.removeAll, hkey]
    · have hhas : has p.1 (ofList pairs) = false := by
        rw [Bool.eq_false_iff, ne_eq, has_iff_mem_keys, ih, List.mem_eraseDups]
        exact hkey
      simp [hhas, List.removeAll, hkey, List.eraseDups_cons]

/-- Every pair of the table was given. -/
theorem mem_of_mem_ofList {p : κ × α} {pairs : List (κ × α)} (member : p ∈ ofList pairs) :
    p ∈ pairs := by
  have found : (ofList pairs).lookup p.1 = some p.2 :=
    (lookup_eq_some_iff_mem (nodup_keys_ofList pairs)).mpr member
  rw [lookup_ofList, Option.map_eq_some_iff] at found
  obtain ⟨q, hlast, hvalue⟩ := found
  have hq := List.mem_filter.mp (List.mem_of_getLast? hlast)
  have same : p = q := Prod.ext (eq_of_beq hq.2).symm hvalue.symm
  rw [same]
  exact hq.1

/-- In a table of what some items give, a key finds what the last item that has one for it gives. -/
theorem lookup_ofList_filterMap_iff {ι : Type} {give : ι → Option (κ × α)} {items : List ι}
    {key : κ} {value : α} :
    (ofList (items.filterMap give)).lookup key = some value ↔
      ∃ before item after, items = before ++ item :: after ∧ give item = some (key, value) ∧
        ∀ later ∈ after, ∀ other, give later ≠ some (key, other) := by
  have hnone (item : ι) : ((give item).filter fun p => p.1 == key) = none ↔
      ∀ other, give item ≠ some (key, other) := by
    rw [Option.filter_eq_none_iff]
    constructor
    · intro hother other hgive
      exact hother _ hgive (beq_self_eq_true key)
    · rintro hother ⟨k, other⟩ hgive hkey
      obtain rfl := eq_of_beq hkey
      exact hother other hgive
  -- The last one is the first one from behind.
  rw [lookup_ofList, List.filter_filterMap, List.getLast?_eq_head?_reverse,
    ← List.filterMap_reverse, List.head?_filterMap, Option.map_eq_some_iff]
  simp only [List.findSome?_eq_some_iff, hnone]
  constructor
  · rintro ⟨⟨k, v⟩, ⟨after, item, before, hsplit, hfirst, hafter⟩, rfl⟩
    obtain ⟨hgive, hkey⟩ := Option.filter_eq_some_iff.mp hfirst
    obtain rfl := eq_of_beq hkey
    refine ⟨before.reverse, item, after.reverse, ?_, hgive, fun later hlater => ?_⟩
    · rw [← List.reverse_inj, hsplit]
      simp
    · exact hafter later (List.mem_reverse.mp hlater)
  · rintro ⟨before, item, after, rfl, hgive, hafter⟩
    refine ⟨(key, value), ⟨after.reverse, item, before.reverse, by simp, ?_, ?_⟩, rfl⟩
    · exact Option.filter_eq_some_iff.mpr ⟨hgive, beq_self_eq_true key⟩
    · exact fun later hlater => hafter later (List.mem_reverse.mp hlater)

theorem mem_keys_ofList_filterMap_iff {ι : Type} {give : ι → Option (κ × α)} {items : List ι}
    {key : κ} :
    key ∈ (ofList (items.filterMap give)).map (·.1) ↔
      ∃ item ∈ items, ∃ value, give item = some (key, value) := by
  rw [keys_ofList, List.mem_eraseDups, List.mem_map]
  constructor
  · rintro ⟨p, hp, rfl⟩
    obtain ⟨item, hitem, hgive⟩ := List.mem_filterMap.mp hp
    exact ⟨item, hitem, p.2, hgive⟩
  · rintro ⟨item, hitem, value, hgive⟩
    exact ⟨(key, value), List.mem_filterMap.mpr ⟨item, hitem, hgive⟩, rfl⟩

end VesselWatch.Assoc
