import NanHost.Identifier

/-!
# Tables — what a change of one entry does to a table

The library states what a table holds after a change by comparing keys. All keys here are compared
lawfully, so that equal in order is equal. The statements are made once for all tables.

## What is proved

- `pairwise_values` and `nodup_values`: entries that know their own keys are listed in ascending
  order, and none of them twice.
- `filterMap_toList_congr`: selections from two tables that agree key by key are one list.
- The entry of a key after an insertion, a removal or a change of an entry, and after an entry has
  been removed if it is done with (`getElem?_clear`).
- Changing all values goes together with an insertion, a removal or a change of an entry
  (`map_insert`, `map_erase`, `map_modify`).
- How many entries there are of a sort, after an insertion (`countP_insert`) and a removal
  (`countP_erase`), in two tables compared key by key (`countP_le`), and compared with a set of keys
  (`size_eq_countP`).
-/

namespace NanHost.Tables

variable {κ α : Type} [Ord κ] [Std.TransOrd κ] [Std.LawfulEqOrd κ]

/-! ## Sets -/

theorem mem_insert_iff {set : Std.ExtTreeSet κ} {key other : κ} :
    other ∈ set.insert key ↔ other = key ∨ other ∈ set := by
  rw [Std.ExtTreeSet.mem_insert, Std.LawfulEqOrd.compare_eq_iff_eq, eq_comm]

theorem mem_erase_iff {set : Std.ExtTreeSet κ} {key other : κ} :
    other ∈ set.erase key ↔ other ≠ key ∧ other ∈ set := by
  rw [Std.ExtTreeSet.mem_erase, ne_eq, Std.LawfulEqOrd.compare_eq_iff_eq, eq_comm]

/-- A key that enters and leaves has been there for nothing. -/
theorem erase_insert_of_notMem {set : Std.ExtTreeSet κ} {key : κ} (absent : key ∉ set) :
    (set.insert key).erase key = set := by
  ext other
  rw [mem_erase_iff, mem_insert_iff]
  constructor
  · rintro ⟨apart, here | there⟩
    · exact absurd here apart
    · exact there
  · intro there
    refine ⟨?_, .inr there⟩
    rintro rfl
    exact absent there

/-! ## Entries that know their keys -/

variable {table : Std.ExtTreeMap κ α} {own : α → κ}

/-- They are listed in ascending order. -/
theorem pairwise_values (known : ∀ {key value}, table[key]? = some value → own value = key) :
    (table.toList.map (·.2)).Pairwise fun first second =>
      compare (own first) (own second) = .lt := by
  have known (row : κ × α) (member : row ∈ table.toList) : own row.2 = row.1 :=
    known (Std.ExtTreeMap.mem_toList_iff_getElem?_eq_some.mp member)
  refine List.pairwise_map.mpr (Std.ExtTreeMap.ordered_keys_toList.imp_of_mem ?_)
  intro first second memberFirst memberSecond before
  rw [known first memberFirst, known second memberSecond]
  exact before

/-- No two of them know the same key. -/
theorem nodup_values (known : ∀ {key value}, table[key]? = some value → own value = key) :
    ((table.toList.map (·.2)).map own).Nodup := by
  refine List.pairwise_map.mpr ((pairwise_values known).imp ?_)
  intro first second before same
  rw [same, Std.ReflOrd.compare_self] at before
  cases before

/-! ## Selections -/

/-- Two tables that agree key by key on what is selected list the same selection. -/
theorem filterMap_toList_congr {β : Type} {a b : Std.ExtTreeMap κ α}
    {select select' : α → Option β}
    (same : ∀ key : κ, a[key]?.bind select = b[key]?.bind select') :
    a.toList.filterMap (fun row => (select row.2).map fun value => (row.1, value)) =
      b.toList.filterMap fun row => (select' row.2).map fun value => (row.1, value) := by
  have maps : (a.filterMap fun _ => select) = b.filterMap fun _ => select' := by
    apply Std.ExtTreeMap.ext_getElem?
    intro key
    rw [Std.ExtTreeMap.getElem?_filterMap', Std.ExtTreeMap.getElem?_filterMap']
    exact same key
  have lists := congrArg Std.ExtTreeMap.toList maps
  rw [Std.ExtTreeMap.toList_filterMap, Std.ExtTreeMap.toList_filterMap] at lists
  exact lists

/-! ## Single entries -/

variable [DecidableEq κ] (table : Std.ExtTreeMap κ α) (key other : κ)

theorem getElem?_insert (value : α) :
    (table.insert key value)[other]? = if other = key then some value else table[other]? := by
  simp only [Std.ExtTreeMap.getElem?_insert, Std.LawfulEqOrd.compare_eq_iff_eq,
    eq_comm (a := other)]

/-- The later entry of a key counts. -/
theorem insert_insert (value later : α) :
    (table.insert key value).insert key later = table.insert key later := by
  ext other : 1
  rw [getElem?_insert, getElem?_insert, getElem?_insert]
  split <;> rfl

theorem getElem?_erase :
    (table.erase key)[other]? = if other = key then none else table[other]? := by
  simp only [Std.ExtTreeMap.getElem?_erase, Std.LawfulEqOrd.compare_eq_iff_eq,
    eq_comm (a := other)]

theorem getElem?_modify (change : α → α) :
    (table.modify key change)[other]? =
      if other = key then table[key]?.map change else table[other]? := by
  simp only [Std.ExtTreeMap.getElem?_modify, Std.LawfulEqOrd.compare_eq_iff_eq,
    eq_comm (a := other)]

/-! ## Tables with all values changed -/

/-- All values changed, and one entered: the same as entered, and then changed. -/
theorem map_insert {β : Type} (f : α → β) (value : α) :
    (table.map fun _ => f).insert key (f value) = (table.insert key value).map fun _ => f := by
  ext other : 1
  rw [getElem?_insert, Std.ExtTreeMap.getElem?_map, Std.ExtTreeMap.getElem?_map, getElem?_insert]
  split <;> rfl

theorem map_erase {β : Type} (f : α → β) :
    (table.map fun _ => f).erase key = (table.erase key).map fun _ => f := by
  ext other : 1
  rw [getElem?_erase, Std.ExtTreeMap.getElem?_map, Std.ExtTreeMap.getElem?_map, getElem?_erase]
  split <;> rfl

/-- One value changed among all that are, if it is the same to change it before. -/
theorem map_modify {β : Type} {f : α → β} {change : α → α} {change' : β → β}
    (commutes : ∀ value, change' (f value) = f (change value)) :
    (table.map fun _ => f).modify key change' = (table.modify key change).map fun _ => f := by
  ext other : 1
  rw [getElem?_modify, Std.ExtTreeMap.getElem?_map, Std.ExtTreeMap.getElem?_map,
    Std.ExtTreeMap.getElem?_map, getElem?_modify]
  split
  · cases table[key]? with
    | none => rfl
    | some value => exact congrArg some (commutes value)
  · rfl

omit [Std.LawfulEqOrd κ] [DecidableEq κ] in
theorem isEmpty_map {β : Type} (f : α → β) :
    (table.map fun _ => f).isEmpty = table.isEmpty := by
  rw [Std.ExtTreeMap.isEmpty_eq_size_beq_zero, Std.ExtTreeMap.size_map,
    Std.ExtTreeMap.isEmpty_eq_size_beq_zero]

/-! ## Entries that change or go -/

variable {table key} in
/-- An entry that is put where it is already changes nothing. -/
theorem insert_of_found {value : α} (found : table[key]? = some value) :
    table.insert key value = table := by
  ext other : 1
  rw [getElem?_insert]
  split
  next here => rw [here, found]
  next => rfl

variable {table key} in
/-- An entry that is put where there was none, and removed, has been there for nothing. -/
theorem erase_insert_of_absent (absent : table[key]? = none) (value : α) :
    (table.insert key value).erase key = table := by
  ext other : 1
  rw [getElem?_erase, getElem?_insert]
  split
  next here => rw [here, absent]
  next => rfl

variable {table key} in
/-- Changing an entry that is there is putting the changed one in its place. -/
theorem modify_eq_insert {value : α} (found : table[key]? = some value) (change : α → α) :
    table.modify key change = table.insert key (change value) := by
  ext other : 1
  rw [getElem?_modify, getElem?_insert, found]
  rfl

/-- The table without the entry of a key, if that entry is done with. -/
def clear (isDone : α → Bool) : Std.ExtTreeMap κ α :=
  if table[key]?.any isDone then table.erase key else table

/-- What is left was there before, and what is gone was done with. -/
theorem getElem?_clear (isDone : α → Bool) :
    (clear table key isDone)[other]? =
      if other = key then table[key]?.filter (!isDone ·) else table[other]? := by
  unfold clear
  by_cases here : other = key
  · subst here
    rw [if_pos rfl]
    cases found : table[other]? with
    | none => simp [found]
    | some value => cases done : isDone value <;> simp [found, done, Option.filter_some]
  · rw [if_neg here]
    split
    · rw [getElem?_erase, if_neg here]
    · rfl

/-! ## Counts -/

/-- The keys of one sort of entries. -/
def keysOf (table : Std.ExtTreeMap κ α) (sort : α → Bool) : List κ :=
  (table.toList.filter (sort ·.2)).map (·.1)

omit [DecidableEq κ] in
theorem mem_keysOf {sort : α → Bool} : key ∈ keysOf table sort ↔
    ∃ value, table[key]? = some value ∧ sort value = true := by
  unfold keysOf
  rw [List.mem_map]
  constructor
  · rintro ⟨row, member, rfl⟩
    obtain ⟨listed, ofSort⟩ := List.mem_filter.mp member
    exact ⟨row.2, Std.ExtTreeMap.mem_toList_iff_getElem?_eq_some.mp listed, ofSort⟩
  · rintro ⟨value, found, ofSort⟩
    exact ⟨(key, value), List.mem_filter.mpr
      ⟨Std.ExtTreeMap.mem_toList_iff_getElem?_eq_some.mpr found, ofSort⟩, rfl⟩

omit [DecidableEq κ] in
theorem nodup_keysOf (sort : α → Bool) : (keysOf table sort).Nodup := by
  refine List.pairwise_map.mpr (List.Pairwise.filter _ ?_)
  refine Std.ExtTreeMap.distinct_keys_toList.imp fun differs same => differs ?_
  rw [same, Std.ReflOrd.compare_self]

omit [DecidableEq κ] [Std.LawfulEqOrd κ] in
theorem length_keysOf (sort : α → Bool) :
    (keysOf table sort).length = table.toList.countP (sort ·.2) := by
  rw [keysOf, List.length_map, List.countP_eq_length_filter]

omit [DecidableEq κ] in
/-- If every entry of one sort has its counterpart of another under the same key, there are no more
of them. -/
theorem countP_le {β : Type} {a : Std.ExtTreeMap κ α} {b : Std.ExtTreeMap κ β} (sort : α → Bool)
    (sort' : β → Bool)
    (counterpart : ∀ {key : κ} {value}, a[key]? = some value → sort value = true →
      ∃ value', b[key]? = some value' ∧ sort' value' = true) :
    a.toList.countP (sort ·.2) ≤ b.toList.countP (sort' ·.2) := by
  have subset : keysOf a sort ⊆ keysOf b sort' := by
    intro key member
    obtain ⟨value, found, ofSort⟩ := (mem_keysOf a key).mp member
    exact (mem_keysOf b key).mpr (counterpart found ofSort)
  rw [← length_keysOf, ← length_keysOf]
  exact (nodup_keysOf a sort).length_le_of_subset subset

omit [DecidableEq κ] in
/-- A table all of whose keys are those of another has no more entries. -/
theorem size_le {a b : Std.ExtTreeMap κ α}
    (there : ∀ {key : κ} {value}, a[key]? = some value → b[key]? = some value) :
    a.size ≤ b.size := by
  have fewer := countP_le (fun _ => true) (fun _ => true) fun found _ => ⟨_, there found, rfl⟩
  simpa [Std.ExtTreeMap.length_toList] using fewer

omit [DecidableEq κ] in
/-- A set of just the keys of one sort of entries is as large as they are many. -/
theorem size_eq_countP {set : Std.ExtTreeSet κ} {table : Std.ExtTreeMap κ α} (sort : α → Bool)
    (same : ∀ key : κ, key ∈ set ↔ ∃ value, table[key]? = some value ∧ sort value = true) :
    set.size = table.toList.countP (sort ·.2) := by
  have distinct : set.toList.Nodup :=
    Std.ExtTreeSet.distinct_toList.imp fun differs same => differs (by
      rw [same, Std.ReflOrd.compare_self])
  have alike : set.toList.Perm (keysOf table sort) := by
    refine (List.perm_ext_iff_of_nodup distinct (nodup_keysOf table sort)).mpr fun key => ?_
    rw [Std.ExtTreeSet.mem_toList, same, mem_keysOf]
  rw [← Std.ExtTreeSet.length_toList, alike.length_eq, length_keysOf]

variable {table key}

/-- The entry of a key, and the others. -/
theorem toList_perm_of_found {value : α} (found : table[key]? = some value) :
    table.toList.Perm ((key, value) :: (table.erase key).toList) := by
  have distinct (table : Std.ExtTreeMap κ α) : table.toList.Nodup :=
    Std.ExtTreeMap.distinct_keys_toList.imp fun differs same => differs (by
      rw [same, Std.ReflOrd.compare_self])
  have apart : (key, value) ∉ (table.erase key).toList := fun member => by
    have there := Std.ExtTreeMap.mem_toList_iff_getElem?_eq_some.mp member
    rw [getElem?_erase, if_pos rfl] at there
    cases there
  rw [List.perm_ext_iff_of_nodup (distinct table) (List.nodup_cons.mpr ⟨apart, distinct _⟩)]
  rintro ⟨other, entry⟩
  rw [List.mem_cons, Std.ExtTreeMap.mem_toList_iff_getElem?_eq_some,
    Std.ExtTreeMap.mem_toList_iff_getElem?_eq_some, getElem?_erase, Prod.mk.injEq]
  by_cases here : other = key
  · rw [here, if_pos rfl, found]
    simp [eq_comm]
  · simp [here]

theorem size_eq_erase {value : α} (found : table[key]? = some value) :
    table.size = (table.erase key).size + 1 := by
  have same := (toList_perm_of_found found).length_eq
  rwa [List.length_cons, Std.ExtTreeMap.length_toList, Std.ExtTreeMap.length_toList] at same

theorem countP_erase {value : α} (found : table[key]? = some value) (sort : α → Bool) :
    table.toList.countP (sort ·.2) =
      (table.erase key).toList.countP (sort ·.2) + if sort value then 1 else 0 := by
  rw [(toList_perm_of_found found).countP_eq, List.countP_cons]

theorem countP_insert (absent : table[key]? = none) (value : α) (sort : α → Bool) :
    (table.insert key value).toList.countP (sort ·.2) =
      table.toList.countP (sort ·.2) + if sort value then 1 else 0 := by
  have found : (table.insert key value)[key]? = some value := by
    rw [getElem?_insert, if_pos rfl]
  have same : (table.insert key value).erase key = table := by
    ext other : 1
    rw [getElem?_erase, getElem?_insert]
    split
    next here => rw [here, absent]
    next => rfl
  rw [countP_erase found, same]

/-- Whatever was there under the key, one more at most is of the sort. -/
theorem countP_insert_le (table : Std.ExtTreeMap κ α) (key : κ) (value : α) (sort : α → Bool) :
    (table.insert key value).toList.countP (sort ·.2) ≤ table.toList.countP (sort ·.2) + 1 := by
  have found : (table.insert key value)[key]? = some value := by
    rw [getElem?_insert, if_pos rfl]
  have fewer : ((table.insert key value).erase key).toList.countP (sort ·.2) ≤
      table.toList.countP (sort ·.2) := by
    refine countP_le sort sort fun {other entry} there ofSort => ⟨entry, ?_, ofSort⟩
    rw [getElem?_erase, getElem?_insert] at there
    split at there
    next => cases there
    next => exact there
  rw [countP_erase found]
  split <;> omega

end NanHost.Tables
