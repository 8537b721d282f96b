import ApiGloss.Json.Merge
import ApiGloss.Proofs.BreadthFirst
import Mathlib.Data.List.Nodup

/-!
# Tables up to Order

A table whose names are distinct is determined, up to the order of its entries, by its
look-up function. This module makes that precise and describes every operation on tables by
what it does to look-up, so that later proofs compare tables name by name.

## Main results

* `Table.perm_of_get?_eq`: distinct tables with the same look-up are permutations of each
  other, and `Table.get?_of_perm` is the converse.
* `Table.swapErase_perm_erase`: moving the last entry into the gap is, up to order, closing
  the gap.
* `Json.get?_mergeInto`: the look-up of a deep merge, for a source with distinct names.
-/

namespace ApiGloss

/-- Options that look the same: both are empty, or both hold values that look the same. -/
theorem cases_of_map_eq {α β : Type} {f : α → β} {x y : Option α} (h : x.map f = y.map f) :
    (x = none ∧ y = none) ∨ ∃ a b, x = some a ∧ y = some b ∧ f a = f b := by
  cases x <;> cases y
  · exact Or.inl ⟨rfl, rfl⟩
  · cases h
  · cases h
  · exact Or.inr ⟨_, _, rfl, rfl, Option.some.inj h⟩

namespace Table

variable {α : Type}

instance (t : Table α) : Decidable (Distinct t) :=
  inferInstanceAs (Decidable (keys t).Nodup)

/-! ### Look-up and membership -/

/-- A name without an entry is not among the names. -/
theorem get?_eq_none_iff {key : String} {t : Table α} : get? key t = none ↔ key ∉ keys t := by
  rw [← contains_iff_mem_keys, contains]
  cases get? key t <;> simp

/-- An entry that is found stands in the table. -/
theorem mem_of_get? {key : String} {v : α} {t : Table α} (h : get? key t = some v) :
    (key, v) ∈ t := by
  induction t with
  | nil => simp at h
  | cons e rest ih =>
      obtain ⟨k, w⟩ := e
      rw [get?_cons] at h
      by_cases hk : k = key
      · rw [if_pos hk, Option.some.injEq] at h
        subst hk h
        exact List.mem_cons_self
      · rw [if_neg hk] at h
        exact List.mem_cons_of_mem _ (ih h)

/-- What is looked up with a default is the default or stands in the table. -/
theorem eq_or_mem_of_getD {key : String} {v default : α} {t : Table α}
    (h : (get? key t).getD default = v) : v = default ∨ (key, v) ∈ t := by
  cases hget : get? key t with
  | none =>
      rw [hget, Option.getD_none] at h
      exact Or.inl h.symm
  | some w =>
      rw [hget, Option.getD_some] at h
      exact Or.inr (h ▸ mem_of_get? hget)

/-- In a distinct table, the entry under a name is the one that stands there. -/
theorem get?_eq_some_iff {key : String} {v : α} {t : Table α} (hd : Distinct t) :
    get? key t = some v ↔ (key, v) ∈ t := by
  refine ⟨mem_of_get?, fun hmem => ?_⟩
  induction t with
  | nil => simp at hmem
  | cons e rest ih =>
      obtain ⟨k, w⟩ := e
      obtain ⟨hk, hrest⟩ : k ∉ keys rest ∧ Distinct rest := List.nodup_cons.mp hd
      rw [get?_cons]
      rcases List.mem_cons.mp hmem with heq | hmem
      · obtain ⟨rfl, rfl⟩ := Prod.mk.inj heq
        rw [if_pos rfl]
      · have hne : k ≠ key := by
          rintro rfl
          exact hk (List.mem_map_of_mem hmem)
        rw [if_neg hne]
        exact ih hrest hmem

/-- **Look-up determines a distinct table** up to the order of its entries. -/
theorem perm_of_get?_eq {t u : Table α} (ht : Distinct t) (hu : Distinct u)
    (h : ∀ key, get? key t = get? key u) : t.Perm u := by
  refine (List.perm_ext_iff_of_nodup (List.Nodup.of_map _ ht) (List.Nodup.of_map _ hu)).mpr ?_
  rintro ⟨key, v⟩
  rw [← get?_eq_some_iff ht, ← get?_eq_some_iff hu, h key]

/-- Reordered tables have the same names, so distinctness carries over. -/
theorem Distinct.of_perm {t u : Table α} (ht : Distinct t) (hp : t.Perm u) : Distinct u :=
  (hp.map Prod.fst).nodup_iff.mp ht

/-- Reordering a distinct table does not change its look-up. -/
theorem get?_of_perm {t u : Table α} (ht : Distinct t) (hp : t.Perm u) (key : String) :
    get? key t = get? key u := by
  have hu := ht.of_perm hp
  refine Option.ext fun v => ?_
  rw [get?_eq_some_iff ht, get?_eq_some_iff hu, hp.mem_iff]

/-! ### Removing an entry -/

/-- **Moving the last entry into the gap** is closing the gap, up to order. -/
theorem swapErase_perm_erase (key : String) (t : Table α) :
    (swapErase key t).Perm (erase key t) := by
  induction t with
  | nil => exact List.Perm.refl _
  | cons e rest ih =>
      obtain ⟨k, v⟩ := e
      by_cases hk : k = key
      · rw [swapErase, erase, if_pos hk, if_pos hk]
        cases hlast : rest.getLast? with
        | none =>
            rw [List.getLast?_eq_none_iff.mp hlast]
        | some last =>
            have hsplit : rest.dropLast ++ [last] = rest :=
              List.dropLast_append_getLast? last hlast
            have hswap : ([last] ++ rest.dropLast).Perm (rest.dropLast ++ [last]) :=
              List.perm_append_comm
            rwa [hsplit] at hswap
      · rw [swapErase, erase, if_neg hk, if_neg hk]
        exact ih.cons _

/-- Closing the gap keeps the other names, in order. -/
theorem erase_sublist (key : String) (t : Table α) : (erase key t).Sublist t := by
  induction t with
  | nil => exact List.Sublist.refl _
  | cons e rest ih =>
      obtain ⟨k, v⟩ := e
      rw [erase]
      split
      · exact List.sublist_cons_self _ _
      · exact ih.cons_cons _

/-- Removing an entry keeps names distinct. -/
theorem Distinct.erase {t : Table α} (h : Distinct t) (key : String) :
    Distinct (Table.erase key t) :=
  h.sublist ((erase_sublist key t).map Prod.fst)

/-- Removing an entry by a swap keeps names distinct. -/
theorem Distinct.swapErase {t : Table α} (h : Distinct t) (key : String) :
    Distinct (Table.swapErase key t) :=
  (h.erase key).of_perm (swapErase_perm_erase key t).symm

/-- Removing an entry leaves nothing under its name and all else as it was. -/
theorem get?_erase {t : Table α} (h : Distinct t) (key other : String) :
    get? other (erase key t) = if key = other then none else get? other t := by
  induction t with
  | nil => simp [erase]
  | cons e rest ih =>
      obtain ⟨k, v⟩ := e
      obtain ⟨hk, hrest⟩ : k ∉ keys rest ∧ Distinct rest := List.nodup_cons.mp h
      rw [erase, get?_cons]
      by_cases hkey : k = key
      · subst hkey
        rw [if_pos rfl]
        by_cases ho : k = other
        · subst ho
          rw [if_pos rfl]
          exact get?_eq_none_iff.mpr hk
        · rw [if_neg ho, if_neg ho]
      · rw [if_neg hkey, get?_cons, ih hrest]
        by_cases ho : k = other
        · subst ho
          rw [if_pos rfl, if_neg (Ne.symm hkey), if_pos rfl]
        · rw [if_neg ho, if_neg ho]

/-- Removing an entry by a swap changes look-up in the same way. -/
theorem get?_swapErase {t : Table α} (h : Distinct t) (key other : String) :
    get? other (swapErase key t) = if key = other then none else get? other t := by
  rw [get?_of_perm (h.swapErase key) (swapErase_perm_erase key t), get?_erase h]

/-! ### Storing entries -/

/-- Storing an entry puts it, or an entry from before, at every place. -/
theorem mem_insert {e : String × α} {key : String} {value : α} {t : Table α}
    (h : e ∈ insert key value t) : e ∈ t ∨ e = (key, value) := by
  induction t with
  | nil => exact Or.inr (List.mem_singleton.mp h)
  | cons e' rest ih =>
      obtain ⟨k, v⟩ := e'
      rw [insert] at h
      split at h
      · rename_i hk
        subst hk
        rcases List.mem_cons.mp h with rfl | h
        · exact Or.inr rfl
        · exact Or.inl (List.mem_cons_of_mem _ h)
      · rcases List.mem_cons.mp h with rfl | h
        · exact Or.inl List.mem_cons_self
        · exact (ih h).imp_left (List.mem_cons_of_mem _)

/-- Storing many entries puts nothing else into a table. -/
theorem mem_extend {e : String × α} {t more : Table α} (h : e ∈ extend t more) :
    e ∈ t ∨ e ∈ more := by
  unfold extend at h
  induction more generalizing t with
  | nil => exact Or.inl h
  | cons e' rest ih =>
      rcases ih h with h | h
      · rcases mem_insert h with h | rfl
        · exact Or.inl h
        · exact Or.inr List.mem_cons_self
      · exact Or.inr (List.mem_cons_of_mem _ h)

/-- An entry with a new name goes to the end. -/
theorem insert_of_not_mem {key : String} {t : Table α} (h : key ∉ keys t) (value : α) :
    insert key value t = t ++ [(key, value)] := by
  induction t with
  | nil => rfl
  | cons e rest ih =>
      obtain ⟨k, v⟩ := e
      obtain ⟨hk, hrest⟩ : key ≠ k ∧ key ∉ keys rest := by
        simpa [keys] using h
      rw [insert, if_neg (Ne.symm hk), ih hrest, List.cons_append]

/-- Entries with new and distinct names go to the end in order. -/
theorem extend_of_distinct {t more : Table α} (h : Distinct (t ++ more)) :
    extend t more = t ++ more := by
  unfold extend
  induction more generalizing t with
  | nil => rw [List.foldl_nil, List.append_nil]
  | cons e rest ih =>
      obtain ⟨k, v⟩ := e
      have hk : k ∉ keys t := by
        have hnd : (keys t ++ k :: keys rest).Nodup := by
          simpa [Distinct, keys] using h
        exact fun hmem => (List.nodup_append.mp hnd).2.2 k hmem k List.mem_cons_self rfl
      rw [List.append_cons] at h
      rw [List.foldl_cons, insert_of_not_mem hk, ih h, List.append_assoc, List.singleton_append]

/-- Looking up a name in two tables, the later one first. -/
theorem get?_extend {more : Table α} (hmore : Distinct more) (t : Table α) (key : String) :
    get? key (extend t more) = (get? key more).or (get? key t) := by
  unfold extend
  induction more generalizing t with
  | nil => rfl
  | cons e more ih =>
      obtain ⟨k, v⟩ := e
      obtain ⟨hk, hrest⟩ : k ∉ keys more ∧ Distinct more := List.nodup_cons.mp hmore
      rw [List.foldl_cons, ih hrest, get?_insert, get?_cons]
      by_cases hkey : k = key
      · subst hkey
        rw [get?_eq_none_iff.mpr hk, if_pos rfl, if_pos rfl]
        rfl
      · rw [if_neg hkey, if_neg hkey]

/-- **The names of two tables**: those of the first one, then the new ones of the second. -/
theorem keys_extend {more : Table α} (hmore : Distinct more) (t : Table α) :
    keys (extend t more) = keys t ++ (keys more).filter fun key => key ∉ keys t := by
  unfold extend
  induction more generalizing t with
  | nil => exact (List.append_nil _).symm
  | cons e more ih =>
      obtain ⟨key, v⟩ := e
      obtain ⟨hkey, hrest⟩ : key ∉ keys more ∧ Distinct more := List.nodup_cons.mp hmore
      have hnames : keys ((key, v) :: more) = key :: keys more := rfl
      rw [List.foldl_cons, ih hrest, keys_insert, hnames]
      by_cases hknown : contains key t = true
      · have hmem := contains_iff_mem_keys.mp hknown
        simp only [hknown, if_true, List.filter_cons, hmem, not_true_eq_false, decide_false,
          Bool.false_eq_true, if_false]
      · have hmem : key ∉ keys t := fun h => hknown (contains_iff_mem_keys.mpr h)
        -- the new name does not come again, so it makes no other one old
        have hfilter : (keys more).filter (fun k => k ∉ keys t ++ [key]) =
            (keys more).filter fun k => k ∉ keys t := by
          refine List.filter_congr fun k hk => ?_
          have hne : k ≠ key := fun h => hkey (h ▸ hk)
          simp [hne]
        simp only [hknown, Bool.false_eq_true, if_false, hfilter, List.filter_cons, hmem,
          not_false_eq_true, decide_true, if_true, List.append_assoc, List.singleton_append]

/-- Storing an entry adds its name behind the others, if it is new. -/
theorem keys_insert_eq_firsts (key : String) (value : α) (t : Table α) :
    keys (insert key value t) = keys t ++ Search.firsts (keys t) [key] := by
  rw [keys_insert]
  simp only [contains_iff_mem_keys, Search.firsts]
  split
  · rw [List.append_nil]
  · rfl

/-- Storing an entry keeps all names and their order. -/
theorem keys_isPrefix_insert (key : String) (value : α) (t : Table α) :
    keys t <+: keys (insert key value t) := by
  rw [keys_insert_eq_firsts]
  exact List.prefix_append _ _

/-- Storing an entry does not show among the entries of other names. -/
theorem filter_insert_of_not {P : String → Bool} {key : String} (h : P key = false) (value : α)
    (t : Table α) :
    (insert key value t).filter (fun e => P e.1) = t.filter fun e => P e.1 := by
  induction t with
  | nil => simp [insert, h]
  | cons e rest ih =>
      obtain ⟨k, v⟩ := e
      rw [insert]
      split
      · rename_i hk
        subst hk
        simp [h]
      · simp only [List.filter_cons, ih]

/-- Storing what is there already changes nothing. -/
theorem insert_of_get? {key : String} {value : α} {t : Table α} (h : get? key t = some value) :
    insert key value t = t := by
  induction t with
  | nil => cases h
  | cons e rest ih =>
      obtain ⟨k, v⟩ := e
      rw [get?_cons] at h
      rw [insert]
      split
      · rename_i hk
        rw [if_pos hk, Option.some.injEq] at h
        rw [h]
      · rename_i hk
        rw [if_neg hk] at h
        rw [ih h]

/-- Look-up in a table that is made of a list of names. -/
theorem get?_map_names (f : String → α) (key : String) (names : List String) :
    get? key (names.map fun name => (name, f name)) =
      if key ∈ names then some (f key) else none := by
  induction names with
  | nil => rfl
  | cons name rest ih =>
      rw [List.map_cons, get?_cons, ih]
      by_cases hname : name = key
      · subst hname
        simp
      · simp [hname, Ne.symm hname]

/-! ### Changing entries -/

/-- Changing an entry keeps the names. -/
theorem keys_modify (key : String) (f : α → α) (t : Table α) :
    keys (modify key f t) = keys t := by
  induction t with
  | nil => rfl
  | cons e rest ih =>
      obtain ⟨k, v⟩ := e
      rw [modify]
      split
      · rfl
      · show k :: keys (modify key f rest) = k :: keys rest
        rw [ih]

/-- Changing an entry changes the look-up of its name only. -/
theorem get?_modify (key other : String) (f : α → α) (t : Table α) :
    get? other (modify key f t) =
      if key = other then (get? other t).map f else get? other t := by
  induction t with
  | nil => simp [modify]
  | cons e rest ih =>
      obtain ⟨k, v⟩ := e
      rw [modify]
      by_cases hk : k = key
      · subst hk
        rw [if_pos rfl, get?_cons, get?_cons]
        by_cases ho : k = other
        · rw [if_pos ho, if_pos ho, if_pos ho, Option.map_some]
        · rw [if_neg ho, if_neg ho, if_neg ho]
      · rw [if_neg hk, get?_cons, get?_cons, ih]
        by_cases ho : k = other
        · rw [if_pos ho, if_pos ho, if_neg fun h => hk (ho.trans h.symm)]
        · rw [if_neg ho, if_neg ho]

/-- Changing a value to itself changes nothing. -/
theorem modify_eq_self {α : Type} {key : String} {f : α → α} {t : Table α}
    (h : ∀ v, get? key t = some v → f v = v) : modify key f t = t := by
  induction t with
  | nil => rfl
  | cons e rest ih =>
      obtain ⟨k, v⟩ := e
      rw [modify]
      split
      · rename_i hk
        rw [h v (by rw [get?_cons, if_pos hk])]
      · rename_i hk
        rw [ih fun w hw => h w (by rw [get?_cons, if_neg hk, hw])]

/-- An entry of a changed table. -/
theorem mem_modify {e : String × α} {key : String} {f : α → α} {t : Table α}
    (h : e ∈ modify key f t) : e ∈ t ∨ ∃ v, (key, v) ∈ t ∧ e = (key, f v) := by
  induction t with
  | nil => cases h
  | cons e' rest ih =>
      obtain ⟨k, v⟩ := e'
      rw [modify] at h
      split at h
      · rename_i hk
        subst hk
        rcases List.mem_cons.mp h with rfl | h
        · exact Or.inr ⟨v, List.mem_cons_self, rfl⟩
        · exact Or.inl (List.mem_cons_of_mem _ h)
      · rcases List.mem_cons.mp h with rfl | h
        · exact Or.inl List.mem_cons_self
        · rcases ih h with h | ⟨w, hw, rfl⟩
          · exact Or.inl (List.mem_cons_of_mem _ h)
          · exact Or.inr ⟨w, List.mem_cons_of_mem _ hw, rfl⟩

/-- Look-up in a table with all values changed. -/
theorem get?_map {β : Type} (f : α → β) (key : String) (t : Table α) :
    get? key (t.map fun e => (e.1, f e.2)) = (get? key t).map f := by
  induction t with
  | nil => rfl
  | cons e rest ih =>
      obtain ⟨k, v⟩ := e
      rw [List.map_cons, get?_cons, get?_cons, ih]
      split <;> rfl

/-! ### Changing all values by name -/

section MapValues

variable {β : Type} (f : String → α → β)

/-- Changes all values, each with regard to its name. -/
def mapValues (t : Table α) : Table β :=
  t.map fun e => (e.1, f e.1 e.2)

@[simp] theorem mapValues_nil : mapValues f [] = [] := rfl

@[simp] theorem mapValues_cons (k : String) (v : α) (rest : Table α) :
    mapValues f ((k, v) :: rest) = (k, f k v) :: mapValues f rest := rfl

/-- Changing values keeps the names. -/
@[simp] theorem keys_mapValues (t : Table α) : keys (mapValues f t) = keys t := by
  unfold keys mapValues
  rw [List.map_map]
  rfl

/-- Changing values keeps the number of entries. -/
@[simp] theorem length_mapValues (t : Table α) : (mapValues f t).length = t.length :=
  List.length_map _

/-- Changing values makes no table empty. -/
@[simp] theorem isEmpty_mapValues (t : Table α) : (mapValues f t).isEmpty = t.isEmpty := by
  cases t <;> rfl

/-- Look-up in a table with all values changed. -/
theorem get?_mapValues (key : String) (t : Table α) :
    get? key (mapValues f t) = (get? key t).map (f key) := by
  induction t with
  | nil => rfl
  | cons e rest ih =>
      obtain ⟨k, v⟩ := e
      rw [mapValues_cons, get?_cons, get?_cons, ih]
      split
      · rename_i hk
        rw [hk, Option.map_some]
      · rfl

/-- Look-up with a default in tables that are the same after a change of values. -/
theorem getD_of_mapValues_eq {t t' : Table α} (h : mapValues f t = mapValues f t') (key : String)
    (default : α) : f key ((get? key t).getD default) = f key ((get? key t').getD default) := by
  have hget := congrArg (get? key) h
  rw [get?_mapValues, get?_mapValues] at hget
  rcases cases_of_map_eq hget with ⟨hnone, hnone'⟩ | ⟨v, v', hv, hv', heq⟩
  · rw [hnone, hnone']
  · rw [hv, hv']
    exact heq

/-- The same names are present. -/
@[simp] theorem contains_mapValues (key : String) (t : Table α) :
    contains key (mapValues f t) = contains key t := by
  rw [contains, contains, get?_mapValues, Option.isSome_map]

/-- Storing an entry before or after changing values. -/
theorem mapValues_insert (key : String) (value : α) (t : Table α) :
    mapValues f (insert key value t) = insert key (f key value) (mapValues f t) := by
  induction t with
  | nil => rfl
  | cons e rest ih =>
      obtain ⟨k, v⟩ := e
      rw [insert, mapValues_cons, insert]
      split
      · rename_i hk
        rw [mapValues_cons, hk]
      · rw [mapValues_cons, ih]

/-- Storing entries before or after changing values. -/
theorem mapValues_extend (t more : Table α) :
    mapValues f (extend t more) = extend (mapValues f t) (mapValues f more) := by
  unfold extend
  induction more generalizing t with
  | nil => rfl
  | cons e rest ih =>
      rw [List.foldl_cons, ih, mapValues_insert]
      rfl

/-- Changing one value before or after changing all of them. -/
theorem mapValues_modify {key : String} {g : α → α} {g' : β → β}
    (h : ∀ v, f key (g v) = g' (f key v)) (t : Table α) :
    mapValues f (modify key g t) = modify key g' (mapValues f t) := by
  induction t with
  | nil => rfl
  | cons e rest ih =>
      obtain ⟨k, v⟩ := e
      rw [modify, mapValues_cons, modify]
      split
      · rename_i hk
        subst hk
        rw [mapValues_cons, h]
      · rw [mapValues_cons, ih]

/-- Removing an entry before or after changing values. -/
theorem mapValues_swapErase (key : String) (t : Table α) :
    mapValues f (swapErase key t) = swapErase key (mapValues f t) := by
  induction t with
  | nil => rfl
  | cons e rest ih =>
      obtain ⟨k, v⟩ := e
      rw [swapErase, mapValues_cons, swapErase]
      split
      · have hlast : (mapValues f rest).getLast? =
            rest.getLast?.map fun e => (e.1, f e.1 e.2) := List.getLast?_map
        rw [hlast]
        cases rest.getLast? with
        | none => rfl
        | some last =>
            rw [Option.map_some, mapValues, List.map_cons, List.map_dropLast]
            rfl
      · rw [mapValues_cons, ih]

end MapValues

end Table

namespace Json

/-- What a merge leaves under a name, given what both sides hold there. -/
def mergeEntry : Option Json → Option Json → Option Json
  | none, incoming => incoming
  | some existing, none => some existing
  | some existing, some incoming => some (mergeValue existing incoming)

@[simp] theorem mergeEntry_none_left (incoming : Option Json) :
    mergeEntry none incoming = incoming := rfl

@[simp] theorem mergeEntry_none_right (existing : Option Json) :
    mergeEntry existing none = existing := by
  cases existing <;> rfl

/-- Merging takes up one entry of the source after the other. -/
theorem mergeInto_cons (t : Table Json) (key : String) (incoming : Json) (rest : Table Json) :
    mergeInto t ((key, incoming) :: rest) =
      mergeInto (Table.insert key
        (((Table.get? key t).map (mergeValue · incoming)).getD incoming) t) rest := by
  rw [mergeInto]
  cases Table.get? key t <;> rfl

/-- **The look-up of a deep merge.** The source must have distinct names: a repeated one would
be merged again into its own first value. -/
theorem get?_mergeInto {source : Table Json} (hs : Table.Distinct source) (t : Table Json)
    (key : String) :
    Table.get? key (mergeInto t source) =
      mergeEntry (Table.get? key t) (Table.get? key source) := by
  induction source generalizing t with
  | nil => rw [mergeInto, Table.get?_nil, mergeEntry_none_right]
  | cons e rest ih =>
      obtain ⟨k, incoming⟩ := e
      obtain ⟨hk, hrest⟩ : k ∉ Table.keys rest ∧ Table.Distinct rest := List.nodup_cons.mp hs
      rw [mergeInto_cons, ih hrest, Table.get?_insert, Table.get?_cons]
      by_cases hkey : k = key
      · subst hkey
        rw [if_pos rfl, if_pos rfl, Table.get?_eq_none_iff.mpr hk, mergeEntry_none_right]
        cases Table.get? k t <;> rfl
      · rw [if_neg hkey, if_neg hkey]

/-- A merge keeps the names of its target distinct. -/
theorem distinct_mergeInto {t : Table Json} (ht : Table.Distinct t) (source : Table Json) :
    Table.Distinct (mergeInto t source) := by
  induction source generalizing t with
  | nil => rwa [mergeInto]
  | cons e rest ih =>
      obtain ⟨k, incoming⟩ := e
      rw [mergeInto_cons]
      exact ih (ht.insert _ _)

end Json

end ApiGloss
