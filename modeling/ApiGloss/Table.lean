/-!
# Tables in Order of Insertion

A table is a list of named entries. Its order is part of every answer: a new name goes to
the end, a known name keeps its place. Tables are plain lists, so that they can be nested in
other data; that names occur once is the separate predicate `Table.Distinct`, which every
operation here keeps.

* `Table.get?_insert` and `Table.keys_insert` say what `insert` does to the two views of a
  table, its look-up and its list of names;
* `Table.swapErase` removes an entry and moves the last one into the gap.
-/

namespace ApiGloss

/-- A **table**: named entries in order of insertion. -/
abbrev Table (α : Type) := List (String × α)

namespace Table

variable {α : Type}

/-- The names of a table, in order. -/
def keys (t : Table α) : List String :=
  t.map Prod.fst

/-- No name occurs twice. -/
def Distinct (t : Table α) : Prop :=
  (keys t).Nodup

/-- The entry under a name. -/
def get? (key : String) : Table α → Option α
  | [] => none
  | (k, v) :: rest => if k = key then some v else get? key rest

/-- Whether a name is present. -/
def contains (key : String) (t : Table α) : Bool :=
  (get? key t).isSome

/-- Stores an entry: a known name keeps its place, a new one goes to the end. -/
def insert (key : String) (value : α) : Table α → Table α
  | [] => [(key, value)]
  | (k, v) :: rest => if k = key then (k, value) :: rest else (k, v) :: insert key value rest

/-- Stores all entries of a second table, in order. -/
def extend (t more : Table α) : Table α :=
  more.foldl (fun acc e => insert e.1 e.2 acc) t

/-- Changes the entry under a name, if there is one. -/
def modify (key : String) (f : α → α) : Table α → Table α
  | [] => []
  | (k, v) :: rest => if k = key then (k, f v) :: rest else (k, v) :: modify key f rest

/-- Removes an entry and closes the gap. -/
def erase (key : String) : Table α → Table α
  | [] => []
  | (k, v) :: rest => if k = key then rest else (k, v) :: erase key rest

/-- Removes an entry and moves the last one into its place. -/
def swapErase (key : String) : Table α → Table α
  | [] => []
  | (k, v) :: rest =>
    if k = key then
      match rest.getLast? with
      | none => []
      | some last => last :: rest.dropLast
    else (k, v) :: swapErase key rest

/-! ### Look-up after an operation -/

@[simp] theorem get?_nil (key : String) : get? key ([] : Table α) = none := rfl

theorem get?_cons (key k : String) (v : α) (rest : Table α) :
    get? key ((k, v) :: rest) = if k = key then some v else get? key rest := rfl

/-- Storing an entry changes the look-up of its name only. -/
theorem get?_insert (key other : String) (value : α) (t : Table α) :
    get? other (insert key value t) = if key = other then some value else get? other t := by
  induction t with
  | nil => simp [insert, get?]
  | cons e rest ih =>
    obtain ⟨k, v⟩ := e
    by_cases h : k = key
    · subst h
      by_cases ho : k = other <;> simp [insert, get?, ho]
    · by_cases ho : key = other
      · subst ho
        simp [insert, get?, h, ih]
      · simp only [insert, h, if_false, get?, ih, ho]

/-- A name is found exactly when it is among the names of the table. -/
theorem contains_iff_mem_keys {key : String} {t : Table α} :
    contains key t = true ↔ key ∈ keys t := by
  induction t with
  | nil => simp [contains, keys]
  | cons e rest ih =>
    obtain ⟨k, v⟩ := e
    by_cases h : k = key
    · simp [contains, get?, keys, h]
    · have h' : ¬ key = k := fun e => h e.symm
      simp only [contains, keys] at ih
      simp [contains, get?, keys, h, h', ih]

/-! ### The names after an operation -/

/-- Storing an entry adds its name at the end, or leaves the names as they are. -/
theorem keys_insert (key : String) (value : α) (t : Table α) :
    keys (insert key value t) = if contains key t then keys t else keys t ++ [key] := by
  induction t with
  | nil => simp [insert, keys, contains]
  | cons e rest ih =>
    obtain ⟨k, v⟩ := e
    by_cases h : k = key
    · simp [insert, keys, contains, get?, h]
    · have hc : contains key ((k, v) :: rest) = contains key rest := by
        simp [contains, get?, h]
      have hk : keys (insert key value ((k, v) :: rest)) = k :: keys (insert key value rest) := by
        simp [insert, keys, h]
      rw [hc, hk, ih]
      split <;> simp [keys]

/-- Storing an entry keeps names distinct. -/
theorem Distinct.insert {t : Table α} (h : Distinct t) (key : String) (value : α) :
    Distinct (Table.insert key value t) := by
  unfold Distinct at *
  rw [keys_insert]
  split
  · exact h
  · rename_i hc
    rw [List.nodup_append]
    refine ⟨h, by simp, ?_⟩
    intro a ha b hb
    simp only [List.mem_singleton] at hb
    subst hb
    intro hab
    subst hab
    exact hc (contains_iff_mem_keys.2 ha)

/-- Storing many entries keeps names distinct. -/
theorem Distinct.extend {t : Table α} (h : Distinct t) (more : Table α) :
    Distinct (Table.extend t more) := by
  unfold Table.extend
  induction more generalizing t with
  | nil => exact h
  | cons e rest ih => exact ih (h.insert e.1 e.2)

end Table

end ApiGloss
