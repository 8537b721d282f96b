import ApiGloss.Proofs.Definitions
import ApiGloss.Record.Attach

/-!
# What Merging and Attaching Keep

Records are changed by merging other records into them and by attaching values below a path.
Neither removes anything from an array: an item that stands in an array at some path stays in
an array at that path (`Json.HasItem`). Conversely, what holds of all entries of two records
holds of all entries of the merged record, as long as merging two values keeps it
(`Json.Entries`). Both facts are used level by level, along a path of names.

## Main results

* `Json.HasItem.mergeValue`, `Record.hasItem_attach_of_hasItem`: items stay where they are.
* `Record.hasItem_attach`: attached values are an item at their path.
* `Json.entries_mergeInto`, `Record.attachKeeps_under`: properties of entries are kept.
-/

namespace ApiGloss

namespace Json

/-! ### Items at a path -/

/-- The value at a path of names. -/
def at? : List String → Json → Option Json
  | [], j => some j
  | key :: path, j => (j.get? key).bind (at? path)

/-- An **array at a path holds an item** with a property. -/
def HasItem (P : Json → Prop) (path : List String) (j : Json) : Prop :=
  ∃ items, at? path j = some (.arr items) ∧ ∃ item ∈ items, P item

variable {P : Json → Prop}

/-- At the empty path, the value itself is the array. -/
theorem hasItem_nil {j : Json} :
    HasItem P [] j ↔ ∃ items, j = .arr items ∧ ∃ item ∈ items, P item := by
  unfold HasItem
  simp only [at?, Option.some.injEq]

/-- Paths lead through the entries of objects. -/
theorem hasItem_cons {key : String} {path : List String} {j : Json} :
    HasItem P (key :: path) j ↔ ∃ v, j.get? key = some v ∧ HasItem P path v := by
  constructor
  · rintro ⟨items, hat, hitem⟩
    obtain ⟨v, hv, hrest⟩ := Option.bind_eq_some_iff.mp hat
    exact ⟨v, hv, items, hrest, hitem⟩
  · rintro ⟨v, hv, items, hat, hitem⟩
    exact ⟨items, Option.bind_eq_some_iff.mpr ⟨v, hv, hat⟩, hitem⟩

/-- In an object, the first name of the path is looked up. -/
theorem hasItem_obj {key : String} {path : List String} {t : Table Json} :
    HasItem P (key :: path) (.obj t) ↔ ∃ v, Table.get? key t = some v ∧ HasItem P path v :=
  hasItem_cons

/-- A weaker property. -/
theorem HasItem.imp {Q : Json → Prop} {path : List String} {j : Json} (hPQ : ∀ i, P i → Q i)
    (h : HasItem P path j) : HasItem Q path j := by
  obtain ⟨items, hat, item, hmem, hitem⟩ := h
  exact ⟨items, hat, item, hmem, hPQ item hitem⟩

/-- Storing an entry under another name than the first of the path. -/
theorem HasItem.insert_of_ne {key other : String} {path : List String} {t : Table Json}
    (h : HasItem P (key :: path) (.obj t)) (hne : other ≠ key) (value : Json) :
    HasItem P (key :: path) (.obj (Table.insert other value t)) := by
  obtain ⟨v, hv, hitem⟩ := hasItem_obj.mp h
  refine hasItem_obj.mpr ⟨v, ?_, hitem⟩
  rw [Table.get?_insert, if_neg hne, hv]

/-- Storing an entry under the first name of the path. -/
theorem hasItem_insert_self {key : String} {path : List String} {t : Table Json} {value : Json}
    (h : HasItem P path value) : HasItem P (key :: path) (.obj (Table.insert key value t)) := by
  refine hasItem_obj.mpr ⟨value, ?_, h⟩
  rw [Table.get?_insert, if_pos rfl]

/-- A name under which merging values keeps items: entries are merged one by one. -/
theorem HasItem.mergeInto {key : String} {path : List String}
    (hmerge : ∀ v incoming, HasItem P path v → HasItem P path (mergeValue v incoming))
    {t : Table Json} (h : HasItem P (key :: path) (.obj t)) (source : Table Json) :
    HasItem P (key :: path) (.obj (mergeInto t source)) := by
  induction source generalizing t with
  | nil => rwa [Json.mergeInto]
  | cons e rest ih =>
      obtain ⟨k, incoming⟩ := e
      rw [mergeInto_cons]
      refine ih ?_
      by_cases hk : k = key
      · subst hk
        obtain ⟨v, hv, hitem⟩ := hasItem_obj.mp h
        rw [hv]
        exact hasItem_insert_self (hmerge v incoming hitem)
      · exact h.insert_of_ne hk _

/-- **Merging keeps the items of arrays.** -/
theorem HasItem.mergeValue {path : List String} {j : Json} (h : HasItem P path j)
    (incoming : Json) : HasItem P path (mergeValue j incoming) := by
  induction path generalizing j incoming with
  | nil =>
      obtain ⟨items, rfl, item, hmem, hitem⟩ := hasItem_nil.mp h
      have harr : ∃ more, Json.mergeValue (.arr items) incoming = .arr (items ++ more) := by
        cases incoming <;> exact ⟨_, rfl⟩
      obtain ⟨more, hmore⟩ := harr
      rw [hmore]
      exact hasItem_nil.mpr ⟨_, rfl, item, List.mem_append_left _ hmem, hitem⟩
  | cons key path ih =>
      obtain ⟨v, hv, -⟩ := hasItem_cons.mp h
      cases j with
      | obj t =>
          cases incoming with
          | obj source => exact h.mergeInto (fun v incoming hv => ih hv incoming) source
          | _ => exact h
      | _ => cases hv

/-! ### Properties of entries -/

/-- **All entries** of an object have a property; other values have no entries. -/
def Entries (R : String → Json → Prop) : Json → Prop
  | .obj t => ∀ e ∈ t, R e.1 e.2
  | _ => True

/-- The entries under one name are objects whose entries have a property, or no objects. -/
def Under (name : String) (R : String → Json → Prop) (key : String) (j : Json) : Prop :=
  key = name → Entries R j

/-- A property of entries is **kept by merging** values. -/
def MergeKeeps (R : String → Json → Prop) : Prop :=
  ∀ key existing incoming, R key existing → R key incoming →
    R key (mergeValue existing incoming)

variable {R : String → Json → Prop}

/-- A weaker property of entries. -/
theorem Entries.imp {S : String → Json → Prop} (hRS : ∀ key v, R key v → S key v) {j : Json}
    (h : Entries R j) : Entries S j := by
  cases j with
  | obj t => exact fun e he => hRS e.1 e.2 (h e he)
  | _ => trivial

/-- A weaker property below a name. -/
theorem Under.imp {S : String → Json → Prop} (hRS : ∀ key v, R key v → S key v) {name key : String}
    {j : Json} (h : Under name R key j) : Under name S key j :=
  fun hkey => (h hkey).imp hRS

/-- Storing an entry with a property. -/
theorem entries_insert {t : Table Json} (h : ∀ e ∈ t, R e.1 e.2) {key : String} {value : Json}
    (hvalue : R key value) : ∀ e ∈ Table.insert key value t, R e.1 e.2 := by
  intro e he
  rcases Table.mem_insert he with he | rfl
  · exact h e he
  · exact hvalue

/-- Changing an entry keeps a property of entries that the change keeps. -/
theorem entries_modify {R : String → Json → Prop} {key : String} {f : Json → Json}
    (hf : ∀ v, R key v → R key (f v)) {t : Table Json} (h : ∀ e ∈ t, R e.1 e.2) :
    ∀ e ∈ Table.modify key f t, R e.1 e.2 := by
  intro e he
  rcases Table.mem_modify he with he | ⟨v, hv, rfl⟩
  · exact h e he
  · exact hf v (h _ hv)

/-- **Merging tables** keeps the properties of entries that merging values keeps. -/
theorem entries_mergeInto (hR : MergeKeeps R) {t source : Table Json}
    (ht : ∀ e ∈ t, R e.1 e.2) (hs : ∀ e ∈ source, R e.1 e.2) :
    ∀ e ∈ mergeInto t source, R e.1 e.2 := by
  induction source generalizing t with
  | nil => rwa [mergeInto]
  | cons e rest ih =>
      obtain ⟨k, incoming⟩ := e
      obtain ⟨hincoming, hrest⟩ := List.forall_mem_cons.mp hs
      rw [mergeInto_cons]
      refine ih (entries_insert ht ?_) hrest
      cases hk : Table.get? k t with
      | none => exact hincoming
      | some existing => exact hR k existing incoming (ht _ (Table.mem_of_get? hk)) hincoming

/-- Merging values keeps the properties of their entries. -/
theorem entries_mergeValue (hR : MergeKeeps R) {existing incoming : Json}
    (he : Entries R existing) (hi : Entries R incoming) :
    Entries R (mergeValue existing incoming) := by
  cases existing with
  | obj t =>
      cases incoming with
      | obj source => exact entries_mergeInto hR he hi
      | _ => exact he
  | arr items => cases incoming <;> trivial
  | _ => cases incoming <;> trivial

/-- Merging makes no texts. -/
theorem eq_str_of_mergeValue {existing incoming : Json} {s : String}
    (h : mergeValue existing incoming = .str s) : existing = .str s := by
  cases existing <;> cases incoming <;> first | exact h | cases h

/-- A text under a name of a merged table comes from the target, or from the source if the target
has nothing there. -/
theorem get?_str_of_mergeInto {t source : Table Json} {key s : String}
    (h : Table.get? key (mergeInto t source) = some (.str s)) :
    Table.get? key t = some (.str s) ∨
      Table.get? key t = none ∧ Table.get? key source = some (.str s) := by
  induction source generalizing t with
  | nil =>
      rw [mergeInto] at h
      exact Or.inl h
  | cons e rest ih =>
      obtain ⟨k, incoming⟩ := e
      rw [mergeInto_cons] at h
      replace h := ih h
      rw [Table.get?_insert] at h
      rw [Table.get?_cons]
      by_cases hk : k = key
      · subst hk
        rw [if_pos rfl] at h ⊢
        rcases h with h | ⟨hnone, -⟩
        · cases hget : Table.get? k t with
          | none =>
              rw [hget] at h
              exact Or.inr ⟨rfl, h⟩
          | some existing =>
              rw [hget] at h
              rw [eq_str_of_mergeValue (Option.some.inj h)]
              exact Or.inl rfl
        · cases hnone
      · rw [if_neg hk] at h ⊢
        exact h

/-- What merging keeps below a name, it keeps above. -/
theorem MergeKeeps.under (hR : MergeKeeps R) (name : String) : MergeKeeps (Under name R) :=
  fun _ _ _ he hi hkey => entries_mergeValue hR (he hkey) (hi hkey)

end Json

namespace Record

open Json

/-! ### Attaching -/

variable {values : Table Json}

/-- **What attaching an item does** to the first level of a path: the entry under the first name
becomes an array with one more item, or an object to which the item is attached in turn. -/
theorem attach_cons_cases {head : String} {rest : List String} {t t' : Table Json}
    (h : attach .push values (head :: rest) t = some t') :
    ∃ slot, t' = Table.insert head slot t ∧
      ((rest = [] ∧ ∃ items, (Table.get? head t).getD (.arr []) = .arr items ∧
          slot = .arr (items ++ [.obj values])) ∨
        (rest ≠ [] ∧ ∃ child child', (Table.get? head t).getD (.obj []) = .obj child ∧
          attach .push values rest child = some child' ∧ slot = .obj child')) := by
  cases rest with
  | nil =>
      obtain ⟨slot, hslot, rfl⟩ := Option.map_eq_some_iff.mp h
      change attachTo .push values ((Table.get? head t).getD (.arr [])) = some slot at hslot
      refine ⟨slot, rfl, Or.inl ⟨rfl, ?_⟩⟩
      cases hget : (Table.get? head t).getD (.arr []) with
      | arr items =>
          rw [hget, attachTo, Option.some.injEq] at hslot
          exact ⟨items, rfl, hslot.symm⟩
      | _ =>
          rw [hget] at hslot
          cases hslot
  | cons next rest =>
      rw [attach] at h
      · split at h
        · rename_i child hget
          obtain ⟨child', hchild, rfl⟩ := Option.map_eq_some_iff.mp h
          exact ⟨.obj child', rfl, Or.inr ⟨List.cons_ne_nil _ _, child, child', hget, hchild, rfl⟩⟩
        · cases h
      · exact List.cons_ne_nil _ _

/-- **Attaching keeps the items of arrays.** -/
theorem hasItem_attach_of_hasItem {P : Json → Prop} {place path : List String}
    {t t' : Table Json} (h : HasItem P path (.obj t))
    (hattach : attach .push values place t = some t') : HasItem P path (.obj t') := by
  induction place generalizing path t t' with
  | nil => cases hattach
  | cons head rest ih =>
      cases path with
      | nil =>
          obtain ⟨items, hobj, -⟩ := hasItem_nil.mp h
          cases hobj
      | cons key path =>
          obtain ⟨slot, rfl, hslot⟩ := attach_cons_cases hattach
          by_cases hk : head = key
          · subst hk
            obtain ⟨v, hv, hitem⟩ := hasItem_obj.mp h
            rw [hv, Option.getD_some, Option.getD_some] at hslot
            refine hasItem_insert_self ?_
            rcases hslot with ⟨-, items, rfl, rfl⟩ | ⟨-, child, child', rfl, hchild, rfl⟩
            · cases path with
              | nil =>
                  obtain ⟨_, hitems, item, hmem, hP⟩ := hasItem_nil.mp hitem
                  cases hitems
                  exact hasItem_nil.mpr ⟨_, rfl, item, List.mem_append_left _ hmem, hP⟩
              | cons key' path =>
                  obtain ⟨_, hnone, -⟩ := hasItem_cons.mp hitem
                  cases hnone
            · exact ih hitem hchild
          · exact h.insert_of_ne hk slot

/-- **Attached values are an item** of the array at their path. -/
theorem hasItem_attach {place : List String} {t t' : Table Json}
    (hattach : attach .push values place t = some t') :
    HasItem (· = .obj values) place (.obj t') := by
  induction place generalizing t t' with
  | nil => cases hattach
  | cons head rest ih =>
      obtain ⟨slot, rfl, hslot⟩ := attach_cons_cases hattach
      refine hasItem_insert_self ?_
      rcases hslot with ⟨rfl, items, -, rfl⟩ | ⟨-, child, child', -, hchild, rfl⟩
      · exact hasItem_nil.mpr
          ⟨_, rfl, _, List.mem_append_right _ (List.mem_singleton.mpr rfl), rfl⟩
      · exact ih hchild

/-- Attaching values at a place **keeps** a property of the entries of a record. -/
def AttachKeeps (R : String → Json → Prop) (values : Table Json) (place : List String) : Prop :=
  ∀ t t', (∀ e ∈ t, R e.1 e.2) → attach .push values place t = some t' → ∀ e ∈ t', R e.1 e.2

/-- A property below a name is kept if attaching keeps it there, or goes elsewhere. -/
theorem attachKeeps_under {R : String → Json → Prop} {name head : String} {rest : List String}
    (h : head = name → rest ≠ [] → AttachKeeps R values rest) :
    AttachKeeps (Under name R) values (head :: rest) := by
  intro t t' ht hattach
  obtain ⟨slot, rfl, hslot⟩ := attach_cons_cases hattach
  refine entries_insert ht fun hname => ?_
  rcases hslot with ⟨-, items, -, rfl⟩ | ⟨hrest, child, child', hget, hchild, rfl⟩
  · trivial
  · refine h hname hrest child child' ?_ hchild
    cases hv : Table.get? head t with
    | none =>
        rw [hv] at hget
        cases hget
        exact nofun
    | some v =>
        rw [hv, Option.getD_some] at hget
        subst hget
        exact ht _ (Table.mem_of_get? hv) hname

end Record

end ApiGloss
