import ApiGloss.Proofs.Paths

/-!
# Values Without Their Prose

Some texts of a record are meant for readers only: the descriptions of endpoints, fields and
definitions, and the contents of examples and of notes. They stand under two names. A value is
**bare** when all texts under these names are empty. Whatever a run does to a value, it does in the
same way to the bare value: it looks at other texts only, and at the kind of a value.

## Main results

* `Json.bare_mergeValue`: merging bare values.
* `Record.attach_bareFields`: attaching to a bare record.
* `Record.bareFields_modifyAt`: changing texts for readers does not show in the bare record.
-/

namespace ApiGloss

open Json Record

namespace Json

/-- The names under which texts for readers stand. -/
def proseNames : List String :=
  ["description", "content"]

/-- An item among texts for readers, without its text. -/
def blankItem : Json → Json
  | .str _ => .str ""
  | j => j

/-- A value under a name for readers, without its texts. -/
def blank : Json → Json
  | .str _ => .str ""
  | .arr items => .arr (items.map blankItem)
  | j => j

/-- A value under a name, without its texts if the name is one for readers. -/
def blankAt (name : String) (j : Json) : Json :=
  if name ∈ proseNames then blank j else j

mutual
/-- **The bare value**: without the texts for readers. -/
def bare : Json → Json
  | .arr items => .arr (bareItems items)
  | .obj fields => .obj (bareFields fields)
  | j => j

/-- The bare items of an array. -/
def bareItems : List Json → List Json
  | [] => []
  | j :: rest => bare j :: bareItems rest

/-- The bare entries of an object. -/
def bareFields : List (String × Json) → List (String × Json)
  | [] => []
  | (name, j) :: rest => (name, blankAt name (bare j)) :: bareFields rest
end

/-- The bare value under a name. -/
def bareAt (name : String) (j : Json) : Json :=
  blankAt name (bare j)

/-- The items of a bare array are bare. -/
theorem bareItems_eq (items : List Json) : bareItems items = items.map bare := by
  induction items with
  | nil => rfl
  | cons j rest ih => rw [bareItems, ih, List.map_cons]

/-- The entries of a bare object are bare. -/
theorem bareFields_eq (t : Table Json) : bareFields t = Table.mapValues bareAt t := by
  induction t with
  | nil => rfl
  | cons e rest ih =>
      obtain ⟨name, j⟩ := e
      rw [bareFields, ih]
      rfl

@[simp] theorem bare_arr (items : List Json) : bare (.arr items) = .arr (items.map bare) := by
  rw [bare, bareItems_eq]

@[simp] theorem bare_obj (t : Table Json) : bare (.obj t) = .obj (bareFields t) := by
  rw [bare]

/-! ### Looking up -/

/-- What stands under a name of a bare object. -/
theorem get?_bareFields (key : String) (t : Table Json) :
    Table.get? key (bareFields t) = (Table.get? key t).map (bareAt key) := by
  rw [bareFields_eq, Table.get?_mapValues]

/-- Under each name, objects with the same bare entries hold the same, up to texts for readers. -/
theorem map_bareAt_eq {t t' : Table Json} (h : bareFields t = bareFields t') (key : String) :
    (Table.get? key t).map (bareAt key) = (Table.get? key t').map (bareAt key) := by
  rw [← get?_bareFields, h, get?_bareFields]

/-- Names other than those for readers. -/
theorem bareAt_of_not_mem {name : String} (h : name ∉ proseNames) (j : Json) :
    bareAt name j = bare j := by
  rw [bareAt, blankAt, if_neg h]

/-- Texts are bare. -/
@[simp] theorem str?_bare (j : Json) : (bare j).str? = j.str? := by
  cases j <;> rfl

/-- A text under a name of a bare value. -/
theorem str?_bareAt (name : String) (j : Json) :
    (bareAt name j).str? = j.str?.map fun s => if name ∈ proseNames then "" else s := by
  rw [← str?_bare j, bareAt, blankAt]
  split
  · cases bare j <;> rfl
  · exact Option.map_id'.symm

/-- What is bare is missing if it was. -/
theorem bare_eq_null_iff (j : Json) : bare j = .null ↔ j = .null := by
  cases j with
  | arr items => rw [bare_arr]; exact ⟨nofun, nofun⟩
  | obj t => rw [bare_obj]; exact ⟨nofun, nofun⟩
  | _ => rfl

/-- The items of a bare value. -/
theorem arr?_bare (j : Json) : (bare j).arr? = j.arr?.map (List.map bare) := by
  cases j with
  | arr items => rw [bare_arr]; rfl
  | _ => rfl

/-- The entries of a bare value. -/
theorem obj?_bare (j : Json) : (bare j).obj? = j.obj?.map bareFields := by
  cases j with
  | obj t => rw [bare_obj]; rfl
  | _ => rfl

/-- What stands under a name of a bare value. -/
theorem get?_bare {key : String} (h : key ∉ proseNames) (j : Json) :
    (bare j).get? key = (j.get? key).map bare := by
  cases j with
  | obj t =>
      rw [bare_obj]
      show Table.get? key (bareFields t) = (Table.get? key t).map bare
      rw [get?_bareFields]
      exact congrArg (fun f => Option.map f _) (funext (bareAt_of_not_mem h))
  | arr items => rw [bare_arr]; rfl
  | _ => rfl

/-- A text under a name of a bare value. -/
theorem getStr?_bare {key : String} (h : key ∉ proseNames) (j : Json) :
    (bare j).getStr? key = j.getStr? key := by
  unfold getStr?
  rw [get?_bare h]
  cases j.get? key with
  | none => rfl
  | some v => exact str?_bare v

/-! ### Items under a name -/

/-- A bare item of an array under a name. -/
def bareItemAt (name : String) (item : Json) : Json :=
  if name ∈ proseNames then blankItem (bare item) else bare item

/-- The items of an array under a name. -/
@[simp] theorem bareAt_arr (name : String) (items : List Json) :
    bareAt name (.arr items) = .arr (items.map (bareItemAt name)) := by
  unfold bareAt blankAt bareItemAt
  rw [bare_arr]
  split
  · show Json.arr ((items.map bare).map blankItem) = _
    rw [List.map_map]
    rfl
  · rfl

/-- Items other than texts are bare in the same way under all names. -/
theorem bareItemAt_of_ne {item : Json} (h : ∀ s, item ≠ .str s) (name : String) :
    bareItemAt name item = bare item := by
  unfold bareItemAt
  split
  · cases item with
    | str s => exact absurd rfl (h s)
    | _ => rfl
  · rfl

/-- The entries of a bare item. -/
theorem obj?_blankItem_bare (j : Json) : (blankItem (bare j)).obj? = j.obj?.map bareFields := by
  rw [← obj?_bare]
  cases bare j <;> rfl

/-- The items of a bare item. -/
theorem arr?_blankItem_bare (j : Json) :
    (blankItem (bare j)).arr? = j.arr?.map (List.map bare) := by
  rw [← arr?_bare]
  cases bare j <;> rfl

/-- A text under a name of a bare item. -/
theorem getStr?_bareItemAt {key : String} (h : key ∉ proseNames) (name : String) (item : Json) :
    (bareItemAt name item).getStr? key = item.getStr? key := by
  by_cases hstr : ∃ s, item = .str s
  · obtain ⟨s, rfl⟩ := hstr
    unfold bareItemAt
    split <;> rfl
  · rw [bareItemAt_of_ne fun s hs => hstr ⟨s, hs⟩, getStr?_bare h]

/-! ### Merging -/

/-- Merging values without their texts. -/
theorem blankAt_mergeValue (name : String) (existing incoming : Json) :
    blankAt name (mergeValue existing incoming) =
      mergeValue (blankAt name existing) (blankAt name incoming) := by
  unfold blankAt
  split
  · cases existing <;> cases incoming <;>
      simp only [mergeValue, blank, blankItem, List.map_append, List.map_cons, List.map_nil]
  · rfl

mutual
/-- **Merging bare values.** -/
theorem bare_mergeValue (existing : Json) :
    ∀ incoming, bare (mergeValue existing incoming) = mergeValue (bare existing) (bare incoming)
  | .null => by cases existing <;> simp [mergeValue, bare, bareItems_eq]
  | .bool b => by cases existing <;> simp [mergeValue, bare, bareItems_eq]
  | .num n => by cases existing <;> simp [mergeValue, bare, bareItems_eq]
  | .str s => by cases existing <;> simp [mergeValue, bare, bareItems_eq]
  | .arr right => by cases existing <;> simp [mergeValue, bare, bareItems_eq]
  | .obj right => by
      cases existing with
      | obj left => simp only [mergeValue, bare, bareFields_mergeInto left right]
      | _ => simp [mergeValue, bare, bareItems_eq]

/-- Merging bare records. -/
theorem bareFields_mergeInto (target : Table Json) :
    ∀ source, bareFields (mergeInto target source) =
      mergeInto (bareFields target) (bareFields source)
  | [] => by rw [bareFields, mergeInto, mergeInto]
  | (key, incoming) :: rest => by
      have hentry :
          bareAt key (((Table.get? key target).map (mergeValue · incoming)).getD incoming) =
          (((Table.get? key (bareFields target)).map
            (mergeValue · (bareAt key incoming))).getD (bareAt key incoming)) := by
        rw [get?_bareFields]
        cases Table.get? key target with
        | none => rfl
        | some existing =>
            simp only [Option.map_some, Option.getD_some]
            rw [bareAt, bare_mergeValue existing incoming, blankAt_mergeValue]
            rfl
      rw [mergeInto_cons, bareFields_mergeInto _ rest, bareFields_eq (Table.insert _ _ _),
        Table.mapValues_insert, ← bareFields_eq, hentry, bareFields, mergeInto_cons]
      rfl
end

end Json

/-! ### Tables -/

namespace Json

@[simp] theorem bareFields_nil : bareFields [] = [] := by
  rw [bareFields]

/-- Storing a value in a bare record. -/
theorem bareFields_insert (key : String) (value : Json) (t : Table Json) :
    bareFields (Table.insert key value t) = Table.insert key (bareAt key value) (bareFields t) := by
  rw [bareFields_eq, bareFields_eq, Table.mapValues_insert]

/-- Storing values in a bare record. -/
theorem bareFields_extend (t more : Table Json) :
    bareFields (Table.extend t more) = Table.extend (bareFields t) (bareFields more) := by
  rw [bareFields_eq, bareFields_eq, bareFields_eq, Table.mapValues_extend]

/-- Removing an entry of a bare record. -/
theorem bareFields_swapErase (key : String) (t : Table Json) :
    bareFields (Table.swapErase key t) = Table.swapErase key (bareFields t) := by
  rw [bareFields_eq, bareFields_eq, Table.mapValues_swapErase]

/-- Changing a value of a bare record. -/
theorem bareFields_modify {key : String} {f g : Json → Json}
    (h : ∀ v, bareAt key (f v) = g (bareAt key v)) (t : Table Json) :
    bareFields (Table.modify key f t) = Table.modify key g (bareFields t) := by
  rw [bareFields_eq, bareFields_eq, Table.mapValues_modify _ h]

/-- The same names are present in a bare record. -/
@[simp] theorem contains_bareFields (key : String) (t : Table Json) :
    Table.contains key (bareFields t) = Table.contains key t := by
  rw [bareFields_eq, Table.contains_mapValues]

@[simp] theorem isEmpty_bareFields (t : Table Json) : (bareFields t).isEmpty = t.isEmpty := by
  rw [bareFields_eq, Table.isEmpty_mapValues]

@[simp] theorem length_bareFields (t : Table Json) : (bareFields t).length = t.length := by
  rw [bareFields_eq, Table.length_mapValues]

/-- Objects under a name for readers are bare as all others. -/
@[simp] theorem bareAt_obj (name : String) (t : Table Json) :
    bareAt name (.obj t) = .obj (bareFields t) := by
  unfold bareAt blankAt
  rw [bare_obj]
  split <;> rfl

/-- The entries under a name of a bare value. -/
theorem obj?_bareAt (name : String) (j : Json) : (bareAt name j).obj? = j.obj?.map bareFields := by
  cases j with
  | obj t =>
      rw [bareAt_obj]
      rfl
  | arr items =>
      unfold bareAt blankAt
      rw [bare_arr]
      split <;> rfl
  | _ =>
      unfold bareAt blankAt
      split <;> rfl

/-- The items under a name of a bare value. -/
theorem arr?_bareAt (name : String) (j : Json) :
    (bareAt name j).arr? = j.arr?.map (List.map (bareItemAt name)) := by
  cases j with
  | obj t =>
      rw [bareAt_obj]
      rfl
  | arr items =>
      rw [bareAt_arr]
      rfl
  | _ =>
      unfold bareAt blankAt
      split <;> rfl

end Json

namespace Record

/-! ### Attaching -/

/-- Attaching to a bare value. -/
theorem attachTo_bareAt (method : AttachMethod) (values : Table Json) (name : String)
    (slot : Json) :
    (attachTo method values slot).map (bareAt name) =
      attachTo method (bareFields values) (bareAt name slot) := by
  cases method with
  | push =>
      cases slot with
      | arr items =>
          unfold bareAt blankAt
          split <;> simp [attachTo, blank, blankItem]
      | obj t =>
          rw [bareAt_obj]
          rfl
      | _ =>
          unfold bareAt blankAt
          split <;> rfl
  | insert =>
      cases slot with
      | obj t =>
          rw [bareAt_obj, attachTo, attachTo, Option.map_some, bareAt_obj, bareFields_extend]
      | arr items =>
          unfold bareAt blankAt
          rw [bare_arr]
          split <;> rfl
      | _ =>
          unfold bareAt blankAt
          split <;> rfl

/-- Attaching further down goes on in the object under the first name. -/
theorem attach_cons_cons (method : AttachMethod) (values : Table Json) (head next : String)
    (more : List String) (t : Table Json) :
    attach method values (head :: next :: more) t =
      ((Table.get? head t).getD (.obj [])).obj?.bind fun child =>
        (attach method values (next :: more) child).map fun c => Table.insert head (.obj c) t := by
  rw [attach]
  · cases (Table.get? head t).getD (.obj []) <;> rfl
  · exact List.cons_ne_nil _ _

/-- What is missing is created bare. -/
theorem bareAt_emptySlot (name : String) (method : AttachMethod) :
    bareAt name (emptySlot method) = emptySlot method := by
  unfold bareAt blankAt
  cases method <;> split <;> rfl

/-- What is looked up with a default, in a bare record. -/
theorem getD_bareFields {key : String} {default : Json} (h : bareAt key default = default)
    (t : Table Json) :
    (Table.get? key (bareFields t)).getD default =
      bareAt key ((Table.get? key t).getD default) := by
  rw [get?_bareFields]
  cases Table.get? key t with
  | none => exact h.symm
  | some v => rfl

/-- **Attaching to a bare record.** -/
theorem attach_bareFields (method : AttachMethod) (values : Table Json) (place : List String)
    (t : Table Json) :
    (attach method values place t).map bareFields =
      attach method (bareFields values) place (bareFields t) := by
  induction place generalizing t with
  | nil =>
      cases method with
      | push => rfl
      | insert => rw [attach, attach, Option.map_some, bareFields_extend]
  | cons head rest ih =>
      cases rest with
      | nil =>
          rw [attach, attach, getD_bareFields (bareAt_emptySlot head method), ← attachTo_bareAt,
            Option.map_map, Option.map_map]
          refine congrArg (fun f => Option.map f _) (funext fun slot => ?_)
          exact bareFields_insert head slot t
      | cons next more =>
          have hempty : bareAt head (.obj []) = .obj [] := by
            rw [bareAt_obj, bareFields_nil]
          rw [attach_cons_cons, attach_cons_cons, getD_bareFields hempty, obj?_bareAt]
          cases ((Table.get? head t).getD (.obj [])).obj? with
          | none => rfl
          | some child =>
              rw [Option.map_some, Option.bind_some, Option.bind_some, ← ih, Option.map_map,
                Option.map_map]
              refine congrArg (fun f => Option.map f _) (funext fun c => ?_)
              rw [Function.comp_apply, bareFields_insert, bareAt_obj]
              rfl

/-! ### Changing texts for readers -/

/-- **Changing a text for readers** does not show in the bare record. -/
theorem bareFields_modifyAt {f : Json → Json} (path : List String) {last : String}
    (hlast : path.getLast? = some last) (hf : ∀ v, bareAt last (f v) = bareAt last v)
    (t : Table Json) : bareFields (modifyAt f path t) = bareFields t := by
  induction path generalizing t with
  | nil => cases hlast
  | cons head rest ih =>
      have hsame : ∀ (g : Json → Json), (∀ v, bareAt head (g v) = bareAt head v) →
          bareFields (Table.modify head g t) = bareFields t := by
        intro g hg
        induction t with
        | nil => rfl
        | cons e more iht =>
            obtain ⟨k, v⟩ := e
            rw [Table.modify]
            split
            · rename_i hk
              subst hk
              rw [bareFields_eq, bareFields_eq, Table.mapValues_cons, Table.mapValues_cons, hg]
            · rw [bareFields_eq, bareFields_eq, Table.mapValues_cons, Table.mapValues_cons,
                ← bareFields_eq, ← bareFields_eq, iht]
      cases rest with
      | nil =>
          cases hlast
          exact hsame f hf
      | cons next more =>
          refine hsame _ fun v => ?_
          cases v with
          | obj child =>
              rw [bareAt_obj, bareAt_obj, ih (by rw [← hlast]; rfl)]
          | _ => rfl

end Record

end ApiGloss
