import ApiGloss.OpenApi.Endpoint
import ApiGloss.Proofs.Places
import ApiGloss.Proofs.Paths

/-!
# Shapes of Records

Endpoint records are untyped: any value may stand under any name. What the tags write there and
what the document is made of are tied together by the shape of a record, which says of every name
whether a text, an array or an object stands under it. A shape is kept by merging, since merging
never puts a value of one kind in the place of another one; it makes room for every item that is
attached at a place of an array; and a record of the right shape can be read.

## Main results

* `Shape.Fits.mergeValue`: merging two values of a shape gives a value of the shape.
* `Shape.EntriesFit.exists_attach`: an item can be attached wherever the shape has an array, and
  the shape is kept.
* `Endpoint.exists_ofJson?`: a record of the shape of endpoint records can be read.
-/

namespace ApiGloss

open Json Record

/-- A **shape** of values. In a table, the shape of an entry depends on its name. -/
inductive Shape where
  | any
  | text
  | truth
  | list (item : Shape)
  | table (entry : String → Shape)

namespace Shape

/-- A value **fits** a shape. -/
def Fits : Shape → Json → Prop
  | any, _ => True
  | text, j => ∃ s, j = .str s
  | truth, j => ∃ b, j = .bool b
  | list item, j => ∃ items, j = .arr items ∧ ∀ i ∈ items, item.Fits i
  | table entry, j => ∃ t, j = .obj t ∧ ∀ e ∈ t, (entry e.1).Fits e.2

/-- The entries of a table fit the shapes for their names. -/
def EntriesFit (entry : String → Shape) (t : Table Json) : Prop :=
  ∀ e ∈ t, (entry e.1).Fits e.2

/-- An array fits the shape of an array if its items do. -/
theorem fits_arr {item : Shape} {items : List Json} :
    (list item).Fits (.arr items) ↔ ∀ i ∈ items, item.Fits i := by
  constructor
  · rintro ⟨_, ⟨⟩, h⟩
    exact h
  · intro h
    exact ⟨items, rfl, h⟩

/-- An object fits the shape of a table if its entries do. -/
theorem fits_obj {entry : String → Shape} {t : Table Json} :
    (table entry).Fits (.obj t) ↔ EntriesFit entry t := by
  constructor
  · rintro ⟨_, ⟨⟩, h⟩
    exact h
  · intro h
    exact ⟨t, rfl, h⟩

/-! ### Merging -/

/-- **Merging keeps shapes.** -/
theorem Fits.mergeValue {s : Shape} {existing incoming : Json} (he : s.Fits existing)
    (hi : s.Fits incoming) : s.Fits (mergeValue existing incoming) := by
  induction s generalizing existing incoming with
  | any => trivial
  | text =>
      obtain ⟨a, rfl⟩ := he
      obtain ⟨b, rfl⟩ := hi
      exact ⟨a, rfl⟩
  | truth =>
      obtain ⟨a, rfl⟩ := he
      obtain ⟨b, rfl⟩ := hi
      exact ⟨a, rfl⟩
  | list item _ =>
      obtain ⟨left, rfl, hleft⟩ := he
      obtain ⟨right, rfl, hright⟩ := hi
      exact fits_arr.mpr (List.forall_mem_append.mpr ⟨hleft, hright⟩)
  | table entry ih =>
      obtain ⟨left, rfl, hleft⟩ := he
      obtain ⟨right, rfl, hright⟩ := hi
      have hmerge : MergeKeeps fun key v => (entry key).Fits v :=
        fun key _ _ he hi => ih key he hi
      exact fits_obj.mpr (entries_mergeInto hmerge hleft hright)

namespace EntriesFit

variable {entry : String → Shape} {t : Table Json}

/-- An empty table fits. -/
theorem nil : EntriesFit entry [] :=
  nofun

/-- What is found under a name fits the shape for the name. -/
theorem get? (h : EntriesFit entry t) {key : String} {v : Json} (hv : Table.get? key t = some v) :
    (entry key).Fits v :=
  h _ (Table.mem_of_get? hv)

/-- Storing a value that fits. -/
theorem insert (h : EntriesFit entry t) {key : String} {value : Json}
    (hvalue : (entry key).Fits value) : EntriesFit entry (Table.insert key value t) :=
  entries_insert (R := fun key v => (entry key).Fits v) h hvalue

/-- Storing values that fit. -/
theorem extend (h : EntriesFit entry t) {more : Table Json} (hmore : EntriesFit entry more) :
    EntriesFit entry (Table.extend t more) := by
  intro e he
  exact (Table.mem_extend he).elim (h e) (hmore e)

/-- Changing a value by what keeps its shape. -/
theorem modify (h : EntriesFit entry t) {key : String} {f : Json → Json}
    (hf : ∀ v, (entry key).Fits v → (entry key).Fits (f v)) :
    EntriesFit entry (Table.modify key f t) :=
  entries_modify (R := fun key v => (entry key).Fits v) hf h

/-- Removing an entry. -/
theorem swapErase (h : EntriesFit entry t) (key : String) :
    EntriesFit entry (Table.swapErase key t) := by
  intro e he
  exact h e ((Table.erase_sublist key t).subset
    ((Table.swapErase_perm_erase key t).mem_iff.mp he))

/-- Merging tables that fit. -/
theorem mergeInto (h : EntriesFit entry t) {source : Table Json} (hs : EntriesFit entry source) :
    EntriesFit entry (mergeInto t source) :=
  fits_obj.mp (Fits.mergeValue (fits_obj.mpr h) (fits_obj.mpr hs))

/-- A change that keeps all shapes keeps them below a path. -/
theorem modifyAt {f : Json → Json} (hf : ∀ (s : Shape) v, s.Fits v → s.Fits (f v))
    (path : List String) (h : EntriesFit entry t) : EntriesFit entry (modifyAt f path t) := by
  induction path generalizing entry t with
  | nil => exact h
  | cons head rest ih =>
      cases rest with
      | nil => exact h.modify fun v hv => hf _ v hv
      | cons next more =>
          refine h.modify fun v hv => ?_
          cases v with
          | obj child =>
              cases hs : entry head with
              | any => trivial
              | table entry' =>
                  rw [hs] at hv
                  exact fits_obj.mpr (ih (fits_obj.mp hv))
              | text =>
                  rw [hs] at hv
                  obtain ⟨_, hv⟩ := hv
                  cases hv
              | truth =>
                  rw [hs] at hv
                  obtain ⟨_, hv⟩ := hv
                  cases hv
              | list item =>
                  rw [hs] at hv
                  obtain ⟨_, hv, -⟩ := hv
                  cases hv
          | _ => exact hv

end EntriesFit

/-! ### Attaching -/

/-- The shape at a path of names through tables. -/
def at? : List String → Shape → Option Shape
  | [], s => some s
  | key :: path, table entry => (entry key).at? path
  | _ :: _, _ => none

/-- **An item can be attached** where the shape has an array, and the shape is kept. -/
theorem EntriesFit.exists_attach {entry : String → Shape} {item : Shape} {place : List String}
    (hplace : (table entry).at? place = some (list item)) {t values : Table Json}
    (ht : EntriesFit entry t) (hvalues : item.Fits (.obj values)) :
    ∃ t', attach .push values place t = some t' ∧ EntriesFit entry t' := by
  induction place generalizing entry t with
  | nil => cases hplace
  | cons head rest ih =>
      cases rest with
      | nil =>
          obtain ⟨items, hget, hitems⟩ : ∃ items,
              (Table.get? head t).getD (.arr []) = .arr items ∧ ∀ i ∈ items, item.Fits i := by
            have hshape : entry head = list item := Option.some.inj hplace
            cases hv : Table.get? head t with
            | none => exact ⟨[], rfl, nofun⟩
            | some v =>
                have hfits := ht.get? hv
                rw [hshape] at hfits
                exact hfits
          refine ⟨Table.insert head (.arr (items ++ [.obj values])) t, ?_, ht.insert ?_⟩
          · rw [attach, emptySlot, hget]
            rfl
          · rw [show entry head = list item from Option.some.inj hplace, fits_arr]
            exact List.forall_mem_append.mpr ⟨hitems, List.forall_mem_singleton.mpr hvalues⟩
      | cons next more =>
          cases hs : entry head with
          | table entry' =>
              have hrest : (table entry').at? (next :: more) = some (list item) := by
                rw [← hplace, ← hs]
                rfl
              obtain ⟨child, hget, hchild⟩ : ∃ child,
                  (Table.get? head t).getD (.obj []) = .obj child ∧ EntriesFit entry' child := by
                cases hv : Table.get? head t with
                | none => exact ⟨[], rfl, EntriesFit.nil⟩
                | some v =>
                    have hfits := ht.get? hv
                    rw [hs] at hfits
                    exact hfits
              obtain ⟨child', hattach, hfits⟩ := ih hrest hchild
              refine ⟨Table.insert head (.obj child') t, ?_, ht.insert ?_⟩
              · rw [attach]
                · rw [hget]
                  dsimp only
                  rw [hattach]
                  rfl
                · exact List.cons_ne_nil _ _
              · rw [hs]
                exact fits_obj.mpr hfits
          | _ =>
              rw [at?, hs] at hplace
              cases hplace

end Shape

/-! ### Reading values of a shape -/

namespace Shape

variable {entry : String → Shape} {t : Table Json}

/-- A text can be read, and a missing one has a default. -/
theorem EntriesFit.exists_textPart? (h : EntriesFit entry t) (name : String)
    (hname : entry name = text) (fallback : String) :
    ∃ s, textPart? fallback (Table.get? name t) = some s := by
  cases hv : Table.get? name t with
  | none => exact ⟨fallback, rfl⟩
  | some v =>
      have hfits := h.get? hv
      rw [hname] at hfits
      obtain ⟨s, rfl⟩ := hfits
      exact ⟨s, rfl⟩

/-- A truth value can be read. -/
theorem EntriesFit.exists_boolPart? (h : EntriesFit entry t) (name : String)
    (hname : entry name = truth) : ∃ b, boolPart? (Table.get? name t) = some b := by
  cases hv : Table.get? name t with
  | none => exact ⟨false, rfl⟩
  | some v =>
      have hfits := h.get? hv
      rw [hname] at hfits
      obtain ⟨b, rfl⟩ := hfits
      exact ⟨b, rfl⟩

/-- An optional part can be read if all values of its shape can. -/
theorem EntriesFit.exists_optionalPart? {α : Type} {read? : Json → Option α}
    (h : EntriesFit entry t) (name : String)
    (hread : ∀ v, (entry name).Fits v → ∃ a, read? v = some a) :
    ∃ a?, optionalPart? read? (Table.get? name t) = some a? := by
  cases hv : Table.get? name t with
  | none => exact ⟨none, rfl⟩
  | some v =>
      obtain ⟨a, ha⟩ := hread v (h.get? hv)
      cases v with
      | null => exact ⟨none, rfl⟩
      | _ => exact ⟨some a, Option.map_eq_some_iff.mpr ⟨a, ha, rfl⟩⟩

/-- A text is read as a text. -/
theorem Fits.exists_str? {v : Json} (h : text.Fits v) : ∃ s, v.str? = some s := by
  obtain ⟨s, rfl⟩ := h
  exact ⟨s, rfl⟩

/-- All values of a list can be read if each of them can. -/
theorem exists_mapM {α β : Type} {f : α → Option β} {l : List α}
    (h : ∀ a ∈ l, ∃ b, f a = some b) : ∃ bs, l.mapM f = some bs := by
  induction l with
  | nil => exact ⟨[], rfl⟩
  | cons a rest ih =>
      obtain ⟨⟨b, hb⟩, hrest⟩ := List.forall_mem_cons.mp h
      obtain ⟨bs, hbs⟩ := ih hrest
      exact ⟨b :: bs, by rw [List.mapM_cons, hb, hbs]; rfl⟩

/-- An array of texts can be read. -/
theorem Fits.exists_texts? {v : Json} (h : (list text).Fits v) : ∃ l, texts? v = some l := by
  obtain ⟨items, rfl, hitems⟩ := h
  exact exists_mapM fun i hi => (hitems i hi).exists_str?

end Shape

/-! ### The shape of endpoint records -/

namespace FieldDecl

open Shape

/-- The shapes of the parts of a declaration. -/
def partShape (name : String) : Shape :=
  if name ∈ ["group", "type", "size", "field", "defaultValue", "description"] then .text
  else if name = "optional" then .truth
  else if name = "allowedValues" then .list .text
  else .any

/-- A declaration has the shape of declarations. -/
theorem entriesFit_toFields (d : FieldDecl) : EntriesFit partShape d.toFields := by
  have hentry : ∀ name (j? : Option Json), (∀ j, j? = some j → (partShape name).Fits j) →
      EntriesFit partShape ( entry? name j?) := by
    intro name j? h
    cases j? with
    | none => exact EntriesFit.nil
    | some j => exact List.forall_mem_singleton.mpr (h j rfl)
  have htext : ∀ name (s? : Option String), partShape name = .text →
      EntriesFit partShape ( entry? name (s?.map .str)) := by
    intro name s? hname
    refine hentry name _ fun j hj => ?_
    obtain ⟨s, -, rfl⟩ := Option.map_eq_some_iff.mp hj
    rw [hname]
    exact ⟨s, rfl⟩
  have hallowed : EntriesFit partShape ( entry? "allowedValues" (d.allowedValues.map ofStrs)) := by
    refine hentry _ _ fun j hj => ?_
    obtain ⟨values, -, rfl⟩ := Option.map_eq_some_iff.mp hj
    refine fits_arr.mpr fun i hi => ?_
    obtain ⟨s, -, rfl⟩ := List.mem_map.mp hi
    exact ⟨s, rfl⟩
  unfold toFields EntriesFit
  simp only [List.forall_mem_append, List.forall_mem_cons]
  exact ⟨⟨⟨⟨⟨⟨⟨⟨_, rfl⟩, nofun⟩, htext "type" _ rfl⟩, htext "size" _ rfl⟩, hallowed⟩,
    ⟨⟨_, rfl⟩, ⟨_, rfl⟩, nofun⟩⟩, htext "defaultValue" _ rfl⟩, ⟨_, rfl⟩, nofun⟩

/-- **A declaration can be read** if it has the shape of declarations. -/
theorem exists_ofJson? {j : Json} (h : (Shape.table partShape).Fits j) :
    ∃ d, ofJson? j = some d := by
  obtain ⟨t, rfl, h⟩ := h
  replace h : EntriesFit partShape t := h
  obtain ⟨group, hgroup⟩ := h.exists_textPart? "group" rfl ""
  obtain ⟨type, htype⟩ := h.exists_optionalPart? "type" fun _ => Fits.exists_str?
  obtain ⟨size, hsize⟩ := h.exists_optionalPart? "size" fun _ => Fits.exists_str?
  obtain ⟨allowed, hallowed⟩ :=
    h.exists_optionalPart? "allowedValues" fun _ => Fits.exists_texts?
  obtain ⟨isOptional, hoptional⟩ := h.exists_boolPart? "optional" rfl
  obtain ⟨field, hfield⟩ := h.exists_textPart? "field" rfl ""
  obtain ⟨defaultValue, hdefault⟩ :=
    h.exists_optionalPart? "defaultValue" fun _ => Fits.exists_str?
  obtain ⟨description, hdescription⟩ := h.exists_textPart? "description" rfl ""
  refine ⟨⟨group, type, size, allowed, isOptional, field, defaultValue, description⟩, ?_⟩
  simp only [ofJson?, partNames, parts?, List.map_cons, List.map_nil, Option.bind_eq_bind,
    Option.bind_some, hgroup, htype, hsize, hallowed, hoptional, hfield, hdefault, hdescription]
  rfl

end FieldDecl

namespace FieldSection

open Shape

/-- The shapes of the parts of a section. -/
def partShape (name : String) : Shape :=
  if name = "fields" then .table fun _ => .list (.table FieldDecl.partShape)
  else if name = "examples" then .list .any
  else .any

/-- **A section can be read** if it has the shape of sections. -/
theorem exists_ofJson? {j : Json} (h : (Shape.table partShape).Fits j) :
    ∃ s, ofJson? j = some s := by
  obtain ⟨t, rfl, h⟩ := h
  replace h : EntriesFit partShape t := h
  simp only [ofJson?, parts?, List.map_cons, List.map_nil, Option.bind_eq_bind, Option.bind_some]
  cases hv : Table.get? "fields" t with
  | none => exact ⟨[], rfl⟩
  | some v =>
      obtain ⟨groups, rfl, hgroups⟩ := h.get? hv
      refine exists_mapM fun e he => ?_
      obtain ⟨items, hitems, hdecls⟩ := hgroups e he
      obtain ⟨decls, hread⟩ := exists_mapM fun i hi => FieldDecl.exists_ofJson? (hdecls i hi)
      rw [hitems]
      refine ⟨(e.1, decls), ?_⟩
      simp only [arr?, Option.bind_some, hread]
      rfl

end FieldSection

namespace Endpoint

open Shape

/-- The shapes of the parts of an endpoint record. -/
def partShape (name : String) : Shape :=
  if name ∈ Tag.endpointTexts then .text
  else if name ∈ FieldKind.all.map FieldKind.sectionName then .table FieldSection.partShape
  else if [name] ∈ Tag.itemPlaces then .list .any
  else .any

/-- **An endpoint record can be read** if it has the shape of endpoint records. -/
theorem exists_ofJson? {t : Table Json} (h : EntriesFit partShape t) :
    ∃ e, ofJson? (.obj t) = some e := by
  obtain ⟨verb, hverb⟩ := h.exists_textPart? "type" rfl ""
  obtain ⟨url, hurl⟩ := h.exists_optionalPart? "url" fun _ => Fits.exists_str?
  obtain ⟨title, htitle⟩ := h.exists_textPart? "title" rfl ""
  obtain ⟨name, hname⟩ := h.exists_textPart? "name" rfl ""
  obtain ⟨group, hgroup⟩ := h.exists_textPart? "group" rfl ""
  obtain ⟨description, hdescription⟩ := h.exists_textPart? "description" rfl ""
  obtain ⟨deprecated, hdeprecated⟩ :=
    h.exists_optionalPart? "deprecated" fun v _ => (⟨v, rfl⟩ : ∃ a, some v = some a)
  obtain ⟨parameter, hparameter⟩ :=
    h.exists_optionalPart? "parameter" fun _ => FieldSection.exists_ofJson?
  obtain ⟨header, hheader⟩ :=
    h.exists_optionalPart? "header" fun _ => FieldSection.exists_ofJson?
  obtain ⟨success, hsuccess⟩ :=
    h.exists_optionalPart? "success" fun _ => FieldSection.exists_ofJson?
  obtain ⟨error, herror⟩ :=
    h.exists_optionalPart? "error" fun _ => FieldSection.exists_ofJson?
  refine ⟨⟨verb, url, title, name, group, description, deprecated.isSome, parameter, header,
    success, error⟩, ?_⟩
  simp only [ofJson?, partNames, parts?, List.map_cons, List.map_nil, Option.bind_eq_bind,
    Option.bind_some, hverb, hurl, htitle, hname, hgroup, hdescription, hdeprecated, hparameter,
    hheader, hsuccess, herror]
  rfl

end Endpoint

end ApiGloss
