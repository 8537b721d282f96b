import ApiGloss.OpenApi.Endpoint
import ApiGloss.Proofs.BareResolving

/-!
# Reading Endpoint Records That Look the Same

An endpoint record is read part by part. Texts for readers have to be texts, but which ones does
not decide whether a record can be read. Two endpoint records that look the same are therefore both
refused, or both read, and the endpoints differ in descriptions only.

## Main results

* `FieldDecl.ofJson?_agree`: declarations.
* `FieldSection.ofJson?_agree`: the groups of a section.
* `Endpoint.ofJson?_agree`: endpoint records.
-/

namespace ApiGloss

open Json

/-! ### Readings that agree -/

/-- One reading after the other. -/
theorem rel_bind {α β γ δ : Type} {R : α → β → Prop} {S : γ → δ → Prop} {x : Option α}
    {y : Option β} {f : α → Option γ} {g : β → Option δ} (h : Option.Rel R x y)
    (hfg : ∀ a b, R a b → Option.Rel S (f a) (g b)) : Option.Rel S (x >>= f) (y >>= g) := by
  cases h with
  | none => exact Option.Rel.none
  | some hab => exact hfg _ _ hab

/-- Reading the items of two lists. -/
theorem rel_mapM {α β γ δ : Type} {Q : α → β → Prop} {R : γ → δ → Prop} {f : α → Option γ}
    {g : β → Option δ} (hfg : ∀ a b, Q a b → Option.Rel R (f a) (g b)) {l : List α} {l' : List β}
    (h : List.Forall₂ Q l l') : Option.Rel (List.Forall₂ R) (l.mapM f) (l'.mapM g) := by
  induction h with
  | nil =>
      rw [List.mapM_nil, List.mapM_nil]
      exact Option.Rel.some List.Forall₂.nil
  | cons hab _ ih =>
      rw [List.mapM_cons, List.mapM_cons]
      refine rel_bind (hfg _ _ hab) fun c d hcd => rel_bind ih fun cs ds hrest => ?_
      exact Option.Rel.some (List.Forall₂.cons hcd hrest)

/-- Readings of the same value. -/
theorem rel_of_eq {α : Type} {x y : Option α} (h : x = y) : Option.Rel (· = ·) x y := by
  subst h
  cases x with
  | none => exact Option.Rel.none
  | some a => exact Option.Rel.some rfl

/-- Options that look the same are related. -/
theorem rel_of_map_eq {α β : Type} {f : α → β} {x y : Option α} (h : x.map f = y.map f) :
    Option.Rel (fun a b => f a = f b) x y := by
  cases x <;> cases y
  · exact Option.Rel.none
  · cases h
  · cases h
  · exact Option.Rel.some (Option.some.inj h)

/-- Lists that look the same are related item by item. -/
theorem forall₂_of_map_eq {α β : Type} {f : α → β} {l l' : List α} (h : l.map f = l'.map f) :
    List.Forall₂ (fun a b => f a = f b) l l' := by
  rw [← List.forall₂_eq_eq_eq, List.forall₂_map_left_iff, List.forall₂_map_right_iff] at h
  exact h

/-! ### Parts of a record -/

namespace Json

/-- Two values under a name look the same. -/
def PartsAlike (name : String) (a b : Option Json) : Prop :=
  a.map (bareAt name) = b.map (bareAt name)

/-- Two lists of parts of a record look the same. -/
inductive PartListsAlike : List PartName → List (Option Json) → List (Option Json) → Prop
  | nil : PartListsAlike [] [] []
  | cons {p : PartName} {ps : List PartName} {a b : Option Json} {as bs : List (Option Json)}
      (h : PartsAlike p.name a b) (hrest : PartListsAlike ps as bs) :
      PartListsAlike (p :: ps) (a :: as) (b :: bs)

/-- Parts that are given by name. -/
theorem partListsAlike_obj {names : List PartName} {t t' : Table Json}
    (h : ∀ p ∈ names, PartsAlike p.name (Table.get? p.name t) (Table.get? p.name t')) :
    PartListsAlike names (names.map fun p => Table.get? p.name t)
      (names.map fun p => Table.get? p.name t') := by
  induction names with
  | nil => exact .nil
  | cons p ps ih =>
      obtain ⟨hp, hps⟩ := List.forall_mem_cons.mp h
      exact .cons hp (ih hps)

/-- Parts that are given by position. -/
theorem rel_positionalParts? (names : List PartName) {items items' : List Json}
    (h : List.Forall₂ (fun j j' => bare j = bare j') items items') :
    Option.Rel (PartListsAlike names) (positionalParts? names items)
      (positionalParts? names items') := by
  have hmap : ∀ (p : PartName) (ps : List PartName) (a b : Option Json)
      (x y : Option (List (Option Json))), PartsAlike p.name a b →
      Option.Rel (PartListsAlike ps) x y →
      Option.Rel (PartListsAlike (p :: ps)) (x.map (a :: ·)) (y.map (b :: ·)) := by
    intro p ps a b x y hab hxy
    cases hxy with
    | none => exact Option.Rel.none
    | some hparts => exact Option.Rel.some (.cons hab hparts)
  induction names generalizing items items' with
  | nil =>
      cases h with
      | nil => exact Option.Rel.some .nil
      | cons _ _ => exact Option.Rel.none
  | cons p ps ih =>
      cases h with
      | nil =>
          rw [positionalParts?]
          split
          · exact hmap p ps none none _ _ rfl (ih .nil)
          · exact Option.Rel.none
      | @cons j j' rest rest' hj hrest =>
          rw [positionalParts?, positionalParts?]
          refine hmap p ps (some j) (some j') _ _ ?_ (ih hrest)
          rw [PartsAlike, Option.map_some, Option.map_some, bareAt, bareAt, hj]

/-- A record is given by name or by position. -/
theorem parts?_eq (names : List PartName) (j : Json) :
    j.parts? names =
      (j.obj?.map fun t => names.map fun p => Table.get? p.name t).or
        (j.arr?.bind (positionalParts? names)) := by
  cases j with
  | arr items =>
      show positionalParts? names items = Option.or none (positionalParts? names items)
      rw [Option.none_or]
  | _ => rfl

/-- **The parts of values that look the same** look the same. -/
theorem rel_parts? (names : List PartName) {j j' : Json}
    (h : blankItem (bare j) = blankItem (bare j')) :
    Option.Rel (PartListsAlike names) (j.parts? names) (j'.parts? names) := by
  have hobj : j.obj?.map bareFields = j'.obj?.map bareFields := by
    rw [← obj?_blankItem_bare, h, obj?_blankItem_bare]
  have harr : j.arr?.map (List.map bare) = j'.arr?.map (List.map bare) := by
    rw [← arr?_blankItem_bare, h, arr?_blankItem_bare]
  rw [parts?_eq, parts?_eq]
  rcases cases_of_map_eq hobj with ⟨hnone, hnone'⟩ | ⟨t, t', ht, ht', hbare⟩
  · rw [hnone, hnone', Option.map_none, Option.none_or, Option.none_or]
    exact rel_bind (rel_of_map_eq harr) fun items items' hitems =>
      rel_positionalParts? names (forall₂_of_map_eq hitems)
  · rw [ht, ht']
    exact Option.Rel.some (partListsAlike_obj fun p _ => map_bareAt_eq hbare p.name)

/-! ### Single parts -/

variable {name : String} {a b : Option Json}

/-- A text under a name, up to which text it is if the name is one for readers. -/
theorem rel_textPart? (h : PartsAlike name a b) (fallback : String) :
    Option.Rel (fun s s' => name ∉ proseNames → s = s') (textPart? fallback a)
      (textPart? fallback b) := by
  have htext : ∀ v, textPart? fallback (some v) = v.str? := fun v => by cases v <;> rfl
  rcases cases_of_map_eq h with ⟨rfl, rfl⟩ | ⟨v, v', rfl, rfl, hv⟩
  · exact Option.Rel.some fun _ => rfl
  · rw [htext, htext]
    have hstr : v.str?.map (fun s => if name ∈ proseNames then "" else s) =
        v'.str?.map (fun s => if name ∈ proseNames then "" else s) := by
      rw [← str?_bareAt, hv, str?_bareAt]
    have hrel := rel_of_map_eq hstr
    generalize v.str? = x at hrel
    generalize v'.str? = y at hrel
    cases hrel with
    | none => exact Option.Rel.none
    | some hs =>
        refine Option.Rel.some fun hname => ?_
        rw [if_neg hname, if_neg hname] at hs
        exact hs

/-- A truth value. -/
theorem boolPart?_eq (hname : name ∉ proseNames) (h : PartsAlike name a b) :
    boolPart? a = boolPart? b := by
  have hbare : ∀ a : Option Json, boolPart? (a.map (bareAt name)) = boolPart? a := by
    intro a
    cases a with
    | none => rfl
    | some v =>
        rw [Option.map_some, bareAt_of_not_mem hname]
        cases v with
        | arr items => rw [bare_arr]; rfl
        | obj t => rw [bare_obj]; rfl
        | _ => rfl
  rw [← hbare a, h, hbare b]

/-- A part that may be missing, if it is read alike. -/
theorem rel_optionalPart? {α : Type} {R : α → α → Prop} {read? : Json → Option α}
    (hread : ∀ v v', bare v = bare v' → Option.Rel R (read? v) (read? v'))
    (hname : name ∉ proseNames) (h : PartsAlike name a b) :
    Option.Rel (Option.Rel R) (optionalPart? read? a) (optionalPart? read? b) := by
  have hpresent : ∀ v, v ≠ .null → optionalPart? read? (some v) = (read? v).map some := by
    intro v hv
    cases v with
    | null => exact absurd rfl hv
    | _ => rfl
  rcases cases_of_map_eq h with ⟨rfl, rfl⟩ | ⟨v, v', rfl, rfl, hv⟩
  · exact Option.Rel.some Option.Rel.none
  · rw [bareAt_of_not_mem hname, bareAt_of_not_mem hname] at hv
    have hnull : v = .null ↔ v' = .null := by
      rw [← bare_eq_null_iff, hv, bare_eq_null_iff]
    by_cases hv' : v' = .null
    · rw [hnull.mpr hv', hv']
      exact Option.Rel.some Option.Rel.none
    · rw [hpresent v (mt hnull.mp hv'), hpresent v' hv']
      have hrel := hread v v' hv
      generalize read? v = x at hrel ⊢
      generalize read? v' = y at hrel ⊢
      cases hrel with
      | none => exact Option.Rel.none
      | some hab => exact Option.Rel.some (Option.Rel.some hab)

/-- A part that may be missing, if bare values are read as the values themselves. -/
theorem rel_optionalPart?_of_bare {α : Type} {read? : Json → Option α}
    (hread : ∀ v, read? (bare v) = read? v) (hname : name ∉ proseNames) (h : PartsAlike name a b) :
    Option.Rel (· = ·) (optionalPart? read? a) (optionalPart? read? b) := by
  have hrel : Option.Rel (Option.Rel (· = ·)) (optionalPart? read? a) (optionalPart? read? b) := by
    refine rel_optionalPart? (fun v v' hv => rel_of_eq ?_) hname h
    rw [← hread v, hv, hread v']
  generalize optionalPart? read? a = x at hrel ⊢
  generalize optionalPart? read? b = y at hrel ⊢
  rcases hrel with ⟨⟨rfl⟩ | _⟩ | _
  · exact Option.Rel.some rfl
  · exact Option.Rel.some rfl
  · exact Option.Rel.none

/-- Texts in an array are bare. -/
theorem texts?_bare (j : Json) : texts? (bare j) = texts? j := by
  unfold texts?
  rw [arr?_bare]
  cases j.arr? with
  | none => rfl
  | some items =>
      rw [Option.map_some, Option.bind_some, Option.bind_some, List.mapM_map]
      exact congrArg (fun f => items.mapM f) (funext str?_bare)

end Json

/-! ### Declarations -/

/-- Items that look the same under a name look the same. -/
theorem Json.blankItem_bare_of_bareItemAt (name : String) {j j' : Json}
    (h : bareItemAt name j = bareItemAt name j') : blankItem (bare j) = blankItem (bare j') := by
  unfold bareItemAt at h
  split at h
  · exact h
  · rw [h]

namespace FieldDecl

/-- A declaration **without prose**: its description is left out. -/
def withoutProse (d : FieldDecl) : FieldDecl :=
  { d with description := "" }

/-- Two declarations are the same **but for prose**. -/
def SameButProse (d d' : FieldDecl) : Prop :=
  d.withoutProse = d'.withoutProse

namespace SameButProse

variable {d d' : FieldDecl}

theorem field_eq (h : SameButProse d d') : d.field = d'.field := by
  have hfield : d.withoutProse.field = d'.withoutProse.field := congrArg FieldDecl.field h
  exact hfield

theorem type_eq (h : SameButProse d d') : d.type = d'.type := by
  have htype : d.withoutProse.type = d'.withoutProse.type := congrArg FieldDecl.type h
  exact htype

theorem isOptional_eq (h : SameButProse d d') : d.isOptional = d'.isOptional := by
  have hoptional : d.withoutProse.isOptional = d'.withoutProse.isOptional :=
    congrArg FieldDecl.isOptional h
  exact hoptional

end SameButProse

/-- Selecting declarations by their names. -/
theorem forall₂_filter_field (p : String → Bool) {l l' : List FieldDecl}
    (h : List.Forall₂ SameButProse l l') :
    List.Forall₂ SameButProse (l.filter fun d => p d.field) (l'.filter fun d => p d.field) :=
  List.rel_filter (fun d d' hd => by dsimp only; rw [hd.field_eq]) h

/-- **Declarations that look the same** are read alike. -/
theorem ofJson?_agree {j j' : Json} (h : blankItem (bare j) = blankItem (bare j')) :
    Option.Rel SameButProse (ofJson? j) (ofJson? j') := by
  unfold ofJson?
  refine rel_bind (rel_parts? partNames h) fun parts parts' hparts => ?_
  unfold partNames at hparts
  obtain _ | ⟨hgroup, _ | ⟨htype, _ | ⟨hsize, _ | ⟨hallowed, _ | ⟨hoptional, _ | ⟨hfield,
    _ | ⟨hdefault, _ | ⟨hdescription, _ | _⟩⟩⟩⟩⟩⟩⟩⟩ := hparts
  dsimp only
  refine rel_bind (rel_textPart? hgroup "") fun group group' hgroup => ?_
  refine rel_bind (rel_optionalPart?_of_bare str?_bare (by decide) htype) fun type type' htype => ?_
  refine rel_bind (rel_optionalPart?_of_bare str?_bare (by decide) hsize) fun size size' hsize => ?_
  refine rel_bind (rel_optionalPart?_of_bare texts?_bare (by decide) hallowed)
    fun allowed allowed' hallowed => ?_
  refine rel_bind (rel_of_eq (boolPart?_eq (by decide) hoptional))
    fun isOptional isOptional' hoptional => ?_
  refine rel_bind (rel_textPart? hfield "") fun field field' hfield => ?_
  refine rel_bind (rel_optionalPart?_of_bare str?_bare (by decide) hdefault)
    fun defaultValue defaultValue' hdefault => ?_
  refine rel_bind (rel_textPart? hdescription "") fun description description' _ => ?_
  refine Option.Rel.some ?_
  rw [SameButProse, withoutProse, withoutProse, mk.injEq]
  exact ⟨hgroup (by decide), htype, hsize, hallowed, hoptional, hfield (by decide), hdefault, rfl⟩

end FieldDecl

/-! ### Sections -/

namespace FieldSection

/-- Two sections have the same groups with the same declarations, up to prose. -/
def SameDeclarations : FieldSection → FieldSection → Prop :=
  List.Forall₂ fun group group' => group.1 = group'.1 ∧
    List.Forall₂ FieldDecl.SameButProse group.2 group'.2

/-- The declarations of a group. -/
theorem SameDeclarations.get? {s s' : FieldSection} (h : SameDeclarations s s') (group : String) :
    Option.Rel (List.Forall₂ FieldDecl.SameButProse) (Table.get? group s)
      (Table.get? group s') := by
  unfold SameDeclarations at h
  induction h with
  | nil => exact Option.Rel.none
  | @cons e e' rest rest' he _ ih =>
      obtain ⟨name, ds⟩ := e
      obtain ⟨name', ds'⟩ := e'
      obtain ⟨rfl, hds⟩ := he
      rw [Table.get?_cons, Table.get?_cons]
      split
      · exact Option.Rel.some hds
      · exact ih

/-- Groups that look the same are read alike. -/
theorem groups_agree {groups groups' : Table Json} (h : bareFields groups = bareFields groups') :
    Option.Rel SameDeclarations
      (groups.mapM fun (name, items) => do
        let items ← items.arr?
        return (name, ← items.mapM FieldDecl.ofJson?))
      (groups'.mapM fun (name, items) => do
        let items ← items.arr?
        return (name, ← items.mapM FieldDecl.ofJson?)) := by
  rw [bareFields_eq, bareFields_eq] at h
  refine rel_mapM (fun e e' he => ?_) (forall₂_of_map_eq h)
  obtain ⟨name, items⟩ := e
  obtain ⟨name', items'⟩ := e'
  obtain ⟨rfl, hitems⟩ := Prod.mk.inj he
  have harr : items.arr?.map (List.map (bareItemAt name)) =
      items'.arr?.map (List.map (bareItemAt name)) := by
    rw [← arr?_bareAt, hitems, arr?_bareAt]
  refine rel_bind (rel_of_map_eq harr) fun l l' hl => ?_
  have hdeclarations := rel_mapM (fun j j' hj =>
    FieldDecl.ofJson?_agree (blankItem_bare_of_bareItemAt name hj)) (forall₂_of_map_eq hl)
  exact rel_bind hdeclarations fun ds ds' hds => Option.Rel.some ⟨rfl, hds⟩

/-- **Sections that look the same** are read alike. -/
theorem ofJson?_agree {j j' : Json} (h : bare j = bare j') :
    Option.Rel SameDeclarations (ofJson? j) (ofJson? j') := by
  unfold ofJson?
  refine rel_bind (rel_parts? _ (congrArg blankItem h)) fun parts parts' hparts => ?_
  obtain _ | ⟨hfields, _ | _⟩ := hparts
  rcases cases_of_map_eq hfields with ⟨rfl, rfl⟩ | ⟨v, v', rfl, rfl, hv⟩
  · exact Option.Rel.some List.Forall₂.nil
  · have hobj : v.obj?.map bareFields = v'.obj?.map bareFields := by
      rw [← obj?_bareAt "fields", hv, obj?_bareAt]
    cases v <;> cases v' <;> first | exact Option.Rel.none | cases hobj | skip
    exact groups_agree (Option.some.inj hobj)

end FieldSection

/-! ### Endpoints -/

namespace Endpoint

/-- Two endpoints are the same **but for prose**: titles and descriptions. -/
structure SameButProse (e e' : Endpoint) : Prop where
  verb_eq : e.verb = e'.verb
  url_eq : e.url = e'.url
  name_eq : e.name = e'.name
  group_eq : e.group = e'.group
  isDeprecated_eq : e.isDeprecated = e'.isDeprecated
  fields : ∀ kind, List.Forall₂ FieldDecl.SameButProse (e.defaultFields kind)
    (e'.defaultFields kind)

/-- The declarations of a group of a section that may be missing. -/
theorem defaultFields_agree {s s' : Option FieldSection}
    (h : Option.Rel FieldSection.SameDeclarations s s') (group : String) :
    List.Forall₂ FieldDecl.SameButProse ((s.bind (Table.get? group)).getD [])
      ((s'.bind (Table.get? group)).getD []) := by
  have hget := rel_bind h fun s s' hs => hs.get? group
  change Option.Rel _ (s.bind (Table.get? group)) (s'.bind (Table.get? group)) at hget
  generalize s.bind (Table.get? group) = ds at hget ⊢
  generalize s'.bind (Table.get? group) = ds' at hget ⊢
  cases hget with
  | none => exact List.Forall₂.nil
  | some hds => exact hds

/-- **Endpoint records that look the same** are read alike. -/
theorem ofJson?_agree {t t' : Table Json}
    (h : ∀ key, key ≠ "groupDescription" → PartsAlike key (Table.get? key t) (Table.get? key t')) :
    Option.Rel SameButProse (ofJson? (.obj t)) (ofJson? (.obj t')) := by
  have hnames : ∀ p ∈ partNames, p.name ≠ "groupDescription" := by decide
  have hparts := partListsAlike_obj fun p hp => h p.name (hnames p hp)
  have hsection : ∀ {name a b}, name ∉ proseNames → PartsAlike name a b →
      Option.Rel (Option.Rel FieldSection.SameDeclarations)
        (optionalPart? FieldSection.ofJson? a) (optionalPart? FieldSection.ofJson? b) :=
    fun hname hab => rel_optionalPart? (fun v v' hv => FieldSection.ofJson?_agree hv) hname hab
  unfold ofJson?
  refine rel_bind (Option.Rel.some hparts) fun parts parts' hparts => ?_
  simp only [partNames, List.map_cons, List.map_nil] at hparts
  obtain _ | ⟨hverb, _ | ⟨hurl, _ | ⟨htitle, _ | ⟨hname, _ | ⟨hgroup, _ | ⟨hdescription,
    _ | ⟨hdeprecated, _ | ⟨hparameter, _ | ⟨hheader, _ | ⟨hsuccess, _ | ⟨herror,
    _ | _⟩⟩⟩⟩⟩⟩⟩⟩⟩⟩⟩ := hparts
  dsimp only
  refine rel_bind (rel_textPart? hverb "") fun verb verb' hverb => ?_
  refine rel_bind (rel_optionalPart?_of_bare str?_bare (by decide) hurl) fun url url' hurl => ?_
  refine rel_bind (rel_textPart? htitle "") fun title title' _ => ?_
  refine rel_bind (rel_textPart? hname "") fun name name' hname => ?_
  refine rel_bind (rel_textPart? hgroup "") fun group group' hgroup => ?_
  refine rel_bind (rel_textPart? hdescription "") fun description description' _ => ?_
  refine rel_bind (rel_optionalPart? (R := fun _ _ => True) (fun _ _ _ => Option.Rel.some trivial)
    (by decide) hdeprecated) fun deprecated deprecated' hdeprecated => ?_
  refine rel_bind (hsection (by decide) hparameter) fun parameter parameter' hparameter => ?_
  refine rel_bind (hsection (by decide) hheader) fun header header' hheader => ?_
  refine rel_bind (hsection (by decide) hsuccess) fun success success' hsuccess => ?_
  refine rel_bind (hsection (by decide) herror) fun error error' herror => ?_
  refine Option.Rel.some ⟨hverb (by decide), hurl, hname (by decide), hgroup (by decide), ?_, ?_⟩
  · cases hdeprecated <;> rfl
  · intro kind
    cases kind with
    | parameter => exact defaultFields_agree hparameter _
    | header => exact defaultFields_agree hheader _
    | success => exact defaultFields_agree hsuccess _
    | error => exact defaultFields_agree herror _

end Endpoint

end ApiGloss
