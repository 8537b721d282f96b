import ApiGloss.Proofs.Cleaning
import ApiGloss.Proofs.GroupPartition

/-!
# The First Declaration of a Name Stays

A clean-up goes through the array of a group once and remembers the names it has seen. What it keeps
can be said without that memory: an item stays exactly if no item of the same name stands before it
(`Filter.firstOfEach_eq`, by induction on the items, for all names that may have been seen). The
memory starts empty in every group, so that groups do not affect each other.

There are four clean-ups, one for each section, and they run one after the other. Their sections are
different, so that every one of them finds its section as it was read (`Filter.get?_cleanAll`).
A list without repeated names stays as it is, and therefore a second run changes nothing.

## Main results

* `Filter.firstOfEach_eq`, `Filter.keepsFirsts`: what stays of an array.
* `Filter.cleaned_cleanAll`: what all clean-ups do to a block.
* `Filter.first_declarations_stay`: what they do to all files, once and again.
-/

namespace ApiGloss

/-- Different sections have different names. -/
theorem FieldKind.sectionName_injective : Function.Injective FieldKind.sectionName := by
  intro kind kind' h
  revert h
  cases kind <;> cases kind' <;> decide

/-- Every section is listed. -/
theorem FieldKind.mem_all (kind : FieldKind) : kind ∈ FieldKind.all := by
  cases kind <;> decide

namespace Filter

open Resolve

/-! ### Arrays -/

/-- The **first declarations** of an array: the items that no item of the same name stands before,
in order. -/
def firstDeclarations (items : List Json) : List Json :=
  (items.zipIdx.filter fun e => fieldKey e.1 ∉ (items.take e.2).map fieldKey).map Prod.fst

/-- **What stays** when some names have been seen: the items that no item of the same name stands
before, apart from those with a name that was seen. -/
theorem firstOfEach_eq (seen : List String) (items : List Json) :
    firstOfEach seen items = (items.zipIdx.filter fun e =>
      fieldKey e.1 ∉ seen ∧ fieldKey e.1 ∉ (items.take e.2).map fieldKey).map Prod.fst := by
  induction items generalizing seen with
  | nil => rfl
  | cons item rest ih =>
      -- behind the item, its name counts as seen
      have hrest : ∀ seen', (∀ name, name ∈ seen' ↔ name = fieldKey item ∨ name ∈ seen) →
          ((rest.zipIdx 1).filter fun e => fieldKey e.1 ∉ seen ∧
              fieldKey e.1 ∉ ((item :: rest).take e.2).map fieldKey).map Prod.fst =
            firstOfEach seen' rest := by
        intro seen' hseen'
        rw [ih, List.zipIdx_succ, List.filter_map, List.map_map]
        refine congrArg (List.map Prod.fst) (List.filter_congr fun e _ => ?_)
        simp only [Function.comp_apply, List.take_succ_cons, List.map_cons, List.mem_cons, hseen']
        exact decide_eq_decide.mpr (by tauto)
      rw [List.zipIdx_cons, List.filter_cons, firstOfEach]
      simp only [List.take_zero, List.map_nil, List.not_mem_nil, not_false_eq_true, and_true,
        decide_eq_true_eq, List.contains_iff_mem]
      by_cases hseen : fieldKey item ∈ seen
      · rw [if_pos hseen, if_neg (not_not.mpr hseen), hrest seen]
        exact fun name => ⟨Or.inr, fun h => h.elim (fun h => h ▸ hseen) id⟩
      · rw [if_neg hseen, if_pos hseen, List.map_cons, hrest (fieldKey item :: seen)]
        exact fun name => List.mem_cons

/-- The names of what stays are the first mentions of names that were not seen. -/
theorem map_fieldKey_firstOfEach (seen : List String) (items : List Json) :
    (firstOfEach seen items).map fieldKey = Search.firsts seen (items.map fieldKey) := by
  induction items generalizing seen with
  | nil => rfl
  | cons item rest ih =>
      rw [firstOfEach, List.map_cons, Search.firsts]
      simp only [List.contains_iff_mem]
      split
      · exact ih seen
      · rw [List.map_cons, ih]

/-- Items of different names that were not seen stay all. -/
theorem firstOfEach_eq_self {seen : List String} {items : List Json}
    (hnodup : (items.map fieldKey).Nodup) (hseen : ∀ item ∈ items, fieldKey item ∉ seen) :
    firstOfEach seen items = items := by
  induction items generalizing seen with
  | nil => rfl
  | cons item rest ih =>
      obtain ⟨hitem, hrest⟩ := List.nodup_cons.mp hnodup
      obtain ⟨hnew, hothers⟩ := List.forall_mem_cons.mp hseen
      rw [firstOfEach, if_neg fun h => hnew (List.contains_iff_mem.mp h), ih hrest]
      intro other hother
      refine List.not_mem_cons_of_ne_of_not_mem (fun heq => hitem ?_) (hothers other hother)
      exact heq ▸ List.mem_map_of_mem hother

/-- Of an array **the first declarations are kept**: they are a part of it in order, their names are
different, and no name is missing. -/
structure KeepsFirsts (items kept : List Json) : Prop where
  firsts : kept = firstDeclarations items
  in_order : kept.Sublist items
  distinct : (kept.map fieldKey).Nodup
  names : ∀ name, name ∈ kept.map fieldKey ↔ name ∈ items.map fieldKey

/-- **What stays of an array** are its first declarations. -/
theorem keepsFirsts (items : List Json) : KeepsFirsts items (firstOfEach [] items) := by
  have hfirsts : firstOfEach [] items = firstDeclarations items := by
    rw [firstOfEach_eq, firstDeclarations]
    simp only [List.not_mem_nil, not_false_eq_true, true_and]
  refine ⟨hfirsts, ?_, ?_, fun name => ?_⟩
  · have hsublist := (List.filter_sublist (p := fun e : Json × Nat =>
      fieldKey e.1 ∉ (items.take e.2).map fieldKey) (l := items.zipIdx)).map Prod.fst
    rw [List.zipIdx_map_fst] at hsublist
    rw [hfirsts]
    exact hsublist
  · rw [map_fieldKey_firstOfEach]
    exact Search.nodup_firsts _ _
  · rw [map_fieldKey_firstOfEach, Search.mem_firsts]
    exact and_iff_left List.not_mem_nil

/-- An item without a name counts as one with the empty name. -/
example : firstOfEach []
    [.obj [("field", .str "id"), ("type", .str "Number")], .null, .obj [("field", .str "")],
      .obj [("field", .str "id")]] =
    [.obj [("field", .str "id"), ("type", .str "Number")], .null] := rfl

/-! ### Sections -/

/-- A value of a group is **cleaned**: of an array the first declarations stay, and anything else
stays as it is. -/
inductive CleanedGroup : Json → Json → Prop where
  | array {items kept : List Json} (h : KeepsFirsts items kept) :
    CleanedGroup (.arr items) (.arr kept)
  | other {j : Json} (h : j.arr? = none) : CleanedGroup j j

/-- Dropping repeated declarations cleans a group. -/
theorem cleanedGroup_dropRepeated (j : Json) : CleanedGroup j (dropRepeated j) := by
  cases j with
  | arr items => exact .array (keepsFirsts items)
  | _ => exact .other rfl

/-- Where no declaration is repeated, none is dropped. -/
theorem dropRepeated_dropRepeated (j : Json) : dropRepeated (dropRepeated j) = dropRepeated j := by
  cases j with
  | arr items =>
      have hself := firstOfEach_eq_self (keepsFirsts items).distinct
        fun _ _ => List.not_mem_nil (a := _)
      exact congrArg Json.arr hself
  | _ => rfl

/-- Drops repeated declarations from all groups. -/
def cleanGroups : Json → Json
  | .obj groups => .obj (groups.map fun e => (e.1, dropRepeated e.2))
  | j => j

/-- A section is cleaned at its fields. -/
theorem cleanSection_obj (part : Table Json) :
    cleanSection (.obj part) = .obj (Table.modify "fields" cleanGroups part) := rfl

/-- Cleaned groups stay as they are. -/
theorem cleanGroups_cleanGroups (j : Json) : cleanGroups (cleanGroups j) = cleanGroups j := by
  cases j with
  | obj groups =>
      simp only [cleanGroups, List.map_map, Function.comp_def, dropRepeated_dropRepeated]
  | _ => rfl

/-- A cleaned section stays as it is. -/
theorem cleanSection_cleanSection (j : Json) :
    cleanSection (cleanSection j) = cleanSection j := by
  cases j with
  | obj part =>
      rw [cleanSection_obj, cleanSection_obj, Table.modify_eq_self]
      intro groups hgroups
      rw [Table.get?_modify, if_pos rfl] at hgroups
      obtain ⟨before, -, rfl⟩ := Option.map_eq_some_iff.mp hgroups
      exact cleanGroups_cleanGroups before
  | _ => rfl

/-! ### Blocks -/

/-- The names of an endpoint record stay in their places. -/
theorem keys_cleanAll (b : BlockRecord) :
    Table.keys (cleanAll b).locals = Table.keys b.locals := by
  unfold cleanAll
  induction FieldKind.all generalizing b with
  | nil => rfl
  | cons kind rest ih =>
      rw [List.foldl_cons, ih]
      exact Table.keys_modify _ _ _

/-- Clean-ups of different sections clean each of them once, and nothing else. -/
theorem get?_foldl_cleanBlock {kinds : List FieldKind} (hkinds : kinds.Nodup) (b : BlockRecord)
    (key : String) :
    Table.get? key (kinds.foldl (fun b kind => cleanBlock kind b) b).locals =
      if key ∈ kinds.map FieldKind.sectionName then (Table.get? key b.locals).map cleanSection
      else Table.get? key b.locals := by
  induction kinds generalizing b with
  | nil => rfl
  | cons kind rest ih =>
      obtain ⟨hkind, hrest⟩ := List.nodup_cons.mp hkinds
      rw [List.foldl_cons, ih hrest, List.map_cons]
      show (if key ∈ rest.map FieldKind.sectionName then
          (Table.get? key (Table.modify kind.sectionName cleanSection b.locals)).map cleanSection
        else Table.get? key (Table.modify kind.sectionName cleanSection b.locals)) = _
      rw [Table.get?_modify]
      by_cases hkey : kind.sectionName = key
      · subst hkey
        have hnot : kind.sectionName ∉ rest.map FieldKind.sectionName :=
          fun h => hkind ((List.mem_map_of_injective FieldKind.sectionName_injective).mp h)
        rw [if_neg hnot, if_pos rfl, if_pos List.mem_cons_self]
      · have hiff : key ∈ kind.sectionName :: rest.map FieldKind.sectionName ↔
            key ∈ rest.map FieldKind.sectionName := by
          rw [List.mem_cons, or_iff_right (Ne.symm hkey)]
        simp only [if_neg hkey, hiff]

/-- **All clean-ups together** clean every section once. -/
theorem get?_cleanAll (b : BlockRecord) (kind : FieldKind) :
    Table.get? kind.sectionName (cleanAll b).locals =
      (Table.get? kind.sectionName b.locals).map cleanSection := by
  unfold cleanAll
  rw [get?_foldl_cleanBlock (by decide), if_pos (List.mem_map_of_mem kind.mem_all)]

/-- All clean-ups together leave everything but the sections alone. -/
theorem get?_cleanAll_of_ne (b : BlockRecord) {key : String}
    (h : ∀ kind : FieldKind, key ≠ kind.sectionName) :
    Table.get? key (cleanAll b).locals = Table.get? key b.locals := by
  have hnot : key ∉ FieldKind.all.map FieldKind.sectionName := by
    rintro hmem
    obtain ⟨kind, -, rfl⟩ := List.mem_map.mp hmem
    exact h kind rfl
  unfold cleanAll
  rw [get?_foldl_cleanBlock (by decide), if_neg hnot]

/-- The fields of a section are **cleaned**. The section keeps everything but the fields, the groups
keep their places, and every group is cleaned by itself. -/
structure CleanedSection (kind : FieldKind) (b b' : BlockRecord) : Prop where
  fields : ∀ part fields, DeclaresFields kind b part fields →
    ∃ part' fields', DeclaresFields kind b' part' fields' ∧ Table.keys part' = Table.keys part ∧
      (∀ key, key ≠ "fields" → Table.get? key part' = Table.get? key part) ∧
      List.Forall₂ (fun e e' => e'.1 = e.1 ∧ CleanedGroup e.2 e'.2) fields fields'
  otherwise : (∀ part fields, ¬ DeclaresFields kind b part fields) →
    Table.get? kind.sectionName b'.locals = Table.get? kind.sectionName b.locals

/-- A block is **cleaned**: its sections are, and it keeps everything else. -/
structure Cleaned (b b' : BlockRecord) : Prop where
  frame : SameFrame b b'
  keys : Table.keys b'.locals = Table.keys b.locals
  sections : ∀ kind, CleanedSection kind b b'
  others : ∀ key, (∀ kind : FieldKind, key ≠ kind.sectionName) →
    Table.get? key b'.locals = Table.get? key b.locals

/-- A section without an object of fields stays as it is. -/
theorem cleanSection_eq_self {j : Json}
    (h : ∀ part fields, j = .obj part → Table.get? "fields" part ≠ some (.obj fields)) :
    cleanSection j = j := by
  cases j with
  | obj part =>
      rw [cleanSection_obj, Table.modify_eq_self]
      intro groups hgroups
      cases groups with
      | obj fields => exact absurd hgroups (h part fields rfl)
      | _ => rfl
  | _ => rfl

/-- **All clean-ups together** clean a block. -/
theorem cleaned_cleanAll (b : BlockRecord) : Cleaned b (cleanAll b) where
  frame := sameFrame_cleanAll b
  keys := keys_cleanAll b
  others _ h := get?_cleanAll_of_ne b h
  sections kind := by
    constructor
    · rintro part fields ⟨hpart, hfields⟩
      refine ⟨Table.modify "fields" cleanGroups part,
        fields.map fun e => (e.1, dropRepeated e.2), ⟨?_, ?_⟩, Table.keys_modify _ _ _, ?_, ?_⟩
      · rw [get?_cleanAll, hpart, Option.map_some, cleanSection_obj]
      · rw [Table.get?_modify, if_pos rfl, hfields, Option.map_some, cleanGroups]
      · intro key hkey
        rw [Table.get?_modify, if_neg (Ne.symm hkey)]
      · rw [List.forall₂_map_right_iff, List.forall₂_same]
        exact fun e _ => ⟨rfl, cleanedGroup_dropRepeated e.2⟩
    · intro hnone
      rw [get?_cleanAll]
      cases hpart : Table.get? kind.sectionName b.locals with
      | none => rfl
      | some j =>
          rw [Option.map_some, cleanSection_eq_self]
          rintro part fields rfl hfields
          exact hnone part fields ⟨hpart, hfields⟩

/-- **A cleaned block** stays as it is. -/
theorem cleanAll_cleanAll (b : BlockRecord) : cleanAll (cleanAll b) = cleanAll b := by
  have hone : ∀ kind, cleanBlock kind (cleanAll b) = cleanAll b := by
    intro kind
    have hlocals : Table.modify kind.sectionName cleanSection (cleanAll b).locals =
        (cleanAll b).locals := by
      refine Table.modify_eq_self fun part hpart => ?_
      rw [get?_cleanAll] at hpart
      obtain ⟨before, -, rfl⟩ := Option.map_eq_some_iff.mp hpart
      exact cleanSection_cleanSection before
    rw [cleanBlock, hlocals]
  conv_lhs => rw [cleanAll]
  generalize cleanAll b = cleaned at hone ⊢
  induction FieldKind.all with
  | nil => rfl
  | cons kind rest ih => rw [List.foldl_cons, hone, ih]

/-! ### All files -/

/-- **The first declaration of every name stays.** The clean-ups keep all files and blocks in their
places. In every block, every array under the fields of a section keeps exactly the items that no
item of the same name stands before, in order and whatever the other groups hold; everything else
stays as it is. Cleaning again changes nothing and selects the same blocks. -/
theorem first_declarations_stay (files : List ParsedFile) :
    List.Forall₂ (fun file file' => file'.path = file.path ∧
        List.Forall₂ Cleaned file.blocks file'.blocks) files (process builtin files).1 ∧
      process builtin (process builtin files).1 = process builtin files := by
  rw [process_builtin]
  constructor
  · rw [List.forall₂_map_right_iff, List.forall₂_same]
    intro file _
    refine ⟨rfl, ?_⟩
    rw [blocks_mapFile, List.forall₂_map_right_iff, List.forall₂_same]
    exact fun b _ => cleaned_cleanAll b
  · have hagain : (files.map (mapFile fun _ => cleanAll)).map (mapFile fun _ => cleanAll) =
        files.map (mapFile fun _ => cleanAll) := by
      rw [List.map_map]
      refine List.map_congr_left fun file _ => ?_
      simp only [Function.comp_apply, mapFile, List.map_map, Function.comp_def, cleanAll_cleanAll]
    rw [process_builtin, hagain]

end Filter

end ApiGloss
