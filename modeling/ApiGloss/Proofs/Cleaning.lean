import ApiGloss.Proofs.Reading
import ApiGloss.Proofs.Selection

/-!
# Clean-ups Keep Declared Fields

The clean-ups drop repeated declarations of a field from the array of its group. Of every field
that is declared in a group, the first declaration stays. All declarations of the array name the
group by which the array is found (`DeclaredGroup`), so that the one that stays is a declaration
in the same group.

## Main results

* `Filter.hasItem_cleanAll`: a declared field is still declared in its group after all clean-ups.
-/

namespace ApiGloss

open Json Record

namespace Filter

/-- Only items of the array are kept. -/
theorem mem_of_mem_firstOfEach {seen : List String} {items : List Json} {item : Json}
    (h : item ∈ firstOfEach seen items) : item ∈ items := by
  induction items generalizing seen with
  | nil => exact h
  | cons i rest ih =>
      rw [firstOfEach] at h
      split at h
      · exact List.mem_cons_of_mem _ (ih h)
      · rcases List.mem_cons.mp h with rfl | h
        · exact List.mem_cons_self
        · exact List.mem_cons_of_mem _ (ih h)

/-- An item of every name that was not seen before is kept. -/
theorem exists_mem_firstOfEach {seen : List String} {items : List Json} {item : Json}
    (hmem : item ∈ items) (hseen : fieldKey item ∉ seen) :
    ∃ kept ∈ firstOfEach seen items, fieldKey kept = fieldKey item := by
  induction items generalizing seen with
  | nil => cases hmem
  | cons i rest ih =>
      rw [firstOfEach]
      by_cases hi : fieldKey i = fieldKey item
      · have hnot : ¬ seen.contains (fieldKey i) = true := by
          rw [List.contains_iff_mem, hi]
          exact hseen
        rw [if_neg hnot]
        exact ⟨i, List.mem_cons_self, hi⟩
      · have hrest : item ∈ rest := by
          rcases List.mem_cons.mp hmem with rfl | hmem
          · exact absurd rfl hi
          · exact hmem
        split
        · exact ih hrest hseen
        · have hseen' : fieldKey item ∉ fieldKey i :: seen :=
            fun h => (List.mem_cons.mp h).elim (fun heq => hi heq.symm) hseen
          obtain ⟨kept, hkept, heq⟩ := ih hrest hseen'
          exact ⟨kept, List.mem_cons_of_mem _ hkept, heq⟩

/-- Dropping repeated declarations keeps a group as declared. -/
theorem declaredGroup_dropRepeated {group : String} {j : Json} (h : DeclaredGroup group j) :
    DeclaredGroup group (dropRepeated j) := by
  obtain ⟨hdot, hitems, hentries⟩ := h
  cases j with
  | arr items =>
      refine ⟨hdot, ?_, trivial⟩
      rintro _ ⟨⟩ item hitem
      exact hitems items rfl item (mem_of_mem_firstOfEach hitem)
  | _ => exact ⟨hdot, hitems, hentries⟩

/-- A clean-up keeps the fields of a section grouped as declared. -/
theorem declaredSection_cleanBlock {kind : FieldKind} (kind' : FieldKind) {b : BlockRecord}
    (h : ∀ e ∈ b.locals, DeclaredSection kind e.1 e.2) :
    ∀ e ∈ (cleanBlock kind' b).locals, DeclaredSection kind e.1 e.2 := by
  refine entries_modify (fun v hv hname => ?_) h
  cases v with
  | obj part =>
      refine entries_modify (fun groups hgroups hfields => ?_) (hv hname)
      cases groups with
      | obj groups =>
          intro e he
          obtain ⟨e, hmem, rfl⟩ := List.mem_map.mp he
          exact declaredGroup_dropRepeated (hgroups hfields e hmem)
      | _ => trivial
  | _ => trivial

/-- Of the declarations of a field in a group, the first one stays. -/
theorem hasItem_dropRepeated {group name : String} {j : Json} (hdeclared : DeclaredGroup group j)
    (h : HasItem (Registry.Declares group name) [] j) :
    HasItem (Registry.Declares group name) [] (dropRepeated j) := by
  obtain ⟨items, rfl, item, hmem, -, hname⟩ := hasItem_nil.mp h
  obtain ⟨kept, hkept, heq⟩ := exists_mem_firstOfEach hmem List.not_mem_nil
  obtain ⟨hgroup, other, hother⟩ := hdeclared.2.1 items rfl kept (mem_of_mem_firstOfEach hkept)
  refine hasItem_nil.mpr ⟨_, rfl, kept, hkept, hgroup, ?_⟩
  rw [fieldKey, fieldKey, hname, hother, Option.getD_some, Option.getD_some] at heq
  rw [hother, heq]

/-- Cleaning a section keeps a declaration of every declared field. -/
theorem hasItem_cleanSection {group name : String} {j : Json}
    (hdeclared : Entries (Under "fields" DeclaredGroup) j)
    (h : HasItem (Registry.Declares group name) ["fields", group] j) :
    HasItem (Registry.Declares group name) ["fields", group] (cleanSection j) := by
  obtain ⟨fields, hfields, hin⟩ := hasItem_cons.mp h
  cases j with
  | obj part =>
      change Table.get? "fields" part = some fields at hfields
      refine hasItem_obj.mpr ?_
      rw [Table.get?_modify, if_pos rfl, hfields]
      refine ⟨_, rfl, ?_⟩
      obtain ⟨g, hg, hitem⟩ := hasItem_cons.mp hin
      cases fields with
      | obj groups =>
          change Table.get? group groups = some g at hg
          have hgroup : DeclaredGroup group g :=
            hdeclared _ (Table.mem_of_get? hfields) rfl _ (Table.mem_of_get? hg)
          refine hasItem_obj.mpr ⟨dropRepeated g, ?_, hasItem_dropRepeated hgroup hitem⟩
          rw [Table.get?_map dropRepeated, hg, Option.map_some]
      | _ => cases hg
  | _ => cases hfields

/-- **A clean-up keeps a declaration of every declared field** in its group. -/
theorem hasItem_cleanBlock {kind : FieldKind} (kind' : FieldKind) {b : BlockRecord}
    {group name : String} (hdeclared : ∀ e ∈ b.locals, DeclaredSection kind e.1 e.2)
    (h : HasItem (Registry.Declares group name) [kind.sectionName, "fields", group]
      (.obj b.locals)) :
    HasItem (Registry.Declares group name) [kind.sectionName, "fields", group]
      (.obj (cleanBlock kind' b).locals) := by
  obtain ⟨j, hj, h⟩ := hasItem_obj.mp h
  refine hasItem_obj.mpr ?_
  unfold cleanBlock
  rw [Table.get?_modify, hj]
  by_cases hkind : kind'.sectionName = kind.sectionName
  · rw [if_pos hkind]
    exact ⟨_, rfl, hasItem_cleanSection (hdeclared _ (Table.mem_of_get? hj) rfl) h⟩
  · rw [if_neg hkind]
    exact ⟨j, rfl, h⟩

/-- All clean-ups together keep a declaration of every declared field in its group, and the
fields grouped as declared. -/
theorem hasItem_cleanAll {kind : FieldKind} {b : BlockRecord}
    (hdeclared : ∀ e ∈ b.locals, DeclaredSection kind e.1 e.2) :
    (∀ e ∈ (cleanAll b).locals, DeclaredSection kind e.1 e.2) ∧
      ∀ group name,
        HasItem (Registry.Declares group name) [kind.sectionName, "fields", group]
          (.obj b.locals) →
        HasItem (Registry.Declares group name) [kind.sectionName, "fields", group]
          (.obj (cleanAll b).locals) := by
  unfold cleanAll
  induction FieldKind.all generalizing b with
  | nil => exact ⟨hdeclared, fun _ _ h => h⟩
  | cons kind' rest ih =>
      obtain ⟨hrest, hitems⟩ := ih (declaredSection_cleanBlock kind' hdeclared)
      exact ⟨hrest, fun group name h => hitems group name (hasItem_cleanBlock kind' hdeclared h)⟩

/-- Clean-ups keep the names of an endpoint record. -/
theorem distinct_cleanAll {b : BlockRecord} (h : Table.Distinct b.locals) :
    Table.Distinct (cleanAll b).locals := by
  unfold cleanAll
  induction FieldKind.all generalizing b with
  | nil => exact h
  | cons kind rest ih =>
      refine ih ?_
      unfold cleanBlock Table.Distinct
      rw [Table.keys_modify]
      exact h

end Filter

end ApiGloss
