import ApiGloss.Proofs.Reading
import ApiGloss.Proofs.Resolving

/-!
# What Resolving Does to Declared Fields

When references are resolved, the fields of definitions are merged into the sections of an
endpoint; then the declarations of every section are regrouped by the group that each of them
names. A declaration in the array of its group stays there: merging adds to arrays, and
regrouping moves a declaration to the group that it names.

Regrouping reads the arrays directly below the fields of a section and no others. Neither the
names of these arrays nor the groups that their items name have dots, and merging keeps this. A
group with a dot therefore never appears.

## Main results

* `Resolve.hasItem_foldl_addToGroup`: every declaration reaches the group that it names.
* `Resolve.resolvingKeeps_hasItem`: resolving keeps declarations in the array of their group.
* `Resolve.resolvingKeeps_plainSection`: resolving brings up no group with a dot.
-/

namespace ApiGloss

open Json Record

namespace Resolve

/-- Regrouping adds all declarations to their groups, in order. -/
theorem groups_of_regroup {t : DefinitionTable} {version defaultVersion : String}
    {items : List (String × Json)} {groups titles groups' titles' : Table Json}
    (h : regroup t version defaultVersion items (groups, titles) = .ok (groups', titles')) :
    groups' = items.foldl (fun acc e => addToGroup acc e.1 e.2) groups := by
  induction items generalizing groups titles with
  | nil =>
      cases h
      rfl
  | cons e rest ih =>
      obtain ⟨group, item⟩ := e
      rw [regroup] at h
      split at h
      · exact ih h
      · obtain ⟨title, -, h⟩ := Run.bind_eq_ok_iff.mp h
        exact ih h

/-- The values are arrays. -/
def ArrayValues (groups : Table Json) : Prop :=
  ∀ e ∈ groups, ∃ items, e.2 = .arr items

/-- **Adding a declaration** to its group stores the group with one more item. -/
theorem addToGroup_eq {groups : Table Json} (h : ArrayValues groups) (group : String)
    (item : Json) :
    ∃ items, (Table.get? group groups).getD (.arr []) = .arr items ∧
      addToGroup groups group item = Table.insert group (.arr (items ++ [item])) groups := by
  obtain ⟨items, hitems⟩ : ∃ items, (Table.get? group groups).getD (.arr []) = .arr items := by
    rcases Table.eq_or_mem_of_getD rfl with hempty | hmem
    · exact ⟨[], hempty⟩
    · exact h _ hmem
  refine ⟨items, hitems, ?_⟩
  unfold addToGroup
  rw [hitems]

/-- Groups stay arrays. -/
theorem ArrayValues.addToGroup {groups : Table Json} (h : ArrayValues groups) (group : String)
    (item : Json) : ArrayValues (addToGroup groups group item) := by
  obtain ⟨items, -, heq⟩ := addToGroup_eq h group item
  rw [heq]
  exact entries_insert (R := fun _ v => ∃ items, v = .arr items) h ⟨_, rfl⟩

/-- Declarations stay in their groups. -/
theorem hasItem_addToGroup_of_hasItem {P : Json → Prop} {groups : Table Json}
    (harr : ArrayValues groups) {group : String} (h : HasItem P [group] (.obj groups))
    (group' : String) (item : Json) : HasItem P [group] (.obj (addToGroup groups group' item)) := by
  obtain ⟨items, hitems, heq⟩ := addToGroup_eq harr group' item
  rw [heq]
  by_cases hgroup : group' = group
  · subst hgroup
    obtain ⟨v, hv, hin⟩ := hasItem_obj.mp h
    obtain ⟨items', rfl, i, hi, hP⟩ := hasItem_nil.mp hin
    rw [hv, Option.getD_some] at hitems
    cases hitems
    exact hasItem_insert_self (hasItem_nil.mpr ⟨_, rfl, i, List.mem_append_left _ hi, hP⟩)
  · exact h.insert_of_ne hgroup _

/-- **Every declaration reaches its group.** -/
theorem hasItem_foldl_addToGroup {P : Json → Prop} {items : List (String × Json)}
    {group : String} {groups : Table Json} (harr : ArrayValues groups)
    (h : HasItem P [group] (.obj groups) ∨ ∃ item, (group, item) ∈ items ∧ P item) :
    HasItem P [group] (.obj (items.foldl (fun acc e => addToGroup acc e.1 e.2) groups)) := by
  induction items generalizing groups with
  | nil => exact h.resolve_right fun ⟨_, hmem, _⟩ => (nomatch hmem)
  | cons e rest ih =>
      refine ih (harr.addToGroup e.1 e.2) ?_
      rcases h with h | ⟨item, hmem, hP⟩
      · exact Or.inl (hasItem_addToGroup_of_hasItem harr h e.1 e.2)
      · rcases List.mem_cons.mp hmem with rfl | hmem
        · obtain ⟨items, -, heq⟩ := addToGroup_eq harr group item
          refine Or.inl ?_
          dsimp only
          rw [heq]
          exact hasItem_insert_self (hasItem_nil.mpr
            ⟨_, rfl, item, List.mem_append_right _ (List.mem_singleton.mpr rfl), hP⟩)
        · exact Or.inr ⟨item, hmem, hP⟩

/-- A property of entries is kept by regrouping, if adding an item to an array keeps it. -/
theorem entries_foldl_addToGroup {R : String → Json → Prop} {items : List (String × Json)}
    (hR : ∀ e ∈ items, ∀ others, (others = [] ∨ R e.1 (.arr others)) →
      R e.1 (.arr (others ++ [e.2])))
    {groups : Table Json} (harr : ArrayValues groups) (h : ∀ e ∈ groups, R e.1 e.2) :
    ∀ e ∈ items.foldl (fun acc e => addToGroup acc e.1 e.2) groups, R e.1 e.2 := by
  induction items generalizing groups with
  | nil => exact h
  | cons e rest ih =>
      obtain ⟨hone, hrest⟩ := List.forall_mem_cons.mp hR
      refine ih hrest (harr.addToGroup e.1 e.2) ?_
      obtain ⟨others, hget, heq⟩ := addToGroup_eq harr e.1 e.2
      dsimp only
      rw [heq]
      refine entries_insert h (hone others ?_)
      rcases Table.eq_or_mem_of_getD hget with hempty | hmem
      · cases hempty
        exact Or.inl rfl
      · exact Or.inr (h _ hmem)

/-! ### Declarations stay in their groups -/

/-- No section is removed or overwritten by name. -/
theorem sectionName_ne (kind : FieldKind) :
    (∀ k ∈ referenceKinds, k.target ≠ kind.sectionName) ∧
      ∀ key ∈ storedNames, key ≠ kind.sectionName := by
  cases kind <;> decide

/-- Regrouping a section keeps the declarations of a group in its array. -/
theorem hasItem_regroupedSection {group name version defaultVersion : String}
    {part fields groups titles : Table Json} {t : DefinitionTable}
    (hfields : Table.get? "fields" part = some (.obj fields))
    (hregroup : regroup t version defaultVersion (groupedItems fields) ([], []) =
      .ok (groups, titles))
    (h : HasItem (Registry.Declares group name) ["fields", group] (.obj part)) :
    HasItem (Registry.Declares group name) ["fields", group]
      (regroupedSection part groups titles) := by
  obtain ⟨v, hv, hin⟩ := hasItem_obj.mp h
  obtain rfl : Json.obj fields = v := Option.some.inj (hfields.symm.trans hv)
  obtain ⟨g, hg, hitem⟩ := hasItem_obj.mp hin
  obtain ⟨items, rfl, item, hmem, hdeclares⟩ := hasItem_nil.mp hitem
  have hgrouped : (group, item) ∈ groupedItems fields := by
    refine List.mem_flatMap.mpr ⟨(group, .arr items), Table.mem_of_get? hg, ?_⟩
    refine List.mem_map.mpr ⟨item, hmem, ?_⟩
    rw [hdeclares.1, Option.getD_some]
  rw [groups_of_regroup hregroup]
  refine HasItem.insert_of_ne (hasItem_insert_self ?_) (by decide) _
  exact hasItem_foldl_addToGroup nofun (Or.inr ⟨item, hgrouped, hdeclares⟩)

/-- **Resolving keeps declarations** in the array of their group. -/
theorem resolvingKeeps_hasItem (kind : FieldKind) (group name : String) :
    ResolvingKeeps
      (fun t => Table.Distinct t ∧
        HasItem (Registry.Declares group name) [kind.sectionName, "fields", group] (.obj t))
      fun _ => True where
  merge t source ht _ :=
    ⟨distinct_mergeInto ht.1 source, ht.2.mergeInto (fun _ incoming h => h.mergeValue incoming) _⟩
  erase k hk t ht := by
    refine ⟨ht.1.swapErase k.target, ?_⟩
    obtain ⟨v, hv, hin⟩ := hasItem_obj.mp ht.2
    refine hasItem_obj.mpr ⟨v, ?_, hin⟩
    rw [Table.get?_swapErase ht.1, if_neg ((sectionName_ne kind).1 k hk), hv]
  store key hkey value _ t ht :=
    ⟨ht.1.insert key value, ht.2.insert_of_ne ((sectionName_ne kind).2 key hkey) value⟩
  regroup kind' t part fields groups titles table version dv ht hpart hfields hregroup := by
    refine ⟨ht.1.insert _ _, ?_⟩
    by_cases hkind : kind'.sectionName = kind.sectionName
    · rw [hkind] at hpart ⊢
      obtain ⟨v, hv, hin⟩ := hasItem_obj.mp ht.2
      obtain rfl : Json.obj part = v := Option.some.inj (hpart.symm.trans hv)
      exact hasItem_insert_self (hasItem_regroupedSection hfields hregroup hin)
    · exact ht.2.insert_of_ne hkind _

/-! ### Groups with dots never appear -/

/-- A value **names no group with a dot**. -/
def PlainItem (j : Json) : Prop :=
  ∀ s, j.getStr? "group" = some s → '.' ∉ s.toList

/-- An entry below the fields of a section is **plain**: there is no dot in its name, and in no
group that it or one of its items names. -/
def PlainGroup (key : String) (j : Json) : Prop :=
  '.' ∉ key.toList ∧ PlainItem j ∧ ∀ items, j = .arr items → ∀ item ∈ items, PlainItem item

/-- All entries below the fields of a section are plain. -/
def PlainSection (kind : FieldKind) : String → Json → Prop :=
  Under kind.sectionName (Under "fields" PlainGroup)

/-- Groups as declared are plain. -/
theorem plainGroup_of_declared {key : String} {j : Json} (h : DeclaredGroup key j) :
    PlainGroup key j := by
  obtain ⟨hdot, hitems, hentries⟩ := h
  refine ⟨hdot, fun s hs => ?_, fun items hj item hitem s hs => ?_⟩
  · obtain ⟨v, hv, hstr⟩ := Option.bind_eq_some_iff.mp hs
    cases j with
    | obj t =>
        have hnone : v.str? = none := hentries _ (Table.mem_of_get? hv)
        rw [hnone] at hstr
        cases hstr
    | _ => cases hv
  · obtain rfl : key = s := Option.some.inj ((hitems items hj item hitem).1.symm.trans hs)
    exact hdot

/-- A section that is grouped as declared is plain. -/
theorem plainSection_of_declared {kind : FieldKind} {key : String} {j : Json}
    (h : DeclaredSection kind key j) : PlainSection kind key j :=
  Under.imp (fun _ _ => Under.imp fun _ _ => plainGroup_of_declared) h

/-- Merging names no new groups. -/
theorem PlainItem.mergeValue {existing incoming : Json} (he : PlainItem existing)
    (hi : PlainItem incoming) : PlainItem (mergeValue existing incoming) := by
  intro s hs
  cases existing with
  | obj t =>
      cases incoming with
      | obj source =>
          obtain ⟨v, hv, hstr⟩ := Option.bind_eq_some_iff.mp hs
          obtain rfl : v = .str s := by
            cases v <;> cases hstr
            rfl
          rcases get?_str_of_mergeInto hv with hv | ⟨-, hv⟩
          · exact he s (Option.bind_eq_some_iff.mpr ⟨_, hv, rfl⟩)
          · exact hi s (Option.bind_eq_some_iff.mpr ⟨_, hv, rfl⟩)
      | _ => exact he s hs
  | arr items => cases incoming <;> cases hs
  | _ => cases incoming <;> cases hs

/-- **Merging keeps groups plain.** -/
theorem mergeKeeps_plainGroup : MergeKeeps PlainGroup := by
  rintro key existing incoming ⟨hdot, he, hitems⟩ ⟨-, hi, hincoming⟩
  refine ⟨hdot, he.mergeValue hi, fun items heq => ?_⟩
  cases existing with
  | arr left =>
      have hleft := hitems left rfl
      cases incoming with
      | arr right =>
          cases heq
          exact List.forall_mem_append.mpr ⟨hleft, hincoming right rfl⟩
      | _ =>
          cases heq
          exact List.forall_mem_append.mpr ⟨hleft, List.forall_mem_singleton.mpr hi⟩
  | _ => cases incoming <;> cases heq

/-- The declarations of plain fields name no group with a dot. -/
theorem plain_of_mem_groupedItems {fields : Table Json} (h : ∀ e ∈ fields, PlainGroup e.1 e.2)
    {e : String × Json} (he : e ∈ groupedItems fields) : '.' ∉ e.1.toList ∧ PlainItem e.2 := by
  obtain ⟨⟨key, j⟩, hmem, he⟩ := List.mem_flatMap.mp he
  obtain ⟨item, hitem, rfl⟩ := List.mem_map.mp he
  obtain ⟨hdot, -, hitems⟩ := h _ hmem
  cases j with
  | arr items =>
      have hplain : PlainItem item := hitems items rfl item hitem
      refine ⟨?_, hplain⟩
      cases hgroup : item.getStr? "group" with
      | none => exact hdot
      | some s => exact hplain s hgroup
  | _ => cases hitem

/-- **Resolving keeps sections plain.** -/
theorem resolvingKeeps_plainSection (kind : FieldKind) :
    ResolvingKeeps (fun t => ∀ e ∈ t, PlainSection kind e.1 e.2)
      fun t => ∀ e ∈ t, PlainSection kind e.1 e.2 where
  merge t source ht hs := entries_mergeInto ((mergeKeeps_plainGroup.under _).under _) ht hs
  erase k _ t ht e he :=
    ht e ((Table.erase_sublist k.target t).subset
      ((Table.swapErase_perm_erase k.target t).mem_iff.mp he))
  store key hkey value _ t ht :=
    entries_insert ht fun hname => absurd hname ((sectionName_ne kind).2 key hkey)
  regroup kind' t part fields groups titles table version dv ht hpart hfields hregroup := by
    refine entries_insert ht fun hkind => ?_
    have hsection : ∀ e ∈ part, Under "fields" PlainGroup e.1 e.2 :=
      ht _ (Table.mem_of_get? hpart) hkind
    have hplain : ∀ e ∈ fields, PlainGroup e.1 e.2 :=
      hsection _ (Table.mem_of_get? hfields) rfl
    refine entries_insert (entries_insert hsection fun _ => ?_) fun hname => ?_
    · rw [groups_of_regroup hregroup]
      refine entries_foldl_addToGroup (fun e he others hothers => ?_) nofun nofun
      obtain ⟨hdot, hitem⟩ := plain_of_mem_groupedItems hplain he
      refine ⟨hdot, nofun, ?_⟩
      rintro _ ⟨⟩
      refine List.forall_mem_append.mpr ⟨?_, List.forall_mem_singleton.mpr hitem⟩
      rcases hothers with rfl | hothers
      · exact nofun
      · exact hothers.2.2 others rfl
    · exact absurd hname (by decide)

/-- **No group with a dot** is found in a plain section. -/
theorem not_hasItem_of_plain {P : Json → Prop} {kind : FieldKind} {group : String}
    {t : Table Json} (h : ∀ e ∈ t, PlainSection kind e.1 e.2) (hdot : '.' ∈ group.toList) :
    ¬ HasItem P [kind.sectionName, "fields", group] (.obj t) := by
  intro hin
  obtain ⟨part, hpart, hin⟩ := hasItem_obj.mp hin
  obtain ⟨fields, hfields, hin⟩ := hasItem_cons.mp hin
  obtain ⟨items, hitems, -⟩ := hasItem_cons.mp hin
  cases part with
  | obj part =>
      cases fields with
      | obj fields =>
          have hgroup : PlainGroup group items := h _ (Table.mem_of_get? hpart) rfl _
            (Table.mem_of_get? hfields) rfl _ (Table.mem_of_get? hitems)
          exact hgroup.1 hdot
      | _ => cases hitems
  | _ => cases hfields

/-- Resolving keeps nothing in particular. -/
theorem resolvingKeeps_true : ResolvingKeeps (fun _ => True) fun _ => True :=
  ⟨fun _ _ _ _ => trivial, fun _ _ _ _ => trivial, fun _ _ _ _ _ _ => trivial,
    fun _ _ _ _ _ _ _ _ _ _ _ _ _ => trivial⟩

end Resolve

end ApiGloss
