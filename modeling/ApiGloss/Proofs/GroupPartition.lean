import ApiGloss.Proofs.FieldGroups
import ApiGloss.Proofs.SuccessiveMerges

/-!
# Regrouping Is a Stable Partition

The declarations of a section stand in arrays, and each of them belongs to a group: the one that it
names, or else the one whose array it stands in. Regrouping brings the declarations of a group
together, in the order in which they stood, and the groups stand in the order in which they appeared
first. Nothing is lost and nothing is doubled.

Regrouping goes through the declarations once and fills two tables on the way, the groups and their
titles. Both are determined by the list of pairs of a group and a declaration: the groups are the
pairs brought together by their keys (`Resolve.foldl_addToGroup_eq`), and the titles are looked up
for every key once (`Resolve.regroup_eq`). Pairs that have been brought together stay as they are
when that is done again, so that regrouping again changes nothing.

## Main results

* `Resolve.perm_gathered`, `Resolve.pairsOf_gathered`, `Resolve.keysOf_gathered`: pairs that are
  brought together by their keys.
* `Resolve.regroup_eq`: what regrouping yields.
* `Resolve.regrouping_is_a_stable_partition`: what the resolver of field groups does to every block.
-/

namespace ApiGloss

namespace Resolve

/-! ### Bringing pairs together -/

section Pairs

variable {α : Type} (pairs : List (String × α))

/-- The pairs of a key, in order. -/
def pairsOf (key : String) : List (String × α) :=
  pairs.filter fun e => e.1 = key

/-- The keys of pairs, in the order in which they appear first. -/
def keysOf : List String :=
  Search.firsts [] (pairs.map Prod.fst)

/-- The pairs **brought together** by their keys. -/
def gathered : List (String × α) :=
  (keysOf pairs).flatMap fun key => pairsOf pairs key

variable {pairs}

/-- The pairs of a key have this key. -/
theorem mem_pairsOf {key : String} {e : String × α} :
    e ∈ pairsOf pairs key ↔ e ∈ pairs ∧ e.1 = key := by
  rw [pairsOf, List.mem_filter, decide_eq_true_eq]

/-- A key is a key of some pair. -/
theorem mem_keysOf {key : String} : key ∈ keysOf pairs ↔ ∃ e ∈ pairs, e.1 = key := by
  rw [keysOf, Search.mem_firsts, List.mem_map]
  simp only [List.not_mem_nil, not_false_eq_true, and_true]

/-- The pairs of a key, looked for from the front. -/
theorem pairsOf_cons (e : String × α) (key : String) :
    pairsOf (e :: pairs) key = (if e.1 = key then [e] else []) ++ pairsOf pairs key := by
  rw [pairsOf, List.filter_cons]
  by_cases hkey : e.1 = key
  · simp [hkey, pairsOf]
  · simp [hkey, pairsOf]

/-- No key is listed twice. -/
theorem nodup_keysOf : (keysOf pairs).Nodup :=
  Search.nodup_firsts _ _

/-- Every key has pairs, and nothing else has any. -/
theorem pairsOf_ne_nil_iff {key : String} : pairsOf pairs key ≠ [] ↔ key ∈ keysOf pairs := by
  rw [mem_keysOf, ne_eq, List.eq_nil_iff_forall_not_mem]
  push Not
  simp only [mem_pairsOf]

/-- The pairs of a key among the pairs of several keys. -/
theorem pairsOf_flatMap {names : List String} (hnames : names.Nodup) (key : String) :
    pairsOf (names.flatMap fun name => pairsOf pairs name) key =
      if key ∈ names then pairsOf pairs key else [] := by
  induction names with
  | nil => rfl
  | cons name rest ih =>
      obtain ⟨hname, hrest⟩ := List.nodup_cons.mp hnames
      rw [List.flatMap_cons, pairsOf, List.filter_append, ← pairsOf, ← pairsOf, ih hrest]
      by_cases hkey : key = name
      · subst hkey
        have hsame : pairsOf (pairsOf pairs key) key = pairsOf pairs key :=
          List.filter_eq_self.mpr fun e he => decide_eq_true (mem_pairsOf.mp he).2
        rw [hsame, if_neg hname, if_pos List.mem_cons_self, List.append_nil]
      · have hnone : pairsOf (pairsOf pairs name) key = [] :=
          List.filter_eq_nil_iff.mpr fun e he => by
            rw [decide_eq_true_eq, (mem_pairsOf.mp he).2]
            exact Ne.symm hkey
        simp only [hnone, List.nil_append, List.mem_cons, hkey, false_or]

/-- **The pairs of a key** stay as they are. -/
theorem pairsOf_gathered (key : String) : pairsOf (gathered pairs) key = pairsOf pairs key := by
  rw [gathered, pairsOf_flatMap nodup_keysOf]
  split
  · rfl
  · rename_i hkey
    rw [← pairsOf_ne_nil_iff, not_not] at hkey
    exact hkey.symm

/-- **The keys** stay as they are. -/
theorem keysOf_gathered : keysOf (gathered pairs) = keysOf pairs := by
  have hkeys : (gathered pairs).map Prod.fst =
      (keysOf pairs).flatMap fun key => (pairsOf pairs key).map Prod.fst :=
    List.map_flatMap
  rw [keysOf, hkeys]
  refine Search.firsts_flatMap nodup_keysOf (fun _ _ => List.not_mem_nil)
    (fun key hkey => ?_) fun key name hname => ?_
  · rw [ne_eq, List.map_eq_nil_iff]
    exact pairsOf_ne_nil_iff.mpr hkey
  · obtain ⟨e, he, rfl⟩ := List.mem_map.mp hname
    exact (mem_pairsOf.mp he).2

/-- The pairs of names that hold all keys are all pairs. -/
theorem perm_flatMap_pairsOf {names : List String} (hnames : names.Nodup)
    (hall : ∀ e ∈ pairs, e.1 ∈ names) :
    (names.flatMap fun name => pairsOf pairs name).Perm pairs := by
  induction names generalizing pairs with
  | nil =>
      have hnil : pairs = [] :=
        List.eq_nil_iff_forall_not_mem.mpr fun e he => List.not_mem_nil (hall e he)
      rw [hnil]
      exact List.Perm.refl _
  | cons name rest ih =>
      obtain ⟨hname, hrest⟩ := List.nodup_cons.mp hnames
      -- the pairs of the other names are those that are left
      have hothers : (rest.flatMap fun other => pairsOf pairs other) =
          rest.flatMap fun other => pairsOf (pairs.filter fun e => !decide (e.1 = name)) other := by
        refine List.flatMap_congr fun other hother => ?_
        rw [pairsOf, pairsOf, List.filter_filter]
        refine List.filter_congr fun e _ => ?_
        by_cases he : e.1 = other
        · have hne : other ≠ name := fun h => hname (h ▸ hother)
          simp [he, hne]
        · simp [he]
      rw [List.flatMap_cons, hothers]
      refine (List.Perm.append_left _ (ih hrest fun e he => ?_)).trans
        (List.filter_append_perm _ pairs)
      obtain ⟨hmem, hne⟩ := List.mem_filter.mp he
      simpa using (List.mem_cons.mp (hall e hmem)).resolve_left (by simpa using hne)

/-- **No pair is lost or doubled.** -/
theorem perm_gathered : (gathered pairs).Perm pairs :=
  perm_flatMap_pairsOf nodup_keysOf fun e he => mem_keysOf.mpr ⟨e, he, rfl⟩

end Pairs

/-! ### What regrouping yields -/

/-- The **table of groups**: every key with the array of its declarations. -/
def groupTable (pairs : List (String × Json)) : Table Json :=
  (keysOf pairs).map fun key => (key, .arr ((pairsOf pairs key).map Prod.snd))

/-- The names of the table of groups. -/
theorem keys_groupTable (pairs : List (String × Json)) :
    Table.keys (groupTable pairs) = keysOf pairs := by
  unfold groupTable Table.keys
  rw [List.map_map]
  exact List.map_id _

/-- Adding declarations to their groups adds the new groups at the end. -/
theorem keys_foldl_addToGroup {groups : Table Json} (harr : ArrayValues groups)
    (pairs : List (String × Json)) :
    Table.keys (pairs.foldl (fun acc e => addToGroup acc e.1 e.2) groups) =
      Table.keys groups ++ Search.firsts (Table.keys groups) (pairs.map Prod.fst) := by
  induction pairs generalizing groups with
  | nil => exact (List.append_nil _).symm
  | cons e rest ih =>
      obtain ⟨items, -, hadd⟩ := addToGroup_eq harr e.1 e.2
      have hsplit : (e :: rest).map Prod.fst = [e.1] ++ rest.map Prod.fst := rfl
      rw [List.foldl_cons, ih (harr.addToGroup e.1 e.2), hadd, Table.keys_insert_eq_firsts, hsplit,
        Search.firsts_append, List.append_assoc]

/-- Adding declarations to their groups adds to every array those of its group, in order. -/
theorem getD_foldl_addToGroup {groups : Table Json} (harr : ArrayValues groups)
    (pairs : List (String × Json)) {key : String} {items : List Json}
    (h : (Table.get? key groups).getD (.arr []) = .arr items) :
    (Table.get? key (pairs.foldl (fun acc e => addToGroup acc e.1 e.2) groups)).getD (.arr []) =
      .arr (items ++ (pairsOf pairs key).map Prod.snd) := by
  induction pairs generalizing groups items with
  | nil => rw [List.foldl_nil, h, pairsOf, List.filter_nil, List.map_nil, List.append_nil]
  | cons e rest ih =>
      obtain ⟨others, hothers, hadd⟩ := addToGroup_eq harr e.1 e.2
      rw [List.foldl_cons]
      by_cases hkey : e.1 = key
      · have hone : (Table.get? key (addToGroup groups e.1 e.2)).getD (.arr []) =
            .arr (items ++ [e.2]) := by
          rw [hkey, h] at hothers
          rw [hadd, Table.get?_insert, if_pos hkey, Option.getD_some, ← Json.arr.inj hothers]
        rw [ih (harr.addToGroup e.1 e.2) hone, pairsOf_cons, if_pos hkey, List.map_append,
          List.append_assoc, List.map_singleton]
      · have hone : (Table.get? key (addToGroup groups e.1 e.2)).getD (.arr []) = .arr items := by
          rw [hadd, Table.get?_insert, if_neg hkey, h]
        rw [ih (harr.addToGroup e.1 e.2) hone, pairsOf_cons, if_neg hkey, List.nil_append]

/-- **Adding all declarations to their groups** brings them together by their groups. -/
theorem foldl_addToGroup_eq (pairs : List (String × Json)) :
    pairs.foldl (fun acc e => addToGroup acc e.1 e.2) [] = groupTable pairs := by
  have harr : ArrayValues [] := nofun
  have hkeys : Table.keys (pairs.foldl (fun acc e => addToGroup acc e.1 e.2) []) = keysOf pairs :=
    keys_foldl_addToGroup harr pairs
  refine Table.eq_of_keys_of_get? ?_ (hkeys.trans (keys_groupTable pairs).symm) fun key => ?_
  · rw [Table.Distinct, hkeys]
    exact nodup_keysOf
  · have hempty : (Table.get? key []).getD (.arr []) = Json.arr [] := rfl
    have hitems := getD_foldl_addToGroup harr pairs hempty
    rw [groupTable, Table.get?_map_names]
    split
    · rename_i hkey
      rw [← hkeys, ← Table.contains_iff_mem_keys, Table.contains] at hkey
      obtain ⟨v, hv⟩ := Option.isSome_iff_exists.mp hkey
      rw [hv, Option.getD_some, List.nil_append] at hitems
      rw [hv, hitems]
    · rename_i hkey
      rw [← hkeys] at hkey
      exact Table.get?_eq_none_iff.mpr hkey

/-- A group with its title. -/
def titleEntry (t : DefinitionTable) (version defaultVersion group : String) :
    Except ReferenceCause (String × Json) :=
  (titleOf t group version defaultVersion).map fun title => (group, .str title)

/-- Titles are looked up for every group once, on its first appearance. -/
theorem regroup_eq_of_titles (t : DefinitionTable) (version defaultVersion : String)
    (pairs : List (String × Json)) (groups titles : Table Json) :
    regroup t version defaultVersion pairs (groups, titles) =
      ((Search.firsts (Table.keys titles) (pairs.map Prod.fst)).mapM
        (titleEntry t version defaultVersion)).map fun more =>
          (pairs.foldl (fun acc e => addToGroup acc e.1 e.2) groups, titles ++ more) := by
  induction pairs generalizing groups titles with
  | nil =>
      rw [List.map_nil, Search.firsts, List.mapM_nil, regroup]
      show _ = Except.ok (groups, titles ++ [])
      rw [List.append_nil]
  | cons e rest ih =>
      obtain ⟨group, item⟩ := e
      rw [List.map_cons, Search.firsts, regroup]
      by_cases hknown : group ∈ Table.keys titles
      · rw [if_pos hknown, if_pos (Table.contains_iff_mem_keys.mpr hknown)]
        exact ih _ _
      · rw [if_neg hknown, if_neg fun h => hknown (Table.contains_iff_mem_keys.mp h),
          List.mapM_cons, titleEntry]
        cases titleOf t group version defaultVersion with
        | error cause => rfl
        | ok title =>
            have hkeys : ∀ a, a ∈ Table.keys (titles ++ [(group, Json.str title)]) ↔
                a ∈ group :: Table.keys titles := by
              intro a
              simp [Table.keys, or_comm]
            show regroup t version defaultVersion rest
              (addToGroup groups group item, Table.insert group (.str title) titles) = _
            rw [Table.insert_of_not_mem hknown, ih, Search.firsts_congr hkeys]
            cases (Search.firsts (group :: Table.keys titles) (rest.map Prod.fst)).mapM
              (titleEntry t version defaultVersion) with
            | error cause => rfl
            | ok more =>
                show Except.ok (_, titles ++ [(group, Json.str title)] ++ more) = _
                rw [List.append_assoc]
                rfl

/-- **What regrouping yields**: the table of groups, and the title of every group; it fails if a
title cannot be found. -/
theorem regroup_eq (t : DefinitionTable) (version defaultVersion : String)
    (pairs : List (String × Json)) :
    regroup t version defaultVersion pairs ([], []) =
      ((keysOf pairs).mapM (titleEntry t version defaultVersion)).map fun titles =>
        (groupTable pairs, titles) := by
  rw [regroup_eq_of_titles, foldl_addToGroup_eq]
  rfl

/-- A title stands under its group. -/
theorem fst_of_titleEntry {t : DefinitionTable} {version defaultVersion group : String}
    {entry : String × Json} (h : titleEntry t version defaultVersion group = .ok entry) :
    group = entry.1 := by
  unfold titleEntry at h
  cases htitle : titleOf t group version defaultVersion with
  | error cause =>
      rw [htitle] at h
      cases h
  | ok title =>
      rw [htitle] at h
      cases h
      rfl

/-- The titles are those of the groups. -/
theorem keys_of_mapM_titleEntry {t : DefinitionTable} {version defaultVersion : String}
    {names : List String} {titles : Table Json}
    (h : names.mapM (titleEntry t version defaultVersion) = .ok titles) :
    Table.keys titles = names := by
  have hall : List.Forall₂ (fun name entry => name = entry.1) names titles :=
    (Run.mapM_eq_ok_iff.mp h).imp fun _ _ => fst_of_titleEntry
  rw [← List.forall₂_map_right_iff, List.forall₂_eq_eq_eq] at hall
  exact hall.symm

/-! ### Items and their groups -/

/-- The **group of an item** that stands under a key: the one that it names, or else the key. -/
def groupOf (key : String) (item : Json) : String :=
  (item.getStr? "group").getD key

/-- The **items** of all arrays of a section, in order. -/
def itemsOf (fields : Table Json) : List Json :=
  fields.flatMap fun e => e.2.arr?.getD []

/-- The items of a group, in order. -/
def itemsOfGroup (fields : Table Json) (group : String) : List Json :=
  fields.flatMap fun e => (e.2.arr?.getD []).filter fun item => groupOf e.1 item = group

/-- The **groups** that the items of a section belong to, in the order in which they appear
first. -/
def groupNames (fields : Table Json) : List String :=
  Search.firsts [] (fields.flatMap fun e => (e.2.arr?.getD []).map (groupOf e.1))

/-- The groups of items are the keys of the pairs. -/
theorem keysOf_groupedItems (fields : Table Json) :
    keysOf (groupedItems fields) = groupNames fields := by
  unfold keysOf groupedItems groupNames
  rw [List.map_flatMap]
  simp only [List.map_map]
  rfl

/-- The items of a group are those of its pairs. -/
theorem map_pairsOf_groupedItems (fields : Table Json) (group : String) :
    (pairsOf (groupedItems fields) group).map Prod.snd = itemsOfGroup fields group := by
  unfold pairsOf groupedItems itemsOfGroup
  rw [List.filter_flatMap, List.map_flatMap]
  refine List.flatMap_congr fun e _ => ?_
  rw [List.filter_map, List.map_map]
  exact List.map_id _

/-- All items are those of all pairs. -/
theorem map_groupedItems (fields : Table Json) :
    (groupedItems fields).map Prod.snd = itemsOf fields := by
  unfold groupedItems itemsOf
  rw [List.map_flatMap]
  refine List.flatMap_congr fun e _ => ?_
  rw [List.map_map]
  exact List.map_id _

/-- An item in the array of its own group belongs to it. -/
theorem groupOf_eq_of_mem {fields : Table Json} {e : String × Json}
    (h : e ∈ groupedItems fields) : groupOf e.1 e.2 = e.1 := by
  obtain ⟨⟨key, j⟩, -, he⟩ := List.mem_flatMap.mp h
  obtain ⟨item, -, rfl⟩ := List.mem_map.mp he
  unfold groupOf
  dsimp only
  cases item.getStr? "group" <;> rfl

/-- **The pairs of regrouped fields** are the former ones, brought together by their groups. -/
theorem groupedItems_groupTable (fields : Table Json) :
    groupedItems (groupTable (groupedItems fields)) = gathered (groupedItems fields) := by
  unfold groupTable gathered
  rw [groupedItems, List.flatMap_map]
  refine List.flatMap_congr fun group _ => ?_
  show ((pairsOf (groupedItems fields) group).map Prod.snd).map
    (fun item => (groupOf group item, item)) = _
  rw [List.map_map]
  refine (List.map_congr_left fun e he => ?_).trans (List.map_id _)
  obtain ⟨hmem, hgroup⟩ := mem_pairsOf.mp he
  have hown := groupOf_eq_of_mem hmem
  rw [hgroup] at hown
  exact Prod.ext (hown.trans hgroup.symm) rfl

/-- **Regrouping again** yields the same groups. -/
theorem groupTable_gathered (pairs : List (String × Json)) :
    groupTable (gathered pairs) = groupTable pairs := by
  unfold groupTable
  rw [keysOf_gathered]
  simp only [pairsOf_gathered]

/-- The declarations of a section are **partitioned** into groups: every group has its items in
order, no group is empty, no item is lost or doubled, and the groups stand in the order in which
they appear first, like their titles. -/
structure Partitioned (fields groups titles : Table Json) : Prop where
  groups_in_order : Table.keys groups = groupNames fields
  titles_in_order : Table.keys titles = groupNames fields
  items_of_group : ∀ group ∈ groupNames fields,
    Table.get? group groups = some (.arr (itemsOfGroup fields group))
  no_group_empty : ∀ group ∈ groupNames fields, itemsOfGroup fields group ≠ []
  each_item_once : (itemsOf groups).Perm (itemsOf fields)

section Regroup

variable {t : DefinitionTable} {version defaultVersion : String} {fields groups titles : Table Json}

/-- **Regrouping succeeds** if all titles are found, and yields the table of groups. -/
theorem regroup_eq_ok_iff :
    regroup t version defaultVersion (groupedItems fields) ([], []) = .ok (groups, titles) ↔
      groups = groupTable (groupedItems fields) ∧
        (groupNames fields).mapM (titleEntry t version defaultVersion) = .ok titles := by
  rw [regroup_eq, keysOf_groupedItems]
  cases (groupNames fields).mapM (titleEntry t version defaultVersion) with
  | error cause => exact ⟨fun h => (nomatch h), fun h => (nomatch h.2)⟩
  | ok found =>
      show Except.ok (_, found) = _ ↔ _
      rw [Except.ok.injEq, Except.ok.injEq, Prod.mk.injEq]
      exact and_congr_left fun _ => eq_comm

/-- **Regrouping partitions** the declarations of a section. -/
theorem partitioned_of_regroup
    (h : regroup t version defaultVersion (groupedItems fields) ([], []) = .ok (groups, titles)) :
    Partitioned fields groups titles := by
  obtain ⟨rfl, htitles⟩ := regroup_eq_ok_iff.mp h
  constructor
  · rw [keys_groupTable, keysOf_groupedItems]
  · exact keys_of_mapM_titleEntry htitles
  · intro group hgroup
    rw [groupTable, Table.get?_map_names, keysOf_groupedItems, if_pos hgroup,
      map_pairsOf_groupedItems]
  · intro group hgroup
    rw [← map_pairsOf_groupedItems, ne_eq, List.map_eq_nil_iff]
    exact pairsOf_ne_nil_iff.mpr (keysOf_groupedItems fields ▸ hgroup)
  · rw [← map_groupedItems, ← map_groupedItems, groupedItems_groupTable]
    exact perm_gathered.map Prod.snd

/-- **Regrouping again** yields the same groups and titles. -/
theorem regroup_again
    (h : regroup t version defaultVersion (groupedItems fields) ([], []) = .ok (groups, titles)) :
    regroup t version defaultVersion (groupedItems groups) ([], []) = .ok (groups, titles) := by
  obtain ⟨rfl, htitles⟩ := regroup_eq_ok_iff.mp h
  rw [regroup_eq_ok_iff, ← keysOf_groupedItems, groupedItems_groupTable, groupTable_gathered,
    keysOf_gathered, keysOf_groupedItems]
  exact ⟨rfl, htitles⟩

end Regroup

/-! ### Blocks -/

/-- A block **declares fields** in a section: there is a section with an object of fields. -/
def DeclaresFields (kind : FieldKind) (b : BlockRecord) (part fields : Table Json) : Prop :=
  Table.get? kind.sectionName b.locals = some (.obj part) ∧
    Table.get? "fields" part = some (.obj fields)

/-- The fields of a block are **regrouped**. Its section keeps everything but the fields and the
titles of their groups, and the block everything but the section. -/
structure Regrouped (kind : FieldKind) (b b' : BlockRecord) : Prop where
  frame : SameFrame b b'
  sections : Table.keys b'.locals = Table.keys b.locals ∧
    ∀ key, key ≠ kind.sectionName → Table.get? key b'.locals = Table.get? key b.locals
  fields : ∀ part fields, DeclaresFields kind b part fields →
    ∃ part' groups titles, DeclaresFields kind b' part' groups ∧
      Table.get? "groupTitles" part' = some (.obj titles) ∧ Partitioned fields groups titles ∧
      Table.keys part <+: Table.keys part' ∧
      ∀ key, key ≠ "fields" → key ≠ "groupTitles" → Table.get? key part' = Table.get? key part
  otherwise : (∀ part fields, ¬ DeclaresFields kind b part fields) → b' = b

section Blocks

variable {kind : FieldKind} {b : BlockRecord} {part fields : Table Json} {t : DefinitionTable}
  {defaultVersion path : String}

/-- A block without fields stays as it is. -/
theorem titleFields_of_not_declares (h : ∀ part fields, ¬ DeclaresFields kind b part fields)
    (defaultVersion : String) (t : DefinitionTable) (path : String) :
    titleFields kind defaultVersion t path b = (b, none) := by
  unfold titleFields
  split
  · rfl
  · rename_i part hpart
    split
    · rfl
    · rename_i fields hfields
      exact absurd ⟨eq_some_obj hpart, eq_some_obj hfields⟩ (h part fields)

/-- The fields of a block are regrouped, unless a title is missing. -/
theorem titleFields_of_declares (h : DeclaresFields kind b part fields) (defaultVersion : String)
    (t : DefinitionTable) (path : String) :
    titleFields kind defaultVersion t path b =
      match regroup t (versionOf defaultVersion b) defaultVersion (groupedItems fields)
        ([], []) with
      | .error cause => (b, some (.reference cause path b.index (titleUsage kind)))
      | .ok (groups, titles) =>
        ({ b with locals :=
            Table.insert kind.sectionName (regroupedSection part groups titles) b.locals },
          none) := by
  obtain ⟨hpart, hfields⟩ := h
  have hpart' : (Table.get? kind.sectionName b.locals).bind Json.obj? = some part := by
    rw [hpart]
    rfl
  have hfields' : (Table.get? "fields" part).bind Json.obj? = some fields := by
    rw [hfields]
    rfl
  unfold titleFields
  rw [hpart']
  dsimp only
  rw [hfields']
  rfl

/-- **What settling field groups does to a block**, if it succeeds: nothing, or its fields are
regrouped. -/
theorem titleFields_cases (h : (titleFields kind defaultVersion t path b).2 = none) :
    (∀ part fields, ¬ DeclaresFields kind b part fields) ∧
        titleFields kind defaultVersion t path b = (b, none) ∨
      ∃ part fields groups titles, DeclaresFields kind b part fields ∧
        regroup t (versionOf defaultVersion b) defaultVersion (groupedItems fields) ([], []) =
          .ok (groups, titles) ∧
        titleFields kind defaultVersion t path b =
          ({ b with locals :=
              Table.insert kind.sectionName (regroupedSection part groups titles) b.locals },
            none) := by
  by_cases hdeclares : ∃ part fields, DeclaresFields kind b part fields
  · obtain ⟨part, fields, hfields⟩ := hdeclares
    rw [titleFields_of_declares hfields] at h ⊢
    split at h
    · cases h
    · rename_i groups titles hregroup
      exact Or.inr ⟨part, fields, groups, titles, hfields, hregroup, rfl⟩
  · push Not at hdeclares
    exact Or.inl ⟨hdeclares, titleFields_of_not_declares hdeclares _ _ _⟩

/-- The entries of a regrouped section. -/
def regroupedEntries (part groups titles : Table Json) : Table Json :=
  Table.insert "groupTitles" (.obj titles) (Table.insert "fields" (.obj groups) part)

/-- Look-up in a regrouped section. -/
theorem get?_regroupedEntries (part groups titles : Table Json) (key : String) :
    Table.get? key (regroupedEntries part groups titles) =
      if "groupTitles" = key then some (.obj titles)
      else if "fields" = key then some (.obj groups)
      else Table.get? key part := by
  rw [regroupedEntries, Table.get?_insert, Table.get?_insert]

/-- **A block whose fields are settled** is regrouped. -/
theorem regrouped_of_titleFields (h : (titleFields kind defaultVersion t path b).2 = none) :
    Regrouped kind b (titleFields kind defaultVersion t path b).1 := by
  obtain ⟨hnone, hsame⟩ | ⟨part, fields, groups, titles, hfields, hregroup, hsettled⟩ :=
    titleFields_cases h
  · rw [hsame]
    exact ⟨SameFrame.refl b, ⟨rfl, fun _ _ => rfl⟩,
      fun part fields hfields => absurd hfields (hnone part fields), fun _ => rfl⟩
  · rw [hsettled]
    have hknown : Table.contains kind.sectionName b.locals = true := by
      rw [Table.contains, hfields.1, Option.isSome_some]
    refine ⟨SameFrame.of_locals b _, ⟨?_, fun key hkey => ?_⟩, fun part' fields' hfields' => ?_,
      fun hnone => absurd hfields (hnone part fields)⟩
    · exact (Table.keys_insert _ _ _).trans (if_pos hknown)
    · exact (Table.get?_insert _ _ _ _).trans (if_neg (Ne.symm hkey))
    · obtain rfl : part = part' :=
        Json.obj.inj (Option.some.inj (hfields.1.symm.trans hfields'.1))
      obtain rfl : fields = fields' :=
        Json.obj.inj (Option.some.inj (hfields.2.symm.trans hfields'.2))
      refine ⟨regroupedEntries part groups titles, groups, titles, ⟨?_, ?_⟩, ?_,
        partitioned_of_regroup hregroup, ?_, fun key hkey htitles => ?_⟩
      · exact (Table.get?_insert _ _ _ _).trans (if_pos rfl)
      · exact (get?_regroupedEntries _ _ _ _).trans ((if_neg (by decide)).trans (if_pos rfl))
      · exact (get?_regroupedEntries _ _ _ _).trans (if_pos rfl)
      · exact (Table.keys_isPrefix_insert _ _ _).trans (Table.keys_isPrefix_insert _ _ _)
      · rw [get?_regroupedEntries, if_neg (Ne.symm htitles), if_neg (Ne.symm hkey)]

/-- **Settling field groups again** changes nothing. -/
theorem titleFields_again (h : (titleFields kind defaultVersion t path b).2 = none) :
    titleFields kind defaultVersion t path (titleFields kind defaultVersion t path b).1 =
      ((titleFields kind defaultVersion t path b).1, none) := by
  obtain ⟨hnone, hsame⟩ | ⟨part, fields, groups, titles, hfields, hregroup, hsettled⟩ :=
    titleFields_cases h
  · rw [hsame]
    exact hsame
  · obtain ⟨locals, hlocals⟩ : ∃ locals, locals =
        Table.insert kind.sectionName (regroupedSection part groups titles) b.locals := ⟨_, rfl⟩
    have hsection : Table.get? kind.sectionName locals =
        some (.obj (regroupedEntries part groups titles)) := by
      rw [hlocals, Table.get?_insert, if_pos rfl]
      rfl
    have hgroups : Table.get? "fields" (regroupedEntries part groups titles) =
        some (.obj groups) := by
      rw [get?_regroupedEntries, if_neg (by decide), if_pos rfl]
    have htitles : Table.get? "groupTitles" (regroupedEntries part groups titles) =
        some (.obj titles) := by
      rw [get?_regroupedEntries, if_pos rfl]
    have hdeclares : DeclaresFields kind { b with locals := locals }
        (regroupedEntries part groups titles) groups := ⟨hsection, hgroups⟩
    have hversion : versionOf defaultVersion { b with locals := locals } =
        versionOf defaultVersion b := rfl
    rw [hsettled, ← hlocals, titleFields_of_declares hdeclares, hversion, regroup_again hregroup]
    dsimp only
    -- all that is stored is there already
    rw [regroupedSection, Table.insert_of_get? hgroups, Table.insert_of_get? htitles,
      Table.insert_of_get? hsection]

end Blocks

/-! ### All blocks -/

/-- Blocks of the same frames have the same definitions. -/
theorem gather_mapFile {change : String → BlockRecord → BlockRecord}
    (hframes : ∀ path b, SameFrame b (change path b)) (source defaultVersion : String)
    (files : List ParsedFile) :
    gather source (fun _ d => d) defaultVersion (files.map (mapFile change)) =
      gather source (fun _ d => d) defaultVersion files := by
  have hone : ∀ (table : DefinitionTable) (path : String) (b : BlockRecord),
      addDefinition source defaultVersion (fun _ d => d) table (change path b) =
        addDefinition source defaultVersion (fun _ d => d) table b := by
    intro table path b
    obtain ⟨hglobals, hroot, -⟩ := hframes path b
    unfold addDefinition versionOf BlockRecord.version?
    rw [hglobals, hroot]
  unfold gather
  rw [allBlocks_mapFile, allBlocks, List.foldl_flatMap, List.foldl_flatMap]
  congr 1
  funext table file
  rw [List.foldl_map]
  congr 1
  funext table b
  exact hone table file.path b

/-- A file of which no block changes stays as it is. -/
theorem mapFile_eq_self {change : String → BlockRecord → BlockRecord} {file : ParsedFile}
    (h : ∀ b ∈ file.blocks, change file.path b = b) : mapFile change file = file := by
  have hblocks : file.blocks.map (change file.path) = file.blocks :=
    (List.map_congr_left h).trans (List.map_id _)
  rw [mapFile, hblocks]

/-- **Regrouping is a stable partition.** If the resolver of the field groups of a section succeeds,
all files and blocks keep their places, and in every block that declares fields there, the
declarations are partitioned into the groups that they name, or else stand in. Other keys of the
section, other sections and other blocks stay as they are, and resolving the field groups again
changes nothing. -/
theorem regrouping_is_a_stable_partition (kind : FieldKind) (defaultVersion : String)
    {files files' : List ParsedFile}
    (h : runOne defaultVersion (titles kind) files = (files', none)) :
    List.Forall₂ (fun file file' => file'.path = file.path ∧
        List.Forall₂ (Regrouped kind) file.blocks file'.blocks) files files' ∧
      runOne defaultVersion (titles kind) files' = (files', none) := by
  obtain ⟨hfiles, hnone⟩ := Prod.mk.inj h
  have hsettles := titles_settlesBy kind defaultVersion
    ((titles kind).gather defaultVersion files)
  have hblocks := (hsettles files).1.mp hnone
  have hchanged := hfiles.symm.trans ((hsettles files).2 hnone)
  have hframes : ∀ path b, SameFrame b (titleFields kind defaultVersion
      ((titles kind).gather defaultVersion files) path b).1 :=
    titleFields_keepsFrames kind defaultVersion _
  constructor
  · rw [hchanged, List.forall₂_map_right_iff, List.forall₂_same]
    intro file hfile
    refine ⟨rfl, ?_⟩
    rw [blocks_mapFile, List.forall₂_map_right_iff, List.forall₂_same]
    exact fun b hb => regrouped_of_titleFields (hblocks file hfile b hb)
  · have hgather : (titles kind).gather defaultVersion files' =
        (titles kind).gather defaultVersion files := by
      rw [hchanged]
      exact gather_mapFile hframes "define" defaultVersion files
    have hagain : ∀ file ∈ files', ∀ b ∈ file.blocks, titleFields kind defaultVersion
        ((titles kind).gather defaultVersion files) file.path b = (b, none) := by
      rw [hchanged]
      intro file' hfile' b' hb'
      obtain ⟨file, hfile, rfl⟩ := List.mem_map.mp hfile'
      obtain ⟨b, hb, rfl⟩ := List.mem_map.mp hb'
      exact titleFields_again (hblocks file hfile b hb)
    have hsucceeds := (hsettles files').1.mpr fun file hfile b hb =>
      congrArg Prod.snd (hagain file hfile b hb)
    rw [runOne, hgather]
    refine Prod.ext (((hsettles files').2 hsucceeds).trans ?_) hsucceeds
    refine (List.map_congr_left fun file hfile => ?_).trans (List.map_id files')
    exact mapFile_eq_self fun b hb => congrArg Prod.fst (hagain file hfile b hb)

/-- A block of which one array holds declarations of two groups, one of which has a definition, and
an item that names no group. -/
def mixedFiles : List ParsedFile :=
  [{ path := "a.js"
     blocks :=
      [{ globals := [("define", .obj [("name", .str "Created"), ("title", .str "Made")])]
         index := 1 },
        { locals := [("title", .str "A"), ("success", .obj
            [("examples", .arr []), ("fields", .obj
              [("Success 200", .arr
                [.obj [("group", .str "Created"), ("field", .str "a")],
                  .obj [("field", .str "b")]]),
                ("Created", .arr [.obj [("field", .str "c")]]), ("None", .arr []),
                ("Odd", .str "d")])])]
          index := 2 }] }]

/-- The groups stand in the order of their first declarations, each with its declarations in
order. -/
theorem regrouping_is_a_stable_partition_mixed :
    ∃ files', runOne "0.0.0" (titles .success) mixedFiles = (files', none) ∧
      runOne "0.0.0" (titles .success) files' = (files', none) ∧
      ∃ b' ∈ allBlocks files', ∃ part' groups, DeclaresFields .success b' part' groups ∧
        Table.keys groups = ["Created", "Success 200"] ∧
        Table.get? "Created" groups = some (.arr
          [.obj [("group", .str "Created"), ("field", .str "a")], .obj [("field", .str "c")]]) := by
  have hnone : (runOne "0.0.0" (titles .success) mixedFiles).2.isNone = true := by decide +kernel
  obtain ⟨files', h⟩ : ∃ files', runOne "0.0.0" (titles .success) mixedFiles = (files', none) :=
    ⟨_, Prod.ext rfl (Option.isNone_iff_eq_none.mp hnone)⟩
  obtain ⟨hfiles, hagain⟩ := regrouping_is_a_stable_partition .success "0.0.0" h
  refine ⟨files', h, hagain, ?_⟩
  obtain ⟨file', hfile', -, hblocks⟩ :=
    Registry.exists_of_forall₂_right hfiles.flip (List.mem_singleton.mpr rfl)
  obtain ⟨b', hb', hregrouped⟩ :=
    Registry.exists_of_forall₂_right hblocks.flip (List.mem_cons_of_mem _ List.mem_cons_self)
  obtain ⟨part', groups, titles, hdeclares, -, hpartition, -⟩ := hregrouped.fields _ _ ⟨rfl, rfl⟩
  refine ⟨b', List.mem_flatMap.mpr ⟨file', hfile', hb'⟩, part', groups, hdeclares, ?_, ?_⟩
  · exact hpartition.groups_in_order.trans (by decide +kernel)
  · exact (hpartition.items_of_group "Created" (by decide +kernel)).trans rfl

end Resolve

end ApiGloss
