import ApiGloss.Proofs.Tables
import ApiGloss.Resolve.Basic

/-!
# What a Definition Table Holds

A definition table is gathered block by block. This module says what ends up in it, without
reference to the gathering: under a name stand the definitions of that name in the order of
their blocks, a later definition of the same version taking the place of an earlier one.

## Main results

* `Resolve.get?_gather`: the entry of a gathered table under a name.
* `Resolve.exists_block_of_lookup`: whatever a look-up finds was kept of some block that
  defines the name.
-/

namespace ApiGloss

namespace Version

/-- Following candidates ends at one of them, or where it started. -/
theorem mem_of_follow {requested baseline : Version} {found : Option String}
    {candidates : List String} {v : String}
    (h : follow requested baseline found candidates = some v) :
    v ∈ candidates ∨ found = some v := by
  induction candidates generalizing baseline found with
  | nil => exact Or.inr h
  | cons c rest ih =>
      rw [follow] at h
      split at h
      · split at h
        · rcases ih h with h | h
          · exact Or.inl (List.mem_cons_of_mem _ h)
          · rw [Option.some.injEq] at h
            exact Or.inl (h ▸ List.mem_cons_self)
        · exact (ih h).imp_left (List.mem_cons_of_mem _)
      · exact (ih h).imp_left (List.mem_cons_of_mem _)

/-- A request is resolved to one of the candidates. -/
theorem mem_of_resolve {candidates : List String} {requested fallback v : String}
    (h : resolve candidates requested fallback = some v) : v ∈ candidates := by
  unfold resolve at h
  split at h
  · rename_i hc
    rw [Option.some.injEq] at h
    exact h ▸ List.contains_iff_mem.mp hc
  · split at h
    · exact (mem_of_follow h).resolve_right (by simp)
    · simp at h

end Version

namespace Resolve

/-! ### Gathering -/

/-- The name that a block defines, with its definition, if it holds one stored under
`source`. -/
def definition? (source : String) (b : BlockRecord) : Option (String × Json) :=
  (Table.get? source b.globals).map fun d => ((d.getStr? "name").getD "", d)

/-- What is kept of a block that defines a name, under its version. -/
def kept? (source : String) (pick : BlockRecord → Json → Json) (defaultVersion name : String)
    (b : BlockRecord) : Option (String × Json) :=
  (definition? source b).bind fun (n, d) =>
    if n = name then some (versionOf defaultVersion b, pick b d) else none

/-- What is kept of the definitions of a name, by version, in the order of their blocks. -/
def definitionsNamed (source : String) (pick : BlockRecord → Json → Json)
    (defaultVersion name : String) (blocks : List BlockRecord) : Table Json :=
  blocks.filterMap (kept? source pick defaultVersion name)

/-- Adds entries to a table that may not exist yet; no entries do not make a table. -/
def withVersions (known : Option (Table Json)) : Table Json → Option (Table Json)
  | [] => known
  | e :: more => some (Table.extend (known.getD []) (e :: more))

/-- Entries are added one after the other. -/
theorem withVersions_cons (known : Option (Table Json)) (e : String × Json)
    (more : Table Json) :
    withVersions known (e :: more) =
      withVersions (some (Table.insert e.1 e.2 (known.getD []))) more := by
  cases more <;> rfl

variable {source defaultVersion : String} {pick : BlockRecord → Json → Json}

/-- A block is kept under a name exactly if it defines that name. -/
theorem kept?_eq_some_iff {name : String} {b : BlockRecord} {e : String × Json} :
    kept? source pick defaultVersion name b = some e ↔
      ∃ d, definition? source b = some (name, d) ∧
        e = (versionOf defaultVersion b, pick b d) := by
  unfold kept?
  cases definition? source b with
  | none => simp
  | some nd =>
      obtain ⟨n, d⟩ := nd
      by_cases hn : n = name
      · subst hn
        simp [eq_comm]
      · simp [hn]

/-- One block adds its definition to the entry of the name that it defines. -/
theorem get?_addDefinition (t : DefinitionTable) (b : BlockRecord) (name : String) :
    Table.get? name (addDefinition source defaultVersion pick t b) =
      match kept? source pick defaultVersion name b with
      | none => Table.get? name t
      | some e => some (Table.insert e.1 e.2 ((Table.get? name t).getD [])) := by
  unfold addDefinition kept? definition?
  cases Table.get? source b.globals with
  | none => rfl
  | some d =>
      simp only [Table.get?_insert, Option.map_some, Option.bind_some]
      by_cases hn : (d.getStr? "name").getD "" = name
      · subst hn
        rw [if_pos rfl, if_pos rfl]
      · rw [if_neg hn, if_neg hn]

/-- Gathering on from a table adds the definitions of each name to its entry. -/
theorem get?_foldl_addDefinition (blocks : List BlockRecord) (t : DefinitionTable)
    (name : String) :
    Table.get? name (blocks.foldl (addDefinition source defaultVersion pick) t) =
      withVersions (Table.get? name t)
        (definitionsNamed source pick defaultVersion name blocks) := by
  induction blocks generalizing t with
  | nil => rfl
  | cons b rest ih =>
      rw [List.foldl_cons, ih, get?_addDefinition, definitionsNamed, definitionsNamed,
        List.filterMap_cons]
      cases kept? source pick defaultVersion name b with
      | none => rfl
      | some e => exact (withVersions_cons _ _ _).symm

/-- **The entry of a gathered table** under a name: the definitions of that name, by version,
in the order of their blocks. -/
theorem get?_gather (files : List ParsedFile) (name : String) :
    Table.get? name (gather source pick defaultVersion files) =
      withVersions none (definitionsNamed source pick defaultVersion name (allBlocks files)) :=
  get?_foldl_addDefinition _ _ _

/-- What is kept of the definitions of a name comes from the blocks that define it. -/
theorem mem_definitionsNamed {blocks : List BlockRecord} {name v : String} {j : Json} :
    (v, j) ∈ definitionsNamed source pick defaultVersion name blocks ↔
      ∃ b ∈ blocks, ∃ d, definition? source b = some (name, d) ∧
        v = versionOf defaultVersion b ∧ j = pick b d := by
  unfold definitionsNamed
  rw [List.mem_filterMap]
  refine exists_congr fun b => and_congr_right fun _ => ?_
  rw [kept?_eq_some_iff]
  simp only [Prod.mk.injEq]

/-! ### Look-up -/

/-- A look-up finds what stands under the resolved version. -/
theorem lookup_eq_found_iff {t : DefinitionTable} {name requested defaultVersion : String}
    {j : Json} :
    lookup t name requested defaultVersion = .found j ↔
      ∃ versions v, Table.get? name t = some versions ∧
        Version.resolve (Table.keys versions) requested defaultVersion = some v ∧
        Table.get? v versions = some j := by
  unfold lookup
  cases Table.get? name t with
  | none => simp
  | some versions =>
      simp only [Option.some.injEq, exists_and_left, exists_eq_left']
      cases hv : Version.resolve (Table.keys versions) requested defaultVersion with
      | none => simp
      | some v =>
          simp only [Option.some.injEq, exists_eq_left', Lookup.found.injEq]
          have hmem : v ∈ Table.keys versions := Version.mem_of_resolve hv
          cases hj : Table.get? v versions with
          | none => exact absurd hmem (Table.get?_eq_none_iff.mp hj)
          | some k => simp

/-- **What a look-up finds** in a gathered table was kept of a block that defines the name. -/
theorem exists_block_of_lookup {files : List ParsedFile} {name requested fallback : String}
    {j : Json}
    (h : lookup (gather source pick defaultVersion files) name requested fallback = .found j) :
    ∃ b ∈ allBlocks files, ∃ d, definition? source b = some (name, d) ∧ j = pick b d := by
  obtain ⟨versions, v, hname, -, hv⟩ := lookup_eq_found_iff.mp h
  rw [get?_gather] at hname
  have hmem : (v, j) ∈ definitionsNamed source pick defaultVersion name (allBlocks files) := by
    cases hds : definitionsNamed source pick defaultVersion name (allBlocks files) with
    | nil =>
        rw [hds] at hname
        cases hname
    | cons e more =>
        rw [hds, withVersions, Option.some.injEq] at hname
        subst hname
        exact (Table.mem_extend (Table.mem_of_get? hv)).resolve_left List.not_mem_nil
  obtain ⟨b, hb, d, hdef, -, hj⟩ := mem_definitionsNamed.mp hmem
  exact ⟨b, hb, d, hdef, hj⟩

end Resolve

end ApiGloss
