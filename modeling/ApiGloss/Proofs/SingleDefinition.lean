import ApiGloss.Proofs.ReadableRecords

/-!
# One Definition and No Reference After It

A block that defines something holds one definition, and it refers to other definitions only before
its own. This is checked element by element, before the values of an element are attached: the
check looks at the definitions that the block holds so far, at the path of the values, and at what
the reader of the tag permits.

For the built-in tags the check has a simple form. None of them may define something beside another
definition, so that no extra definitions are ever counted; the tags of definitions are those whose
path leads to the definitions of the block, and the tags of references are those that may not
follow one. Both kinds are barred once the block holds a definition (`Tag.barredTags`), and nothing
else is refused if the contents of the elements can be read and there is room for their values. So
a whole block is read exactly if no barred tag stands behind a tag of a definition.

## Main results

* `Registry.exists_readElement_iff`: when one element is read.
* `Registry.exists_foldlM_iff`: when a run over elements succeeds.
* `Registry.one_definition_and_no_reference_after`: which blocks are read, and what they define.
-/

namespace ApiGloss

open Json Record Shape

namespace Registry

/-- A path into the endpoint record does not lead into the definitions. -/
theorem isGlobalPath_of_local {path : String} {place : List String}
    (h : Text.split '.' path = "local" :: place) : isGlobalPath path = false := by
  rw [Bool.eq_false_iff]
  intro hglobal
  rw [isGlobalPath, Bool.or_eq_true, beq_iff_eq, List.isPrefixOf_iff_prefix] at hglobal
  have hhead : ∃ rest, Text.split '.' path = "global" :: rest := by
    rcases hglobal with rfl | ⟨rest, hrest⟩
    · exact ⟨[], by decide⟩
    · obtain rfl : "global" ++ "." ++ String.ofList rest = path := by
        rw [← String.toList_inj, ← hrest, String.toList_append, String.toList_ofList]
        rfl
      exact ⟨_, Text.split_append (by decide) _⟩
  obtain ⟨rest, hrest⟩ := hhead
  rw [hrest] at h
  exact absurd (List.cons.inj h).1 (by decide)

end Registry

/-! ### Tags of definitions and of references -/

namespace Tag

/-- All kinds of definitions. -/
def DefineKind.all : List DefineKind :=
  [.define, .errorStructure, .headerStructure, .successStructure]

/-- The **tags of references**, in lower case. -/
def referenceTags : List String :=
  ["apiuse", "apierrorstructure", "apiheaderstructure", "apisuccessstructure"]

/-- The tags that **may not follow a definition** in its block. -/
def barredTags : List String :=
  definitionTags ++ referenceTags

/-- The name under which the definition of a tag is stored, if it is a tag of a definition. -/
def definedName? (tag : String) : Option String :=
  (DefineKind.all.find? fun kind => Text.lower kind.tag == tag).map DefineKind.target

/-- Only the tags of definitions define something. -/
theorem definedName?_eq_none_iff {tag : String} :
    definedName? tag = none ↔ tag ∉ definitionTags := by
  rw [definedName?, Option.map_eq_none_iff, List.find?_eq_none]
  constructor
  · intro h hmem
    obtain ⟨kind, hkind, rfl⟩ := List.mem_map.mp hmem
    exact h kind hkind (beq_self_eq_true _)
  · intro h kind hkind htag
    exact h (List.mem_map.mpr ⟨kind, hkind, eq_of_beq htag⟩)

/-- The tags of definitions define something under the name of their kind. -/
theorem definedName?_tag (kind : DefineKind) :
    definedName? (Text.lower kind.tag) = some kind.target := by
  cases kind <;> decide

/-- The tag of a kind of definitions. -/
theorem tag_mem_definitionTags (kind : DefineKind) : Text.lower kind.tag ∈ definitionTags := by
  cases kind <;> decide

/-- The tag of the elements that define something of a kind. -/
theorem name_of_get?_definition {name : String} {kind : DefineKind}
    (h : Table.get? name builtin = some (definition kind)) : name = Text.lower kind.tag := by
  have hall : ∀ kind ∈ DefineKind.all, ∀ e ∈ builtin,
      e.2.path {} = (definition kind).path {} → e.1 = Text.lower kind.tag := by
    decide +kernel
  have hkind : kind ∈ DefineKind.all := by
    cases kind <;> decide
  exact hall kind hkind _ (Table.mem_of_get? h) rfl

/-- All barred tags are known. -/
theorem not_mem_barredTags_of_unknown {name : String} (h : Table.get? name builtin = none) :
    name ∉ barredTags := by
  have hall : ∀ name ∈ barredTags, (Table.get? name builtin).isSome = true := by
    decide +kernel
  intro hmem
  have hknown := hall name hmem
  rw [h] at hknown
  cases hknown

/-- No built-in tag may define something beside another definition, and the tags that may not
follow a definition by themselves are those of references. -/
theorem permits_builtin {name : String} {reader : TagReader}
    (h : Table.get? name builtin = some reader) :
    reader.allowMultiple = false ∧ (reader.preventGlobal = true ↔ name ∈ referenceTags) := by
  have hall : ∀ e ∈ builtin, e.2.allowMultiple = false ∧
      (e.2.preventGlobal = true ↔ e.1 ∈ referenceTags) := by
    decide +kernel
  exact hall _ (Table.mem_of_get? h)

/-- No tag of a reference is one of a definition. -/
theorem not_mem_definitionTags_of_reference {name : String} (h : name ∈ referenceTags) :
    name ∉ definitionTags := by
  have hall : ∀ name ∈ referenceTags, name ∉ definitionTags := by decide
  exact hall name h

/-! ### Places and contents -/

/-- A tag other than those of definitions has its place in the endpoint record. -/
theorem Place.definition_or_local {reader : TagReader} (h : Place reader) :
    (∃ kind, reader = Tag.definition kind) ∨
      ∀ ctx, ∃ place, Text.split '.' (reader.path ctx) = "local" :: place := by
  cases h with
  | field kind =>
      -- without a group of its own, a declaration belongs to the default group
      exact Or.inr fun ctx => ⟨_, split_path_field kind (ctx.currentGroup.getD kind.defaultGroup)⟩
  | item place _ _ _ _ hpath => exact Or.inr fun ctx => ⟨place, hpath ctx⟩
  | entries _ _ _ hpath => exact Or.inr fun ctx => ⟨[], hpath ctx⟩
  | definition kind => exact Or.inl ⟨kind, rfl⟩

/-- **The paths of definitions** are those that lead into the definitions of the block. -/
theorem isGlobalPath_iff {name : String} {reader : TagReader}
    (h : Table.get? name builtin = some reader) (ctx : ReadContext) :
    Registry.isGlobalPath (reader.path ctx) = true ↔ name ∈ definitionTags := by
  rcases (place_builtin h).definition_or_local with ⟨kind, rfl⟩ | hlocal
  · rw [name_of_get?_definition h]
    exact iff_of_true (Registry.isGlobalPath_definition kind ctx) (tag_mem_definitionTags kind)
  · obtain ⟨place, hplace⟩ := hlocal ctx
    obtain ⟨root, hroot⟩ := hlocal { currentGroup := some "" }
    rw [Registry.isGlobalPath_of_local hplace, mem_definitionTags_iff h]
    exact iff_of_false nofun (Registry.not_defines_of_path hroot)

/-- What a reader makes of a content **does not depend on the context**. -/
def ContextFree (reader : TagReader) : Prop :=
  ∀ content ctx ctx', (reader.read content ctx).map Prod.fst =
    (reader.read content ctx').map Prod.fst

/-- What is read without regard to the context. -/
theorem map_fst_plainly (read : String → Except ParameterError (Option (Table Json)))
    (content : String) (ctx : ReadContext) :
    (plainly read content ctx).map Prod.fst = read content := by
  rw [plainly]
  cases read content <;> rfl

/-- Declarations are read in their own group, or in the default group of their section. -/
theorem contextFree_field (kind : FieldKind) : ContextFree (field kind) := by
  intro content ctx ctx'
  unfold field
  dsimp only
  cases FieldDecl.parse? content kind.defaultGroup <;> rfl

/-- **No built-in reader** depends on the context. -/
theorem contextFree_builtin {name : String} {reader : TagReader}
    (h : Table.get? name builtin = some reader) : ContextFree reader := by
  have hall : ∀ e ∈ builtin, ContextFree e.2 := by
    simp only [builtin, List.forall_mem_cons, contextFree_field]
    simp only [ContextFree, endpoint, definition, deprecation, description, fieldExample,
      structureUse, generalExample, groupName, endpointName, singleValue, privateMark, use, version,
      endpointReader, map_fst_plainly, List.not_mem_nil, implies_true, false_implies, and_self]
  exact hall _ (Table.mem_of_get? h)

/-- A content that can be read at all can be read in every context. -/
theorem exists_read_builtin {name content : String} {reader : TagReader}
    (hreader : Table.get? name builtin = some reader) {ctx : ReadContext}
    (h : ∃ values after, reader.read content ctx = .ok (some values, after)) (ctx' : ReadContext) :
    ∃ values after, reader.read content ctx' = .ok (some values, after) := by
  obtain ⟨values, after, hread⟩ := h
  have hfree := contextFree_builtin hreader content ctx' ctx
  rw [hread] at hfree
  rcases hread' : reader.read content ctx' with cause | ⟨values?, after'⟩
  · rw [hread'] at hfree
    cases hfree
  · rw [hread'] at hfree
    cases hfree
    exact ⟨values, after', rfl⟩

end Tag

namespace Registry

variable {r : Registry} {reader : TagReader} {e : Element} {st st' : BlockState}

/-- The content of an element **can be read**, unless its tag is unknown. -/
def CanRead (r : Registry) (e : Element) : Prop :=
  ∀ reader, Table.get? e.name r.readers = some reader →
    ∃ values context, reader.read (Text.trim e.content) {} = .ok (some values, context)

instance (e : Element) : Decidable (r.CanRead e) :=
  decidable_of_iff
    ((Table.get? e.name r.readers).all fun reader =>
      match reader.read (Text.trim e.content) {} with
      | .ok (some _, _) => true
      | _ => false) <| by
    rw [Option.all_eq_true]
    refine forall₂_congr fun reader _ => ?_
    rcases reader.read (Text.trim e.content) {} with cause | ⟨_ | values, context⟩
    · exact iff_of_false nofun nofun
    · exact iff_of_false nofun nofun
    · exact iff_of_true rfl ⟨values, context, rfl⟩

/-! ### Checking a place -/

/-- **A place is free** if the block holds no definition, or the values neither are one nor may not
follow one. -/
theorem exists_checkPlace_iff {path : String} (hmultiple : reader.allowMultiple = false)
    (heither : reader.preventGlobal = true → isGlobalPath path = false)
    (hextra : st.extraDefinitions = 0) :
    (∃ st₁, checkPlace reader path st = .ok st₁) ↔
      (st.record.globals ≠ [] → reader.preventGlobal = false ∧ isGlobalPath path = false) := by
  unfold checkPlace
  rw [hextra, hmultiple]
  cases st.record.globals with
  | nil =>
      cases hprevent : reader.preventGlobal with
      | true => simp [heither hprevent]
      | false => simp
  | cons e rest => cases reader.preventGlobal <;> cases isGlobalPath path <;> simp

/-- A check that counts no extra definitions changes nothing. -/
theorem eq_of_checkPlace {path : String} (hmultiple : reader.allowMultiple = false)
    (h : checkPlace reader path st = .ok st') : st' = st := by
  unfold checkPlace at h
  rw [hmultiple] at h
  split at h
  · cases h
  · split at h
    · rw [if_neg Bool.false_ne_true] at h
      split at h
      · cases h
      · split at h
        · cases h
        · cases h
          rfl
    · cases h
      rfl

/-! ### One element -/

/-- The place of a built-in tag is free unless the block holds a definition and the tag is
barred. -/
theorem exists_checkPlace_builtin_iff (hreader : Table.get? e.name Tag.builtin = some reader)
    (st : BlockState) (hextra : st.extraDefinitions = 0) (ctx : ReadContext) :
    (∃ st₁, checkPlace reader (reader.path ctx) st = .ok st₁) ↔
      (st.record.globals ≠ [] → e.name ∉ Tag.barredTags) := by
  obtain ⟨hmultiple, hprevent⟩ := Tag.permits_builtin hreader
  have hglobal := Tag.isGlobalPath_iff hreader ctx
  have heither : reader.preventGlobal = true → isGlobalPath (reader.path ctx) = false := by
    intro h
    rw [Bool.eq_false_iff, Ne, hglobal]
    exact Tag.not_mem_definitionTags_of_reference (hprevent.mp h)
  rw [exists_checkPlace_iff hmultiple heither hextra, ← Bool.not_eq_true, ← Bool.not_eq_true,
    hprevent, hglobal, Tag.barredTags, List.mem_append, not_or, and_comm]

/-- **One element is read** unless the block holds a definition and its tag is barred. -/
theorem exists_readElement_iff (hreader : Table.get? e.name Tag.builtin = some reader)
    (hread : ∃ values context, reader.read (Text.trim e.content) {} = .ok (some values, context))
    {index : Nat} (hholds : HoldsShape (r.readElement reader index e st))
    (hextra : st.extraDefinitions = 0) :
    (∃ st', r.readElement reader index e st = .ok st') ↔
      (st.record.globals ≠ [] → e.name ∉ Tag.barredTags) := by
  obtain ⟨values, context, hread⟩ := Tag.exists_read_builtin hreader hread st.context
  have hcheck :=
    exists_checkPlace_builtin_iff hreader { st with context := context } hextra context
  rw [← hcheck]
  constructor
  · rintro ⟨st', hst'⟩
    obtain ⟨values', context', st₁, -, hread', hst₁, -⟩ := exists_of_readElement hst'
    rw [hread] at hread'
    cases hread'
    exact ⟨st₁, hst₁⟩
  · rintro ⟨st₁, hst₁⟩
    cases hok : r.readElement reader index e st with
    | ok st' => exact ⟨st', rfl⟩
    | error cause =>
        -- the check has succeeded, so that only a missing path or room could be the cause
        obtain ⟨hpath, hroom⟩ := hholds.of_error cause hok
        simp only [readElement_eq, hread, placeValues, hst₁] at hok
        split at hok
        · cases hok
          exact absurd rfl hpath
        · split at hok
          · cases hok
            exact absurd rfl (hroom _)
          · cases hok

/-- **What one element defines**: no extra definition, and one under the name of its tag if it is a
tag of a definition. -/
theorem keys_globals_of_readElement (hreader : Table.get? e.name Tag.builtin = some reader)
    {index : Nat} (h : r.readElement reader index e st = .ok st') :
    st'.extraDefinitions = st.extraDefinitions ∧
      Table.keys st'.record.globals =
        Table.keys st.record.globals ++ (Tag.definedName? e.name).toList := by
  obtain ⟨values, context, st₁, b, -, hcheck, hattach, rfl⟩ := exists_of_readElement h
  obtain rfl := eq_of_checkPlace (Tag.permits_builtin hreader).1 hcheck
  refine ⟨rfl, ?_⟩
  rcases (Tag.place_builtin hreader).definition_or_local with ⟨kind, rfl⟩ | hlocal
  · have hempty := globals_of_checkPlace_definition hcheck
    change st.record.globals = [] at hempty
    obtain ⟨-, hglobals⟩ := attachAt_global_cases (Tag.split_path_definition kind context) hattach
    rw [globals_atRoot, hempty] at hglobals
    have hname := Tag.name_of_get?_definition hreader
    have hkeys : Table.keys b.globals = [kind.target] := by
      rw [← Option.some.inj hglobals]
      rfl
    rw [hempty, hname, Tag.definedName?_tag]
    exact hkeys
  · obtain ⟨place, hplace⟩ := hlocal context
    obtain ⟨root, hroot⟩ := hlocal { currentGroup := some "" }
    have hnone : Tag.definedName? e.name = none := by
      rw [Tag.definedName?_eq_none_iff, Tag.mem_definitionTags_iff hreader]
      exact not_defines_of_path hroot
    rw [(attachAt_local_cases hplace hattach).1, globals_atRoot, hnone, Option.toList_none,
      List.append_nil]

/-! ### All elements of a block -/

/-- **One element of any tag is read** unless the block holds a definition and the tag is barred. -/
theorem exists_elementOutcome_iff (hreaders : r.readers = Tag.builtin) (file : String)
    (index : Nat) (hread : r.CanRead e) (hplain : PlainGroups [e])
    (hfits : EntriesFit Endpoint.partShape st.record.locals) (hextra : st.extraDefinitions = 0) :
    (∃ st', r.elementOutcome file index st e = .ok st') ↔
      (st.record.globals ≠ [] → e.name ∉ Tag.barredTags) := by
  unfold elementOutcome
  cases hreader : Table.get? e.name r.readers with
  | none =>
      exact iff_of_true ⟨st, rfl⟩ fun _ => Tag.not_mem_barredTags_of_unknown (hreaders ▸ hreader)
  | some reader =>
      have hbuiltin : Table.get? e.name Tag.builtin = some reader := hreaders ▸ hreader
      have hholds := holds_readElement_builtin (r := r) hbuiltin hplain hfits index
      rw [← exists_readElement_iff hbuiltin (hread reader hreader) hholds hextra]
      dsimp only
      cases r.readElement reader index e st with
      | ok st₁ => exact iff_of_true ⟨st₁, rfl⟩ ⟨st₁, rfl⟩
      | error cause => exact iff_of_false nofun nofun

/-- **What an element of any tag defines.** -/
theorem keys_globals_of_elementOutcome (hreaders : r.readers = Tag.builtin) {file : String}
    {index : Nat} (h : r.elementOutcome file index st e = .ok st') :
    st'.extraDefinitions = st.extraDefinitions ∧
      Table.keys st'.record.globals =
        Table.keys st.record.globals ++ (Tag.definedName? e.name).toList := by
  cases hreader : Table.get? e.name r.readers with
  | none =>
      have hnone : Tag.definedName? e.name = none := by
        rw [Tag.definedName?_eq_none_iff]
        intro hmem
        exact Tag.not_mem_barredTags_of_unknown (hreaders ▸ hreader) (List.mem_append_left _ hmem)
      rw [elementOutcome, hreader] at h
      cases h
      rw [hnone, Option.toList_none, List.append_nil]
      exact ⟨rfl, rfl⟩
  | some reader =>
      exact keys_globals_of_readElement (hreaders ▸ hreader)
        (readElement_of_elementOutcome hreader h)

/-- **What a run over elements defines**, in order of their tags. -/
theorem keys_globals_of_foldlM (hreaders : r.readers = Tag.builtin) {file : String} {index : Nat}
    {elements : List Element} (h : elements.foldlM (r.elementOutcome file index) st = .ok st') :
    Table.keys st'.record.globals =
      Table.keys st.record.globals ++ elements.filterMap fun e => Tag.definedName? e.name := by
  induction elements generalizing st with
  | nil =>
      cases h
      rw [List.filterMap_nil, List.append_nil]
  | cons e rest ih =>
      rw [List.foldlM_cons, Run.bind_eq_ok_iff] at h
      obtain ⟨st₁, hone, h⟩ := h
      rw [ih h, (keys_globals_of_elementOutcome hreaders hone).2, List.append_assoc,
        List.filterMap_cons]
      cases Tag.definedName? e.name <;> rfl

/-- **A run over elements succeeds** exactly if no barred tag stands behind a definition, be it one
that the block holds already or one of an element before. -/
theorem exists_foldlM_iff (hreaders : r.readers = Tag.builtin) (file : String) (index : Nat)
    {elements : List Element} (hreads : ∀ e ∈ elements, r.CanRead e) (hplain : PlainGroups elements)
    (hfits : EntriesFit Endpoint.partShape st.record.locals) (hextra : st.extraDefinitions = 0) :
    (∃ st', elements.foldlM (r.elementOutcome file index) st = .ok st') ↔
      (st.record.globals ≠ [] → ∀ e ∈ elements, e.name ∉ Tag.barredTags) ∧
        elements.Pairwise fun e e' => e.name ∈ Tag.definitionTags → e'.name ∉ Tag.barredTags := by
  induction elements generalizing st with
  | nil => exact iff_of_true ⟨st, rfl⟩ ⟨fun _ => nofun, List.Pairwise.nil⟩
  | cons e rest ih =>
      obtain ⟨hread, hreads⟩ := List.forall_mem_cons.mp hreads
      have hhead : PlainGroups [e] := List.forall_mem_singleton.mpr (hplain e List.mem_cons_self)
      have hrest : PlainGroups rest := fun e' he' => hplain e' (List.mem_cons_of_mem _ he')
      have hstep := exists_elementOutcome_iff hreaders file index hread hhead hfits hextra
      -- behind an element the block holds a definition if it did before or the element is one
      have hafter : ∀ {st₁}, r.elementOutcome file index st e = .ok st₁ →
          ((∃ st', rest.foldlM (r.elementOutcome file index) st₁ = .ok st') ↔
            (st.record.globals ≠ [] ∨ e.name ∈ Tag.definitionTags →
              ∀ e' ∈ rest, e'.name ∉ Tag.barredTags) ∧
            rest.Pairwise fun e e' => e.name ∈ Tag.definitionTags → e'.name ∉ Tag.barredTags) := by
        intro st₁ hone
        obtain ⟨hextra₁, hkeys⟩ := keys_globals_of_elementOutcome hreaders hone
        have hne : st₁.record.globals ≠ [] ↔
            st.record.globals ≠ [] ∨ e.name ∈ Tag.definitionTags := by
          rw [Ne, ← List.map_eq_nil_iff, ← Table.keys, hkeys, List.append_eq_nil_iff, Table.keys,
            List.map_eq_nil_iff, Option.toList_eq_nil_iff, Tag.definedName?_eq_none_iff,
            not_and_or, not_not]
        have hfits₁ : EntriesFit Endpoint.partShape st₁.record.locals := by
          rcases holds_elementOutcome hreaders file index hhead hfits with
            ⟨st₂, hst₂, hfits₂⟩ | ⟨cause, hcause, -⟩
          · obtain rfl := Except.ok.inj (hone.symm.trans hst₂)
            exact hfits₂
          · rw [hone] at hcause
            cases hcause
        rw [ih hreads hrest hfits₁ (hextra₁.trans hextra), hne]
      rw [List.foldlM_cons, List.pairwise_cons, List.forall_mem_cons]
      constructor
      · rintro ⟨st', h⟩
        obtain ⟨st₁, hone, h⟩ := Run.bind_eq_ok_iff.mp h
        obtain ⟨hbarred, hpairs⟩ := (hafter hone).mp ⟨st', h⟩
        refine ⟨fun hne => ⟨hstep.mp ⟨st₁, hone⟩ hne, hbarred (Or.inl hne)⟩, ?_, hpairs⟩
        exact fun e' he' hdef => hbarred (Or.inr hdef) e' he'
      · rintro ⟨hbarred, hbehind, hpairs⟩
        obtain ⟨st₁, hone⟩ := hstep.mpr fun hne => (hbarred hne).1
        have hlater : st.record.globals ≠ [] ∨ e.name ∈ Tag.definitionTags →
            ∀ e' ∈ rest, e'.name ∉ Tag.barredTags := by
          rintro (hne | hdef)
          · exact (hbarred hne).2
          · exact fun e' he' => hbehind e' he' hdef
        obtain ⟨st', h⟩ := (hafter hone).mpr ⟨hlater, hpairs⟩
        exact ⟨st', Run.bind_eq_ok_iff.mpr ⟨st₁, hone, h⟩⟩

/-- At most one element has a property exactly if none of those that have it stands behind
another. -/
theorem length_filter_le_one_iff {P : Element → Prop} [DecidablePred P] {elements : List Element} :
    (elements.filter P).length ≤ 1 ↔ elements.Pairwise fun e e' => P e → ¬ P e' := by
  have hfilter : (elements.filter P).Pairwise (fun _ _ => False) ↔
      elements.Pairwise fun e e' => P e → ¬ P e' := by
    simp only [List.pairwise_filter, decide_eq_true_eq, imp_false]
  rw [← hfilter]
  generalize elements.filter P = chosen
  match chosen with
  | [] => exact iff_of_true (Nat.zero_le 1) List.Pairwise.nil
  | [e] => exact iff_of_true (Nat.le_refl 1) (List.pairwise_singleton _ e)
  | e :: e' :: rest =>
      refine iff_of_false (by simp) fun h => ?_
      exact (List.pairwise_cons.mp h).1 e' List.mem_cons_self

/-- No barred tag stands behind a definition exactly if there is at most one definition, and no
reference stands behind it. -/
theorem pairwise_barredTags_iff {elements : List Element} :
    (elements.Pairwise fun e e' => e.name ∈ Tag.definitionTags → e'.name ∉ Tag.barredTags) ↔
      (elements.filter fun e => e.name ∈ Tag.definitionTags).length ≤ 1 ∧
        elements.Pairwise fun e e' =>
          e.name ∈ Tag.definitionTags → e'.name ∉ Tag.referenceTags := by
  rw [length_filter_le_one_iff, ← List.pairwise_and_iff]
  simp only [Tag.barredTags, List.mem_append, not_or, imp_and]

/-- A definition without another one beside it is the only name that its block defines. -/
theorem filterMap_definedName? {elements : List Element} {e : Element} {kind : Tag.DefineKind}
    (hpairs : elements.Pairwise fun e e' =>
      e.name ∈ Tag.definitionTags → e'.name ∉ Tag.definitionTags)
    (he : e ∈ elements) (hname : e.name = Text.lower kind.tag) :
    (elements.filterMap fun e => Tag.definedName? e.name) = [kind.target] := by
  have hdef : e.name ∈ Tag.definitionTags := hname ▸ Tag.tag_mem_definitionTags kind
  obtain ⟨before, after, rfl⟩ := List.append_of_mem he
  obtain ⟨-, hafter, hbefore⟩ := List.pairwise_append.mp hpairs
  have hbefore : ∀ e' ∈ before, Tag.definedName? e'.name = none := fun e' he' =>
    Tag.definedName?_eq_none_iff.mpr fun hdef' => hbefore e' he' e List.mem_cons_self hdef' hdef
  have hafter : ∀ e' ∈ after, Tag.definedName? e'.name = none := fun e' he' =>
    Tag.definedName?_eq_none_iff.mpr ((List.pairwise_cons.mp hafter).1 e' he' hdef)
  rw [List.filterMap_append, List.filterMap_cons, hname, Tag.definedName?_tag,
    List.filterMap_eq_nil_iff.mpr hbefore, List.filterMap_eq_nil_iff.mpr hafter, List.nil_append]

/-- **A block holds one definition, and no reference after it.** If the contents of all known tags
can be read and no field is declared in a group with a dot, then a block is read exactly if at most
one of its elements is a definition, of whatever kind, and no reference stands behind a definition.
A block that is read defines nothing if it has no such element, and otherwise it defines one thing,
under the name of that kind; and its position is known exactly if one of its tags is. -/
theorem one_definition_and_no_reference_after (hreaders : r.readers = Tag.builtin) (file : String)
    (index : Nat) {elements : List Element} (hreads : ∀ e ∈ elements, r.CanRead e)
    (hplain : PlainGroups elements) (j : Journal) :
    ((∃ b, ((r.parseBlock file index elements).outcome j).1 = .ok b) ↔
      (elements.filter fun e => e.name ∈ Tag.definitionTags).length ≤ 1 ∧
        elements.Pairwise fun e e' =>
          e.name ∈ Tag.definitionTags → e'.name ∉ Tag.referenceTags) ∧
    ∀ b, ((r.parseBlock file index elements).outcome j).1 = .ok b →
      ((∀ e ∈ elements, e.name ∉ Tag.definitionTags) → b.globals = []) ∧
      (∀ e ∈ elements, ∀ kind : Tag.DefineKind, e.name = Text.lower kind.tag →
        Table.keys b.globals = [kind.target]) ∧
      (b.index ≠ 0 ↔ ∃ e ∈ elements, Table.contains e.name r.readers = true) := by
  rw [r.parseBlock_yields file index elements j]
  have hempty : EntriesFit Endpoint.partShape ({} : BlockState).record.locals := EntriesFit.nil
  have hrun := exists_foldlM_iff hreaders file index hreads hplain hempty rfl
  rw [and_iff_right fun hne => absurd rfl hne, pairwise_barredTags_iff] at hrun
  refine ⟨?_, fun b hb => ?_⟩
  · rw [← hrun]
    constructor
    · rintro ⟨b, hb⟩
      obtain ⟨st, hst, -⟩ := Run.bind_eq_ok_iff.mp hb
      exact ⟨st, hst⟩
    · rintro ⟨st, hst⟩
      exact ⟨st.record, Run.bind_eq_ok_iff.mpr ⟨st, hst, rfl⟩⟩
  · have htells := tells_of_blockOutcome hreaders hb
    obtain ⟨st, hst, hrecord⟩ := Run.bind_eq_ok_iff.mp hb
    cases hrecord
    have hkeys := keys_globals_of_foldlM hreaders hst
    refine ⟨fun hnone => ?_, fun e he kind hname => ?_, htells.index_ne_iff⟩
    · by_contra hne
      obtain ⟨e, he, hdef⟩ := htells.globals_ne_iff.mp hne
      exact hnone e he hdef
    · obtain ⟨hone, -⟩ := hrun.mp ⟨st, hst⟩
      rw [hkeys, filterMap_definedName? (length_filter_le_one_iff.mp hone) he hname]
      rfl

/-- A reference, an unknown tag, a definition and a field, in this order. -/
def definingElements : List Element :=
  [⟨"apiUse", "apiuse", "Other", "@apiUse Other"⟩, ⟨"apiX", "apix", "", "@apiX"⟩,
    ⟨"apiDefine", "apidefine", "Own", "@apiDefine Own"⟩,
    ⟨"apiParam", "apiparam", "(g) x", "@apiParam (g) x"⟩]

/-- The elements are read in this order, and not with the reference behind the definition. -/
theorem one_definition_and_no_reference_after_reversed :
    (∃ b, ((Registry.parseBlock {} "a.js" 0 definingElements).outcome {}).1 = .ok b ∧
      Table.keys b.globals = ["define"] ∧ b.index ≠ 0) ∧
    ¬ ∃ b, ((Registry.parseBlock {} "a.js" 0 definingElements.reverse).outcome {}).1 = .ok b := by
  have hreads : ∀ e ∈ definingElements, CanRead {} e := by decide +kernel
  have hplain : PlainGroups definingElements := by decide +kernel
  have hreads' : ∀ e ∈ definingElements.reverse, CanRead {} e :=
    fun e he => hreads e (List.mem_reverse.mp he)
  have hplain' : PlainGroups definingElements.reverse :=
    fun e he => hplain e (List.mem_reverse.mp he)
  obtain ⟨hiff, hholds⟩ :=
    one_definition_and_no_reference_after rfl "a.js" 0 hreads hplain {}
  obtain ⟨b, hb⟩ := hiff.mpr (by decide)
  obtain ⟨-, hkeys, hindex⟩ := hholds b hb
  refine ⟨⟨b, hb, ?_, hindex.mpr (by decide)⟩, ?_⟩
  · exact hkeys _ (List.mem_of_getElem? (i := 2) rfl) .define (by decide)
  · rw [(one_definition_and_no_reference_after rfl "a.js" 0 hreads' hplain' {}).1]
    decide

end Registry

end ApiGloss
