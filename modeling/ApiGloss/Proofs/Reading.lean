import ApiGloss.Proofs.Outcome
import ApiGloss.Proofs.Paths
import ApiGloss.Proofs.Places

/-!
# What Reading a Block Declares

The built-in field tags attach their declarations to the endpoint record, below the section of
the tag, `fields` and the group of the declaration. The group is free text, and the path is cut
at every dot: a group without dots names one entry of `fields`, whereas a group with dots leads
further down.

This module follows the elements of a block. No tag other than a field tag touches the fields of
a section (`Tag.place_builtin`), so that a declaration stays where it was attached, and all
arrays directly below `fields` hold declarations of the group by which they are found.

## Main results

* `Registry.hasItem_of_blockOutcome`: a declaration in a group without dots is found in the array
  of its group.
* `Registry.declared_of_blockOutcome`: what stands below the fields of a section.
-/

namespace ApiGloss

/-! ### The groups of a section -/

open Json Record

/-- An array directly below the fields of a section holds **declarations of the group** by whose
name it is found, a name without dots. Other values there lead to groups with dots. -/
def DeclaredGroup (group : String) (j : Json) : Prop :=
  '.' ∉ group.toList ∧
    (∀ items, j = .arr items → ∀ item ∈ items,
      item.getStr? "group" = some group ∧ ∃ name, item.getStr? "field" = some name) ∧
    Entries (fun _ v => v.str? = none) j

/-- The fields of a section are grouped as declared. -/
def DeclaredSection (kind : FieldKind) : String → Json → Prop :=
  Under kind.sectionName (Under "fields" DeclaredGroup)

/-- Attaching below an entry stores no text there. -/
theorem entries_str?_attach {values child child' : Table Json} {head : String}
    {rest : List String} (h : ∀ e ∈ child, e.2.str? = none)
    (hattach : attach .push values (head :: rest) child = some child') :
    ∀ e ∈ child', e.2.str? = none := by
  obtain ⟨slot, rfl, hslot⟩ := attach_cons_cases hattach
  refine entries_insert (R := fun _ v => v.str? = none) h ?_
  rcases hslot with ⟨-, items, -, rfl⟩ | ⟨-, c, c', -, -, rfl⟩
  · rfl
  · rfl

/-- **Attaching a declaration** at its group keeps the groups as declared. -/
theorem attachKeeps_declaredGroup {values : Table Json} {group name : String}
    (hgroup : (Json.obj values).getStr? "group" = some group)
    (hfield : (Json.obj values).getStr? "field" = some name) :
    AttachKeeps DeclaredGroup values (Text.split '.' group) := by
  intro t t' ht hattach
  obtain ⟨head, rest, hsplit⟩ := Text.exists_split_eq_cons group
  have hdot : '.' ∉ head.toList :=
    Text.not_mem_of_mem_split (hsplit ▸ List.mem_cons_self)
  rw [hsplit] at hattach
  obtain ⟨slot, rfl, hslot⟩ := attach_cons_cases hattach
  refine entries_insert ht ⟨hdot, ?_⟩
  rcases hslot with ⟨rfl, items, hget, rfl⟩ | ⟨hrest, child, child', hget, hchild, rfl⟩
  · obtain rfl : group = head := Text.eq_of_split_eq_singleton hsplit
    have hitems : ∀ item ∈ items,
        item.getStr? "group" = some group ∧ ∃ name, item.getStr? "field" = some name := by
      rcases Table.eq_or_mem_of_getD hget with hempty | hmem
      · cases hempty
        exact nofun
      · exact (ht _ hmem).2.1 items rfl
    refine ⟨?_, trivial⟩
    rintro _ ⟨⟩ item hitem
    rcases List.mem_append.mp hitem with hitem | hitem
    · exact hitems item hitem
    · obtain rfl := List.mem_singleton.mp hitem
      exact ⟨hgroup, name, hfield⟩
  · refine ⟨nofun, ?_⟩
    have hstr : ∀ e ∈ child, e.2.str? = none := by
      rcases Table.eq_or_mem_of_getD hget with hempty | hmem
      · cases hempty
        exact nofun
      · exact (ht _ hmem).2.2
    obtain ⟨next, more, rfl⟩ := List.exists_cons_of_ne_nil hrest
    exact entries_str?_attach hstr hchild

/-! ### Rendering -/

namespace Record

/-- Changing a value at a path keeps the names of a record. -/
theorem keys_modifyAt (f : Json → Json) (path : List String) (t : Table Json) :
    Table.keys (modifyAt f path t) = Table.keys t := by
  match path with
  | [] => rfl
  | [last] => exact Table.keys_modify last f t
  | head :: next :: rest => exact Table.keys_modify head _ t

/-- Rendering keeps the names of the values. -/
theorem keys_renderFields (renderer : Renderer) (reader : TagReader) (values : Table Json) :
    Table.keys (renderFields renderer reader values) = Table.keys values := by
  unfold renderFields
  induction reader.markdown generalizing values with
  | nil => rfl
  | cons field rest ih => rw [List.foldl_cons, ih, keys_modifyAt]

/-- Rendering a declaration leaves its group and its name alone. -/
theorem get?_renderFields_field (renderer : Renderer) (kind : FieldKind) (values : Table Json)
    {key : String} (htype : "type" ≠ key) (hdescription : "description" ≠ key) :
    Table.get? key (renderFields renderer (Tag.field kind) values) = Table.get? key values := by
  have hd : Text.split '.' "description" = ["description"] := by decide
  have ht : Text.split '.' "type" = ["type"] := by decide
  unfold renderFields Tag.field
  dsimp only
  split
  · simp only [List.foldl_cons, List.foldl_nil, hd, modifyAt, Table.get?_modify,
      if_neg hdescription]
  · simp only [List.foldl_cons, List.foldl_nil, hd, ht, modifyAt, Table.get?_modify,
      if_neg hdescription, if_neg htype]

end Record

namespace Registry

variable (r : Registry)

/-- The values of a tag as they are attached: rendered, if there is a renderer. -/
def rendered (reader : TagReader) (values : Table Json) : Table Json :=
  match r.renderer with
  | some renderer => renderFields renderer reader values
  | none => values

/-- Rendering keeps the names of the values. -/
theorem keys_rendered (reader : TagReader) (values : Table Json) :
    Table.keys (r.rendered reader values) = Table.keys values := by
  unfold rendered
  split
  · exact keys_renderFields _ reader values
  · rfl

/-- Rendering a declaration leaves its group and its name alone. -/
theorem getStr?_rendered_field (kind : FieldKind) (values : Table Json) {key : String}
    (htype : "type" ≠ key) (hdescription : "description" ≠ key) :
    (Json.obj (r.rendered (Tag.field kind) values)).getStr? key =
      (Json.obj values).getStr? key := by
  unfold rendered
  split
  · show (Table.get? key _).bind str? = (Table.get? key values).bind str?
    rw [get?_renderFields_field _ kind values htype hdescription]
  · rfl

/-! ### Reading elements -/

/-- Checking the place of values does not touch the record. -/
theorem checkPlace_record {reader : TagReader} {path : String} {st st' : BlockState}
    (h : checkPlace reader path st = .ok st') : st'.record = st.record := by
  unfold checkPlace at h
  split at h
  · cases h
  · split at h
    · split at h
      · cases h
        rfl
      · split at h
        · cases h
        · split at h
          · cases h
          · cases h
            rfl
    · cases h
      rfl

/-- Attaching at a path into the endpoint record. -/
theorem attachAt_local {path : String} {place : List String}
    (h : Text.split '.' path = "local" :: place) (method : AttachMethod) (values : Table Json)
    (b : BlockRecord) :
    attachAt method values path b =
      (attach method values place b.locals).map fun t => { b with locals := t } := by
  unfold attachAt
  rw [h]
  rfl

/-- Attaching at a path into the definitions of a block. -/
theorem attachAt_global {path : String} {place : List String}
    (h : Text.split '.' path = "global" :: place) (method : AttachMethod) (values : Table Json)
    (b : BlockRecord) :
    attachAt method values path b =
      (attach method values place b.globals).map fun t => { b with globals := t } := by
  unfold attachAt
  rw [h]
  rfl

/-- What attaching at a path does to the endpoint record. -/
theorem attachAt_locals {method : AttachMethod} {values : Table Json} {path : String}
    {b b' : BlockRecord} (h : attachAt method values path b = some b') :
    (∃ place, Text.split '.' path = "local" :: place ∧
        attach method values place b.locals = some b'.locals) ∨
      (∀ place, Text.split '.' path ≠ "local" :: place) ∧ b'.locals = b.locals := by
  unfold attachAt at h
  split at h
  · rename_i rest hsplit
    obtain ⟨t, -, rfl⟩ := Option.map_eq_some_iff.mp h
    refine Or.inr ⟨fun place hplace => ?_, rfl⟩
    exact absurd (List.cons.inj (hsplit.symm.trans hplace)).1 (by decide)
  · rename_i rest hsplit
    obtain ⟨t, ht, rfl⟩ := Option.map_eq_some_iff.mp h
    exact Or.inl ⟨rest, hsplit, ht⟩
  · rename_i hglobal hlocal
    obtain ⟨t, -, rfl⟩ := Option.map_eq_some_iff.mp h
    exact Or.inr ⟨hlocal, rfl⟩

/-- The record of a block with the values of a tag at its root, if the tag asks for it. -/
def atRoot (reader : TagReader) (values : Table Json) (b : BlockRecord) : BlockRecord :=
  if reader.extendRoot then { b with root := Table.extend b.root values } else b

@[simp] theorem locals_atRoot (reader : TagReader) (values : Table Json) (b : BlockRecord) :
    (atRoot reader values b).locals = b.locals := by
  unfold atRoot
  split <;> rfl

@[simp] theorem globals_atRoot (reader : TagReader) (values : Table Json) (b : BlockRecord) :
    (atRoot reader values b).globals = b.globals := by
  unfold atRoot
  split <;> rfl

/-- Puts the values of a tag into their place. -/
def placeValues (reader : TagReader) (index : Nat) (path : String) (values : Table Json)
    (st : BlockState) : Except ElementCause BlockState :=
  match checkPlace reader path st with
  | .error cause => .error cause
  | .ok st =>
    match attachAt reader.method values path (atRoot reader values st.record) with
    | none => .error (.misplaced path)
    | some b => .ok { st with record := { b with index := index + 1 } }

/-- **Reading an element** is reading its content and putting the values, which may be rendered,
into their place. -/
theorem readElement_eq (reader : TagReader) (index : Nat) (e : Element) (st : BlockState) :
    r.readElement reader index e st =
      match reader.read (Text.trim e.content) st.context with
      | .error cause => .error (.parameter cause)
      | .ok (none, _) => .error .emptyResult
      | .ok (some values, context) =>
        if reader.path context = "" then .error .noPath
        else placeValues reader index (reader.path context) (r.rendered reader values)
          { st with context := context } := by
  unfold readElement placeValues
  cases reader.read (Text.trim e.content) st.context with
  | error cause => rfl
  | ok result =>
      obtain ⟨values?, context⟩ := result
      cases values? with
      | none => rfl
      | some values =>
          show (if reader.path context = "" then _ else _) =
            if reader.path context = "" then _ else _
          refine if_congr Iff.rfl rfl ?_
          cases checkPlace reader (reader.path context) { st with context := context } <;> rfl

/-- **What reading an element does**, if it succeeds: the values of the tag are attached to the
record of the block, which gets its position. -/
theorem exists_of_readElement {r : Registry} {reader : TagReader} {index : Nat} {e : Element}
    {st st' : BlockState} (h : r.readElement reader index e st = .ok st') :
    ∃ values context st₁ b,
      reader.read (Text.trim e.content) st.context = .ok (some values, context) ∧
      checkPlace reader (reader.path context) { st with context := context } = .ok st₁ ∧
      attachAt reader.method (r.rendered reader values) (reader.path context)
        (atRoot reader (r.rendered reader values) st.record) = some b ∧
      st' = { st₁ with record := { b with index := index + 1 } } := by
  rw [readElement_eq] at h
  split at h
  · cases h
  · cases h
  · rename_i values context hread
    split at h
    · cases h
    · unfold placeValues at h
      split at h
      · cases h
      · rename_i st₁ hcheck
        split at h
        · cases h
        · rename_i b hattach
          cases h
          rw [checkPlace_record hcheck] at hattach
          exact ⟨values, context, st₁, b, hread, hcheck, hattach, rfl⟩

/-- **What reading an element does** to the endpoint record: the values of the tag are attached
to it, or it stays as it is. -/
theorem readElement_locals {r : Registry} {reader : TagReader} {index : Nat} {e : Element}
    {st st' : BlockState} (h : r.readElement reader index e st = .ok st') :
    ∃ values context,
      reader.read (Text.trim e.content) st.context = .ok (some values, context) ∧
      ((∃ place, Text.split '.' (reader.path context) = "local" :: place ∧
          attach reader.method (r.rendered reader values) place st.record.locals =
            some st'.record.locals) ∨
        (∀ place, Text.split '.' (reader.path context) ≠ "local" :: place) ∧
          st'.record.locals = st.record.locals) := by
  obtain ⟨values, context, st₁, b, hread, -, hattach, rfl⟩ := exists_of_readElement h
  have hcases := attachAt_locals hattach
  rw [locals_atRoot] at hcases
  exact ⟨values, context, hread, hcases⟩

/-- Reading **keeps** a property of endpoint records: it survives declarations, items that are
attached away from the fields, and entries other than sections. -/
structure ReadingKeeps (I : Table Json → Prop) : Prop where
  declaration : ∀ (kind : FieldKind) (d : FieldDecl) t t', I t →
    attach .push (r.rendered (Tag.field kind) d.toFields)
      (kind.sectionName :: "fields" :: Text.split '.' d.group) t = some t' → I t'
  item : ∀ place values t t', (∀ head rest, place ≠ head :: "fields" :: rest) → I t →
    attach .push values place t = some t' → I t'
  entries : ∀ values t, (∀ kind : FieldKind, kind.sectionName ∉ Table.keys values) → I t →
    I (Table.extend t values)

/-- **Reading a declaration** attaches it below the fields of its section, at its group. -/
theorem attach_of_readElement_field {r : Registry} {kind : FieldKind} {index : Nat}
    {e : Element} {st st' : BlockState}
    (h : r.readElement (Tag.field kind) index e st = .ok st') :
    ∃ d, FieldDecl.parse? (Text.trim e.content) kind.defaultGroup = some d ∧
      attach .push (r.rendered (Tag.field kind) d.toFields)
        (kind.sectionName :: "fields" :: Text.split '.' d.group) st.record.locals =
          some st'.record.locals := by
  obtain ⟨values, context, hread, hlocals⟩ := readElement_locals h
  unfold Tag.field at hread
  dsimp only at hread
  cases hparse : FieldDecl.parse? (Text.trim e.content) kind.defaultGroup with
  | none =>
      rw [hparse] at hread
      cases hread
  | some d =>
      rw [hparse] at hread
      cases hread
      have hsplit := Tag.split_path_field kind d.group
      refine ⟨d, rfl, ?_⟩
      rcases hlocals with ⟨place, hplace, hattach⟩ | ⟨hplace, -⟩
      · obtain rfl := (List.cons.inj (hsplit.symm.trans hplace)).2
        exact hattach
      · exact absurd hsplit (hplace _)

/-- What reading keeps, one element keeps. -/
theorem ReadingKeeps.readElement {r : Registry} {I : Table Json → Prop} (hI : ReadingKeeps r I)
    {reader : TagReader} (hplace : Tag.Place reader) {index : Nat} {e : Element}
    {st st' : BlockState} (h : r.readElement reader index e st = .ok st')
    (hst : I st.record.locals) : I st'.record.locals := by
  cases hplace with
  | field kind =>
      obtain ⟨d, -, hattach⟩ := attach_of_readElement_field h
      exact hI.declaration kind d _ _ hst hattach
  | item place hplace hmethod _ _ hpath =>
      obtain ⟨values, context, -, ⟨place', hsplit, hattach⟩ | ⟨-, heq⟩⟩ := readElement_locals h
      · obtain rfl : place = place' := (List.cons.inj ((hpath context).symm.trans hsplit)).2
        rw [hmethod] at hattach
        exact hI.item _ _ _ _ (Tag.ne_fields_of_mem_itemPlaces hplace) hst hattach
      · rwa [heq]
  | entries hmethod _ _ hpath hvalues =>
      obtain ⟨values, context, hread, ⟨place, hsplit, hattach⟩ | ⟨-, heq⟩⟩ := readElement_locals h
      · obtain rfl : [] = place := (List.cons.inj ((hpath context).symm.trans hsplit)).2
        rw [hmethod, attach, Option.some.injEq] at hattach
        rw [← hattach]
        refine hI.entries _ _ (fun kind hkind => ?_) hst
        rw [keys_rendered] at hkind
        obtain ⟨e, he, hname⟩ := List.mem_map.mp hkind
        exact ((hvalues _ _ _ _ hread).2 e he).ne_sectionName kind hname.symm
      · rwa [heq]
  | definition kind =>
      obtain ⟨values, context, -, ⟨place, hsplit, -⟩ | ⟨-, heq⟩⟩ := readElement_locals h
      · rw [Tag.split_path_definition] at hsplit
        exact absurd (List.cons.inj hsplit).1 (by decide)
      · rwa [heq]

/-- An element with a reader is read with it. -/
theorem readElement_of_elementOutcome {r : Registry} {reader : TagReader} {file : String}
    {index : Nat} {e : Element} {st st' : BlockState}
    (hreader : Table.get? e.name r.readers = some reader)
    (h : r.elementOutcome file index st e = .ok st') :
    r.readElement reader index e st = .ok st' := by
  unfold elementOutcome at h
  rw [hreader] at h
  dsimp only at h
  split at h
  · rename_i st₁ hread
    cases h
    exact hread
  · cases h

/-- What reading keeps, a run over elements keeps. -/
theorem ReadingKeeps.foldlM {r : Registry} {I : Table Json → Prop} (hI : ReadingKeeps r I)
    (hreaders : r.readers = Tag.builtin) {file : String} {index : Nat} {elements : List Element}
    {st st' : BlockState}
    (h : elements.foldlM (r.elementOutcome file index) st = .ok st')
    (hst : I st.record.locals) : I st'.record.locals := by
  induction elements generalizing st with
  | nil =>
      cases h
      exact hst
  | cons e rest ih =>
      rw [List.foldlM_cons, Run.bind_eq_ok_iff] at h
      obtain ⟨st₁, hone, h⟩ := h
      refine ih h ?_
      cases hreader : Table.get? e.name r.readers with
      | none =>
          rw [elementOutcome, hreader] at hone
          cases hone
          exact hst
      | some reader =>
          have hplace : Tag.Place reader := Tag.place_builtin (hreaders ▸ hreader)
          exact hI.readElement hplace (readElement_of_elementOutcome hreader hone) hst

/-- Blocks are read from an empty record. -/
theorem ReadingKeeps.blockOutcome {r : Registry} {I : Table Json → Prop} (hI : ReadingKeeps r I)
    (hreaders : r.readers = Tag.builtin) (hempty : I []) {file : String} {index : Nat}
    {elements : List Element} {b : BlockRecord}
    (h : r.blockOutcome file index elements = .ok b) : I b.locals := by
  obtain ⟨st, hst, hb⟩ := Run.bind_eq_ok_iff.mp h
  cases hb
  exact hI.foldlM hreaders hst hempty

/-! ### What reading keeps -/

/-- Reading keeps names distinct. -/
theorem readingKeeps_distinct : ReadingKeeps r Table.Distinct := by
  have hattach : ∀ values place t t', Table.Distinct t →
      attach .push values place t = some t' → Table.Distinct t' := by
    intro values place t t' ht h
    cases place with
    | nil => cases h
    | cons head rest =>
        obtain ⟨slot, rfl, -⟩ := attach_cons_cases h
        exact ht.insert head slot
  exact ⟨fun _ _ t t' => hattach _ _ t t', fun _ _ t t' _ => hattach _ _ t t',
    fun values _ _ ht => ht.extend values⟩

/-- Reading keeps the items below a section. -/
theorem readingKeeps_hasItem (P : Json → Prop) (kind : FieldKind) (path : List String) :
    ReadingKeeps r fun t => HasItem P (kind.sectionName :: path) (.obj t) where
  declaration _ _ _ _ ht h := hasItem_attach_of_hasItem ht h
  item _ _ _ _ _ ht h := hasItem_attach_of_hasItem ht h
  entries values t hkeys ht := by
    unfold Table.extend
    induction values generalizing t with
    | nil => exact ht
    | cons e rest ih =>
        refine ih _ (fun k hk => hkeys k (List.mem_cons_of_mem _ hk)) (ht.insert_of_ne ?_ e.2)
        exact fun heq => hkeys kind (heq ▸ List.mem_cons_self)

/-- The group and the name of a declaration, as they are attached. -/
theorem getStr?_declaration (kind : FieldKind) (d : FieldDecl) :
    (Json.obj (r.rendered (Tag.field kind) d.toFields)).getStr? "group" = some d.group ∧
      (Json.obj (r.rendered (Tag.field kind) d.toFields)).getStr? "field" = some d.field := by
  rw [getStr?_rendered_field _ _ _ (by decide) (by decide),
    getStr?_rendered_field _ _ _ (by decide) (by decide)]
  obtain ⟨group, type, size, allowed, isOptional, name, defaultValue, description⟩ := d
  cases type <;> cases size <;> cases allowed <;> exact ⟨rfl, rfl⟩

/-- Reading keeps the fields of a section grouped as declared. -/
theorem readingKeeps_declaredSection (kind : FieldKind) :
    ReadingKeeps r fun t => ∀ e ∈ t, DeclaredSection kind e.1 e.2 where
  declaration kind' d t t' ht h := by
    obtain ⟨hgroup, hfield⟩ := r.getStr?_declaration kind' d
    refine attachKeeps_under (fun _ _ => attachKeeps_under fun _ _ => ?_) t t' ht h
    exact attachKeeps_declaredGroup hgroup hfield
  item place values t t' haside ht h := by
    cases place with
    | nil => cases h
    | cons head rest =>
        refine attachKeeps_under (fun _ hrest => ?_) t t' ht h
        obtain ⟨next, more, rfl⟩ := List.exists_cons_of_ne_nil hrest
        exact attachKeeps_under fun hnext => absurd (hnext ▸ rfl) (haside head more)
  entries values t hkeys ht e he := by
    rcases Table.mem_extend he with he | he
    · exact ht e he
    · exact fun hname => absurd (hname ▸ List.mem_map_of_mem he) (hkeys kind)

/-- **The fields of every section are grouped as declared** when a block has been read. -/
theorem declared_of_blockOutcome {r : Registry} (hreaders : r.readers = Tag.builtin)
    {file : String} {index : Nat} {elements : List Element} {b : BlockRecord}
    (h : r.blockOutcome file index elements = .ok b) (kind : FieldKind) :
    ∀ e ∈ b.locals, DeclaredSection kind e.1 e.2 :=
  (r.readingKeeps_declaredSection kind).blockOutcome hreaders nofun h

/-- A declaration of a field in a group. -/
def Declares (group name : String) (item : Json) : Prop :=
  item.getStr? "group" = some group ∧ item.getStr? "field" = some name

/-- The readers of the field tags are found by the tags in lower case. -/
theorem get?_builtin_field (kind : FieldKind) :
    Table.get? (Text.lower kind.tag) Tag.builtin = some (Tag.field kind) := by
  cases kind <;> rfl

/-- **A declaration in a group without dots** stands in the array of its group when its block has
been read. -/
theorem hasItem_of_blockOutcome {r : Registry} (hreaders : r.readers = Tag.builtin)
    {file : String} {index : Nat} {elements : List Element} {b : BlockRecord}
    (h : r.blockOutcome file index elements = .ok b) {kind : FieldKind} {e : Element}
    (he : e ∈ elements) (hname : e.name = Text.lower kind.tag) {d : FieldDecl}
    (hd : FieldDecl.parse? (Text.trim e.content) kind.defaultGroup = some d)
    (hdot : '.' ∉ d.group.toList) :
    HasItem (Declares d.group d.field) [kind.sectionName, "fields", d.group] (.obj b.locals) := by
  obtain ⟨st, hst, hb⟩ := Run.bind_eq_ok_iff.mp h
  cases hb
  obtain ⟨before, after, rfl⟩ := List.append_of_mem he
  rw [List.foldlM_append, Run.bind_eq_ok_iff] at hst
  obtain ⟨st₁, -, hst⟩ := hst
  rw [List.foldlM_cons, Run.bind_eq_ok_iff] at hst
  obtain ⟨st₂, hone, hst⟩ := hst
  refine (r.readingKeeps_hasItem _ kind _).foldlM hreaders hst ?_
  have hreader : Table.get? e.name r.readers = some (Tag.field kind) := by
    rw [hreaders, hname, get?_builtin_field]
  obtain ⟨d', hd', hattach⟩ :=
    attach_of_readElement_field (readElement_of_elementOutcome hreader hone)
  obtain rfl : d = d' := Option.some.inj (hd.symm.trans hd')
  rw [Text.split_of_not_mem hdot] at hattach
  refine (hasItem_attach hattach).imp ?_
  rintro _ rfl
  exact r.getStr?_declaration kind d

end Registry

end ApiGloss
