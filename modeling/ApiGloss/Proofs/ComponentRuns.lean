import ApiGloss.Proofs.Redeclarations

/-!
# Components over a Run

All lists of fields of a run go into the same components, and different spellings of a field name
can stand for the same property. This module looks at one component at a time: whatever else a list
of fields does, it files in the component those of its fields that belong there, in order
(`Components.component_addFields`). Names of properties and names of required properties are only
ever added, at the end and if they are new, so that both lists are the first mentions of what was
filed (`Components.keys_component_addLists`, `Components.required_component_addLists`).

## Main results

* `Components.component_addField`, `Components.component_addFields`: a component after one field,
  and after a list of fields.
* `Components.ofKind_addFields`: a list of fields leaves the components of other uses alone.
* `Components.components_stay_well_formed`: the components after any run.
-/

namespace ApiGloss

namespace Components

/-! ### One component -/

/-- The **component of a name**. One that is not there has no properties. -/
def component (cs : Components) (name : String) : Component :=
  (Table.get? name cs).getD {}

/-- The **components of a use**: those whose names start with it. -/
def ofKind (cs : Components) (kind : SchemaKind) : Components :=
  cs.filter fun e => kind.label.toList.isPrefixOf e.1.toList

/-- Storing a component changes the component of its name only. -/
theorem component_insert (name other : String) (c : Component) (cs : Components) :
    component (Table.insert name c cs) other = if name = other then c else cs.component other := by
  unfold component
  rw [Table.get?_insert]
  split <;> rfl

section Fields

variable (kind : SchemaKind) (endpoint : String)

/-- Files a field under its property. -/
def fileField (c : Component) (field : FieldDecl) : Component :=
  addProperty c (slotOf kind endpoint field.field).2 (Schema.ofField kind field)
    (!field.isOptional)

/-- **What one field does to a component**: it is filed there if the component is that of its
object, unless it is a first field that stands for a whole. -/
theorem component_addField (state : Components × FieldsOutcome) (field : FieldDecl)
    (name : String) :
    (addField kind endpoint state field).1.component name =
      if (state.2.object.isSome ∨ ¬ field.IsWhole) ∧ (slotOf kind endpoint field.field).1 = name
      then fileField kind endpoint (state.1.component name) field
      else state.1.component name := by
  unfold addField
  obtain ⟨next, -, ⟨hnone, hwhole, object, hplace⟩ | ⟨hfiled, hplace⟩⟩ :=
    placeField_cases kind endpoint state.2 field
  · have hunfiled : ¬ (state.2.object.isSome ∨ ¬ field.IsWhole) := by simp [hnone, hwhole]
    rw [hplace, if_neg fun h => hunfiled h.1]
    -- the component of the object is stored as it was
    dsimp only
    rw [component_insert]
    split
    · rename_i hname
      rw [← hname]
      rfl
    · rfl
  · rw [hplace]
    dsimp only
    rw [component_insert]
    simp only [hfiled, true_and]
    unfold fileField slotOf
    dsimp only
    split
    · rename_i hname
      rw [component, hname]
    · rfl

/-- The fields of a list that **belong to a component**. -/
def fieldsIn (name : String) (fields : List FieldDecl) : List FieldDecl :=
  fields.filter fun f => (slotOf kind endpoint f.field).1 = name

/-- **Fields of which the first has gone before** are filed in their components in order. -/
theorem component_foldl_addField {state : Components × FieldsOutcome}
    (h : state.2.object.isSome) (fields : List FieldDecl) (name : String) :
    (fields.foldl (addField kind endpoint) state).1.component name =
      (fieldsIn kind endpoint name fields).foldl (fileField kind endpoint)
        (state.1.component name) := by
  induction fields generalizing state with
  | nil => rfl
  | cons field fields ih =>
      rw [List.foldl_cons, ih (isSome_object_addField kind endpoint state field),
        component_addField, fieldsIn, fieldsIn, List.filter_cons]
      simp only [h, true_or, true_and, decide_eq_true_eq]
      split
      · rw [List.foldl_cons]
      · rfl

/-- **A list of fields** files in every component those of its fields that belong there. -/
theorem component_addFields (cs : Components) (fields : List FieldDecl) (skip : List String)
    (name : String) :
    (cs.addFields kind fields endpoint skip).1.component name =
      (fieldsIn kind endpoint name (filed (fields.filter fun f => !skip.contains f.field))).foldl
        (fileField kind endpoint) (cs.component name) := by
  unfold addFields
  cases fields.filter fun f => !skip.contains f.field with
  | nil => rfl
  | cons first rest =>
      rw [List.foldl_cons, component_foldl_addField kind endpoint
        (isSome_object_addField kind endpoint _ first), component_addField, filed]
      by_cases hwhole : first.IsWhole
      · simp [hwhole]
      · simp only [hwhole, not_false_eq_true, or_true, true_and, if_false]
        rw [fieldsIn, fieldsIn, List.filter_cons]
        simp only [decide_eq_true_eq]
        split
        · rw [List.foldl_cons]
        · rfl

/-! ### What fields add to a component -/

/-- The **properties** that fields stand for, in order. -/
def propertiesOf (fields : List FieldDecl) : List String :=
  fields.map fun f => (slotOf kind endpoint f.field).2

/-- Fields add the names of their properties, each where it is mentioned first. -/
theorem keys_foldl_fileField (c : Component) (fields : List FieldDecl) :
    Table.keys (fields.foldl (fileField kind endpoint) c).properties =
      Table.keys c.properties ++
        Search.firsts (Table.keys c.properties) (propertiesOf kind endpoint fields) := by
  have hone : ∀ c field, Table.keys (fileField kind endpoint c field).properties =
      Table.keys c.properties ++ Search.firsts (Table.keys c.properties)
        [(slotOf kind endpoint field.field).2] :=
    fun _ _ => Table.keys_insert_eq_firsts _ _ _
  rw [propertiesOf, List.map_eq_flatMap]
  exact Search.foldl_eq_append_firsts (fun c => Table.keys c.properties) hone c fields

/-- A property that must be present is added to the required ones if it is new there. -/
theorem required_fileField (c : Component) (field : FieldDecl) :
    (fileField kind endpoint c field).required = c.required ++
      Search.firsts c.required (propertiesOf kind endpoint ([field].filter (!·.isOptional))) := by
  unfold fileField addProperty
  rw [List.filter_singleton]
  cases field.isOptional
  · by_cases hmem : (slotOf kind endpoint field.field).2 ∈ c.required
    · simp [hmem, propertiesOf, Search.firsts]
    · simp [hmem, propertiesOf, Search.firsts]
  · simp [propertiesOf, Search.firsts]

/-- Fields add those of their properties to the required ones that must be present. -/
theorem required_foldl_fileField (c : Component) (fields : List FieldDecl) :
    (fields.foldl (fileField kind endpoint) c).required = c.required ++
      Search.firsts c.required (propertiesOf kind endpoint (fields.filter (!·.isOptional))) := by
  have hfields : propertiesOf kind endpoint (fields.filter (!·.isOptional)) =
      fields.flatMap fun field => propertiesOf kind endpoint ([field].filter (!·.isOptional)) := by
    unfold propertiesOf
    rw [← List.map_flatMap, ← List.filter_flatMap, List.flatMap_singleton']
  rw [hfields]
  exact Search.foldl_eq_append_firsts Component.required (required_fileField kind endpoint) c fields

/-! ### All components -/

/-- One field keeps all components and their order. -/
theorem keys_isPrefix_addField (state : Components × FieldsOutcome) (field : FieldDecl) :
    Table.keys state.1 <+: Table.keys (addField kind endpoint state field).1 :=
  Table.keys_isPrefix_insert _ _ _

/-- A list of fields keeps all components and their order. -/
theorem keys_isPrefix_addFields (cs : Components) (fields : List FieldDecl)
    (skip : List String) :
    Table.keys cs <+: Table.keys (cs.addFields kind fields endpoint skip).1 := by
  have hrun : ∀ (counted : List FieldDecl) (state : Components × FieldsOutcome),
      Table.keys state.1 <+: Table.keys (counted.foldl (addField kind endpoint) state).1 := by
    intro counted
    induction counted with
    | nil => exact fun _ => List.prefix_rfl
    | cons field counted ih =>
        exact fun state => (keys_isPrefix_addField kind endpoint state field).trans (ih _)
  exact hrun _ (cs, {})

end Fields

/-- The name of a component starts with its use and no other. -/
theorem not_isPrefixOf_componentName {kind kind' : SchemaKind} (h : kind' ≠ kind)
    (object : String) :
    kind.label.toList.isPrefixOf (kind'.componentName object).toList = false := by
  rw [SchemaKind.componentName, String.toList_append]
  cases kind <;> cases kind' <;> simp [SchemaKind.label, List.isPrefixOf] at h ⊢

/-- **A list of fields of one use** leaves the components of the others alone. -/
theorem ofKind_addFields {kind kind' : SchemaKind} (h : kind' ≠ kind) (cs : Components)
    (fields : List FieldDecl) (endpoint : String) (skip : List String) :
    (cs.addFields kind' fields endpoint skip).1.ofKind kind = cs.ofKind kind := by
  have hrun : ∀ (counted : List FieldDecl) (state : Components × FieldsOutcome),
      (counted.foldl (addField kind' endpoint) state).1.ofKind kind = state.1.ofKind kind := by
    intro counted
    induction counted with
    | nil => exact fun _ => rfl
    | cons field counted ih =>
        intro state
        rw [List.foldl_cons, ih]
        exact Table.filter_insert_of_not
          (P := fun name => kind.label.toList.isPrefixOf name.toList)
          (not_isPrefixOf_componentName h _) _ _
  exact hrun _ (cs, {})

end Components

/-! ### Runs -/

/-- A **list of fields as it is added**: with its use, the endpoint that it belongs to, and the
names that do not count. -/
structure FieldList where
  kind : SchemaKind
  fields : List FieldDecl
  endpoint : String
  skip : List String

namespace FieldList

/-- The **contributing fields** of a list: they count, and the first of them does not stand for a
whole. -/
def contributing (l : FieldList) : List FieldDecl :=
  Components.filed (l.fields.filter fun f => !l.skip.contains f.field)

/-- The component and the property that a field of the list stands for. -/
def slotOf (l : FieldList) (field : FieldDecl) : String × String :=
  Components.slotOf l.kind l.endpoint field.field

/-- The contributing fields that belong to a component. -/
def contributingTo (l : FieldList) (name : String) : List FieldDecl :=
  Components.fieldsIn l.kind l.endpoint name l.contributing

/-- The **properties that a list contributes** to a component. -/
def propertiesIn (l : FieldList) (name : String) : List String :=
  Components.propertiesOf l.kind l.endpoint (l.contributingTo name)

/-- Those of the properties that must be present. -/
def requiredIn (l : FieldList) (name : String) : List String :=
  Components.propertiesOf l.kind l.endpoint ((l.contributingTo name).filter (!·.isOptional))

/-- A list contributes the properties of its contributing fields. -/
theorem mem_propertiesIn {l : FieldList} {name property : String} :
    property ∈ l.propertiesIn name ↔ ∃ f ∈ l.contributing, l.slotOf f = (name, property) := by
  unfold propertiesIn contributingTo Components.propertiesOf Components.fieldsIn slotOf
  simp only [List.mem_map, List.mem_filter, decide_eq_true_eq, Prod.ext_iff, and_assoc]

/-- A property must be present if one of the fields that it comes from is not optional. -/
theorem mem_requiredIn {l : FieldList} {name property : String} :
    property ∈ l.requiredIn name ↔
      ∃ f ∈ l.contributing, l.slotOf f = (name, property) ∧ f.isOptional = false := by
  unfold requiredIn contributingTo Components.propertiesOf Components.fieldsIn slotOf
  simp only [List.mem_map, List.mem_filter, decide_eq_true_eq, Bool.not_eq_true', Prod.ext_iff]
  constructor
  · rintro ⟨f, ⟨⟨hf, hname⟩, hrequired⟩, hproperty⟩
    exact ⟨f, hf, ⟨hname, hproperty⟩, hrequired⟩
  · rintro ⟨f, hf, ⟨hname, hproperty⟩, hrequired⟩
    exact ⟨f, ⟨⟨hf, hname⟩, hrequired⟩, hproperty⟩

end FieldList

namespace Components

/-- Adds a list of fields. -/
def addList (cs : Components) (l : FieldList) : Components :=
  (cs.addFields l.kind l.fields l.endpoint l.skip).1

/-- **Adds lists of fields** in order. -/
def addLists (cs : Components) (ls : List FieldList) : Components :=
  ls.foldl addList cs

/-- A list files its contributions in every component. -/
theorem component_addList (cs : Components) (l : FieldList) (name : String) :
    (cs.addList l).component name =
      (l.contributingTo name).foldl (fileField l.kind l.endpoint) (cs.component name) :=
  component_addFields l.kind l.endpoint cs l.fields l.skip name

/-- **The properties of a component** after a run are those from before and then the contributed
ones, each where it was contributed first. -/
theorem keys_component_addLists (cs : Components) (ls : List FieldList) (name : String) :
    Table.keys ((cs.addLists ls).component name).properties =
      Table.keys (cs.component name).properties ++
        Search.firsts (Table.keys (cs.component name).properties)
          (ls.flatMap fun l => l.propertiesIn name) := by
  refine Search.foldl_eq_append_firsts (fun cs => Table.keys (cs.component name).properties)
    (fun cs l => ?_) cs ls
  rw [component_addList]
  exact keys_foldl_fileField _ _ _ _

/-- **The required properties of a component** after a run are those from before and then the
contributed ones that must be present, each where it was first contributed as such. -/
theorem required_component_addLists (cs : Components) (ls : List FieldList) (name : String) :
    ((cs.addLists ls).component name).required =
      (cs.component name).required ++
        Search.firsts (cs.component name).required
          (ls.flatMap fun l => l.requiredIn name) := by
  refine Search.foldl_eq_append_firsts (fun cs => (cs.component name).required)
    (fun cs l => ?_) cs ls
  rw [component_addList]
  exact required_foldl_fileField _ _ _ _

/-- A component with a property is there. -/
theorem mem_keys_of_property {cs : Components} {name property : String}
    (h : property ∈ Table.keys (cs.component name).properties) : name ∈ Table.keys cs := by
  by_contra habsent
  unfold component at h
  rw [Table.get?_eq_none_iff.mpr habsent] at h
  exact absurd h List.not_mem_nil

/-- A component that is there is the component of its name. -/
theorem component_of_get? {cs : Components} {name : String} {c : Component}
    (h : Table.get? name cs = some c) : cs.component name = c := by
  rw [component, h, Option.getD_some]

/-- **What a run makes of a component**: its properties are the contributed ones in the order of
their first contribution, and required are those that some contributing field requires. -/
theorem component_addLists_spec (ls : List FieldList) (name : String) :
    Table.keys ((addLists [] ls).component name).properties =
        Search.firsts [] (ls.flatMap fun l => l.propertiesIn name) ∧
      ((addLists [] ls).component name).required.Nodup ∧
      ∀ property, property ∈ ((addLists [] ls).component name).required ↔
        ∃ l ∈ ls, ∃ f ∈ l.contributing, l.slotOf f = (name, property) ∧ f.isOptional = false := by
  have hrequired : ((addLists [] ls).component name).required =
      Search.firsts [] (ls.flatMap fun l => l.requiredIn name) :=
    required_component_addLists [] ls name
  refine ⟨keys_component_addLists [] ls name, ?_, fun property => ?_⟩
  · rw [hrequired]
    exact Search.nodup_firsts _ _
  · rw [hrequired, Search.mem_firsts, List.mem_flatMap]
    simp only [FieldList.mem_requiredIn, List.not_mem_nil, not_false_eq_true, and_true]

/-- A contributed property is in its component. -/
theorem mem_keys_component_addLists {ls : List FieldList} {name property : String} :
    property ∈ Table.keys ((addLists [] ls).component name).properties ↔
      ∃ l ∈ ls, ∃ f ∈ l.contributing, l.slotOf f = (name, property) := by
  rw [(component_addLists_spec ls name).1, Search.mem_firsts, List.mem_flatMap]
  simp only [FieldList.mem_propertiesIn, List.not_mem_nil, not_false_eq_true, and_true]

/-- **Components stay well-formed over any run.** After any lists of fields, the properties of every
component are the names that contributing fields stand for there, in the order of their first
contribution. Its required properties are distinct and among them: those of which some contributing
field is not optional. Every contributing field has its component. One more list removes and
reorders neither components nor properties, and leaves the components of the other uses as they
are. -/
theorem components_stay_well_formed (ls : List FieldList) (next : FieldList) :
    (∀ name c, Table.get? name (addLists [] ls) = some c →
      Table.keys c.properties = Search.firsts [] (ls.flatMap fun l => l.propertiesIn name) ∧
      c.required.Nodup ∧ c.required ⊆ Table.keys c.properties ∧
      ∀ property, property ∈ c.required ↔
        ∃ l ∈ ls, ∃ f ∈ l.contributing, l.slotOf f = (name, property) ∧ f.isOptional = false) ∧
    (∀ l ∈ ls, ∀ f ∈ l.contributing, (l.slotOf f).1 ∈ Table.keys (addLists [] ls)) ∧
    Table.keys (addLists [] ls) <+: Table.keys (addLists [] (ls ++ [next])) ∧
    (∀ name c, Table.get? name (addLists [] ls) = some c →
      ∃ c', Table.get? name (addLists [] (ls ++ [next])) = some c' ∧
        Table.keys c.properties <+: Table.keys c'.properties ∧ c.required <+: c'.required) ∧
    ∀ kind, next.kind ≠ kind →
      (addLists [] (ls ++ [next])).ofKind kind = (addLists [] ls).ofKind kind := by
  have hnext : addLists [] (ls ++ [next]) = (addLists [] ls).addList next :=
    List.foldl_concat _ _ _ _
  have hkeys : Table.keys (addLists [] ls) <+: Table.keys (addLists [] (ls ++ [next])) := by
    rw [hnext]
    exact keys_isPrefix_addFields _ _ _ _ _
  refine ⟨fun name c hc => ?_, fun l hl f hf => ?_, hkeys, fun name c hc => ?_,
    fun kind hkind => ?_⟩
  · obtain ⟨hproperties, hnodup, hrequired⟩ := component_addLists_spec ls name
    rw [component_of_get? hc] at hproperties hnodup hrequired
    refine ⟨hproperties, hnodup, fun property hproperty => ?_, hrequired⟩
    obtain ⟨l, hl, f, hf, hslot, -⟩ := (hrequired property).mp hproperty
    rw [← component_of_get? hc]
    exact mem_keys_component_addLists.mpr ⟨l, hl, f, hf, hslot⟩
  · exact mem_keys_of_property (mem_keys_component_addLists.mpr ⟨l, hl, f, hf, rfl⟩)
  · have hmem : name ∈ Table.keys (addLists [] (ls ++ [next])) :=
      hkeys.subset (Table.contains_iff_mem_keys.mp (by rw [Table.contains, hc]; rfl))
    obtain ⟨c', hc'⟩ : ∃ c', Table.get? name (addLists [] (ls ++ [next])) = some c' :=
      Option.isSome_iff_exists.mp (Table.contains_iff_mem_keys.mpr hmem)
    have hfiled : c' = (next.contributingTo name).foldl (fileField next.kind next.endpoint) c := by
      rw [← component_of_get? hc', hnext, component_addList, component_of_get? hc]
    refine ⟨c', hc', ?_, ?_⟩
    · rw [hfiled, keys_foldl_fileField]
      exact List.prefix_append _ _
    · rw [hfiled, required_foldl_fileField]
      exact List.prefix_append _ _
  · rw [hnext]
    exact ofKind_addFields hkind _ _ _ _

end Components

end ApiGloss
