import ApiGloss.Proofs.OperationSlots

/-!
# Fields That Are Declared Again

A record that takes over the fields of another one lists its own declarations first, and a name can
then be declared twice. The parameters of an operation are kept from the first declaration. The
properties of a component are not: every field of a list is filed in the slot that its name stands
for, whatever is there already, so that the last field of a list decides
(`Components.property?_addFields`).

What remains is that nothing else gets into the slot. The fields of the other sections have
components of their own, because the name of a component starts with its use
(`Components.slotOf_ne`). A field that stands for its list as a whole is not filed, but only the
first field can be one, and a name that is declared again has a later field.

## Main results

* `Components.property?_addField`, `Components.property?_addFields`: the schema in a slot after one
  field, and after a list of fields.
* `Operation.property?_ofEndpoint`: the schema in a slot of a section of an endpoint.
* `Document.redeclared_property_iff`: which declaration of a field a component keeps.
-/

namespace ApiGloss

/-- The use of the component that the fields of a section describe; headers describe none. -/
def FieldKind.schemaKind? : FieldKind → Option SchemaKind
  | .parameter => some .request
  | .header => none
  | .success => some .response
  | .error => some .error

/-- A field **stands for a whole** if it is declared as an array or an object. -/
def FieldDecl.IsWhole (field : FieldDecl) : Prop :=
  Text.lower (field.type.getD Schema.defaultType) = "array" ∨
    Text.lower (field.type.getD Schema.defaultType) = "object"

instance (field : FieldDecl) : Decidable field.IsWhole :=
  inferInstanceAs (Decidable (_ ∨ _))

/-- The use of a component can be read off its name. -/
theorem SchemaKind.componentName_ne {kind kind' : SchemaKind} (h : kind ≠ kind')
    (object object' : String) : kind.componentName object ≠ kind'.componentName object' := by
  intro heq
  have hchars := congrArg String.toList heq
  unfold componentName at hchars
  rw [String.toList_append, String.toList_append] at hchars
  -- the uses differ within their first three letters
  have hstart := congrArg (List.take 3) hchars
  rw [List.take_append_of_le_length (by cases kind <;> decide),
    List.take_append_of_le_length (by cases kind' <;> decide)] at hstart
  revert h hstart
  cases kind <;> cases kind' <;> decide

namespace Components

/-! ### Slots -/

/-- The **slot of a field name**: the component of its object, or else of the endpoint, and the
property there. -/
def slotOf (kind : SchemaKind) (endpoint name : String) : String × String :=
  (kind.componentName ((Schema.nestedName name).1.getD endpoint), (Schema.nestedName name).2)

/-- The **schema in a slot**. -/
def property? (cs : Components) (slot : String × String) : Option Schema :=
  (Table.get? slot.1 cs).bind fun c => Table.get? slot.2 c.properties

/-- The **last field** of a list that goes into a slot. -/
def lastIn? (kind : SchemaKind) (endpoint : String) (slot : String × String)
    (fields : List FieldDecl) : Option FieldDecl :=
  (fields.filter fun f => slotOf kind endpoint f.field = slot).getLast?

/-- The last field is looked for from the end. -/
theorem lastIn?_cons (kind : SchemaKind) (endpoint : String) (slot : String × String)
    (field : FieldDecl) (fields : List FieldDecl) :
    lastIn? kind endpoint slot (field :: fields) =
      (lastIn? kind endpoint slot fields).or
        (if slotOf kind endpoint field.field = slot then some field else none) := by
  have hsplit : field :: fields = [field] ++ fields := rfl
  unfold lastIn?
  rw [hsplit, List.filter_append, List.getLast?_append, List.filter_singleton]
  by_cases hslot : slotOf kind endpoint field.field = slot
  · simp [hslot]
  · simp [hslot]

/-- There is a last field in a slot if there is one at all. -/
theorem isSome_lastIn? {kind : SchemaKind} {endpoint : String} {slot : String × String}
    {fields : List FieldDecl} :
    (lastIn? kind endpoint slot fields).isSome ↔
      ∃ f ∈ fields, slotOf kind endpoint f.field = slot := by
  unfold lastIn?
  rw [Option.isSome_iff_ne_none, ne_eq, List.getLast?_eq_none_iff, List.filter_eq_nil_iff]
  push Not
  simp only [decide_eq_true_eq]

/-- A name goes into a slot if it stands for its component and its property. -/
theorem slotOf_eq_iff {kind : SchemaKind} {endpoint name : String} {slot : String × String} :
    slotOf kind endpoint name = slot ↔
      kind.componentName ((Schema.nestedName name).1.getD endpoint) = slot.1 ∧
        (Schema.nestedName name).2 = slot.2 := by
  unfold slotOf
  generalize Schema.nestedName name = nested
  exact Prod.ext_iff

/-- Slots of different uses are different. -/
theorem slotOf_ne {kind kind' : SchemaKind} (h : kind ≠ kind') (endpoint name name' : String) :
    slotOf kind endpoint name ≠ slotOf kind' endpoint name' := fun heq =>
  SchemaKind.componentName_ne h _ _ (Prod.mk.inj heq).1

/-- The schema in a slot, read through a component that need not exist. -/
theorem property?_eq_getD (cs : Components) (slot : String × String) :
    cs.property? slot =
      Table.get? slot.2 ((Table.get? slot.1 cs).getD {}).properties := by
  unfold property?
  cases Table.get? slot.1 cs <;> rfl

/-- Storing a component changes its own slots only. -/
theorem property?_insert (name : String) (c : Component) (cs : Components)
    (slot : String × String) :
    property? (Table.insert name c cs) slot =
      if name = slot.1 then Table.get? slot.2 c.properties else cs.property? slot := by
  unfold property?
  rw [Table.get?_insert]
  split <;> rfl

/-! ### One field -/

section Fields

variable (kind : SchemaKind) (endpoint : String)

/-- **Where a field goes**: the first field of a list is not filed if it stands for a whole, and
every other field is filed under its property. Then the object of the list is known. -/
theorem placeField_cases (outcome : FieldsOutcome) (field : FieldDecl) :
    ∃ next : FieldsOutcome, next.object.isSome ∧
      ((outcome.object = none ∧ field.IsWhole ∧
          ∃ object, placeField kind endpoint outcome field = (object, none, next)) ∨
        ((outcome.object.isSome ∨ ¬ field.IsWhole) ∧
          placeField kind endpoint outcome field =
            ((Schema.nestedName field.field).1.getD endpoint,
              some (Schema.nestedName field.field).2, next))) := by
  unfold placeField
  generalize Schema.nestedName field.field = nested
  cases hobject : outcome.object with
  | some object => exact ⟨outcome, by simp [hobject], Or.inr ⟨Or.inl rfl, rfl⟩⟩
  | none =>
      dsimp only
      by_cases hwhole : field.IsWhole
      · exact ⟨_, rfl, Or.inl ⟨rfl, hwhole, _, if_pos hwhole⟩⟩
      · exact ⟨_, rfl, Or.inr ⟨Or.inr hwhole, if_neg hwhole⟩⟩

/-- After a field, the object of the list is known. -/
theorem isSome_object_addField (state : Components × FieldsOutcome) (field : FieldDecl) :
    (addField kind endpoint state field).2.object.isSome := by
  rw [addField_snd]
  obtain ⟨next, hnext, ⟨-, -, object, hplace⟩ | ⟨-, hplace⟩⟩ :=
    placeField_cases kind endpoint state.2 field
  · rwa [hplace]
  · rwa [hplace]

/-- **One field** fills its slot, and no other. A first field that stands for a whole fills none. -/
theorem property?_addField (state : Components × FieldsOutcome) (field : FieldDecl)
    (slot : String × String) :
    (addField kind endpoint state field).1.property? slot =
      if (state.2.object.isSome ∨ ¬ field.IsWhole) ∧ slotOf kind endpoint field.field = slot then
        some (Schema.ofField kind field)
      else state.1.property? slot := by
  unfold addField
  obtain ⟨next, -, ⟨hnone, hwhole, object, hplace⟩ | ⟨hfiled, hplace⟩⟩ :=
    placeField_cases kind endpoint state.2 field
  · have hunfiled : ¬ (state.2.object.isSome ∨ ¬ field.IsWhole) := by simp [hnone, hwhole]
    rw [hplace, if_neg fun h => hunfiled h.1]
    -- the component of the object is stored as it was
    dsimp only
    rw [property?_insert, property?_eq_getD]
    split
    · rename_i hname
      rw [hname]
    · rfl
  · rw [hplace]
    dsimp only
    rw [property?_insert]
    simp only [hfiled, true_and, slotOf_eq_iff, addProperty, Table.get?_insert]
    by_cases hname :
        kind.componentName ((Schema.nestedName field.field).1.getD endpoint) = slot.1
    · rw [if_pos hname, hname, ← property?_eq_getD]
      simp only [true_and]
    · rw [if_neg hname, if_neg fun h => hname h.1]

/-! ### Lists of fields -/

/-- What one more field does to a slot is what it does to the last field in it. -/
theorem map_lastIn?_cons (slot : String × String) (field : FieldDecl) (fields : List FieldDecl)
    (before : Option Schema) :
    ((lastIn? kind endpoint slot (field :: fields)).map (Schema.ofField kind)).or before =
      ((lastIn? kind endpoint slot fields).map (Schema.ofField kind)).or
        (if slotOf kind endpoint field.field = slot then some (Schema.ofField kind field)
        else before) := by
  rw [lastIn?_cons, Option.map_or, Option.or_assoc]
  split <;> rfl

/-- **Fields of which the first has gone before** fill their slots in order. -/
theorem property?_foldl_addField {state : Components × FieldsOutcome}
    (h : state.2.object.isSome) (fields : List FieldDecl) (slot : String × String) :
    (fields.foldl (addField kind endpoint) state).1.property? slot =
      ((lastIn? kind endpoint slot fields).map (Schema.ofField kind)).or
        (state.1.property? slot) := by
  induction fields generalizing state with
  | nil => rfl
  | cons field fields ih =>
      rw [List.foldl_cons, ih (isSome_object_addField kind endpoint state field),
        property?_addField, map_lastIn?_cons]
      simp only [h, true_or, true_and]

/-- The fields of a list that are **filed** as properties: all but a first one that stands for a
whole. -/
def filed : List FieldDecl → List FieldDecl
  | [] => []
  | first :: rest => if first.IsWhole then rest else first :: rest

/-- **A list of fields** fills every slot from the last of its filed fields that goes there. -/
theorem property?_addFields (cs : Components) (fields : List FieldDecl) (skip : List String)
    (slot : String × String) :
    (cs.addFields kind fields endpoint skip).1.property? slot =
      ((lastIn? kind endpoint slot (filed (fields.filter fun f => !skip.contains f.field))).map
        (Schema.ofField kind)).or (cs.property? slot) := by
  unfold addFields
  cases fields.filter fun f => !skip.contains f.field with
  | nil => rfl
  | cons first rest =>
      rw [List.foldl_cons, property?_foldl_addField kind endpoint
        (isSome_object_addField kind endpoint _ first), property?_addField, filed]
      by_cases hwhole : first.IsWhole
      · simp [hwhole]
      · rw [if_neg hwhole, map_lastIn?_cons]
        simp only [hwhole, not_false_eq_true, or_true, true_and]

/-- A slot that a later field goes into is filled whether or not the first field is filed. -/
theorem lastIn?_filed {slot : String × String} {fields : List FieldDecl}
    (h : ∃ f ∈ fields.tail, slotOf kind endpoint f.field = slot) :
    lastIn? kind endpoint slot (filed fields) = lastIn? kind endpoint slot fields := by
  cases fields with
  | nil => rfl
  | cons first rest =>
      obtain ⟨last, hlast⟩ := Option.isSome_iff_exists.mp (isSome_lastIn?.mpr h)
      rw [List.tail_cons] at hlast
      rw [filed]
      split
      · rw [lastIn?_cons, hlast, Option.some_or]
      · rfl

end Fields

/-- Fields of one use leave the slots of the others alone. -/
theorem property?_addFields_of_ne {kind kind' : SchemaKind} (h : kind' ≠ kind) (cs : Components)
    (fields : List FieldDecl) (endpoint : String) (skip : List String) (name : String) :
    (cs.addFields kind' fields endpoint skip).1.property? (slotOf kind endpoint name) =
      cs.property? (slotOf kind endpoint name) := by
  have hnone : ∀ fields, lastIn? kind' endpoint (slotOf kind endpoint name) fields = none := by
    intro fields
    rw [← Option.not_isSome_iff_eq_none, isSome_lastIn?]
    rintro ⟨f, -, hslot⟩
    exact slotOf_ne h endpoint f.field name hslot
  rw [property?_addFields, hnone, Option.map_none, Option.none_or]

end Components

/-! ### The sections of an endpoint -/

namespace Endpoint

/-- The names of the parameters in the path of an endpoint. -/
def pathKeys (e : Endpoint) : List String :=
  e.url.elim [] fun url => (PathTemplate.ofUrl url).2

/-- The names that **do not count** in a section: those of parameters in the path. -/
def skippedNames (e : Endpoint) : FieldKind → List String
  | .parameter => e.pathKeys
  | _ => []

/-- The fields of a section that **count** for its components. -/
def countedFields (e : Endpoint) (part : FieldKind) : List FieldDecl :=
  (e.defaultFields part).filter fun f => !(e.skippedNames part).contains f.field

/-- Every declaration of a name counts that is no parameter in the path. -/
theorem filter_countedFields (e : Endpoint) {name : String} (h : name ∉ e.pathKeys)
    (part : FieldKind) :
    ((e.countedFields part).filter fun f => f.field = name) =
      (e.defaultFields part).filter fun f => f.field = name := by
  have hskipped : name ∉ e.skippedNames part := by
    cases part <;> simp [skippedNames, h]
  unfold countedFields
  rw [List.filter_filter]
  refine List.filter_congr fun f _ => ?_
  by_cases hfield : f.field = name
  · simp [hfield, hskipped]
  · simp [hfield]

end Endpoint

namespace Operation

open Components

/-- **The schema in a slot of a section** comes from the fields of the section. -/
theorem property?_ofEndpoint {part : FieldKind} {kind : SchemaKind}
    (hkind : part.schemaKind? = some kind) (cs : Components) (e : Endpoint) {verb : Verb}
    (hbody : verb.hasBody) (name : String) :
    (ofEndpoint cs e verb e.pathKeys).1.property? (slotOf kind e.name name) =
      ((lastIn? kind e.name (slotOf kind e.name name) (filed (e.countedFields part))).map
        (Schema.ofField kind)).or (cs.property? (slotOf kind e.name name)) := by
  have hrun : (ofEndpoint cs e verb e.pathKeys).1 =
      (((cs.addFields .request (e.defaultFields .parameter) e.name e.pathKeys).1.addFields
        .response (e.defaultFields .success) e.name []).1.addFields
        .error (e.defaultFields .error) e.name []).1 := by
    simp only [ofEndpoint, bodyOf, hbody, if_true, responseOf]
  rw [hrun]
  cases part with
  | parameter =>
      obtain rfl := Option.some.inj hkind
      rw [property?_addFields_of_ne (by decide), property?_addFields_of_ne (by decide),
        property?_addFields]
      rfl
  | header => cases hkind
  | success =>
      obtain rfl := Option.some.inj hkind
      rw [property?_addFields_of_ne (by decide), property?_addFields,
        property?_addFields_of_ne (by decide)]
      rfl
  | error =>
      obtain rfl := Option.some.inj hkind
      rw [property?_addFields, property?_addFields_of_ne (by decide),
        property?_addFields_of_ne (by decide)]
      rfl

end Operation

namespace Document

open Components

/-- The components after one endpoint are those behind its operation. -/
theorem components_addEndpoint (d : Document) {e : Endpoint} {path : String} {verb : Verb}
    (h : e.GoesTo path verb) :
    (d.addEndpoint e).1.components = (Operation.ofEndpoint d.components e verb e.pathKeys).1 := by
  obtain ⟨url, hurl, -, hverb⟩ := h
  unfold addEndpoint Endpoint.pathKeys
  rw [hurl]
  dsimp only
  rw [Verb.ofDeclared?_eq_some_iff.mpr hverb]
  rfl

/-- **The last declaration of a field decides.** Let a field be declared more than once in a section
of an endpoint, and not be a parameter in its path. In the document that the record of the endpoint
has alone, the property of the field has the schema of the last field of the section that goes into
its slot; this is the last declaration of the field, unless other names share the slot. It is the
schema of the first declaration exactly if the two are the same. -/
theorem redeclared_property_iff (info : Info) {record : Json} {e : Endpoint}
    (hread : Endpoint.ofJson? record = some e) {path : String} {verb : Verb}
    (hplace : e.GoesTo path verb) (hbody : verb.hasBody) {part : FieldKind} {kind : SchemaKind}
    (hkind : part.schemaKind? = some kind) {name : String} (hname : name ∉ e.pathKeys)
    {first again : FieldDecl} {more : List FieldDecl}
    (hdeclared : ((e.defaultFields part).filter fun f => f.field = name) = first :: again :: more)
    (j : Journal) :
    ∃ d last, ((build info [record]).outcome j).1 = .ok d ∧
      lastIn? kind e.name (slotOf kind e.name name) (e.countedFields part) = some last ∧
      ((∀ f ∈ e.countedFields part,
          slotOf kind e.name f.field = slotOf kind e.name name → f.field = name) →
        (again :: more).getLast? = some last) ∧
      d.components.property? (slotOf kind e.name name) = some (Schema.ofField kind last) ∧
      (d.components.property? (slotOf kind e.name name) = some (Schema.ofField kind first) ↔
        Schema.ofField kind last = Schema.ofField kind first) := by
  have hcounted := (e.filter_countedFields hname part).trans hdeclared
  obtain ⟨hagain, hfield⟩ : again ∈ (e.countedFields part).tail ∧ again.field = name := by
    have hmem : again ∈ (first :: again :: more).tail := List.mem_cons_self
    rw [← hcounted] at hmem
    exact ⟨(List.filter_sublist.tail).subset hmem,
      of_decide_eq_true (List.mem_filter.mp (List.mem_of_mem_tail hmem)).2⟩
  have hlater : ∃ f ∈ (e.countedFields part).tail,
      slotOf kind e.name f.field = slotOf kind e.name name := ⟨again, hagain, hfield ▸ rfl⟩
  obtain ⟨last, hlast⟩ := Option.isSome_iff_exists.mp (isSome_lastIn?.mpr
    (hlater.imp fun f hf => ⟨List.mem_of_mem_tail hf.1, hf.2⟩))
  have hproperty : (addAll { info } [e]).components.property? (slotOf kind e.name name) =
      some (Schema.ofField kind last) := by
    rw [addAll, List.foldl_cons, List.foldl_nil, components_addEndpoint _ hplace,
      Operation.property?_ofEndpoint hkind _ e hbody, lastIn?_filed kind e.name hlater, hlast]
    rfl
  refine ⟨addAll { info } [e], last, ?_, hlast, ?_, hproperty, ?_⟩
  · rw [build_yields, buildOutcome_eq_addAll info (.cons hread .nil)]
  · intro hunshared
    have hsame : ((e.countedFields part).filter fun f =>
        slotOf kind e.name f.field = slotOf kind e.name name) = first :: again :: more := by
      rw [← hcounted]
      refine List.filter_congr fun f hf => ?_
      exact decide_eq_decide.mpr ⟨hunshared f hf, fun h => h ▸ rfl⟩
    rw [lastIn?, hsame] at hlast
    rwa [List.getLast?_cons_cons] at hlast
  · rw [hproperty, Option.some.injEq]

/-- The record of an endpoint that declares a number as its size, and takes over a list of
parameters in which the size is a text. -/
def resizingRecord : Json :=
  .obj [("type", .str "put"), ("url", .str "/images/:id"), ("name", .str "PutImage"),
    ("parameter", .obj [("fields", .obj [("Parameter", .arr
      [.obj [("field", .str "size"), ("type", .str "Number")],
        .obj [("field", .str "id"), ("type", .str "String")],
        .obj [("field", .str "size"), ("type", .str "String")]])])])]

/-- The endpoint of this record. -/
def resizingEndpoint : Endpoint :=
  { verb := "put", url := some "/images/:id", name := "PutImage"
    parameter := some [("Parameter", [{ field := "size", type := some "Number" },
      { field := "id", type := some "String" }, { field := "size", type := some "String" }])] }

/-- The size is the text that was taken over, and not the number that the endpoint declares. -/
theorem redeclared_property_iff_size :
    ∃ d, ((build {} [resizingRecord]).outcome {}).1 = .ok d ∧
      d.components.property? ("RequestPutImage", "size") = some { type := some "string" } ∧
      d.components.property? ("RequestPutImage", "size") ≠
        some (Schema.ofField .request { field := "size", type := some "Number" }) := by
  have hread : Endpoint.ofJson? resizingRecord = some resizingEndpoint := by decide +kernel
  have hplace : resizingEndpoint.GoesTo "/images/\x7bid\x7d" .put := by decide +kernel
  have hdeclared : ((resizingEndpoint.defaultFields .parameter).filter fun f =>
      f.field = "size") = [{ field := "size", type := some "Number" },
        { field := "size", type := some "String" }] := by decide +kernel
  have hslot : slotOf .request resizingEndpoint.name "size" = ("RequestPutImage", "size") := by
    decide +kernel
  obtain ⟨d, last, hbuild, hlast, -, hproperty, hfirst⟩ := redeclared_property_iff {} hread hplace
    rfl (rfl : FieldKind.parameter.schemaKind? = some .request) (by decide +kernel) hdeclared {}
  rw [hslot] at hlast hproperty hfirst
  obtain rfl : last = { field := "size", type := some "String" } :=
    Option.some.inj (hlast.symm.trans (by decide +kernel))
  refine ⟨d, hbuild, hproperty.trans (by decide +kernel), ?_⟩
  rw [ne_eq, hfirst]
  decide +kernel

end Document

end ApiGloss
