import ApiGloss.Proofs.BareEndpoints

/-!
# Documents Without Their Prose

The prose of a document stands in the summaries of its operations and in the descriptions of its
parameters and properties. Fields that are the same but for their descriptions go to the same
component under the same name, and their schemas are the same but for theirs. So are the parameters,
the operations and the path items that are made of them, and in the end the documents.

## Main results

* `Schema.ofField_agree`, `Components.addFields_agree`: schemas and components.
* `Operation.ofEndpoint_agree`: operations.
* `Document.buildOutcome_agree`: the documents of endpoint records that look the same.
-/

namespace ApiGloss

open Json

/-! ### Schemas -/

namespace Schema

/-- A schema **without prose**. -/
def withoutProse (s : Schema) : Schema :=
  { s with description := none }

/-- Sizes are read off types. -/
theorem withoutProse_withSize (s : Schema) (size : Option String) :
    (s.withSize size).withoutProse = s.withoutProse.withSize size := by
  unfold withSize withoutProse
  dsimp only
  split <;> rfl

/-- Default and allowed values do not depend on prose. -/
theorem withoutProse_withValues (s : Schema) (defaultValue : Option String)
    (allowed : Option (List String)) :
    (s.withValues defaultValue allowed).withoutProse =
      s.withoutProse.withValues defaultValue allowed := by
  unfold withValues
  dsimp only
  split <;> rfl

/-- References and unknown types do not depend on prose. -/
theorem withoutProse_settleType (kind : SchemaKind) (field : String) (s : Schema) :
    (settleType kind field s).withoutProse = settleType kind field s.withoutProse := by
  have htype : s.withoutProse.type = s.type := rfl
  unfold settleType
  rw [htype]
  cases s.type with
  | none => rfl
  | some t =>
      dsimp only
      split
      · rfl
      · split <;> rfl

/-- **The schemas of fields** that are the same but for prose. -/
theorem ofField_agree (kind : SchemaKind) {d d' : FieldDecl}
    (h : d.SameButProse d') :
    (ofField kind d).withoutProse = (ofField kind d').withoutProse := by
  have hprose : ∀ d : FieldDecl,
      (ofField kind d).withoutProse = (ofField kind d.withoutProse).withoutProse := by
    intro d
    unfold ofField
    dsimp only
    simp only [withoutProse_settleType, withoutProse_withValues, withoutProse_withSize]
    rfl
  rw [hprose d, hprose d', show d.withoutProse = d'.withoutProse from h]

end Schema

/-! ### Components -/

namespace Component

/-- A component **without prose**. -/
def withoutProse (c : Component) : Component :=
  { c with properties := Table.mapValues (fun _ s => s.withoutProse) c.properties }

end Component

namespace Components

/-- Components **without prose**. -/
def withoutProse (cs : Components) : Components :=
  Table.mapValues (fun _ c => c.withoutProse) cs

/-- Adding properties that are the same but for prose. -/
theorem addProperty_agree {c c' : Component} (hc : c.withoutProse = c'.withoutProse)
    (name : String) {s s' : Schema} (hs : s.withoutProse = s'.withoutProse) (required : Bool) :
    (addProperty c name s required).withoutProse =
      (addProperty c' name s' required).withoutProse := by
  obtain ⟨hproperties, hrequired⟩ := Component.mk.inj hc
  unfold addProperty Component.withoutProse
  dsimp only at hrequired ⊢
  rw [Table.mapValues_insert, Table.mapValues_insert, hproperties, hs, hrequired]

/-- Fields that are the same but for prose go to the same place. -/
theorem placeField_agree (kind : SchemaKind) (endpoint : String) (outcome : FieldsOutcome)
    {d d' : FieldDecl} (h : d.SameButProse d') :
    placeField kind endpoint outcome d = placeField kind endpoint outcome d' := by
  unfold placeField
  rw [h.field_eq, h.type_eq]

/-- Two states of a list of fields are the same but for prose. -/
def SameButProse (state state' : Components × FieldsOutcome) : Prop :=
  withoutProse state.1 = withoutProse state'.1 ∧ state.2 = state'.2

/-- **One field more.** -/
theorem addField_agree (kind : SchemaKind) (endpoint : String)
    {state state' : Components × FieldsOutcome} (hstate : SameButProse state state')
    {d d' : FieldDecl} (hd : d.SameButProse d') :
    SameButProse (addField kind endpoint state d) (addField kind endpoint state' d') := by
  obtain ⟨cs, outcome⟩ := state
  obtain ⟨cs', outcome'⟩ := state'
  obtain ⟨hcs, rfl⟩ := hstate
  dsimp only at hcs
  have hcomponent : ∀ name, ((Table.get? name cs).getD {}).withoutProse =
      ((Table.get? name cs').getD {}).withoutProse :=
    fun name => Table.getD_of_mapValues_eq _ hcs name {}
  unfold addField
  dsimp only
  rw [← placeField_agree kind endpoint outcome hd, hd.isOptional_eq]
  obtain ⟨object, property?, next⟩ := placeField kind endpoint outcome d
  dsimp only
  refine ⟨?_, rfl⟩
  unfold withoutProse at hcs ⊢
  dsimp only
  rw [Table.mapValues_insert, Table.mapValues_insert, hcs]
  cases property? with
  | none => rw [hcomponent]
  | some property =>
      rw [addProperty_agree (hcomponent _) property (Schema.ofField_agree kind hd)]

/-- **Lists of fields** that are the same but for prose. -/
theorem addFields_agree {cs cs' : Components} (hcs : cs.withoutProse = cs'.withoutProse)
    (kind : SchemaKind) {fields fields' : List FieldDecl}
    (h : List.Forall₂ FieldDecl.SameButProse fields fields') (endpoint : String)
    (skip : List String) :
    SameButProse (cs.addFields kind fields endpoint skip)
      (cs'.addFields kind fields' endpoint skip) := by
  have hfilter := FieldDecl.forall₂_filter_field (fun name => !skip.contains name) h
  have hrun : ∀ l l', List.Forall₂ FieldDecl.SameButProse l l' → ∀ state state',
      SameButProse state state' → SameButProse (l.foldl (addField kind endpoint) state)
        (l'.foldl (addField kind endpoint) state') := by
    intro l l' hl
    induction hl with
    | nil => exact fun _ _ hstate => hstate
    | cons hd _ ih => exact fun _ _ hstate => ih _ _ (addField_agree kind endpoint hstate hd)
  exact hrun _ _ hfilter _ _ ⟨hcs, rfl⟩

end Components

/-! ### Operations -/

/-- A parameter **without prose**; its schema has no description of its own. -/
def Parameter.withoutProse (p : Parameter) : Parameter :=
  { p with description := none }

namespace Operation

/-- An operation **without prose**; bodies and responses hold none. -/
def withoutProse (op : Operation) : Operation :=
  { op with summary := none, parameters := op.parameters.map Parameter.withoutProse }

/-- The parameters of fields that are the same but for prose. -/
theorem parameterOf_agree (location : Location) {d d' : FieldDecl} (h : d.SameButProse d') :
    (parameterOf location d).withoutProse = (parameterOf location d').withoutProse := by
  have hschema : { Schema.ofField .request d with description := none } =
      { Schema.ofField .request d' with description := none } := Schema.ofField_agree .request h
  unfold parameterOf Parameter.withoutProse
  dsimp only
  rw [hschema, h.field_eq, h.isOptional_eq]

/-- Parameters are told apart by name and location. -/
theorem withoutProse_addParameter (ps : List Parameter) (p : Parameter) :
    (addParameter ps p).map Parameter.withoutProse =
      addParameter (ps.map Parameter.withoutProse) p.withoutProse := by
  have hany : (ps.map Parameter.withoutProse).any (fun q =>
      q.name == p.withoutProse.name && q.location == p.withoutProse.location) =
        ps.any fun q => q.name == p.name && q.location == p.location := by
    rw [List.any_map]
    rfl
  unfold addParameter
  rw [hany]
  split
  · rfl
  · rw [List.map_append, List.map_singleton]

/-- Parameters that are added one by one. -/
theorem withoutProse_foldl_addParameter (l ps : List Parameter) :
    (l.foldl addParameter ps).map Parameter.withoutProse =
      (l.map Parameter.withoutProse).foldl addParameter (ps.map Parameter.withoutProse) := by
  induction l generalizing ps with
  | nil => rfl
  | cons p rest ih =>
      rw [List.foldl_cons, List.map_cons, List.foldl_cons, ih, withoutProse_addParameter]

variable {e e' : Endpoint}

/-- **The parameters** of endpoints that are the same but for prose. -/
theorem parametersOf_agree (h : e.SameButProse e') (pathKeys : List String) :
    (parametersOf e pathKeys).map Parameter.withoutProse =
      (parametersOf e' pathKeys).map Parameter.withoutProse := by
  have hall : ∀ (location : Location) (l l' : List FieldDecl),
      List.Forall₂ FieldDecl.SameButProse l l' →
      (l.map (parameterOf location)).map Parameter.withoutProse =
        (l'.map (parameterOf location)).map Parameter.withoutProse := by
    intro location l l' hl
    induction hl with
    | nil => rfl
    | cons hd _ ih =>
        rw [List.map_cons, List.map_cons, ih, parameterOf_agree location hd]
        rfl
  have hpath := FieldDecl.forall₂_filter_field (pathKeys.contains ·) (h.fields .parameter)
  unfold parametersOf
  dsimp only
  rw [withoutProse_foldl_addParameter, withoutProse_foldl_addParameter, List.map_append,
    List.map_append, hall .path _ _ hpath, hall .header _ _ (h.fields .header)]

variable {cs cs' : Components}

/-- **The body of a request.** -/
theorem bodyOf_agree (hcs : cs.withoutProse = cs'.withoutProse) (h : e.SameButProse e')
    (verb : Verb) (pathKeys : List String) :
    (bodyOf cs e verb pathKeys).1.withoutProse = (bodyOf cs' e' verb pathKeys).1.withoutProse ∧
      (bodyOf cs e verb pathKeys).2 = (bodyOf cs' e' verb pathKeys).2 := by
  have hempty : (e.defaultFields .parameter).isEmpty = (e'.defaultFields .parameter).isEmpty := by
    rw [Bool.eq_iff_iff, List.isEmpty_iff_length_eq_zero, List.isEmpty_iff_length_eq_zero,
      (h.fields .parameter).length_eq]
  obtain ⟨hcomponents, houtcome⟩ :=
    Components.addFields_agree hcs .request (h.fields .parameter) e.name pathKeys
  unfold bodyOf
  rw [← h.name_eq]
  split
  · dsimp only
    rw [← houtcome, hempty]
    exact ⟨hcomponents, rfl⟩
  · exact ⟨hcs, rfl⟩

/-- **A response.** -/
theorem responseOf_agree (hcs : cs.withoutProse = cs'.withoutProse) (h : e.SameButProse e')
    (part : FieldKind) (kind : SchemaKind) (code description : String) :
    (responseOf cs e part kind code description).1.withoutProse =
        (responseOf cs' e' part kind code description).1.withoutProse ∧
      (responseOf cs e part kind code description).2 =
        (responseOf cs' e' part kind code description).2 := by
  obtain ⟨hcomponents, houtcome⟩ :=
    Components.addFields_agree hcs kind (h.fields part) e.name []
  unfold responseOf
  dsimp only
  rw [← h.name_eq, ← houtcome]
  exact ⟨hcomponents, rfl⟩

/-- **The operations of endpoints** that are the same but for prose. -/
theorem ofEndpoint_agree (hcs : cs.withoutProse = cs'.withoutProse) (h : e.SameButProse e')
    (verb : Verb) (pathKeys : List String) :
    (ofEndpoint cs e verb pathKeys).1.withoutProse =
        (ofEndpoint cs' e' verb pathKeys).1.withoutProse ∧
      (ofEndpoint cs e verb pathKeys).2.withoutProse =
        (ofEndpoint cs' e' verb pathKeys).2.withoutProse := by
  obtain ⟨hbody, hrequest⟩ := bodyOf_agree hcs h verb pathKeys
  obtain ⟨hsuccess, hresponse⟩ :=
    responseOf_agree hbody h .success .response "200" "Successful response"
  obtain ⟨hfailure, herror⟩ := responseOf_agree hsuccess h .error .error "404" "Error response"
  refine ⟨hfailure, ?_⟩
  unfold ofEndpoint withoutProse
  dsimp only
  rw [hrequest, hresponse, herror, parametersOf_agree h, h.group_eq, h.name_eq, h.isDeprecated_eq]

end Operation

/-! ### Documents -/

/-- Two endpoint records **look the same**: under every name other than that of the description of
the group, they hold the same up to texts for readers. -/
def RecordsAlike (record record' : Json) : Prop :=
  ∃ t t', record = .obj t ∧ record' = .obj t' ∧
    ∀ key, key ≠ "groupDescription" → PartsAlike key (Table.get? key t) (Table.get? key t')

/-- The operations of a path **without prose**. -/
def PathItem.withoutProse (item : PathItem) : PathItem :=
  fun verb => (item verb).map Operation.withoutProse

namespace Document

/-- A document **without prose**: the summaries of its operations and the descriptions of its
parameters and properties are left out. -/
def withoutProse (d : Document) : Document :=
  { d with
    paths := Table.mapValues (fun _ item => PathItem.withoutProse item) d.paths
    components := d.components.withoutProse }

/-- Putting operations into their path items that are the same but for prose. -/
theorem setOperation_agree {paths paths' : Table PathItem}
    (hpaths : Table.mapValues (fun _ item => PathItem.withoutProse item) paths =
      Table.mapValues (fun _ item => PathItem.withoutProse item) paths')
    (path : String) (verb : Verb) {op op' : Operation} (hop : op.withoutProse = op'.withoutProse) :
    Table.mapValues (fun _ item => PathItem.withoutProse item) (setOperation paths path verb op) =
      Table.mapValues (fun _ item => PathItem.withoutProse item)
        (setOperation paths' path verb op') := by
  have hitem : PathItem.withoutProse ((Table.get? path paths).getD fun _ => none) =
      PathItem.withoutProse ((Table.get? path paths').getD fun _ => none) :=
    Table.getD_of_mapValues_eq _ hpaths path _
  unfold setOperation
  dsimp only
  rw [Table.mapValues_insert, Table.mapValues_insert, hpaths]
  -- path items are functions of the verb: the new operation at its verb, the former ones elsewhere
  congr 1
  funext v
  have hother := congrFun hitem v
  unfold PathItem.withoutProse at hother ⊢
  dsimp only
  split
  · rw [Option.map_some, Option.map_some, hop]
  · exact hother

/-- **One endpoint more.** -/
theorem addEndpoint_agree {d d' : Document} (hd : d.withoutProse = d'.withoutProse)
    {e e' : Endpoint} (h : e.SameButProse e') :
    (d.addEndpoint e).1.withoutProse = (d'.addEndpoint e').1.withoutProse := by
  obtain ⟨hinfo, hpaths, hcomponents⟩ := Document.mk.inj hd
  unfold addEndpoint
  rw [← h.url_eq, ← h.verb_eq]
  cases e.url with
  | none => exact hd
  | some url =>
      dsimp only
      cases Verb.ofDeclared? e.verb with
      | none => exact hd
      | some verb =>
          obtain ⟨path, keys⟩ := PathTemplate.ofUrl url
          obtain ⟨hcs, hop⟩ := Operation.ofEndpoint_agree hcomponents h verb keys
          unfold withoutProse
          dsimp only
          rw [hinfo, hcs, setOperation_agree hpaths path verb hop]

/-- **The documents of endpoint records that look the same** are the same but for prose, or there is
none for the same reason. -/
theorem buildOutcome_agree (info : Info) {records records' : List Json}
    (h : List.Forall₂ RecordsAlike records records') :
    Run.Agree (fun d d' => withoutProse d = withoutProse d') (buildOutcome info records)
      (buildOutcome info records') := by
  refine Run.agree_foldlM (fun d d' record record' hd hrecord => ?_) h rfl
  obtain ⟨t, t', rfl, rfl, hview⟩ := hrecord
  have hread := Endpoint.ofJson?_agree hview
  unfold recordOutcome
  generalize Endpoint.ofJson? (.obj t) = e? at hread ⊢
  generalize Endpoint.ofJson? (.obj t') = e?' at hread ⊢
  cases hread with
  | none => rfl
  | some he => exact addEndpoint_agree hd he

end Document

end ApiGloss
