import ApiGloss.Proofs.OperationSlots

/-!
# References to Components

The body of a request and a response say what they hold by pointing to a component. The name in the
reference comes from the first field of a list that counts, the component itself is filed while the
fields are added, and both end up in one document together with everything that other endpoints
contribute. This module shows that the two sides meet: whatever the fields are, the component that
a list of fields stands for is among the components when the list has been added
(`Components.addFields_spec`), and components are never removed, so the reference still leads
somewhere when all endpoints have been added.

## Main results

* `Components.addFields_spec`: the component of a list of fields exists.
* `Operation.grounded_ofEndpoint`: the schemas of an operation point to components.
* `Document.build_references_exist`: no document has a body or a response whose schema points
  nowhere.
-/

namespace ApiGloss

/-! ### Schemas that point to a component -/

/-- A schema **points to** a component: it is the reference to it, or an array of such
references. -/
def Schema.PointsTo (s : Schema) (name : String) : Prop :=
  s = { reference := some ("#/components/schemas/" ++ name) } ∨
    s = { type := some "array", items := some (.reference ("#/components/schemas/" ++ name)) }

/-- A schema is **grounded** if it points to one of the components, with a name for its use. -/
def Schema.Grounded (s : Schema) (kind : SchemaKind) (cs : Components) : Prop :=
  ∃ name, s.PointsTo (kind.label ++ name) ∧ kind.label ++ name ∈ Table.keys cs

/-- More components ground no less. -/
theorem Schema.Grounded.mono {s : Schema} {kind : SchemaKind} {cs cs' : Components}
    (h : s.Grounded kind cs) (hsub : Table.keys cs ⊆ Table.keys cs') : s.Grounded kind cs' := by
  obtain ⟨name, hpoints, hmem⟩ := h
  exact ⟨name, hpoints, hsub hmem⟩

/-- What a list of fields stands for is grounded by the component of its object. -/
theorem FieldsOutcome.grounded_schema {o : FieldsOutcome} {kind : SchemaKind} {cs : Components}
    (ho : ∀ object, o.object = some object → kind.componentName object ∈ Table.keys cs)
    {s : Schema} (h : o.schema kind = some s) : s.Grounded kind cs := by
  obtain ⟨object, hobject, rfl⟩ := Option.map_eq_some_iff.mp h
  refine ⟨Text.upperFirst object, ?_, ho object hobject⟩
  dsimp only
  split
  · exact Or.inr rfl
  · exact Or.inl rfl

/-! ### Lists of fields -/

namespace Components

/-- Storing a component keeps all names and adds its own. -/
theorem keys_subset_insert (name : String) (c : Component) (cs : Components) :
    Table.keys cs ⊆ Table.keys (Table.insert name c cs) ∧
      name ∈ Table.keys (Table.insert name c cs) := by
  rw [Table.keys_insert]
  split
  · rename_i hknown
    exact ⟨List.Subset.refl _, Table.contains_iff_mem_keys.mp hknown⟩
  · exact ⟨List.subset_append_left _ _, by simp⟩

/-- **The first field decides**: what the list stands for stays as it is, or it is the object that
the field goes to. -/
theorem placeField_outcome (kind : SchemaKind) (endpoint : String) (outcome : FieldsOutcome)
    (field : FieldDecl) {object : String}
    (h : (placeField kind endpoint outcome field).2.2.object = some object) :
    outcome.object = some object ∨ (placeField kind endpoint outcome field).1 = object := by
  simp only [placeField] at h ⊢
  cases houtcome : outcome.object with
  | some object' =>
      rw [houtcome] at h
      exact Or.inl (houtcome.symm.trans h)
  | none =>
      rw [houtcome] at h
      simp only at h ⊢
      split at h
      · rename_i hdeclared
        rw [if_pos hdeclared]
        exact Or.inr (Option.some.inj h)
      · rename_i hdeclared
        rw [if_neg hdeclared]
        exact Or.inr (Option.some.inj h)

/-- The component of what the fields so far stand for exists. -/
def Files (kind : SchemaKind) (state : Components × FieldsOutcome) : Prop :=
  ∀ object, state.2.object = some object → kind.componentName object ∈ Table.keys state.1

/-- **One field** keeps the components and files what the list stands for. -/
theorem addField_spec {kind : SchemaKind} {state : Components × FieldsOutcome}
    (h : Files kind state) (endpoint : String) (field : FieldDecl) :
    Table.keys state.1 ⊆ Table.keys (addField kind endpoint state field).1 ∧
      Files kind (addField kind endpoint state field) := by
  obtain ⟨c, hstored⟩ : ∃ c, (addField kind endpoint state field).1 =
      Table.insert (kind.componentName (placeField kind endpoint state.2 field).1) c state.1 :=
    ⟨_, rfl⟩
  obtain ⟨hkeep, hname⟩ := keys_subset_insert
    (kind.componentName (placeField kind endpoint state.2 field).1) c state.1
  rw [← hstored] at hkeep hname
  refine ⟨hkeep, fun object hobject => ?_⟩
  rw [addField_snd] at hobject
  rcases placeField_outcome kind endpoint state.2 field hobject with hbefore | hnow
  · exact hkeep (h object hbefore)
  · exact hnow ▸ hname

/-- **A list of fields** keeps the components and files what it stands for. -/
theorem addFields_spec (cs : Components) (kind : SchemaKind) (fields : List FieldDecl)
    (endpoint : String) (skip : List String) :
    Table.keys cs ⊆ Table.keys (cs.addFields kind fields endpoint skip).1 ∧
      Files kind (cs.addFields kind fields endpoint skip) := by
  have hrun : ∀ (counted : List FieldDecl) (state : Components × FieldsOutcome),
      Files kind state →
      Table.keys state.1 ⊆ Table.keys (counted.foldl (addField kind endpoint) state).1 ∧
        Files kind (counted.foldl (addField kind endpoint) state) := by
    intro counted
    induction counted with
    | nil => exact fun state h => ⟨List.Subset.refl _, h⟩
    | cons field counted ih =>
        intro state h
        obtain ⟨hkeep, hfiles⟩ := addField_spec h endpoint field
        obtain ⟨hkeep', hfiles'⟩ := ih _ hfiles
        exact ⟨List.Subset.trans hkeep hkeep', hfiles'⟩
  exact hrun _ (cs, {}) nofun

end Components

/-! ### Operations -/

namespace Operation

/-- The schemas of an operation are **grounded** in components: that of its body as a request, and
those of its responses by their codes. -/
structure Grounded (op : Operation) (cs : Components) : Prop where
  body : ∀ body, op.requestBody = some body → body.schema.Grounded .request cs
  responses : ∀ code response schema, (code, response) ∈ op.responses →
    response.schema = some schema →
    code = "200" ∧ schema.Grounded .response cs ∨ code = "404" ∧ schema.Grounded .error cs

/-- More components ground no less. -/
theorem Grounded.mono {op : Operation} {cs cs' : Components} (h : op.Grounded cs)
    (hsub : Table.keys cs ⊆ Table.keys cs') : op.Grounded cs' where
  body body hbody := (h.body body hbody).mono hsub
  responses code response schema hmem hschema :=
    (h.responses code response schema hmem hschema).imp (fun h => ⟨h.1, h.2.mono hsub⟩)
      fun h => ⟨h.1, h.2.mono hsub⟩

/-- The body of a request is grounded in the components behind it. -/
theorem grounded_bodyOf {cs cs' : Components} {e : Endpoint} {verb : Verb}
    {pathKeys : List String} {requestBody : Option RequestBody}
    (h : bodyOf cs e verb pathKeys = (cs', requestBody)) :
    Table.keys cs ⊆ Table.keys cs' ∧
      ∀ body, requestBody = some body → body.schema.Grounded .request cs' := by
  rw [bodyOf] at h
  split at h
  · obtain ⟨rfl, rfl⟩ := Prod.mk.inj h
    obtain ⟨hkeep, hfiles⟩ :=
      cs.addFields_spec .request (e.defaultFields .parameter) e.name pathKeys
    refine ⟨hkeep, fun body hbody => ?_⟩
    obtain ⟨schema, hschema, rfl⟩ := Option.map_eq_some_iff.mp hbody
    exact FieldsOutcome.grounded_schema hfiles hschema
  · obtain ⟨rfl, rfl⟩ := Prod.mk.inj h
    exact ⟨List.Subset.refl _, fun body hbody => absurd hbody (Option.some_ne_none body).symm⟩

/-- A response is grounded in the components behind it. -/
theorem grounded_responseOf {cs cs' : Components} {e : Endpoint} {part : FieldKind}
    {kind : SchemaKind} {code description : String} {responses : Table Response}
    (h : responseOf cs e part kind code description = (cs', responses)) :
    Table.keys cs ⊆ Table.keys cs' ∧
      ∀ entry ∈ responses, ∀ schema, entry.2.schema = some schema →
        entry.1 = code ∧ schema.Grounded kind cs' := by
  obtain ⟨rfl, rfl⟩ := Prod.mk.inj h
  obtain ⟨hkeep, hfiles⟩ := cs.addFields_spec kind (e.defaultFields part) e.name []
  refine ⟨hkeep, fun entry hentry schema hschema => ?_⟩
  split at hentry
  · rename_i schema' hschema'
    obtain rfl := List.mem_singleton.mp hentry
    obtain rfl := Option.some.inj hschema
    exact ⟨rfl, FieldsOutcome.grounded_schema hfiles hschema'⟩
  · exact absurd hentry List.not_mem_nil

/-- **The operation of an endpoint** is grounded in the components behind it. -/
theorem grounded_ofEndpoint (cs : Components) (e : Endpoint) (verb : Verb)
    (pathKeys : List String) :
    Table.keys cs ⊆ Table.keys (ofEndpoint cs e verb pathKeys).1 ∧
      (ofEndpoint cs e verb pathKeys).2.Grounded (ofEndpoint cs e verb pathKeys).1 := by
  obtain ⟨behind₁, requestBody, hdef₁⟩ : ∃ cs' result, bodyOf cs e verb pathKeys = (cs', result) :=
    ⟨_, _, rfl⟩
  obtain ⟨behind₂, success, hdef₂⟩ : ∃ cs' result,
      responseOf behind₁ e .success .response "200" "Successful response" = (cs', result) :=
    ⟨_, _, rfl⟩
  obtain ⟨behind₃, failure, hdef₃⟩ : ∃ cs' result,
      responseOf behind₂ e .error .error "404" "Error response" = (cs', result) :=
    ⟨_, _, rfl⟩
  obtain ⟨hkeep₁, hbody⟩ := grounded_bodyOf hdef₁
  obtain ⟨hkeep₂, hsuccess⟩ := grounded_responseOf hdef₂
  obtain ⟨hkeep₃, hfailure⟩ := grounded_responseOf hdef₃
  simp only [ofEndpoint, hdef₁, hdef₂, hdef₃]
  have hkeep := List.Subset.trans hkeep₂ hkeep₃
  refine ⟨List.Subset.trans hkeep₁ hkeep, ⟨fun body h => ?_, ?_⟩⟩
  · exact (hbody body h).mono hkeep
  · intro code response schema hmem hschema
    dsimp only at hmem
    split at hmem
    · -- the response that stands in for missing ones has no schema
      obtain ⟨-, rfl⟩ := Prod.mk.inj (List.mem_singleton.mp hmem)
      cases hschema
    · rcases List.mem_append.mp hmem with hmem | hmem
      · obtain ⟨hcode, hgrounded⟩ := hsuccess _ hmem schema hschema
        exact Or.inl ⟨hcode, hgrounded.mono hkeep₃⟩
      · exact Or.inr (hfailure _ hmem schema hschema)

end Operation

/-! ### Documents -/

namespace Document

/-- All operations of a document are grounded in its components. -/
def Grounded (d : Document) : Prop :=
  ∀ entry ∈ d.paths, ∀ verb op, entry.2 verb = some op → op.Grounded d.components

/-- An operation that is put into its place joins those that were there. -/
theorem mem_setOperation {paths : Table PathItem} {path : String} {verb : Verb} {op : Operation}
    {entry : String × PathItem} (hentry : entry ∈ setOperation paths path verb op) {verb' : Verb}
    {op' : Operation} (hop : entry.2 verb' = some op') :
    op' = op ∨ ∃ entry' ∈ paths, entry'.2 verb' = some op' := by
  rcases Table.mem_insert hentry with hmem | rfl
  · exact Or.inr ⟨entry, hmem, hop⟩
  · dsimp only at hop
    split at hop
    · exact Or.inl (Option.some.inj hop).symm
    · cases hget : Table.get? path paths with
      | none =>
          rw [hget] at hop
          cases hop
      | some item =>
          rw [hget] at hop
          exact Or.inr ⟨(path, item), Table.mem_of_get? hget, hop⟩

/-- **One endpoint** leaves all operations grounded. -/
theorem grounded_addEndpoint {d : Document} (h : d.Grounded) (e : Endpoint) :
    (d.addEndpoint e).1.Grounded := by
  rw [addEndpoint]
  cases e.url with
  | none => exact h
  | some url =>
      cases Verb.ofDeclared? e.verb with
      | none => exact h
      | some verb =>
          obtain ⟨hkeep, hgrounded⟩ :=
            Operation.grounded_ofEndpoint d.components e verb (PathTemplate.ofUrl url).2
          intro entry hentry verb' op' hop
          rcases mem_setOperation hentry hop with rfl | ⟨entry', hentry', hop'⟩
          · exact hgrounded
          · exact (h entry' hentry' verb' op' hop').mono hkeep

/-- **Many endpoint records** leave all operations grounded. -/
theorem grounded_foldlM {d d' : Document} (h : d.Grounded) {records : List Json}
    (hrun : records.foldlM recordOutcome d = .ok d') : d'.Grounded := by
  induction records generalizing d with
  | nil =>
      obtain rfl := Except.ok.inj hrun
      exact h
  | cons record records ih =>
      rw [List.foldlM_cons] at hrun
      obtain ⟨next, hnext, hrest⟩ := Run.bind_eq_ok_iff.mp hrun
      refine ih ?_ hrest
      rw [recordOutcome] at hnext
      split at hnext
      · cases hnext
      · obtain rfl := Except.ok.inj hnext
        exact grounded_addEndpoint h _

/-- **References to components lead somewhere.** In every document that is built, the schema in the
body of a request is a reference, or an array of references, to a component of the document whose
name starts with `Request`; the schema in a response is one to a component whose name starts with
`Response` for the code 200 and with `Error` for the code 404, and no other response has one. -/
theorem build_references_exist (info : Info) {records : List Json} {d : Document} (j : Journal)
    (h : ((build info records).outcome j).1 = .ok d) :
    ∀ entry ∈ d.paths, ∀ verb op, entry.2 verb = some op →
      (∀ body, op.requestBody = some body → ∃ name, body.schema.PointsTo ("Request" ++ name) ∧
        "Request" ++ name ∈ Table.keys d.components) ∧
      ∀ code response schema, (code, response) ∈ op.responses → response.schema = some schema →
        (code = "200" ∧ ∃ name, schema.PointsTo ("Response" ++ name) ∧
          "Response" ++ name ∈ Table.keys d.components) ∨
        (code = "404" ∧ ∃ name, schema.PointsTo ("Error" ++ name) ∧
          "Error" ++ name ∈ Table.keys d.components) := by
  rw [build_yields, buildOutcome] at h
  have hempty : ({ info } : Document).Grounded := fun entry hentry => absurd hentry List.not_mem_nil
  intro entry hentry verb op hop
  have hgrounded := grounded_foldlM hempty h entry hentry verb op hop
  exact ⟨hgrounded.body, hgrounded.responses⟩

/-- The record of an endpoint without a name. The first parameter is part of the path, so that the
list counts from the array on; a response is declared by a qualified name. -/
def namelessRecord : Json :=
  .obj [("type", .str "post"), ("url", .str "/rows/:id"),
    ("parameter", .obj [("fields", .obj [("Parameter", .arr
      [.obj [("field", .str "id"), ("type", .str "Number")],
        .obj [("field", .str "rows"), ("type", .str "Array")],
        .obj [("field", .str "rows.cell")]])])]),
    ("success", .obj [("fields", .obj [("Success 200", .arr
      [.obj [("field", .str "table:size"), ("type", .str "Number")]])])]),
    ("error", .obj [("fields", .obj [("Error 4xx", .arr [.obj [("field", .str "code")]])])])]

/-- The endpoint of this record. -/
def namelessEndpoint : Endpoint :=
  { verb := "post", url := some "/rows/:id"
    parameter := some [("Parameter", [{ field := "id", type := some "Number" },
      { field := "rows", type := some "Array" }, { field := "rows.cell" }])]
    success := some [("Success 200", [{ field := "table:size", type := some "Number" }])]
    error := some [("Error 4xx", [{ field := "code" }])] }

/-- The body is an array of the component of its first field that counts, the success is the object
that its field names, and the error has a component although the endpoint has no name. -/
theorem build_references_exist_nameless :
    ∃ d op, ((build {} [namelessRecord]).outcome {}).1 = .ok d ∧
      d.operation? "/rows/\x7bid\x7d" "post" = some op ∧
      (∃ body, op.requestBody = some body ∧ ∃ name, body.schema.PointsTo ("Request" ++ name) ∧
        "Request" ++ name ∈ Table.keys d.components) ∧
      (∃ schema, ("200", ⟨"Successful response", some schema⟩) ∈ op.responses ∧
        ∃ name, schema.PointsTo ("Response" ++ name) ∧
          "Response" ++ name ∈ Table.keys d.components) ∧
      ∃ schema, ("404", ⟨"Error response", some schema⟩) ∈ op.responses ∧
        ∃ name, schema.PointsTo ("Error" ++ name) ∧
          "Error" ++ name ∈ Table.keys d.components := by
  have hread : Endpoint.ofJson? namelessRecord = some namelessEndpoint := by decide +kernel
  have hbuild : ((build {} [namelessRecord]).outcome {}).1 =
      .ok (addAll { info := {} } [namelessEndpoint]) := by
    rw [build_yields, buildOutcome_eq_addAll {} (.cons hread .nil)]
  have hparts : ((addAll { info := {} } [namelessEndpoint]).operation? "/rows/\x7bid\x7d"
      "post").map (fun op => (op.requestBody, op.responses)) =
      some (some ⟨"rows request", true,
        { type := "array", items := some (.reference "#/components/schemas/RequestRows") }⟩,
        [("200", ⟨"Successful response",
          some { reference := "#/components/schemas/ResponseTable" }⟩),
        ("404", ⟨"Error response", some { reference := "#/components/schemas/Error" }⟩)]) := by
    decide +kernel
  obtain ⟨op, hop, hvalue⟩ := Option.map_eq_some_iff.mp hparts
  obtain ⟨hbody, hresponses⟩ := Prod.mk.inj hvalue
  obtain ⟨item, hitem, hverb⟩ := Option.bind_eq_some_iff.mp
    ((operation?_text _ _ .post).symm.trans hop)
  obtain ⟨hbodies, hothers⟩ := build_references_exist {} {} hbuild _ (Table.mem_of_get? hitem) .post
    op hverb
  have hsuccess : ("200", _) ∈ op.responses := hresponses ▸ List.mem_cons_self
  have hfailure : ("404", _) ∈ op.responses :=
    hresponses ▸ List.mem_cons_of_mem _ List.mem_cons_self
  refine ⟨_, op, hbuild, hop, ⟨_, hbody, hbodies _ hbody⟩, ⟨_, hsuccess, ?_⟩, ⟨_, hfailure, ?_⟩⟩
  · exact ((hothers _ _ _ hsuccess rfl).resolve_right fun h => absurd h.1 (by decide)).2
  · exact ((hothers _ _ _ hfailure rfl).resolve_left fun h => absurd h.1 (by decide)).2

end Document

end ApiGloss
