import ApiGloss.Proofs.BreadthFirst
import ApiGloss.Proofs.Outcome
import ApiGloss.Proofs.Tables

/-!
# The Operations of a Document

All endpoints of a document feed the same components and the same paths. This module says that they
do not get into each other's way. An operation is made of its endpoint alone: the components grow
with every list of fields, but what a list of fields stands for is found without looking at them
(`Components.addFields_snd`). And a path and a verb have one place, which the last endpoint that
goes there fills; an endpoint without a place changes nothing.

## Main results

* `Operation.ofEndpoint_snd`: the operation of an endpoint does not depend on the components.
* `Document.operation?_addEndpoint`, `Document.operation?_addAll`: the operation at a place after
  one endpoint, and after many of them.
* `Document.operations_of_last_records`: the paths and operations of a document.
-/

namespace ApiGloss

/-! ### Operations and components -/

namespace Components

/-- What the fields so far stand for is found without the components. -/
theorem addField_snd (kind : SchemaKind) (endpoint : String) (state : Components × FieldsOutcome)
    (field : FieldDecl) :
    (addField kind endpoint state field).2 = (placeField kind endpoint state.2 field).2.2 := by
  unfold addField
  generalize placeField kind endpoint state.2 field = placed
  rfl

/-- **What a list of fields stands for** is found without the components. -/
theorem addFields_snd (cs : Components) (kind : SchemaKind) (fields : List FieldDecl)
    (endpoint : String) (skip : List String) :
    (cs.addFields kind fields endpoint skip).2 =
      (fields.filter fun f => !skip.contains f.field).foldl
        (fun outcome field => (placeField kind endpoint outcome field).2.2) {} := by
  have hrun : ∀ (counted : List FieldDecl) (state : Components × FieldsOutcome),
      (counted.foldl (addField kind endpoint) state).2 =
        counted.foldl (fun outcome field => (placeField kind endpoint outcome field).2.2)
          state.2 := by
    intro counted
    induction counted with
    | nil => exact fun _ => rfl
    | cons field counted ih =>
        intro state
        rw [List.foldl_cons, List.foldl_cons, ih, addField_snd]
  exact hrun _ (cs, {})

end Components

namespace Operation

/-- The body of a request does not depend on the components. -/
theorem bodyOf_snd (cs cs' : Components) (e : Endpoint) (verb : Verb) (pathKeys : List String) :
    (bodyOf cs e verb pathKeys).2 = (bodyOf cs' e verb pathKeys).2 := by
  unfold bodyOf
  split
  · simp only [Components.addFields_snd]
  · rfl

/-- A response does not depend on the components. -/
theorem responseOf_snd (cs cs' : Components) (e : Endpoint) (part : FieldKind) (kind : SchemaKind)
    (code description : String) :
    (responseOf cs e part kind code description).2 =
      (responseOf cs' e part kind code description).2 := by
  unfold responseOf
  simp only [Components.addFields_snd]

/-- **The operation of an endpoint** does not depend on the components. -/
theorem ofEndpoint_snd (cs cs' : Components) (e : Endpoint) (verb : Verb)
    (pathKeys : List String) :
    (ofEndpoint cs e verb pathKeys).2 = (ofEndpoint cs' e verb pathKeys).2 := by
  unfold ofEndpoint
  dsimp only
  rw [bodyOf_snd cs cs']
  generalize (bodyOf cs e verb pathKeys).1 = behind, (bodyOf cs' e verb pathKeys).1 = behind'
  rw [responseOf_snd behind behind' e .success]
  generalize (responseOf behind e .success _ _ _).1 = behind₂,
    (responseOf behind' e .success _ _ _).1 = behind₂'
  rw [responseOf_snd behind₂ behind₂' e .error]

end Operation

/-! ### The place of an endpoint -/

namespace Verb

/-- A text spells the verb that it is the text of. -/
theorem ofText?_eq_some_iff {s : String} {verb : Verb} : ofText? s = some verb ↔ verb.text = s := by
  constructor
  · intro h
    unfold ofText? at h
    have hspells := List.find?_some h
    exact eq_of_beq hspells
  · rintro rfl
    cases verb <;> rfl

/-- An endpoint declares a verb by its text, in any case, or `delete` by `del`. -/
theorem ofDeclared?_eq_some_iff {s : String} {verb : Verb} :
    ofDeclared? s = some verb ↔
      Text.lower s = verb.text ∨ Text.lower s = "del" ∧ verb = .delete := by
  unfold ofDeclared?
  dsimp only
  rw [ofText?_eq_some_iff]
  split
  · rename_i hdel
    rw [hdel]
    cases verb <;> decide
  · rename_i hother
    simp only [hother, false_and, or_false]
    exact eq_comm

end Verb

namespace Endpoint

/-- An endpoint **goes to** a path and a verb: it has a URL, which is converted to the path, and
declares the verb. -/
def GoesTo (e : Endpoint) (path : String) (verb : Verb) : Prop :=
  ∃ url, e.url = some url ∧ (PathTemplate.ofUrl url).1 = path ∧
    (Text.lower e.verb = verb.text ∨ Text.lower e.verb = "del" ∧ verb = .delete)

/-- The **place** of an endpoint: its path and its verb, if it has both. -/
def place? (e : Endpoint) : Option (String × Verb) := do
  let url ← e.url
  let verb ← Verb.ofDeclared? e.verb
  return ((PathTemplate.ofUrl url).1, verb)

/-- The path of an endpoint that has a place. -/
def path? (e : Endpoint) : Option String :=
  e.place?.map Prod.fst

/-- The **operation** of an endpoint, made with components of its own. -/
def operation (e : Endpoint) (verb : Verb) : Operation :=
  (Operation.ofEndpoint [] e verb (e.url.elim [] fun url => (PathTemplate.ofUrl url).2)).2

variable {e : Endpoint} {path : String} {verb : Verb}

/-- An endpoint goes to its place. -/
theorem place?_eq_some_iff : e.place? = some (path, verb) ↔ e.GoesTo path verb := by
  unfold place? GoesTo
  cases e.url with
  | none => simp
  | some url =>
      simp only [← Verb.ofDeclared?_eq_some_iff]
      cases Verb.ofDeclared? e.verb <;> simp

instance (e : Endpoint) (path : String) (verb : Verb) : Decidable (e.GoesTo path verb) :=
  decidable_of_iff _ place?_eq_some_iff

end Endpoint

namespace Document

/-! ### One endpoint -/

/-- The operation at a place. -/
theorem operation?_text (d : Document) (path : String) (verb : Verb) :
    d.operation? path verb.text = (Table.get? path d.paths).bind fun item => item verb := by
  have hverb : Verb.ofText? verb.text = some verb := Verb.ofText?_eq_some_iff.mpr rfl
  unfold operation?
  rw [hverb]
  rfl

/-- **What an endpoint does**: without a place it changes nothing, and otherwise it puts its
operation there. -/
theorem addEndpoint_cases (d : Document) (e : Endpoint) :
    (e.place? = none ∧ (d.addEndpoint e).1 = d) ∨
      ∃ path verb, e.place? = some (path, verb) ∧
        (d.addEndpoint e).1.paths = setOperation d.paths path verb (e.operation verb) := by
  unfold Endpoint.place? addEndpoint Endpoint.operation
  cases e.url with
  | none => exact Or.inl ⟨rfl, rfl⟩
  | some url =>
      cases Verb.ofDeclared? e.verb with
      | none => exact Or.inl ⟨rfl, rfl⟩
      | some verb =>
          refine Or.inr ⟨(PathTemplate.ofUrl url).1, verb, rfl, ?_⟩
          exact congrArg (setOperation d.paths _ verb) (Operation.ofEndpoint_snd _ _ _ _ _)

/-- Putting an operation at its place changes no other place. -/
theorem get?_setOperation (paths : Table PathItem) (path path' : String) (verb verb' : Verb)
    (op : Operation) :
    (Table.get? path (setOperation paths path' verb' op)).bind (fun item => item verb) =
      if path' = path ∧ verb' = verb then some op
      else (Table.get? path paths).bind fun item => item verb := by
  rw [setOperation, Table.get?_insert]
  by_cases hpath : path' = path
  · subst hpath
    by_cases hverb : verb' = verb
    · subst hverb
      simp
    · have hverb' : ¬ verb = verb' := fun h => hverb h.symm
      simp only [if_true, Option.bind_some, hverb, hverb', if_false, and_false]
      cases Table.get? path' paths <;> rfl
  · simp only [hpath, if_false, false_and]

/-- **The operation at a place** after one endpoint. -/
theorem operation?_addEndpoint (d : Document) (e : Endpoint) (path : String) (verb : Verb) :
    (d.addEndpoint e).1.operation? path verb.text =
      if e.place? = some (path, verb) then some (e.operation verb)
      else d.operation? path verb.text := by
  obtain ⟨hplace, hsame⟩ | ⟨path', verb', hplace, hpaths⟩ := d.addEndpoint_cases e
  · rw [hsame, hplace, if_neg nofun]
  · have hplaces : e.place? = some (path, verb) ↔ path' = path ∧ verb' = verb := by
      rw [hplace, Option.some.injEq, Prod.mk.injEq]
    rw [operation?_text, operation?_text, hpaths, get?_setOperation]
    simp only [hplaces]
    split_ifs with hhere
    · rw [hhere.2]
    · rfl

/-- **The paths** after one endpoint: a path that is new comes last. -/
theorem keys_addEndpoint (d : Document) (e : Endpoint) :
    Table.keys (d.addEndpoint e).1.paths =
      Table.keys d.paths ++ Search.firsts (Table.keys d.paths) e.path?.toList := by
  unfold Endpoint.path?
  obtain ⟨hplace, hsame⟩ | ⟨path, verb, hplace, hpaths⟩ := d.addEndpoint_cases e
  · rw [hsame, hplace]
    exact (List.append_nil _).symm
  · rw [hpaths, hplace, setOperation, Table.keys_insert_eq_firsts]
    rfl

/-- Every path has an operation. -/
def NoPathIsEmpty (d : Document) : Prop :=
  ∀ entry ∈ d.paths, ∃ verb op, entry.2 verb = some op

/-- An endpoint brings a path together with an operation. -/
theorem noPathIsEmpty_addEndpoint {d : Document} (h : d.NoPathIsEmpty) (e : Endpoint) :
    (d.addEndpoint e).1.NoPathIsEmpty := by
  obtain ⟨-, hsame⟩ | ⟨path, verb, -, hpaths⟩ := d.addEndpoint_cases e
  · rwa [hsame]
  · intro entry hentry
    rw [hpaths] at hentry
    rcases Table.mem_insert hentry with hmem | rfl
    · exact h entry hmem
    · exact ⟨verb, e.operation verb, if_pos rfl⟩

/-! ### Many endpoints -/

/-- Adds endpoints in order. -/
def addAll (d : Document) (es : List Endpoint) : Document :=
  es.foldl (fun d e => (d.addEndpoint e).1) d

/-- **Records that can be read** are added in order. -/
theorem buildOutcome_eq_addAll (info : Info) {records : List Json} {es : List Endpoint}
    (h : List.Forall₂ (fun record e => Endpoint.ofJson? record = some e) records es) :
    buildOutcome info records = .ok (addAll { info } es) := by
  unfold buildOutcome addAll
  generalize ({ info } : Document) = d
  induction h generalizing d with
  | nil => rfl
  | cons hrecord _ ih =>
      rw [List.foldlM_cons, List.foldl_cons, ← ih, recordOutcome, hrecord]
      rfl

/-- The last endpoint of a list that goes to a place. -/
def lastAt? (es : List Endpoint) (path : String) (verb : Verb) : Option Endpoint :=
  (es.filter fun e => e.place? = some (path, verb)).getLast?

/-- The last endpoint is looked for from the end. -/
theorem lastAt?_append (es es' : List Endpoint) (path : String) (verb : Verb) :
    lastAt? (es ++ es') path verb = (lastAt? es' path verb).or (lastAt? es path verb) := by
  unfold lastAt?
  rw [List.filter_append, List.getLast?_append]

/-- There is a last endpoint at a place if there is one at all. -/
theorem isSome_lastAt? {es : List Endpoint} {path : String} {verb : Verb} :
    (lastAt? es path verb).isSome ↔ ∃ e ∈ es, e.GoesTo path verb := by
  unfold lastAt?
  rw [Option.isSome_iff_ne_none, ne_eq, List.getLast?_eq_none_iff, List.filter_eq_nil_iff]
  push Not
  simp only [decide_eq_true_eq, Endpoint.place?_eq_some_iff]

/-- **The operation at a place** after many endpoints is the one of the last endpoint that goes
there. -/
theorem operation?_addAll (d : Document) (es : List Endpoint) (path : String) (verb : Verb) :
    (d.addAll es).operation? path verb.text =
      ((lastAt? es path verb).map (·.operation verb)).or (d.operation? path verb.text) := by
  induction es generalizing d with
  | nil => rfl
  | cons e es ih =>
      have hfirst : ((lastAt? [e] path verb).map (·.operation verb)).or
          (d.operation? path verb.text) = (d.addEndpoint e).1.operation? path verb.text := by
        rw [operation?_addEndpoint, lastAt?, List.filter_singleton]
        split <;> simp [*]
      have hlast := lastAt?_append [e] es path verb
      rw [List.singleton_append] at hlast
      rw [addAll, List.foldl_cons, ← addAll, ih, ← hfirst, hlast, Option.map_or, Option.or_assoc]

/-- An endpoint keeps its place if no later one goes there. -/
theorem operation?_addAll_of_last (d : Document) (before : List Endpoint) {e : Endpoint}
    {after : List Endpoint} {path : String} {verb : Verb} (h : e.GoesTo path verb)
    (hafter : ∀ e' ∈ after, ¬ e'.GoesTo path verb) :
    (d.addAll (before ++ e :: after)).operation? path verb.text = some (e.operation verb) := by
  have hnone : lastAt? after path verb = none := by
    rw [← Option.not_isSome_iff_eq_none, isSome_lastAt?]
    rintro ⟨e', he', hgoes⟩
    exact hafter e' he' hgoes
  have hlast : lastAt? [e] path verb = some e := by
    have hplace : e.place? = some (path, verb) := Endpoint.place?_eq_some_iff.mpr h
    simp [lastAt?, hplace]
  have hsplit : before ++ e :: after = before ++ ([e] ++ after) := rfl
  rw [operation?_addAll, hsplit, lastAt?_append, lastAt?_append, hnone, hlast]
  rfl

/-- **The paths** after many endpoints stand in the order in which they appear first. -/
theorem keys_addAll (d : Document) (es : List Endpoint) :
    Table.keys (d.addAll es).paths =
      Table.keys d.paths ++ Search.firsts (Table.keys d.paths) (es.filterMap Endpoint.path?) := by
  rw [List.filterMap_eq_flatMap_toList]
  exact Search.foldl_eq_append_firsts (fun d => Table.keys d.paths) keys_addEndpoint d es

/-- Many endpoints leave no path without an operation. -/
theorem noPathIsEmpty_addAll {d : Document} (h : d.NoPathIsEmpty) (es : List Endpoint) :
    (d.addAll es).NoPathIsEmpty := by
  induction es generalizing d with
  | nil => exact h
  | cons e es ih => exact ih (noPathIsEmpty_addEndpoint h e)

/-- **An operation belongs to its endpoint.** Records that can all be read have a document. Its
paths are those of the endpoints that have a place, in the order in which they appear first, and
every one of them has an operation. There is an operation at a place exactly if an endpoint goes
there; it is the one of the last such endpoint, and the one that the record of this endpoint has in
a document of its own. -/
theorem operations_of_last_records (info : Info) {records : List Json} {es : List Endpoint}
    (h : List.Forall₂ (fun record e => Endpoint.ofJson? record = some e) records es)
    (j : Journal) :
    ∃ d, ((build info records).outcome j).1 = .ok d ∧
      Table.keys d.paths = Search.firsts [] (es.filterMap Endpoint.path?) ∧
      (∀ entry ∈ d.paths, ∃ verb op, entry.2 verb = some op) ∧
      (∀ path verb, (d.operation? path verb.text).isSome ↔ ∃ e ∈ es, e.GoesTo path verb) ∧
      ∀ path verb before e after, es = before ++ e :: after → e.GoesTo path verb →
        (∀ e' ∈ after, ¬ e'.GoesTo path verb) →
        d.operation? path verb.text = some (e.operation verb) ∧
        ∀ record, Endpoint.ofJson? record = some e → ∀ info' j',
          ∃ alone, ((build info' [record]).outcome j').1 = .ok alone ∧
            alone.operation? path verb.text = d.operation? path verb.text := by
  refine ⟨addAll { info } es, ?_, ?_, ?_, ?_, ?_⟩
  · rw [build_yields, buildOutcome_eq_addAll info h]
  · exact keys_addAll { info } es
  · exact noPathIsEmpty_addAll (fun entry hentry => absurd hentry List.not_mem_nil) es
  · intro path verb
    have hnone : operation? { info } path verb.text = none := rfl
    rw [operation?_addAll, hnone, Option.or_none, Option.isSome_map, isSome_lastAt?]
  · rintro path verb before e after rfl hgoes hafter
    have hlast := operation?_addAll_of_last { info } before hgoes hafter
    refine ⟨hlast, fun record hrecord info' j' => ⟨addAll { info := info' } [e], ?_, ?_⟩⟩
    · rw [build_yields, buildOutcome_eq_addAll info' (.cons hrecord .nil)]
    · rw [hlast]
      exact operation?_addAll_of_last { info := info' } [] hgoes nofun

/-- Records of which two pairs go to the same place, and two have none. -/
def crowdedRecords : List Json :=
  [.obj [("type", .str "get"), ("url", .str "/a/:id"), ("name", .str "first")],
    .obj [("type", .str "del"), ("url", .str "/b"), ("name", .str "second")],
    .obj [("type", .str "trace"), ("url", .str "/c")],
    .obj [("type", .str "GET"), ("url", .str "/a/\x7bid\x7d"), ("name", .str "third")],
    .obj [("type", .str "put"), ("name", .str "fourth")],
    .obj [("type", .str "Delete"), ("url", .str "/b"), ("name", .str "fifth")]]

/-- The endpoints of these records. -/
def crowdedEndpoints : List Endpoint :=
  [{ verb := "get", url := some "/a/:id", name := "first" },
    { verb := "del", url := some "/b", name := "second" },
    { verb := "trace", url := some "/c" },
    { verb := "GET", url := some "/a/\x7bid\x7d", name := "third" },
    { verb := "put", name := "fourth" },
    { verb := "Delete", url := some "/b", name := "fifth" }]

/-- The paths stand in order, and the later of the records that share a place are kept. -/
theorem operations_of_last_records_crowded :
    ∃ d, ((build {} crowdedRecords).outcome {}).1 = .ok d ∧
      Table.keys d.paths = ["/a/\x7bid\x7d", "/b"] ∧
      (d.operation? "/a/\x7bid\x7d" "get").map (·.operationId) = some (some "third") ∧
      (d.operation? "/b" "delete").map (·.operationId) = some (some "fifth") := by
  have hread : List.Forall₂ (fun record e => Endpoint.ofJson? record = some e) crowdedRecords
      crowdedEndpoints := by
    refine .cons ?_ (.cons ?_ (.cons ?_ (.cons ?_ (.cons ?_ (.cons ?_ .nil))))) <;> decide +kernel
  obtain ⟨d, hd, hkeys, -, -, hlast⟩ := operations_of_last_records {} hread {}
  obtain ⟨hget, -⟩ := hlast "/a/\x7bid\x7d" .get (crowdedEndpoints.take 3) _
    (crowdedEndpoints.drop 4) rfl (by decide +kernel) (by decide +kernel)
  obtain ⟨hdelete, -⟩ := hlast "/b" .delete (crowdedEndpoints.take 5) _
    (crowdedEndpoints.drop 6) rfl (by decide +kernel) (by decide +kernel)
  refine ⟨d, hd, hkeys.trans (by decide +kernel), ?_, ?_⟩
  · exact congrArg (Option.map Operation.operationId) hget
  · exact congrArg (Option.map Operation.operationId) hdelete

end Document

end ApiGloss
