import ApiGloss.Proofs.ComponentRuns
import Mathlib.Data.Prod.Basic

/-!
# Parameters and Bodies of Operations

The parameter fields of an endpoint are split by its path: a field whose name stands in the path is
a parameter of the operation, every other one belongs to the body of the request, if the verb has
one. A name that is declared again is no second parameter. The parameters are therefore the first
declarations of their names, those in the path before the headers.

## Main results

* `Operation.places_foldl_addParameter`, `Operation.find?_foldl_addParameter`: which parameters
  remain when parameters are added in order.
* `Operation.ofKind_ofEndpoint`: the request components behind an operation come from its body.
* `Operation.parameters_and_body`: the parameters of an operation, and what its body holds.
-/

namespace ApiGloss

/-! ### Parameters -/

/-- The section of the fields that declare parameters of a location. -/
def Location.part : Location → FieldKind
  | .path => .parameter
  | .header => .header

/-- The **place of a parameter**: its name and its location. No operation has two parameters of one
place. -/
def Parameter.place (p : Parameter) : String × Location :=
  (p.name, p.location)

namespace Operation

/-- Whether there is a parameter of a place. -/
theorem any_place_iff {ps : List Parameter} {p : Parameter} :
    (ps.any fun q => q.name == p.name && q.location == p.location) = true ↔
      p.place ∈ ps.map Parameter.place := by
  simp only [List.any_eq_true, Bool.and_eq_true, beq_iff_eq, List.mem_map, Parameter.place,
    Prod.mk.injEq]

/-- **One parameter** is added at the end, if its place is new. -/
theorem places_addParameter (ps : List Parameter) (p : Parameter) :
    (addParameter ps p).map Parameter.place =
      ps.map Parameter.place ++ Search.firsts (ps.map Parameter.place) [p.place] := by
  unfold addParameter
  simp only [any_place_iff, Search.firsts]
  split
  · rw [List.append_nil]
  · rw [List.map_append, List.map_singleton]

/-- **Parameters that are added in order** remain where their places are mentioned first. -/
theorem places_foldl_addParameter (ps qs : List Parameter) :
    (qs.foldl addParameter ps).map Parameter.place =
      ps.map Parameter.place ++
        Search.firsts (ps.map Parameter.place) (qs.map Parameter.place) := by
  rw [List.map_eq_flatMap (l := qs)]
  exact Search.foldl_eq_append_firsts (List.map Parameter.place) places_addParameter ps qs

/-- Adding a parameter hides no parameter, and is no different from adding it always, for one who
looks for the first parameter of a place. -/
theorem find?_addParameter (ps : List Parameter) (p : Parameter) (place : String × Location) :
    (addParameter ps p).find? (fun q => decide (q.place = place)) =
      (ps ++ [p]).find? fun q => decide (q.place = place) := by
  unfold addParameter
  simp only [any_place_iff]
  split
  · rename_i hmem
    rw [List.find?_append]
    obtain ⟨q, hq, hplace⟩ := List.mem_map.mp hmem
    by_cases hp : p.place = place
    · have hfound : (ps.find? fun q => decide (q.place = place)).isSome := by
        rw [List.find?_isSome]
        exact ⟨q, hq, decide_eq_true (hplace.trans hp)⟩
      rw [Option.or_of_isSome hfound]
    · simp [hp]
  · rfl

/-- **The parameter of a place** after many were added is the first one. -/
theorem find?_foldl_addParameter (ps qs : List Parameter) (place : String × Location) :
    (qs.foldl addParameter ps).find? (fun q => decide (q.place = place)) =
      (ps ++ qs).find? fun q => decide (q.place = place) := by
  induction qs generalizing ps with
  | nil => rw [List.append_nil, List.foldl_nil]
  | cons q qs ih =>
      rw [List.foldl_cons, ih, List.find?_append, find?_addParameter, ← List.find?_append,
        List.append_assoc, List.singleton_append]

end Operation

namespace Endpoint

/-- The parameter fields whose names **stand in the path**. -/
def pathFields (e : Endpoint) (pathKeys : List String) : List FieldDecl :=
  (e.defaultFields .parameter).filter fun f => pathKeys.contains f.field

/-- The parameter fields that **belong to the body**. -/
def bodyFields (e : Endpoint) (pathKeys : List String) : List FieldDecl :=
  (e.defaultFields .parameter).filter fun f => !pathKeys.contains f.field

/-- A name in the path is declared first by the same field among all parameter fields. -/
theorem find?_of_find?_pathFields {e : Endpoint} {pathKeys : List String} {name : String}
    {f : FieldDecl} (h : (e.pathFields pathKeys).find? (fun f => f.field = name) = some f) :
    (e.defaultFields .parameter).find? (fun f => f.field = name) = some f := by
  have hname : name ∈ pathKeys := by
    have hfield : f.field = name := by simpa using List.find?_some h
    have hmem := (List.mem_filter.mp (List.mem_of_find?_eq_some h)).2
    rwa [hfield, List.contains_iff_mem] at hmem
  rw [pathFields, List.find?_filter] at h
  rw [← h]
  congr 1
  funext f
  by_cases hfield : f.field = name
  · simp [hfield, hname]
  · simp [hfield]

end Endpoint

namespace Operation

/-- The first parameter of a place among those that fields of one location declare. -/
theorem find?_map_parameterOf (location : Location) (fields : List FieldDecl) (name : String)
    (location' : Location) :
    ((fields.map (parameterOf location)).find? fun p => decide (p.place = (name, location'))) =
      if location = location' then
        (fields.find? fun f => decide (f.field = name)).map (parameterOf location)
      else none := by
  have hplace : ∀ f, (parameterOf location f).place = (name, location') ↔
      f.field = name ∧ location = location' := fun f => Prod.ext_iff
  rw [List.find?_map]
  simp only [Function.comp_def, hplace]
  split
  · rename_i hlocation
    simp only [hlocation, and_true]
  · rename_i hlocation
    simp [hlocation]

variable (e : Endpoint) (pathKeys : List String)

/-- **The places of the parameters**: the names in the path, then the names of headers, each where
it is declared first. -/
theorem places_parametersOf :
    (parametersOf e pathKeys).map Parameter.place =
      (Search.firsts [] ((e.pathFields pathKeys).map (·.field))).map (·, Location.path) ++
        (Search.firsts [] ((e.defaultFields .header).map (·.field))).map (·, Location.header) := by
  have hmap : ∀ (location : Location) (fields : List FieldDecl),
      (fields.map (parameterOf location)).map Parameter.place =
        (fields.map (·.field)).map (·, location) := by
    intro location fields
    rw [List.map_map, List.map_map]
    rfl
  have hfirsts : ∀ (location : Location) (names : List String),
      Search.firsts [] (names.map (·, location)) = (Search.firsts [] names).map (·, location) :=
    fun location names => Search.firsts_map (Prod.mk_left_injective location) [] names
  -- no header is at the place of a parameter in the path
  have hapart : ∀ place ∈ ((e.defaultFields .header).map (·.field)).map (·, Location.header),
      place ∉
        (Search.firsts [] ((e.pathFields pathKeys).map (·.field))).map (·, Location.path) := by
    simp
  rw [parametersOf, places_foldl_addParameter, List.map_append, hmap, hmap, List.map_nil,
    List.nil_append, Search.firsts_append, List.nil_append, ← Endpoint.pathFields, hfirsts,
    Search.firsts_of_disjoint hapart, hfirsts]

/-- No two parameters have the same place. -/
theorem nodup_places_parametersOf : ((parametersOf e pathKeys).map Parameter.place).Nodup := by
  rw [parametersOf, places_foldl_addParameter]
  exact Search.nodup_firsts _ _

variable {e pathKeys}

/-- **A parameter comes from the first declaration** of its name. -/
theorem exists_declaration_of_mem {p : Parameter} (h : p ∈ parametersOf e pathKeys) :
    ∃ f, (e.defaultFields p.location.part).find? (fun f => f.field = p.name) = some f ∧
      p = parameterOf p.location f := by
  have hfound : ((parametersOf e pathKeys).find? fun q => decide (q.place = p.place)) = some p := by
    obtain ⟨q, hq⟩ : ∃ q, ((parametersOf e pathKeys).find? fun q =>
        decide (q.place = p.place)) = some q := by
      rw [← Option.isSome_iff_exists, List.find?_isSome]
      exact ⟨p, h, decide_eq_true rfl⟩
    have hplace : q.place = p.place := by simpa using List.find?_some hq
    rw [hq, List.inj_on_of_nodup_map (nodup_places_parametersOf e pathKeys)
      (List.mem_of_find?_eq_some hq) h hplace]
  obtain ⟨name, location, isRequired, schema, description⟩ := p
  rw [parametersOf, find?_foldl_addParameter, List.nil_append, List.find?_append, Parameter.place,
    find?_map_parameterOf, find?_map_parameterOf, ← Endpoint.pathFields] at hfound
  cases location with
  | path =>
      rw [if_pos rfl, if_neg nofun, Option.or_none] at hfound
      obtain ⟨f, hf, hp⟩ := Option.map_eq_some_iff.mp hfound
      exact ⟨f, Endpoint.find?_of_find?_pathFields hf, hp.symm⟩
  | header =>
      rw [if_neg nofun, if_pos rfl, Option.none_or] at hfound
      obtain ⟨f, hf, hp⟩ := Option.map_eq_some_iff.mp hfound
      exact ⟨f, hf, hp.symm⟩

end Operation

/-! ### Bodies -/

/-- Names that do not count may as well be missing. -/
theorem Components.addFields_skip (cs : Components) (kind : SchemaKind) (fields : List FieldDecl)
    (endpoint : String) (skip : List String) :
    cs.addFields kind fields endpoint skip =
      cs.addFields kind (fields.filter fun f => !skip.contains f.field) endpoint [] := by
  unfold addFields
  rw [List.filter_filter]
  rfl

namespace Operation

/-- **The request components** behind an operation come from its body: responses leave them
alone. -/
theorem ofKind_ofEndpoint (cs : Components) (e : Endpoint) (verb : Verb) (pathKeys : List String) :
    (ofEndpoint cs e verb pathKeys).1.ofKind .request =
      (bodyOf cs e verb pathKeys).1.ofKind .request := by
  have hrun : (ofEndpoint cs e verb pathKeys).1 =
      (((bodyOf cs e verb pathKeys).1.addFields .response (e.defaultFields .success) e.name
        []).1.addFields .error (e.defaultFields .error) e.name []).1 := rfl
  rw [hrun, Components.ofKind_addFields (by decide), Components.ofKind_addFields (by decide)]

/-- **A body** describes the parameter fields that do not stand in the path. -/
theorem bodyOf_of_hasBody {verb : Verb} (h : verb.hasBody = true) (cs : Components) (e : Endpoint)
    (pathKeys : List String) :
    (bodyOf cs e verb pathKeys).1 =
        (cs.addFields .request (e.bodyFields pathKeys) e.name []).1 ∧
      (bodyOf cs e verb pathKeys).2.map (·.schema) =
        (cs.addFields .request (e.bodyFields pathKeys) e.name []).2.schema .request := by
  rw [bodyOf, if_pos h, Endpoint.bodyFields, ← Components.addFields_skip]
  refine ⟨rfl, ?_⟩
  dsimp only
  rw [Option.map_map]
  exact Option.map_id'

/-- **The fields of an endpoint are split by its path.** The parameters of an operation are distinct
by name and location. They are the names of the parameter fields that stand in the path and then the
names of the header fields, each where it is declared first, and every one is made of the first
declaration of its name; it is required exactly if that one is not optional. A verb with a body adds
to the request components what the parameter fields add that do not stand in the path, and its body
refers to what they stand for. The other verbs have no body and add no request components. -/
theorem parameters_and_body (cs : Components) (e : Endpoint) (verb : Verb)
    (pathKeys : List String) :
    ((ofEndpoint cs e verb pathKeys).2.parameters.map fun p => (p.name, p.location)).Nodup ∧
    ((ofEndpoint cs e verb pathKeys).2.parameters.map fun p => (p.name, p.location)) =
      (Search.firsts [] ((e.pathFields pathKeys).map (·.field))).map (·, Location.path) ++
        (Search.firsts [] ((e.defaultFields .header).map (·.field))).map (·, Location.header) ∧
    (∀ p ∈ (ofEndpoint cs e verb pathKeys).2.parameters,
      ∃ f, (e.defaultFields p.location.part).find? (fun f => f.field = p.name) = some f ∧
        p = parameterOf p.location f ∧ (p.required = true ↔ f.isOptional = false)) ∧
    (verb ∉ [.get, .head, .delete] →
      (ofEndpoint cs e verb pathKeys).1.ofKind .request =
          (cs.addFields .request (e.bodyFields pathKeys) e.name []).1.ofKind .request ∧
        (ofEndpoint cs e verb pathKeys).2.requestBody.map (·.schema) =
          (cs.addFields .request (e.bodyFields pathKeys) e.name []).2.schema .request) ∧
    (verb ∈ [.get, .head, .delete] →
      (ofEndpoint cs e verb pathKeys).2.requestBody = none ∧
        (ofEndpoint cs e verb pathKeys).1.ofKind .request = cs.ofKind .request) := by
  have hparameters : (ofEndpoint cs e verb pathKeys).2.parameters = parametersOf e pathKeys := rfl
  have hrequestBody : (ofEndpoint cs e verb pathKeys).2.requestBody =
      (bodyOf cs e verb pathKeys).2 := rfl
  rw [hparameters, hrequestBody, ofKind_ofEndpoint]
  refine ⟨nodup_places_parametersOf e pathKeys, places_parametersOf e pathKeys, fun p hp => ?_,
    fun hverb => ?_, fun hverb => ?_⟩
  · obtain ⟨f, hf, hdeclared⟩ := exists_declaration_of_mem hp
    refine ⟨f, hf, hdeclared, ?_⟩
    rw [hdeclared, parameterOf, Bool.not_eq_true']
  · have hbody : verb.hasBody = true := by
      revert hverb
      cases verb <;> decide
    obtain ⟨hcomponents, hschema⟩ := bodyOf_of_hasBody hbody cs e pathKeys
    exact ⟨congrArg (·.ofKind .request) hcomponents, hschema⟩
  · have hbody : ¬ verb.hasBody = true := by
      revert hverb
      cases verb <;> decide
    rw [bodyOf, if_neg hbody]
    exact ⟨rfl, rfl⟩

end Operation

end ApiGloss
