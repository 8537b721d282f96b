import ApiGloss.Json.Merge
import ApiGloss.Resolve.Basic

/-!
# References to Definitions

A block that refers to definitions takes over their endpoint records. The names it refers to
are followed first in, first out: each one is looked up for the version of the referring
block, its record is merged in, and the names that this record refers to join the queue. No
name is followed twice, so that definitions may refer to each other in a circle.

The list of references is removed from the record each time it has been read; its place goes
to the last entry.
-/

namespace ApiGloss.Resolve

/-- A kind of reference: the name of the resolver, where the definitions are stored, where the
references stand, and how the tag is used. -/
structure ReferenceKind where
  name : String
  source : String
  target : String
  usage : TagUsage

/-- The names in a list of references. -/
def referenceNames (refs : Option Json) : List String :=
  ((refs.bind Json.arr?).getD []).filterMap (·.getStr? "name")

/-- Merges a definition into a record. -/
def mergeDefinition (locals : Table Json) : Json → Table Json
  | .obj d => Json.mergeInto locals d
  | _ => locals

/-- The names that have not been visited. -/
def unvisited (names visited : List String) : List String :=
  names.filter fun n => !visited.contains n

/-- Visiting a name more never leaves more names to visit. -/
theorem length_unvisited_le (names visited : List String) (name : String) :
    (unvisited names (name :: visited)).length ≤ (unvisited names visited).length := by
  simp only [unvisited, ← List.countP_eq_length_filter]
  apply List.countP_mono_left
  intro n _ h
  simp only [List.contains_cons, Bool.not_eq_true', Bool.or_eq_false_iff] at h
  rw [h.2]
  rfl

/-- Visiting a new name leaves fewer names to visit. -/
theorem length_unvisited_lt {names visited : List String} {name : String}
    (hmem : name ∈ names) (hnew : visited.contains name = false) :
    (unvisited names (name :: visited)).length < (unvisited names visited).length := by
  induction names with
  | nil => simp at hmem
  | cons k ks ih =>
    have hle := length_unvisited_le ks visited name
    by_cases hk : k = name
    · subst hk
      have h₁ : unvisited (k :: ks) (k :: visited) = unvisited ks (k :: visited) := by
        simp [unvisited]
      have h₂ : unvisited (k :: ks) visited = k :: unvisited ks visited := by
        simp only [unvisited, List.filter_cons, hnew, Bool.not_false, if_true]
      rw [h₁, h₂, List.length_cons]
      omega
    · have hm : name ∈ ks := by
        rcases List.mem_cons.1 hmem with h | h
        · exact absurd h.symm hk
        · exact h
      have hlt := ih hm
      have hb : (name :: visited).contains k = visited.contains k := by
        have : (k == name) = false := by simpa using hk
        rw [List.contains_cons, this, Bool.false_or]
      unfold unvisited at hlt ⊢
      rw [List.filter_cons, List.filter_cons, hb]
      split
      · simpa only [List.length_cons, Nat.add_lt_add_iff_right] using hlt
      · exact hlt

/-- **Follows the pending names** in order and merges their definitions into a record. The
names in `visited` have been followed already. -/
def follow (t : DefinitionTable) (target version defaultVersion : String)
    (visited pending : List String) (locals : Table Json) :
    Table Json × Option ReferenceCause :=
  match pending with
  | [] => (locals, none)
  | name :: rest =>
    if _hv : visited.contains name = true then
      follow t target version defaultVersion visited rest locals
    else match _hl : lookup t name version defaultVersion with
      | .unknownName => (locals, some (.unknownName name))
      | .noVersion defined => (locals, some (.noVersion name version defined))
      | .found d =>
        let merged := mergeDefinition locals d
        follow t target version defaultVersion (name :: visited)
          (rest ++ referenceNames (Table.get? target merged)) (Table.swapErase target merged)
termination_by ((unvisited (Table.keys t) visited).length, pending.length)
decreasing_by
  · exact Prod.Lex.right _ (by simp)
  · exact Prod.Lex.left _ _ (length_unvisited_lt (mem_keys_of_lookup _hl) (by simpa using _hv))

/-- Resolves the references of one block. -/
def settleReferences (kind : ReferenceKind) (defaultVersion : String) (t : DefinitionTable)
    (path : String) (b : BlockRecord) : BlockRecord × Option Error :=
  if Table.contains kind.target b.locals then
    let (locals, failure) :=
      follow t kind.target (versionOf defaultVersion b) defaultVersion []
        (referenceNames (Table.get? kind.target b.locals))
        (Table.swapErase kind.target b.locals)
    ({ b with locals := locals }, failure.map fun c => .reference c path b.index kind.usage)
  else (b, none)

/-- The **resolver of a kind of references**. Its definitions are the endpoint records of the
blocks that define a name. -/
def references (kind : ReferenceKind) : Resolver where
  name := kind.name
  gather := gather kind.source fun b _ => .obj b.locals
  settle defaultVersion t := eachBlock (settleReferences kind defaultVersion t)

/-- References with `@apiUse`. -/
def useKind : ReferenceKind where
  name := "apiUse"
  source := "define"
  target := "use"
  usage :=
    { element := "apiUse", usage := "@apiUse group"
      sample := "@apiDefine MyValidGroup Some title\n@apiUse MyValidGroup" }

/-- References to a structure, such as `@apiErrorStructure`. -/
def structureKind (word : String) (source target : String) : ReferenceKind :=
  let tag := "api" ++ word ++ "Structure"
  let group := "MyValid" ++ word ++ "StructureGroup"
  { name := tag, source, target
    usage :=
      { element := tag, usage := "@" ++ tag ++ " group"
        sample := "@apiDefine " ++ group ++ " Some title\n@" ++ tag ++ " " ++ group } }

/-- The kinds of references, in the order in which they are resolved. -/
def referenceKinds : List ReferenceKind :=
  [useKind,
   structureKind "Error" "defineErrorStructure" "errorStructure",
   structureKind "Header" "defineHeaderStructure" "headerStructure",
   structureKind "Success" "defineSuccessStructure" "successStructure"]

end ApiGloss.Resolve
