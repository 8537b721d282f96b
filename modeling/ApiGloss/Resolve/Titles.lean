import ApiGloss.Field.Declaration
import ApiGloss.Resolve.Basic

/-!
# Titles of Field Groups

The declarations of a section are regrouped by the group that each one names, and the
section learns the title of each group. Groups come in order of first appearance, and so do
the declarations in a group. A group with a definition of its name takes the title from it;
other groups have their name as title.
-/

namespace ApiGloss.Resolve

/-- How field groups are used in a section, for messages. -/
def titleUsage : FieldKind → TagUsage
  | .parameter =>
    { element := "apiParam", usage := "@apiParam (group) varname"
      sample := "@apiDefine MyValidParamGroup Some title\n@apiParam (MyValidParamGroup) username" }
  | .header =>
    { element := "apiHeader", usage := "@apiHeader (group) varname"
      sample :=
        "@apiDefine MyValidHeaderGroup Some title\n@apiHeader (MyValidHeaderGroup) Content-Type" }
  | .success =>
    { element := "apiSuccess", usage := "@apiSuccess (group) varname"
      sample := "@apiDefine MyValidSuccessGroup Some title or 200 OK\n" ++
        "@apiSuccess (MyValidSuccessGroup) username" }
  | .error =>
    { element := "apiError", usage := "@apiError (group) varname"
      sample := "@apiDefine MyValidErrorGroup Some title or 40X Error\n" ++
        "@apiError (MyValidErrorGroup) username" }

/-- The declarations of all groups, each with the group it belongs to: the one it names, or
else the one it stands in. -/
def groupedItems (fields : Table Json) : List (String × Json) :=
  fields.flatMap fun (key, items) =>
    (items.arr?.getD []).map fun item => ((item.getStr? "group").getD key, item)

/-- Adds a declaration to its group. -/
def addToGroup (groups : Table Json) (group : String) (item : Json) : Table Json :=
  match (Table.get? group groups).getD (.arr []) with
  | .arr items => Table.insert group (.arr (items ++ [item])) groups
  | _ => groups

/-- The title of a field group. -/
def titleOf (t : DefinitionTable) (group version defaultVersion : String) :
    Except ReferenceCause String :=
  match lookup t group version defaultVersion with
  | .found d => .ok ((d.getStr? "title").getD group)
  | .unknownName => .ok group
  | .noVersion defined => .error (.noVersion group version defined)

/-- Regroups declarations and collects the titles of their groups. -/
def regroup (t : DefinitionTable) (version defaultVersion : String) :
    List (String × Json) → Table Json × Table Json →
      Except ReferenceCause (Table Json × Table Json)
  | [], acc => .ok acc
  | (group, item) :: rest, (groups, titles) => do
    let titles ←
      if Table.contains group titles then pure titles
      else do
        let title ← titleOf t group version defaultVersion
        pure (Table.insert group (.str title) titles)
    regroup t version defaultVersion rest (addToGroup groups group item, titles)

/-- Regroups one section of a block, if it declares fields. -/
def titleFields (kind : FieldKind) (defaultVersion : String) (t : DefinitionTable)
    (path : String) (b : BlockRecord) : BlockRecord × Option Error :=
  match (Table.get? kind.sectionName b.locals).bind Json.obj? with
  | none => (b, none)
  | some part =>
    match (Table.get? "fields" part).bind Json.obj? with
    | none => (b, none)
    | some fields =>
      let version := versionOf defaultVersion b
      match regroup t version defaultVersion (groupedItems fields) ([], []) with
      | .error cause => (b, some (.reference cause path b.index (titleUsage kind)))
      | .ok (groups, titles) =>
        let part := Table.insert "groupTitles" (.obj titles)
          (Table.insert "fields" (.obj groups) part)
        ({ b with locals := Table.insert kind.sectionName (.obj part) b.locals }, none)

/-- The **resolver of the field groups** of a section. -/
def titles (kind : FieldKind) : Resolver where
  name := kind.tag ++ "Title"
  gather := gather "define" fun _ d => d
  settle defaultVersion t := eachBlock (titleFields kind defaultVersion t)

end ApiGloss.Resolve
