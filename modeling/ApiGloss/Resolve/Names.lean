import ApiGloss.Record.Filter
import ApiGloss.Resolve.Group
import ApiGloss.Text.Runs

/-!
# Names of Endpoints

Every endpoint has a name made of plain word characters. A block that names none is named
after its verb and the words of its URL.
-/

namespace ApiGloss.Resolve

/-- The **name made of a verb and a URL**: `get` and `/users/:id` give `GetUsersId`. -/
def deriveName (verb url : String) : String :=
  Text.upperFirst verb ++
    String.join ((Chars.runs Text.isWord url.toList).map fun w => Text.upperFirst (String.ofList w))

/-- Gives an endpoint block its name. -/
def assignName (b : BlockRecord) : BlockRecord :=
  if b.globals.isEmpty then
    let text (key : String) : String := ((Table.get? key b.locals).bind Json.str?).getD ""
    let name := (nonEmptyText? "name" b.locals).getD (deriveName (text "type") (text "url"))
    { b with locals := Table.insert "name" (.str (Text.replaceNonWord name)) b.locals }
  else b

/-- The **resolver of names**. -/
def names : Resolver where
  name := "apiName"
  gather _ _ := []
  settle _ _ files := (Filter.mapBlocks assignName files, none)

end ApiGloss.Resolve
