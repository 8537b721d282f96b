import ApiGloss.Comment.Language
import ApiGloss.Text.Lines

/-!
# Paths

Paths are texts with slashes between names. Empty names and single points are passed over
when a path is taken apart, but a path is never rewritten.
-/

namespace ApiGloss.SourcePath

/-- The names in a path that lead somewhere. -/
def names (path : List Char) : List (List Char) :=
  (Chars.split '/' path).filter fun n => n != [] && n != ['.']

/-- The last name of a path, unless it leads upwards. -/
def fileName? (path : List Char) : Option (List Char) :=
  match (names path).getLast? with
  | some n => if n = ['.', '.'] then none else some n
  | none => none

/-- The text behind the last point of a name. A name that only starts with a point has no
extension. -/
def extension? (path : List Char) : Option (List Char) :=
  (fileName? path).bind fun n =>
    let after := (n.reverse.takeWhile (· != '.')).reverse
    let before := (n.reverse.dropWhile (· != '.')).drop 1
    if before = [] then none else some after

/-- The **language key** of a file: its extension in lower case with the point, or the key of
the general entry. -/
def languageKey (path : String) : String :=
  match extension? path.toList with
  | some e => "." ++ Text.lower (String.ofList e)
  | none => Language.defaultKey

/-- Whether a path starts at the root. -/
def isAbsolute (path : String) : Bool :=
  path.toList.head? == some '/'

/-- A path below a directory; an absolute path stays as it is. -/
def join (dir path : String) : String :=
  if isAbsolute path then path
  else if dir = "" then path
  else if dir.toList.getLast? == some '/' then dir ++ path
  else dir ++ "/" ++ path

/-- Drops names at the end of a path that lead nowhere; the first name stays. -/
def trimNames : List String → List String
  | [] => []
  | [name] => [name]
  | name :: more :: names =>
    match (more :: names).reverse.dropWhile fun n => n == "" || n == "." with
    | [] => [name]
    | kept => name :: kept.reverse

/-- The **path above** a path: all but its last name. The root and the empty path have none. -/
def parent? (path : String) : Option String :=
  match (trimNames (Text.split '/' path)).reverse with
  | [] => none
  | [name] => if name = "" then none else some ""
  | _ :: rest =>
    match trimNames rest.reverse with
    | [""] => some "/"
    | names => some (Text.join "/" names)

end ApiGloss.SourcePath
