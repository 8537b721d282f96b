import ApiGloss.Text.Word

/-!
# Path Templates

In a URL a parameter is a colon and a word; in a path template it is the word in braces. A
colon that no word follows stays.
-/

namespace ApiGloss.PathTemplate

/-- Converts a URL: the template and the parameter names, in order. -/
def convert (s : List Char) : List Char × List (List Char) :=
  match s with
  | [] => ([], [])
  | c :: cs =>
    let key := cs.takeWhile Text.isWord
    if c = ':' ∧ key ≠ [] then
      let (path, keys) := convert (cs.dropWhile Text.isWord)
      ('{' :: key ++ '}' :: path, key :: keys)
    else
      let (path, keys) := convert cs
      (c :: path, keys)
termination_by s.length
decreasing_by
  · have : (cs.dropWhile Text.isWord).length ≤ cs.length :=
      (List.dropWhile_sublist _).length_le
    simp only [List.length_cons]
    omega
  · simp

/-- The **path template of a URL** and the names of its parameters. -/
def ofUrl (url : String) : String × List String :=
  let (path, keys) := convert url.toList
  (String.ofList path, keys.map String.ofList)

end ApiGloss.PathTemplate
