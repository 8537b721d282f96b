/-!
# Removing Tags

`Text.removeTags` deletes everything that looks like a markup tag: a `<`, at least one
character other than `>`, and the next `>`. A `<` that starts no tag stays.
-/

namespace ApiGloss

namespace Chars

/-- The text behind a tag whose `<` was just passed: at least one character other than `>`
must come before the closing `>`. -/
def afterTag? (s : List Char) : Option (List Char) :=
  match s with
  | [] => none
  | c :: cs =>
    if c = '>' then none
    else match cs.dropWhile (· != '>') with
      | [] => none
      | _ :: after => some after

/-- What follows a tag is shorter than what follows its `<`. -/
theorem length_of_afterTag? {s after : List Char} (h : afterTag? s = some after) :
    after.length < s.length := by
  cases s with
  | nil => simp [afterTag?] at h
  | cons c cs =>
    have hle : (cs.dropWhile (· != '>')).length ≤ cs.length :=
      (List.dropWhile_sublist _).length_le
    by_cases hc : c = '>'
    · simp [afterTag?, hc] at h
    · cases hd : cs.dropWhile (· != '>') with
      | nil => simp [afterTag?, hc, hd] at h
      | cons d ds =>
        simp only [afterTag?, hc, hd, if_false, Option.some.injEq] at h
        subst h
        simp [hd] at hle
        simp only [List.length_cons]
        omega

/-- Deletes the tags of a text, from the left. -/
def removeTags (s : List Char) : List Char :=
  match s with
  | [] => []
  | c :: cs =>
    if c = '<' then
      match _h : afterTag? cs with
      | some after => removeTags after
      | none => c :: removeTags cs
    else c :: removeTags cs
termination_by s.length
decreasing_by
  · have := length_of_afterTag? _h
    simp only [List.length_cons]
    omega
  · simp
  · simp

end Chars

namespace Text

/-- **Deletes everything that looks like a markup tag.** -/
def removeTags (s : String) : String :=
  String.ofList (Chars.removeTags s.toList)

end Text

end ApiGloss
