/-!
# Runs of Characters

The maximal runs of characters with a property, in order.
-/

namespace ApiGloss.Chars

/-- The **maximal runs** of characters with property `p`. -/
def runs (p : Char → Bool) (s : List Char) : List (List Char) :=
  match _h : s.dropWhile (fun c => !p c) with
  | [] => []
  | c :: cs => (c :: cs.takeWhile p) :: runs p (cs.dropWhile p)
termination_by s.length
decreasing_by
  have h₁ : (cs.dropWhile p).length ≤ cs.length := (List.dropWhile_sublist _).length_le
  have h₂ : (s.dropWhile (fun c => !p c)).length ≤ s.length :=
    (List.dropWhile_sublist _).length_le
  rw [_h] at h₂
  simp only [List.length_cons] at h₂
  omega

/-- Removes characters with property `p` at both ends. -/
def strip (p : Char → Bool) (s : List Char) : List Char :=
  ((s.dropWhile p).reverse.dropWhile p).reverse

end ApiGloss.Chars
