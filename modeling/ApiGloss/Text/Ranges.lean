/-!
# Character Classes by Ranges

A class of characters is given by a list of closed ranges of code points. Membership is a
plain search, so that a class stays an ordinary list in proofs.
-/

namespace ApiGloss.Text

/-- Whether a character lies in one of the closed ranges. -/
def inRanges (ranges : List (Nat × Nat)) (c : Char) : Bool :=
  ranges.any fun r => r.1 ≤ c.toNat && c.toNat ≤ r.2

/-- A character is in a class exactly when some range of the class contains it. -/
theorem inRanges_iff {ranges : List (Nat × Nat)} {c : Char} :
    inRanges ranges c = true ↔ ∃ r ∈ ranges, r.1 ≤ c.toNat ∧ c.toNat ≤ r.2 := by
  simp [inRanges]

end ApiGloss.Text
