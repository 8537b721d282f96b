import ApiGloss.Text.Blank
import ApiGloss.Text.Case
import ApiGloss.Text.Digit
import ApiGloss.Text.Word

/-!
# Sets of Characters

The sets that patterns are made of: ranges, the named classes of word characters, blanks and
digits, and what set operations make of them. A set is an expression; `CharSet.mem` is its
meaning.
-/

namespace ApiGloss

/-- The named classes of characters. -/
inductive CharClass where
  | word
  | blank
  | digit
  deriving DecidableEq, Repr

/-- Membership in a named class. -/
def CharClass.mem : CharClass → Char → Bool
  | .word, c => Text.isWord c
  | .blank, c => Text.isBlank c
  | .digit, c => Text.isDigit c

/-- A **set of characters**. -/
inductive CharSet where
  | none
  | range (lo hi : Char)
  | named (cls : CharClass)
  | union (a b : CharSet)
  | inter (a b : CharSet)
  | compl (a : CharSet)
  /-- All case variants of the members. -/
  | caseless (a : CharSet)
  deriving DecidableEq, Repr

namespace CharSet

/-- **Membership** in a set. -/
def mem : CharSet → Char → Bool
  | .none, _ => false
  | .range lo hi, c => lo ≤ c && c ≤ hi
  | .named cls, c => cls.mem c
  | .union a b, c => a.mem c || b.mem c
  | .inter a b, c => a.mem c && b.mem c
  | .compl a, c => !a.mem c
  | .caseless a, c => a.mem c || (Text.variants c).any fun d => a.mem d

/-- The set of one character. -/
def char (c : Char) : CharSet :=
  .range c c

/-- Every character. -/
def all : CharSet :=
  .compl .none

/-- Every character but the line break. -/
def dot : CharSet :=
  .compl (.char '\n')

/-- The members of the first set that are not in the second. -/
def diff (a b : CharSet) : CharSet :=
  .inter a (.compl b)

/-- The members of exactly one of two sets. -/
def symmDiff (a b : CharSet) : CharSet :=
  .union (.diff a b) (.diff b a)

@[simp] theorem mem_char (c d : Char) : (char c).mem d = (c == d) := by
  simp only [char, mem]
  rw [Bool.eq_iff_iff]
  simp only [Bool.and_eq_true, decide_eq_true_eq, beq_iff_eq]
  exact ⟨fun ⟨h₁, h₂⟩ => Char.le_antisymm h₁ h₂, fun h => h ▸ ⟨Char.le_refl c, Char.le_refl c⟩⟩

@[simp] theorem mem_all (c : Char) : all.mem c = true := rfl

@[simp] theorem mem_dot (c : Char) : dot.mem c = (c != '\n') := by
  simp only [dot, mem, mem_char, bne]
  rw [BEq.comm]

end CharSet

end ApiGloss
