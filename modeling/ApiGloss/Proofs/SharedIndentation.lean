import ApiGloss.Text.Indent
import Mathlib.Data.List.Forall2
import Mathlib.Data.List.TakeWhile
import Mathlib.Data.String.Basic

/-!
# What Removing Shared Indentation Does

Texts are ordered by which one is a start of the other, and the longest common start of two texts is
their meet in this order: it has the starts that both have (`Chars.prefix_commonStart_iff`). So the
indentation that is left when it is narrowed from line to line has, of all blank texts, exactly those
as starts that every non-blank line starts with, and is the longest of them. Without it, no blank is
common to all non-blank lines any more, and a second removal finds nothing.

A blank line need not start with the shared indentation. It does not count for it, and it stays
blank whether it loses the indentation or, lacking it, its leading blanks.

## Slices

A piece of a text can be given by the number of bytes it takes in UTF-8. Such a slice is there only
if it ends between two characters (`Chars.takeBytes?`). Where a line's indentation ends is the
difference of two such numbers, and where two indentations part is behind the last of the characters
they share. Both are ends of characters, so that the same text comes out if every piece is taken as a
slice (`Chars.unindentBySlices?`).

## Main results

* `Chars.prefix_sharedIndent_iff`: the starts of the shared indentation.
* `Chars.lines_unindent`: the lines of a text without its shared indentation.
* `Chars.unindentBySlices?_eq`: all slices are there.
* `Text.unindent_removes_shared`: what removing the shared indentation does to a text.
-/

namespace ApiGloss

namespace Chars

/-! ### Common starts -/

/-- **The common start of two texts** has the starts that both have. -/
theorem prefix_commonStart_iff {p a b : List Char} :
    p <+: commonStart a b ↔ p <+: a ∧ p <+: b := by
  induction a generalizing p b with
  | nil =>
      rw [commonStart]
      · exact ⟨fun h => ⟨h, List.prefix_nil.mp h ▸ List.nil_prefix⟩, And.left⟩
      · exact nofun
  | cons x a ih =>
      cases b with
      | nil =>
          rw [commonStart]
          · exact ⟨fun h => ⟨List.prefix_nil.mp h ▸ List.nil_prefix, h⟩, And.right⟩
          · exact nofun
      | cons y b =>
          cases p with
          | nil => simp only [List.nil_prefix, and_self]
          | cons z p =>
              rw [commonStart, List.cons_prefix_cons, List.cons_prefix_cons]
              by_cases hxy : x = y
              · subst hxy
                rw [if_pos rfl, List.cons_prefix_cons, ih]
                exact and_and_left
              · rw [if_neg hxy]
                refine iff_of_false (fun h => List.cons_ne_nil _ _ (List.prefix_nil.mp h)) ?_
                rintro ⟨⟨rfl, -⟩, rfl, -⟩
                exact hxy rfl

/-- **The indentation of a line** has as starts the blank starts of the line. -/
theorem prefix_indentOf_iff {p line : List Char} :
    p <+: indentOf line ↔ allBlank p = true ∧ p <+: line := by
  rw [indentOf, allBlank]
  constructor
  · intro h
    refine ⟨List.all_eq_true.mpr fun c hc => ?_, h.trans (List.takeWhile_prefix _)⟩
    exact List.mem_takeWhile_imp (h.subset hc)
  · rintro ⟨hblank, rest, rfl⟩
    rw [List.takeWhile_append_of_pos (List.all_eq_true.mp hblank)]
    exact List.prefix_append _ _

/-- Narrowing a text by others, one after the other, leaves the starts that all have. -/
theorem prefix_foldl_commonStart_iff {p first : List Char} {others : List (List Char)} :
    p <+: others.foldl commonStart first ↔ ∀ text ∈ first :: others, p <+: text := by
  induction others generalizing first with
  | nil => rw [List.foldl_nil, List.forall_mem_singleton]
  | cons other others ih =>
      rw [List.foldl_cons, ih, List.forall_mem_cons, List.forall_mem_cons, List.forall_mem_cons,
        prefix_commonStart_iff, and_assoc]

/-! ### The shared indentation -/

variable {ls : List (List Char)}

/-- Blank lines share nothing. -/
theorem sharedIndent_of_allBlank (h : ∀ l ∈ ls, allBlank l = true) : sharedIndent ls = [] := by
  have hnone : ls.filter (fun l => !allBlank l) = [] := by
    refine List.filter_eq_nil_iff.mpr fun l hl => ?_
    rw [h l hl]
    exact Bool.false_ne_true
  rw [sharedIndent, hnone]
  rfl

/-- **The starts of the shared indentation** are the blank starts of all lines that are not blank,
if there is any such line. -/
theorem prefix_sharedIndent_iff (h : ∃ l ∈ ls, allBlank l = false) {p : List Char} :
    p <+: sharedIndent ls ↔
      allBlank p = true ∧ ∀ l ∈ ls, allBlank l = false → p <+: l := by
  have hall : p <+: sharedIndent ls ↔ ∀ l ∈ ls, allBlank l = false → p <+: indentOf l := by
    have hindents : (∀ l ∈ ls, allBlank l = false → p <+: indentOf l) ↔
        ∀ indent ∈ (ls.filter fun l => !allBlank l).map indentOf, p <+: indent := by
      simp only [List.forall_mem_map, List.mem_filter, and_imp, Bool.not_eq_true']
    rw [hindents, sharedIndent]
    split
    · rename_i hnil
      obtain ⟨l, hl, hblank⟩ := h
      have hmem : l ∈ ls.filter fun l => !allBlank l := List.mem_filter.mpr ⟨hl, by rw [hblank]; rfl⟩
      rw [List.map_eq_nil_iff.mp hnil] at hmem
      cases hmem
    · rename_i first others hindents
      rw [hindents, prefix_foldl_commonStart_iff]
  rw [hall]
  constructor
  · intro hp
    obtain ⟨l, hl, hblank⟩ := h
    exact ⟨(prefix_indentOf_iff.mp (hp l hl hblank)).1,
      fun l hl hblank => (prefix_indentOf_iff.mp (hp l hl hblank)).2⟩
  · rintro ⟨hp, hstart⟩ l hl hblank
    exact prefix_indentOf_iff.mpr ⟨hp, hstart l hl hblank⟩

/-- The **shared indentation** of lines: the longest blank text that every non-blank line starts
with. -/
structure IsSharedIndent (ls : List (List Char)) (indent : List Char) : Prop where
  blank : allBlank indent = true
  shared : ∀ l ∈ ls, allBlank l = false → indent <+: l
  longest : ∀ other, allBlank other = true → (∀ l ∈ ls, allBlank l = false → other <+: l) →
    other.length ≤ indent.length

/-- The shared indentation is found. -/
theorem isSharedIndent_sharedIndent (h : ∃ l ∈ ls, allBlank l = false) :
    IsSharedIndent ls (sharedIndent ls) where
  blank := ((prefix_sharedIndent_iff h).mp List.prefix_rfl).1
  shared := ((prefix_sharedIndent_iff h).mp List.prefix_rfl).2
  longest _ hother hshared := ((prefix_sharedIndent_iff h).mpr ⟨hother, hshared⟩).length_le

/-! ### Lines without their indentation -/

/-- A line that starts with the indentation loses it. -/
theorem dropIndent_append (indent line : List Char) : dropIndent indent (indent ++ line) = line := by
  rw [dropIndent, if_pos (List.isPrefixOf_iff_prefix.mpr (List.prefix_append _ _)),
    List.drop_left]

/-- Nothing is removed but what a line starts with. -/
theorem dropIndent_suffix (indent line : List Char) : dropIndent indent line <:+ line := by
  rw [dropIndent]
  split
  · exact List.drop_suffix _ _
  · exact List.dropWhile_suffix _

/-- Without indentation a line stays. -/
theorem dropIndent_nil (line : List Char) : dropIndent [] line = line :=
  dropIndent_append [] line

/-- The end of a blank text is blank. -/
theorem allBlank_of_suffix {a b : List Char} (h : a <:+ b) (hb : allBlank b = true) :
    allBlank a = true :=
  List.all_eq_true.mpr fun c hc => List.all_eq_true.mp hb c (h.subset hc)

/-- Blank texts put together are blank. -/
theorem allBlank_append {a b : List Char} :
    allBlank (a ++ b) = (allBlank a && allBlank b) :=
  List.all_append

variable {s : List Char}

/-- A text without shared indentation stays. -/
theorem unindent_eq_self (h : sharedIndent (lines s) = []) : unindent s = s := by
  rw [unindent]
  exact if_pos h

/-- **The lines without their shared indentation**, whether there is any or not. -/
theorem lines_unindent (s : List Char) :
    lines (unindent s) = (lines s).map (dropIndent (sharedIndent (lines s))) := by
  by_cases h : sharedIndent (lines s) = []
  · have hmap : (lines s).map (dropIndent []) = lines s := by
      rw [funext dropIndent_nil, List.map_id']
    rw [unindent_eq_self h, h, hmap]
  · rw [unindent, if_neg h]
    refine split_join (fun hnil => split_ne_nil _ _ (List.map_eq_nil_iff.mp hnil)) fun line hline => ?_
    obtain ⟨l, hl, rfl⟩ := List.mem_map.mp hline
    exact fun hbreak =>
      not_mem_of_mem_split hl ((dropIndent_suffix _ _).subset hbreak)

/-- What a non-blank line is left with, is not blank. -/
theorem exists_of_not_allBlank {l : List Char} (hl : l ∈ ls) (h : allBlank l = false) :
    ∃ rest, l = sharedIndent ls ++ rest ∧ dropIndent (sharedIndent ls) l = rest ∧
      allBlank rest = false := by
  have hindent := isSharedIndent_sharedIndent ⟨l, hl, h⟩
  obtain ⟨rest, hrest⟩ := hindent.shared l hl h
  rw [← hrest, allBlank_append, hindent.blank, Bool.true_and] at h
  exact ⟨rest, hrest.symm, hrest ▸ dropIndent_append _ _, h⟩

/-- **No indentation is left** that all non-blank lines share: with the one removed, it would have
been a longer one. -/
theorem sharedIndent_lines_unindent (s : List Char) : sharedIndent (lines (unindent s)) = [] := by
  rw [lines_unindent]
  generalize lines s = ls
  by_cases hblank : ∃ l ∈ ls, allBlank l = false
  · obtain ⟨l, hl, hl'⟩ := hblank
    obtain ⟨rest, -, hdrop, hrest⟩ := exists_of_not_allBlank hl hl'
    have hleft := isSharedIndent_sharedIndent
      ⟨rest, List.mem_map.mpr ⟨l, hl, hdrop⟩, hrest⟩
    have hindent := isSharedIndent_sharedIndent ⟨l, hl, hl'⟩
    have hlonger := hindent.longest
      (sharedIndent ls ++ sharedIndent (ls.map (dropIndent (sharedIndent ls))))
      (by rw [allBlank_append, hindent.blank, hleft.blank]; rfl) ?_
    · rw [List.length_append] at hlonger
      exact List.eq_nil_of_length_eq_zero (by omega)
    · intro l hl hl'
      obtain ⟨rest, heq, hdrop, hrest⟩ := exists_of_not_allBlank hl hl'
      have hstart := hleft.shared rest (List.mem_map.mpr ⟨l, hl, hdrop⟩) hrest
      exact heq ▸ (List.prefix_append_right_inj _).mpr hstart
  · have hall : ∀ l ∈ ls, allBlank l = true := fun l hl =>
      Bool.not_eq_false _ ▸ fun h => hblank ⟨l, hl, h⟩
    refine sharedIndent_of_allBlank fun line hline => ?_
    obtain ⟨l, hl, rfl⟩ := List.mem_map.mp hline
    exact allBlank_of_suffix (dropIndent_suffix _ _) (hall l hl)

/-- A text that has lost its shared indentation has none to lose. -/
theorem unindent_unindent (s : List Char) : unindent (unindent s) = unindent s :=
  unindent_eq_self (sharedIndent_lines_unindent s)

/-! ### Slices -/

open String (utf8Len)

/-- The start of a text that takes `n` bytes, if they end between two characters. -/
def takeBytes? : Nat → List Char → Option (List Char)
  | 0, _ => some []
  | _ + 1, [] => none
  | n + 1, c :: cs =>
    if c.utf8Size ≤ n + 1 then (takeBytes? (n + 1 - c.utf8Size) cs).map (c :: ·) else none

/-- Only no bytes give an empty slice. -/
theorem takeBytes?_eq_some_nil_iff {n : Nat} {s : List Char} : takeBytes? n s = some [] ↔ n = 0 := by
  cases n with
  | zero => exact iff_of_true (by rw [takeBytes?]) rfl
  | succ n =>
      refine iff_of_false (fun h => ?_) (Nat.succ_ne_zero n)
      cases s with
      | nil => cases h
      | cons c cs =>
          rw [takeBytes?] at h
          split at h
          · obtain ⟨_, -, hcons⟩ := Option.map_eq_some_iff.mp h
            cases hcons
          · cases h

/-- A slice that is not empty starts with the first character, and the bytes of that are there. -/
theorem takeBytes?_cons_eq_some_cons_iff {n : Nat} {c d : Char} {cs a : List Char} :
    takeBytes? n (c :: cs) = some (d :: a) ↔
      d = c ∧ c.utf8Size ≤ n ∧ takeBytes? (n - c.utf8Size) cs = some a := by
  cases n with
  | zero =>
      have hpos := Char.utf8Size_pos c
      exact iff_of_false nofun fun h => absurd h.2.1 (by omega)
  | succ n =>
      rw [takeBytes?]
      split
      · rename_i hle
        simp only [Option.map_eq_some_iff, List.cons.injEq]
        constructor
        · rintro ⟨rest, hrest, rfl, rfl⟩
          exact ⟨rfl, hle, hrest⟩
        · rintro ⟨rfl, -, hrest⟩
          exact ⟨a, hrest, rfl, rfl⟩
      · rename_i hle
        exact iff_of_false nofun fun h => hle h.2.1

/-- **A slice is there** exactly if a start of the text takes the bytes. -/
theorem takeBytes?_eq_some_iff {n : Nat} {a s : List Char} :
    takeBytes? n s = some a ↔ a <+: s ∧ utf8Len a = n := by
  induction a generalizing n s with
  | nil =>
      rw [takeBytes?_eq_some_nil_iff]
      exact ⟨fun h => ⟨List.nil_prefix, h.symm⟩, fun h => h.2.symm⟩
  | cons d a ih =>
      cases s with
      | nil =>
          refine iff_of_false (fun h => ?_) fun h => List.cons_ne_nil _ _ (List.prefix_nil.mp h.1)
          cases n <;> cases h
      | cons c cs =>
          rw [takeBytes?_cons_eq_some_cons_iff, ih, List.cons_prefix_cons, String.utf8Len_cons]
          constructor
          · rintro ⟨rfl, hle, hstart, hlen⟩
            exact ⟨⟨rfl, hstart⟩, by omega⟩
          · rintro ⟨⟨rfl, hstart⟩, hlen⟩
            exact ⟨rfl, by omega, hstart, by omega⟩

/-- Where the indentation of a line ends: behind the bytes that trimming takes away. -/
def indentEnd (line : List Char) : Nat :=
  utf8Len line - utf8Len (trimStart line)

/-- **The indentation of a line** is a slice. -/
theorem takeBytes?_indentEnd (line : List Char) :
    takeBytes? (indentEnd line) line = some (indentOf line) := by
  have hlen := congrArg utf8Len (List.takeWhile_append_dropWhile (p := Text.isBlank) (l := line))
  rw [String.utf8Len_append] at hlen
  refine takeBytes?_eq_some_iff.mpr ⟨List.takeWhile_prefix _, ?_⟩
  rw [indentEnd, trimStart, indentOf]
  omega

/-- The characters of a text, each with the number of bytes in front of it; `n` bytes are in front
of the text. -/
def offsets : Nat → List Char → List (Nat × Char)
  | _, [] => []
  | n, c :: cs => (n, c) :: offsets (n + c.utf8Size) cs

/-- Where two texts part: behind the last of the characters at their starts that agree. -/
def commonEnd (a b : List Char) : Nat :=
  ((((offsets 0 a).zip b).takeWhile fun e => e.1.2 == e.2).getLast?.map
    fun e => e.1.1 + e.1.2.utf8Size).getD 0

/-- Two texts part behind their common start. -/
theorem commonEnd_eq (a b : List Char) : commonEnd a b = utf8Len (commonStart a b) := by
  have hfrom : ∀ (n : Nat) (b : List Char),
      ((((offsets n a).zip b).takeWhile fun e => e.1.2 == e.2).getLast?.map
        fun e => e.1.1 + e.1.2.utf8Size).getD n = n + utf8Len (commonStart a b) := by
    induction a with
    | nil => exact fun n b => rfl
    | cons x a ih =>
        intro n b
        cases b with
        | nil => rfl
        | cons y b =>
            rw [offsets, List.zip_cons_cons, List.takeWhile_cons, commonStart]
            by_cases hxy : x = y
            · subst hxy
              have hrest := ih (n + x.utf8Size) b
              simp only [beq_self_eq_true, if_true, List.getLast?_cons, Option.map_some,
                Option.getD_some, String.utf8Len_cons]
              -- the last character that agrees is this one, unless there is one behind it
              have hlast : ∀ last? : Option ((Nat × Char) × Char),
                  (last?.getD ((n, x), x)).1.1 + (last?.getD ((n, x), x)).1.2.utf8Size =
                    (last?.map fun e => e.1.1 + e.1.2.utf8Size).getD (n + x.utf8Size) := by
                intro last?
                cases last? <;> rfl
              rw [hlast, hrest]
              omega
            · simp [hxy]
  rw [commonEnd, hfrom 0 b, Nat.zero_add]

/-- **The common start of two texts** is a slice of the first one. -/
theorem takeBytes?_commonEnd (a b : List Char) :
    takeBytes? (commonEnd a b) a = some (commonStart a b) :=
  takeBytes?_eq_some_iff.mpr
    ⟨(prefix_commonStart_iff.mp List.prefix_rfl).1, (commonEnd_eq a b).symm⟩

/-- Narrows the indentation that has been found so far by that of a line, both taken as slices. -/
def narrowBySlices? (found? : Option (List Char)) (line : List Char) :
    Option (Option (List Char)) := do
  let indent ← takeBytes? (indentEnd line) line
  match found? with
  | none => return some indent
  | some found => return some (← takeBytes? (commonEnd found indent) found)

/-- **Removes the shared indentation**, taking every piece as a slice. -/
def unindentBySlices? (s : List Char) : Option (List Char) := do
  let found? ← ((lines s).filter fun l => !allBlank l).foldlM narrowBySlices? none
  match found? with
  | none => return s
  | some indent => return if indent = [] then s else unlines ((lines s).map (dropIndent indent))

/-- Narrowing takes slices that are there. -/
theorem foldlM_narrowBySlices? (found : List Char) (ls : List (List Char)) :
    ls.foldlM narrowBySlices? (some found) =
      some (some ((ls.map indentOf).foldl commonStart found)) := by
  induction ls generalizing found with
  | nil => rfl
  | cons l ls ih =>
      have hstep : narrowBySlices? (some found) l = some (some (commonStart found (indentOf l))) := by
        rw [narrowBySlices?, takeBytes?_indentEnd]
        show takeBytes? (commonEnd found (indentOf l)) found >>= _ = _
        rw [takeBytes?_commonEnd]
        rfl
      rw [List.foldlM_cons, hstep, List.map_cons, List.foldl_cons]
      exact ih _

/-- **All slices are there**, and the text comes out that does without them. -/
theorem unindentBySlices?_eq (s : List Char) : unindentBySlices? s = some (unindent s) := by
  rw [unindentBySlices?, unindent, sharedIndent]
  cases (lines s).filter fun l => !allBlank l with
  | nil => rfl
  | cons l ls =>
      have hstep : narrowBySlices? none l = some (some (indentOf l)) := by
        rw [narrowBySlices?, takeBytes?_indentEnd]
        rfl
      rw [List.foldlM_cons, hstep]
      show (ls.foldlM narrowBySlices? (some (indentOf l)) >>= _) = _
      rw [foldlM_narrowBySlices?]
      rfl

end Chars

namespace Text

/-- **Removing the shared indentation** keeps the number of lines. If all lines are blank, the text
stays. Otherwise every line that is not blank loses the longest blank text that all of them start
with, a blank line stays blank, and the text stays if they share nothing. All pieces taken on the way
are slices that end between characters. Removing the shared indentation again changes nothing. -/
theorem unindent_removes_shared (s : String) :
    (Chars.lines (unindent s).toList).length = (Chars.lines s.toList).length ∧
    ((∀ l ∈ Chars.lines s.toList, Chars.allBlank l = true) ∧ unindent s = s ∨
      ∃ indent, Chars.IsSharedIndent (Chars.lines s.toList) indent ∧
        (indent = [] → unindent s = s) ∧
        List.Forall₂ (fun l l' => (Chars.allBlank l = false → l = indent ++ l') ∧
            (Chars.allBlank l = true → Chars.allBlank l' = true))
          (Chars.lines s.toList) (Chars.lines (unindent s).toList)) ∧
    Chars.unindentBySlices? s.toList = some (unindent s).toList ∧
    unindent (unindent s) = unindent s := by
  have hchars : (unindent s).toList = Chars.unindent s.toList := String.toList_ofList
  have hself : Chars.sharedIndent (Chars.lines s.toList) = [] → unindent s = s := fun h => by
    rw [unindent, Chars.unindent_eq_self h, String.ofList_toList]
  refine ⟨?_, ?_, ?_, ?_⟩
  · rw [hchars, Chars.lines_unindent, List.length_map]
  · by_cases hblank : ∃ l ∈ Chars.lines s.toList, Chars.allBlank l = false
    · refine Or.inr ⟨_, Chars.isSharedIndent_sharedIndent hblank, hself, ?_⟩
      rw [hchars, Chars.lines_unindent, List.forall₂_map_right_iff, List.forall₂_same]
      refine fun l hl => ⟨fun h => ?_, Chars.allBlank_of_suffix (Chars.dropIndent_suffix _ _)⟩
      obtain ⟨rest, heq, hdrop, -⟩ := Chars.exists_of_not_allBlank hl h
      rwa [hdrop]
    · have hall : ∀ l ∈ Chars.lines s.toList, Chars.allBlank l = true := by
        simpa using hblank
      exact Or.inl ⟨hall, hself (Chars.sharedIndent_of_allBlank hall)⟩
  · rw [hchars, Chars.unindentBySlices?_eq]
  · rw [unindent, hchars, Chars.unindent_unindent, unindent]

/-- A blank line that lacks the shared indentation loses its leading blanks. -/
example : unindent "  a\n \u00a0\n   b" = "a\n\n b" := by decide

end Text

end ApiGloss
