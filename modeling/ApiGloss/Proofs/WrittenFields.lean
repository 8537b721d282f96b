import ApiGloss.Proofs.FirstChoice
import Mathlib.Data.List.TakeWhile
import Mathlib.Tactic.MkIffOfInductiveProp

/-!
# Declarations as Written

A declaration of a field has a written form (`FieldDecl.Written`): an optional group in parentheses,
an optional type in braces with its size and its allowed values, the name, in brackets if the field
is optional and with a default if there is one, and the description. The form carries what makes it
readable: which characters a part may hold and where blanks may stand.

This module says what the parts of the form can start with, which is all that the parts before them
need to know, and what a match that captures each part in its group is read as.

## Main results

* `FieldDecl.splitAllowed_join`: allowed values that are joined by commas are found again.
* `FieldDecl.startsOutside_endChars`: what can stand behind a name.
* `FieldDecl.ofMatch_captures`: a match that captures the parts as they are written is read as the
  declaration.
-/

namespace ApiGloss

namespace Chars

/-! ### Runs between separators -/

variable {p : Char → Bool}

/-- A run starts at the first character with the property and goes as far as it can. -/
theorem runs_of_dropWhile {s cs : List Char} {c : Char}
    (h : s.dropWhile (fun c => !p c) = c :: cs) :
    runs p s = (c :: cs.takeWhile p) :: runs p (cs.dropWhile p) := by
  rw [runs]
  split
  · rename_i hnil
    rw [h] at hnil
    cases hnil
  · rename_i hcons
    rw [h] at hcons
    cases hcons
    rfl

/-- There are no runs without such a character. -/
theorem runs_of_dropWhile_nil {s : List Char} (h : s.dropWhile (fun c => !p c) = []) :
    runs p s = [] := by
  rw [runs]
  split
  · rfl
  · rename_i hcons
    rw [h] at hcons
    cases hcons

/-- A character without the property is skipped. -/
theorem runs_cons_of_not {c : Char} (hc : p c = false) (s : List Char) :
    runs p (c :: s) = runs p s := by
  have hdrop : (c :: s).dropWhile (fun c => !p c) = s.dropWhile fun c => !p c := by
    simp [hc]
  cases hs : s.dropWhile fun c => !p c with
  | nil => rw [runs_of_dropWhile_nil hs, runs_of_dropWhile_nil (hdrop.trans hs)]
  | cons d ds => rw [runs_of_dropWhile hs, runs_of_dropWhile (hdrop.trans hs)]

/-- A run goes on as far as it can. -/
theorem runs_append {run : List Char} (hne : run ≠ []) (hrun : ∀ c ∈ run, p c = true)
    (x : List Char) : runs p (run ++ x) = (run ++ x.takeWhile p) :: runs p (x.dropWhile p) := by
  obtain ⟨c, run, rfl⟩ := List.exists_cons_of_ne_nil hne
  obtain ⟨hc, hrun⟩ := List.forall_mem_cons.mp hrun
  have hdrop : (c :: (run ++ x)).dropWhile (fun c => !p c) = c :: (run ++ x) := by
    simp [hc]
  rw [List.cons_append, runs_of_dropWhile hdrop, List.takeWhile_append_of_pos hrun,
    List.dropWhile_append_of_pos hrun, List.cons_append]

/-- **Pieces between separators** are the runs of the other characters. -/
theorem runs_join {sep : Char} (hsep : p sep = false) {pieces : List (List Char)}
    (hpieces : ∀ piece ∈ pieces, piece ≠ [] ∧ ∀ c ∈ piece, p c = true) (hne : pieces ≠ []) :
    runs p (join sep pieces) = pieces := by
  obtain ⟨piece, pieces, rfl⟩ := List.exists_cons_of_ne_nil hne
  rw [join_cons]
  clear hne
  induction pieces generalizing piece with
  | nil =>
      obtain ⟨hne, hmem⟩ := hpieces piece List.mem_cons_self
      rw [List.flatMap_nil, runs_append hne hmem, List.takeWhile_nil, List.dropWhile_nil,
        runs_of_dropWhile_nil rfl, List.append_nil]
  | cons next pieces ih =>
      obtain ⟨⟨hne, hmem⟩, hrest⟩ := List.forall_mem_cons.mp hpieces
      have htake : ∀ s : List Char, (sep :: s).takeWhile p = [] := by simp [hsep]
      have hdrop : ∀ s : List Char, (sep :: s).dropWhile p = sep :: s := by simp [hsep]
      rw [List.flatMap_cons, List.cons_append, runs_append hne hmem, htake, hdrop,
        runs_cons_of_not hsep, ih next hrest, List.append_nil]

/-- Nothing is stripped from a text that has no character with the property at either end. -/
theorem strip_eq_self {s : List Char} (hstart : Regex.StartsOutside p s)
    (hlast : Regex.StartsOutside p s.reverse) : strip p s = s := by
  rw [strip, hstart.dropWhile_eq, hlast.dropWhile_eq, List.reverse_reverse]

/-- Nothing is stripped from a text without characters with the property. -/
theorem strip_of_not {s : List Char} (h : ∀ c ∈ s, p c = false) : strip p s = s :=
  strip_eq_self (fun c hc => h c (List.mem_of_mem_head? hc))
    fun c hc => h c (List.mem_reverse.mp (List.mem_of_mem_head? hc))

end Chars

namespace FieldDecl

open Regex Text

/-! ### The written form -/

/-- A text can stand **before a closing delimiter**: it is not empty, does not hold the delimiter,
and no blank stands at either end. -/
@[mk_iff]
structure IsEnclosed (closing : Char) (text : List Char) : Prop where
  ne_nil : text ≠ []
  not_mem : closing ∉ text
  start : StartsOutside isBlank text
  last : StartsOutside isBlank text.reverse

/-- An **allowed value** without quotes. -/
@[mk_iff]
structure IsPlainValue (value : List Char) : Prop where
  ne_nil : value ≠ []
  plain : ∀ c ∈ value, c ≠ ',' ∧ c ≠ '}' ∧ isBlank c = false ∧ isQuote c = false

/-- A **default** without quotes. -/
@[mk_iff]
structure IsBareDefault (text : List Char) : Prop where
  ne_nil : text ≠ []
  bare : ∀ c ∈ text, c ≠ ']' ∧ isBlank c = false
  start : StartsOutside isQuote text

instance (closing : Char) (text : List Char) : Decidable (IsEnclosed closing text) :=
  decidable_of_iff _ (isEnclosed_iff closing text).symm

instance (value : List Char) : Decidable (IsPlainValue value) :=
  letI := List.decidableBAll (fun c => c ≠ ',' ∧ c ≠ '}' ∧ isBlank c = false ∧ isQuote c = false)
    value
  decidable_of_iff _ (isPlainValue_iff value).symm

instance (text : List Char) : Decidable (IsBareDefault text) :=
  letI := List.decidableBAll (fun c => c ≠ ']' ∧ isBlank c = false) text
  decidable_of_iff _ (isBareDefault_iff text).symm

/-- A **type as written**, with its size and its allowed values. -/
structure WrittenType where
  name : String
  size : Option String := none
  allowed : Option (List String) := none
  name_proper : IsRun typeChars name.toList
  size_proper : ∀ s ∈ size, IsEnclosed '}' s.toList
  allowed_proper : ∀ values ∈ allowed, values ≠ [] ∧ ∀ v ∈ values, IsPlainValue v.toList

/-- A **default as written**: in quotes or not. -/
inductive WrittenDefault where
  | quoted (text : String) (h : '"' ∉ text.toList)
  | bare (text : String) (h : IsBareDefault text.toList)

/-- The **written form of a declaration**. -/
structure Written where
  group : Option String := none
  type : Option WrittenType := none
  name : String
  isOptional : Bool := false
  defaultValue : Option WrittenDefault := none
  description : String := ""
  group_proper : ∀ g ∈ group, IsEnclosed ')' g.toList
  name_proper : IsRun nameChars name.toList
  description_start :
    StartsOutside (fun c => isBlank c || c == '=' || c == ']') description.toList

namespace WrittenType

/-- The size in braces. -/
def sizeChars (t : WrittenType) : List Char :=
  t.size.elim [] fun s => '{' :: (s.toList ++ ['}'])

/-- The allowed values behind an equals sign, divided by commas. -/
def allowedChars (t : WrittenType) : List Char :=
  t.allowed.elim [] fun values => '=' :: Chars.join ',' (values.map String.toList)

/-- The type in braces. -/
def chars (t : WrittenType) : List Char :=
  '{' :: (t.name.toList ++ (t.sizeChars ++ (t.allowedChars ++ ['}'])))

/-- What the size in braces captures. -/
def sizeCaptures (t : WrittenType) : List (Nat × List Char) :=
  t.size.elim [] fun s => [(3, s.toList)]

/-- What the allowed values capture. -/
def allowedCaptures (t : WrittenType) : List (Nat × List Char) :=
  t.allowed.elim [] fun values => [(4, Chars.join ',' (values.map String.toList))]

/-- What the groups capture of a type. -/
def captures (t : WrittenType) : List (Nat × List Char) :=
  t.allowedCaptures ++ (t.sizeCaptures ++ [(2, t.name.toList)])

end WrittenType

namespace WrittenDefault

/-- The text of a default. -/
def text : WrittenDefault → String
  | quoted text _ => text
  | bare text _ => text

/-- A default behind an equals sign. -/
def chars : WrittenDefault → List Char
  | quoted text _ => '=' :: '"' :: (text.toList ++ ['"'])
  | bare text _ => '=' :: text.toList

/-- What the groups capture of a default. -/
def captures : WrittenDefault → List (Nat × List Char)
  | quoted text _ => [(7, text.toList)]
  | bare text _ => [(9, text.toList)]

end WrittenDefault

namespace Written

variable (w : Written)

/-- The group in parentheses, with the blank behind it. -/
def groupChars : List Char :=
  w.group.elim [] fun g => '(' :: (g.toList ++ [')', ' '])

/-- What the group in parentheses captures. -/
def groupCaptures : List (Nat × List Char) :=
  w.group.elim [] fun g => [(1, g.toList)]

/-- The type in braces, with the blank behind it. -/
def typeChars : List Char :=
  w.type.elim [] fun t => t.chars ++ [' ']

/-- What the groups capture of the type. -/
def typeCaptures : List (Nat × List Char) :=
  w.type.elim [] WrittenType.captures

/-- The opening bracket of an optional field. -/
def opening : List Char :=
  if w.isOptional then ['['] else []

/-- The closing bracket of an optional field. -/
def closing : List Char :=
  if w.isOptional then [']'] else []

/-- The default, if there is one, and the closing bracket. -/
def endChars : List Char :=
  w.defaultValue.elim [] WrittenDefault.chars ++ w.closing

/-- What the groups capture of the default. -/
def defaultCaptures : List (Nat × List Char) :=
  w.defaultValue.elim [] WrittenDefault.captures

/-- The name with its default, in brackets if the field is optional. -/
def nameChars : List Char :=
  w.opening ++ (w.name.toList ++ w.endChars)

/-- The blank before the description, if there is one. -/
def gap : List Char :=
  if w.description.toList = [] then [] else [' ']

/-- The **text of a declaration**: the parts that are there, with single blanks between them. -/
def text : String :=
  String.ofList (w.groupChars ++ (w.typeChars ++ (w.nameChars ++ (w.gap ++ w.description.toList))))

/-- The **declaration** that is written. -/
def declaration (defaultGroup : String) : FieldDecl where
  group := w.group.getD defaultGroup
  type := w.type.map (·.name)
  size := w.type.bind (·.size)
  allowedValues := w.type.bind (·.allowed)
  isOptional := w.isOptional
  field := w.name
  defaultValue := w.defaultValue.map (·.text)
  description := Text.unindent w.description

end Written

/-! ### Allowed values -/

/-- A text without blanks and without the delimiter can stand before it. -/
theorem isEnclosed_of_forall {closing : Char} {text : List Char} (hne : text ≠ [])
    (h : ∀ c ∈ text, c ≠ closing ∧ isBlank c = false) : IsEnclosed closing text where
  ne_nil := hne
  not_mem hmem := (h closing hmem).1 rfl
  start c hc := (h c (List.mem_of_mem_head? hc)).2
  last c hc := (h c (List.mem_reverse.mp (List.mem_of_mem_head? hc))).2

section Allowed

variable {values : List String} (hne : values ≠ [])
  (hvalues : ∀ v ∈ values, IsPlainValue v.toList)

include hne hvalues

/-- Values that are joined by commas start with a character of the first value, and all other
characters are commas or characters of values. -/
theorem join_values_spec :
    (∃ c rest, Chars.join ',' (values.map String.toList) = c :: rest ∧ isQuote c = false) ∧
      ∀ c ∈ Chars.join ',' (values.map String.toList), c ≠ '}' ∧ isBlank c = false := by
  obtain ⟨v, values, rfl⟩ := List.exists_cons_of_ne_nil hne
  obtain ⟨hv, hrest⟩ := List.forall_mem_cons.mp hvalues
  rw [List.map_cons, Chars.join_cons]
  constructor
  · obtain ⟨c, cs, hcs⟩ := List.exists_cons_of_ne_nil hv.ne_nil
    refine ⟨c, cs ++ _, by rw [hcs, List.cons_append], ?_⟩
    exact (hv.plain c (by rw [hcs]; exact List.mem_cons_self)).2.2.2
  · intro c hc
    rcases List.mem_append.mp hc with hc | hc
    · exact ⟨(hv.plain c hc).2.1, (hv.plain c hc).2.2.1⟩
    · obtain ⟨piece, hpiece, hc⟩ := List.mem_flatMap.mp hc
      obtain ⟨v', hv', rfl⟩ := List.mem_map.mp hpiece
      rcases List.mem_cons.mp hc with rfl | hc
      · exact ⟨by decide, by decide⟩
      · exact ⟨((hrest v' hv').plain c hc).2.1, ((hrest v' hv').plain c hc).2.2.1⟩

/-- Values that are joined by commas can stand before the closing brace. -/
theorem isEnclosed_join : IsEnclosed '}' (Chars.join ',' (values.map String.toList)) := by
  obtain ⟨⟨c, rest, hjoin, -⟩, hmem⟩ := join_values_spec hne hvalues
  exact isEnclosed_of_forall (by rw [hjoin]; exact List.cons_ne_nil _ _) hmem

/-- **Allowed values** that are joined by commas are found again. -/
theorem splitAllowed_join :
    splitAllowed (Chars.join ',' (values.map String.toList)) = values.map String.toList := by
  obtain ⟨⟨c, rest, hjoin, hquote⟩, -⟩ := join_values_spec hne hvalues
  have hplain : ∀ piece ∈ values.map String.toList, IsPlainValue piece := by
    intro piece hpiece
    obtain ⟨v, hv, rfl⟩ := List.mem_map.mp hpiece
    exact hvalues v hv
  have hruns : Chars.runs (fun c => c != ',' && !isBlank c)
      (Chars.join ',' (values.map String.toList)) = values.map String.toList := by
    refine Chars.runs_join (by decide) (fun piece hpiece => ⟨(hplain piece hpiece).ne_nil, ?_⟩) ?_
    · intro c hc
      have hc := (hplain piece hpiece).plain c hc
      simp [hc.1, hc.2.2.1]
    · simpa using hne
  have hstrip : (values.map String.toList).map (Chars.strip isQuote) =
      values.map String.toList := by
    refine (List.map_congr_left fun piece hpiece => ?_).trans (List.map_id _)
    exact Chars.strip_of_not fun c hc => ((hplain piece hpiece).plain c hc).2.2.2
  rw [splitAllowed, hruns, hstrip]
  · intro tail hquoted
    cases hjoin.symm.trans hquoted
    cases hquote
  · intro tail hquoted
    cases hjoin.symm.trans hquoted
    cases hquote

end Allowed

/-! ### What the parts start with -/

/-- A character is in a union if it is in one of the sets. -/
theorem mem_setOf (sets : List CharSet) (c : Char) :
    (setOf sets).mem c = sets.any fun s => s.mem c := by
  have hfoldl : ∀ (rest : List CharSet) (s : CharSet),
      (rest.foldl .union s).mem c = (s.mem c || rest.any fun t => t.mem c) := by
    intro rest
    induction rest with
    | nil => simp
    | cons t rest ih =>
        intro s
        rw [List.foldl_cons, ih, CharSet.mem, List.any_cons, Bool.or_assoc]
  cases sets with
  | nil => rfl
  | cons s rest => exact hfoldl rest s

/-- The characters of a name are characters of a type. -/
theorem typeChars_of_nameChars {c : Char} (h : nameChars.mem c = true) :
    typeChars.mem c = true := by
  rw [nameChars, mem_setOf, List.any_eq_true] at h
  obtain ⟨s, hs, hc⟩ := h
  rw [typeChars, mem_setOf, List.any_eq_true]
  exact ⟨s, (by decide : ∀ s ∈ _, s ∈ _) s hs, hc⟩

/-- No character of a type is a blank. -/
theorem isBlank_of_typeChars {c : Char} (h : typeChars.mem c = true) : isBlank c = false := by
  have hvisible : '!'.toNat ≤ c.toNat ∧ c.toNat ≤ '~'.toNat := by
    have hrange : ∀ lo hi : Char, (lo ≤ c && c ≤ hi) = true ↔
        lo.toNat ≤ c.toNat ∧ c.toNat ≤ hi.toNat := by
      intro lo hi
      rw [Bool.and_eq_true, decide_eq_true_eq, decide_eq_true_eq]
      exact Iff.rfl
    simp only [typeChars, mem_setOf, alphanumeric, CharSet.char, List.map_cons, List.map_nil,
      List.cons_append, List.nil_append, List.any_cons, List.any_nil, CharSet.mem,
      Bool.or_eq_true, hrange, Char.reduceToNat, Bool.false_eq_true, or_false] at h ⊢
    omega
  simp only [Char.reduceToNat] at hvisible
  simp only [isBlank, inRanges, blankRanges, List.any_cons, List.any_nil, Bool.or_false,
    Bool.or_eq_false_iff, Bool.and_eq_false_iff, decide_eq_false_iff_not]
  omega

/-- No character of a name is a blank. -/
theorem isBlank_of_nameChars {c : Char} (h : nameChars.mem c = true) : isBlank c = false :=
  isBlank_of_typeChars (typeChars_of_nameChars h)

/-- A part that may be left out does not change what the text starts with, if it starts with the
same. -/
theorem startsOutside_part {α : Type} {p : Char → Bool} {part : Option α} {chars : α → List Char}
    {x : List Char} (hpart : ∀ a, StartsOutside p (chars a ++ x)) (hx : StartsOutside p x) :
    StartsOutside p (part.elim [] chars ++ x) := by
  cases part with
  | none => exact hx
  | some a => exact hpart a

/-- A character outside a set is not one of its members. -/
theorem beq_of_mem {cs : CharSet} {d : Char} (hd : cs.mem d = false) (c : Char)
    (hc : cs.mem c = true) : (c == d) = false := by
  refine beq_eq_false_iff_ne.mpr fun hcd => ?_
  rw [hcd, hd] at hc
  cases hc

/-- Behind the size of a type, there is an equals sign or a brace. -/
theorem startsOutside_allowedChars (t : WrittenType) {p : Char → Bool} (hequals : p '=' = false)
    (hbrace : p '}' = false) (x : List Char) : StartsOutside p (t.allowedChars ++ '}' :: x) :=
  startsOutside_part (fun _ => startsOutside_cons.mpr hequals) (startsOutside_cons.mpr hbrace)

/-- Behind the name of a type, there is another brace if it has a size. -/
theorem startsOutside_sizeChars (t : WrittenType) {p : Char → Bool} {x : List Char}
    (hbrace : p '{' = false) (hx : StartsOutside p x) : StartsOutside p (t.sizeChars ++ x) :=
  startsOutside_part (fun _ => startsOutside_cons.mpr hbrace) hx

section Captures

variable (w : Written)

/-- There is a blank before the description, if there is one. -/
theorem gap_cases : w.description.toList = [] ∧ w.gap = [] ∨ w.gap = [' '] := by
  rw [Written.gap]
  by_cases hnil : w.description.toList = []
  · exact .inl ⟨hnil, if_pos hnil⟩
  · exact .inr (if_neg hnil)

theorem gap_blank : ∀ c ∈ w.gap, isBlank c = true := by
  rcases gap_cases w with ⟨-, hgap⟩ | hgap
  · rw [hgap]
    exact fun c hc => absurd hc List.not_mem_nil
  · rw [hgap]
    exact List.forall_mem_singleton.mpr (by decide)

/-- The description starts neither with a blank nor with an equals sign or a closing bracket. -/
theorem description_spec : StartsOutside isBlank w.description.toList ∧
    StartsOutside (· == '=') w.description.toList ∧
    StartsOutside (· == ']') w.description.toList := by
  have hspec : ∀ c ∈ w.description.toList.head?,
      (isBlank c = false ∧ (c == '=') = false) ∧ (c == ']') = false := by
    intro c hc
    have hstart := w.description_start c hc
    rwa [Bool.or_eq_false_iff, Bool.or_eq_false_iff] at hstart
  exact ⟨fun c hc => (hspec c hc).1.1, fun c hc => (hspec c hc).1.2, fun c hc => (hspec c hc).2⟩

/-- Behind the name, there is an equals sign, a closing bracket or a blank, or nothing. -/
theorem startsOutside_endChars {p : Char → Bool} (hequals : p '=' = false)
    (hbracket : p ']' = false) (hblank : p ' ' = false) :
    StartsOutside p (w.endChars ++ (w.gap ++ w.description.toList)) := by
  rw [Written.endChars, List.append_assoc]
  refine startsOutside_part (fun d => ?_) ?_
  · cases d with
    | quoted text _ => exact startsOutside_cons.mpr hequals
    | bare text _ => exact startsOutside_cons.mpr hequals
  · rw [Written.closing]
    cases w.isOptional with
    | true => exact startsOutside_cons.mpr hbracket
    | false =>
        rcases gap_cases w with ⟨hnil, hgap⟩ | hgap
        · rw [hnil, hgap]
          exact startsOutside_nil p
        · rw [hgap]
          exact startsOutside_cons.mpr hblank

/-- A name starts with the opening bracket or with a character of names. -/
theorem startsOutside_nameChars {p : Char → Bool} (hbracket : p '[' = false)
    (hname : ∀ c, nameChars.mem c = true → p c = false) (x : List Char) :
    StartsOutside p (w.nameChars ++ x) := by
  rw [Written.nameChars, Written.opening, List.append_assoc, List.append_assoc]
  cases w.isOptional with
  | true => exact startsOutside_cons.mpr hbracket
  | false => exact w.name_proper.startsOutside hname _

/-- A type starts with a brace. -/
theorem startsOutside_typeChars {p : Char → Bool} {x : List Char} (hbrace : p '{' = false)
    (hx : StartsOutside p x) : StartsOutside p (w.typeChars ++ x) :=
  startsOutside_part (fun _ => startsOutside_cons.mpr hbrace) hx

/-! ### Captures -/

/-- What the groups capture of a whole declaration. -/
def Written.captures : List (Nat × List Char) :=
  (10, w.description.toList) :: (5, w.nameChars ++ w.gap) ::
    (w.defaultCaptures ++ (6, w.name.toList) :: (w.typeCaptures ++ w.groupCaptures))

/-- What is captured of a part that may be left out. -/
theorem lookup_part {α : Type} (part : Option α) (chars : α → List Char) (i index : Nat) :
    (part.elim [] fun a => [(index, chars a)]).lookup i =
      if i = index then part.map chars else none := by
  cases part with
  | none => simp
  | some a =>
      by_cases hi : i = index
      · simp [hi]
      · have hne : (i == index) = false := beq_eq_false_iff_ne.mpr hi
        simp [List.lookup_cons, hi, hne]

theorem lookup_groupCaptures (i : Nat) :
    w.groupCaptures.lookup i = if i = 1 then w.group.map String.toList else none :=
  lookup_part w.group String.toList i 1

theorem lookup_typeCaptures (i : Nat) : w.typeCaptures.lookup i = w.type.bind fun t =>
    (if i = 4 then t.allowed.map fun values => Chars.join ',' (values.map String.toList)
      else none).or
    ((if i = 3 then t.size.map String.toList else none).or
      (if i = 2 then some t.name.toList else none)) := by
  rw [Written.typeCaptures]
  cases w.type with
  | none => rfl
  | some t =>
      rw [Option.elim_some, Option.bind_some, WrittenType.captures, List.lookup_append,
        List.lookup_append, WrittenType.allowedCaptures, WrittenType.sizeCaptures, lookup_part,
        lookup_part]
      exact congrArg _ (congrArg _ (lookup_part (some t.name) String.toList i 2))

theorem lookup_defaultCaptures {i : Nat} (hquoted : i ≠ 7) (hbare : i ≠ 9) :
    w.defaultCaptures.lookup i = none := by
  rw [Written.defaultCaptures]
  cases w.defaultValue with
  | none => rfl
  | some d =>
      cases d with
      | quoted text _ =>
          simp [WrittenDefault.captures, List.lookup_cons, beq_eq_false_iff_ne.mpr hquoted]
      | bare text _ =>
          simp [WrittenDefault.captures, List.lookup_cons, beq_eq_false_iff_ne.mpr hbare]

/-- The allowed values, as they are read from the captures. -/
theorem allowed_of_captured (t : WrittenType) :
    (t.allowed.map fun values => Chars.join ',' (values.map String.toList)).map
      (fun raw => (splitAllowed raw).map String.ofList) = t.allowed := by
  cases hallowed : t.allowed with
  | none => rfl
  | some values =>
      obtain ⟨hne, hvalues⟩ := t.allowed_proper values hallowed
      simp [splitAllowed_join hne hvalues]

/-- The brackets of an optional field are seen in the captured name. -/
theorem isOptional_of_captured :
    ((w.nameChars ++ w.gap).head? == some '[') = w.isOptional := by
  have hname : StartsOutside (· == '[') (w.name.toList ++ (w.endChars ++ w.gap)) :=
    w.name_proper.startsOutside (beq_of_mem (by decide)) _
  rw [Written.nameChars, Written.opening]
  cases w.isOptional with
  | true => rfl
  | false =>
      simp only [Bool.false_eq_true, if_false, List.nil_append, List.append_assoc]
      cases hhead : (w.name.toList ++ (w.endChars ++ w.gap)).head? with
      | none => rfl
      | some c => exact hname c hhead

/-- The default, as it is read from the captures. -/
theorem defaultValue_of_captured :
    (((w.defaultCaptures.lookup 7).map String.ofList).orElse fun _ =>
      ((w.defaultCaptures.lookup 9).map String.ofList).filter (· != "")) =
      w.defaultValue.map (·.text) := by
  rw [Written.defaultCaptures]
  cases w.defaultValue with
  | none => rfl
  | some d =>
      cases d with
      | quoted text _ => simp [WrittenDefault.captures, WrittenDefault.text]
      | bare text htext =>
          have hne : text ≠ "" := by
            rintro rfl
            exact htext.ne_nil rfl
          simp [WrittenDefault.captures, WrittenDefault.text, List.lookup_cons, hne]

/-- The declaration that the captures describe is the one that is written. -/
theorem ofMatch_captures {m : MatchState} (hm : m.captures = w.captures) (defaultGroup : String) :
    ofMatch defaultGroup m = w.declaration defaultGroup := by
  have hdefault : ∀ i, i ≠ 7 → i ≠ 9 → w.defaultCaptures.lookup i = none :=
    fun i => lookup_defaultCaptures w
  rw [ofMatch, Written.declaration, ← defaultValue_of_captured, ← isOptional_of_captured]
  simp only [MatchState.group?, hm, Written.captures, List.lookup_cons, List.lookup_append,
    Nat.reduceBEq, lookup_groupCaptures, lookup_typeCaptures, Nat.reduceEqDiff,
    if_true, if_false, Option.or_none, Option.none_or, hdefault, ne_eq, not_false_eq_true]
  cases w.type with
  | none => simp
  | some t =>
      have hallowed := allowed_of_captured t
      rw [Option.map_map] at hallowed
      simp [hallowed]

end Captures

end FieldDecl

end ApiGloss
