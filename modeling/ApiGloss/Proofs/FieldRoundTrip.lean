import ApiGloss.Proofs.WrittenFields

/-!
# Reading Declarations Back

Reading undoes writing: what is read from the written form of a declaration is what was written.

The grammar is one regular expression, and each of its parts could take more or less of the text
than it should. So the parts are followed one by one, with the text that is still ahead
(`Regex.Passes`). Each one passes over what was written for it, and what makes it stop there is the
character that must come next: the name cannot go on over a blank, a bracket or an equals sign, the
group and the size end at the first closing delimiter, and the description does not start with
anything that the name could still use.

## Main results

* `FieldDecl.passes_enclosed`: a text is captured up to its closing delimiter.
* `FieldDecl.passes_groupPart`, `FieldDecl.passes_typePart`, `FieldDecl.passes_namePart`: the parts
  of the grammar.
* `FieldDecl.parse?_written`: reading a declaration undoes writing it.
-/

namespace ApiGloss.FieldDecl

open Regex Text

/-! ### Blanks and closing delimiters -/

section Delimiters

variable {x : List Char} {caps : List (Nat × List Char)} {rs : List Regex} {q : Place}

/-- Blanks are passed over as far as they go. -/
theorem passes_blanks {gap : List Char} (hgap : ∀ c ∈ gap, isBlank c = true)
    (hx : StartsOutside isBlank x) : Passes blanks (gap ++ x, caps) (x, caps) :=
  passes_star hgap hx

/-- Where there is no blank, none is passed over. -/
theorem passes_no_blanks (hx : StartsOutside isBlank x) : Passes blanks (x, caps) (x, caps) :=
  passes_star_nil hx

/-- No blank is passed over where another character is next. -/
theorem passes_no_blanks_cons {c : Char} (hc : isBlank c = false) :
    Passes blanks (c :: x, caps) (c :: x, caps) :=
  passes_no_blanks (startsOutside_cons.mpr hc)

/-- A character that does not come next, blanks aside. -/
theorem fails_blanks_char {c : Char} (hc : isBlank c = false)
    (hx : StartsOutside (· == c) (x.dropWhile isBlank)) (rs : List Regex) :
    Fails (sequence (blanks :: char c :: rs)) x := by
  refine fails_star_cons fun text rest hsplit htext => (fails_char ?_).cons rs
  replace htext : ∀ c ∈ text, isBlank c = true := htext
  intro d hd
  refine beq_eq_false_iff_ne.mpr fun hdc => ?_
  subst hdc
  obtain ⟨rest, rfl⟩ : ∃ tail, rest = d :: tail := by
    cases rest with
    | nil => cases hd
    | cons e tail => exact ⟨tail, by rw [Option.some.inj hd]⟩
  have hdrop : x.dropWhile isBlank = d :: rest := by
    rw [hsplit, List.dropWhile_append_of_pos htext, List.dropWhile_cons, hc]
    rfl
  have hne : (d == d) = false := hx d (by rw [hdrop]; rfl)
  simp at hne

/-- **An enclosed text** is captured up to its closing delimiter. -/
theorem passes_enclosed {closing : Char} (hclosing : isBlank closing = false) {text : List Char}
    (h : IsEnclosed closing text) (index : Nat)
    (hrest : Passes (sequence rs) (x, (index, text) :: caps) q) :
    Passes (sequence (.group index (lazyPlus anyChar) :: blanks :: char closing :: rs))
      (text ++ closing :: x, caps) q := by
  refine passes_lazyPlus h.ne_nil index (fun a b hsplit _ hb => ?_)
    ((passes_no_blanks_cons hclosing).cons (passes_char.cons hrest))
  -- the rest of the text holds a character that is neither a blank nor the delimiter
  refine fails_blanks_char hclosing ?_ rs
  have hlast : (b.dropWhile isBlank) ≠ [] := by
    rw [ne_eq, List.dropWhile_eq_nil_iff]
    intro hblank
    have hmem : b.getLast hb ∈ text.reverse.head? := by
      rw [List.head?_reverse, hsplit, List.getLast?_append, List.getLast?_eq_some_getLast hb]
      exact rfl
    have hlast := h.last _ hmem
    rw [hblank _ (List.getLast_mem hb)] at hlast
    cases hlast
  have hdrop : (b ++ closing :: x).dropWhile isBlank = b.dropWhile isBlank ++ closing :: x := by
    rw [List.dropWhile_append, if_neg (by simpa using hlast)]
  rw [hdrop]
  refine StartsOutside.append hlast (fun d hd => beq_eq_false_iff_ne.mpr fun hdc => ?_) _
  subst hdc
  have hmem : d ∈ b := (List.dropWhile_sublist _).subset (List.mem_of_mem_head? hd)
  exact h.not_mem (hsplit ▸ List.mem_append_right a hmem)

end Delimiters

/-! ### The group -/

section Parts

variable {x : List Char} {caps : List (Nat × List Char)}

/-- A single blank. -/
theorem passes_blank (hx : StartsOutside isBlank x) :
    Passes blanks (' ' :: x, caps) (x, caps) := by
  have hblank : ∀ c ∈ [' '], isBlank c = true := List.forall_mem_singleton.mpr (by decide)
  exact passes_blanks hblank hx

/-- **The group**, if there is one, is passed over and captured. -/
theorem passes_groupPart (w : Written) (hblank : StartsOutside isBlank x)
    (hx : StartsOutside (· == '(') x) :
    Passes (sequence groupPart) (w.groupChars ++ x, caps) (x, w.groupCaptures ++ caps) := by
  rw [groupPart, Written.groupChars, Written.groupCaptures]
  cases hgroup : w.group with
  | none =>
      exact (passes_no_blanks hblank).cons
        (passes_opt_of_fails ((fails_char hx).cons _) (passes_nil _))
  | some g =>
      have hg := w.group_proper g hgroup
      have hstart : StartsOutside isBlank (g.toList ++ ')' :: ' ' :: x) :=
        hg.start.append hg.ne_nil _
      have hinner : Passes (sequence
            [char '(', blanks, .group 1 (lazyPlus anyChar), blanks, char ')', blanks])
          ('(' :: (g.toList ++ ')' :: ' ' :: x), caps) (x, (1, g.toList) :: caps) := by
        refine passes_char.cons ((passes_no_blanks hstart).cons ?_)
        exact passes_enclosed (by decide) hg 1 ((passes_blank hblank).cons (passes_nil _))
      have htext : '(' :: (g.toList ++ [')', ' ']) ++ x = '(' :: (g.toList ++ ')' :: ' ' :: x) := by
        simp
      rw [Option.elim_some, htext]
      exact (passes_no_blanks_cons (by decide)).cons (Passes.opt hinner)

/-! ### The type -/

/-- **The size** of a type, if there is one, is passed over and captured. -/
theorem passes_size (t : WrittenType) (hblank : StartsOutside isBlank x)
    (hx : StartsOutside (· == '{') x) :
    Passes (sequence
        [opt (sequence [char '{', blanks, .group 3 (lazyPlus anyChar), blanks, char '}', blanks]),
         blanks])
      (t.sizeChars ++ x, caps) (x, t.sizeCaptures ++ caps) := by
  rw [WrittenType.sizeChars, WrittenType.sizeCaptures]
  cases hsize : t.size with
  | none =>
      exact passes_opt_of_fails ((fails_char hx).cons _)
        ((passes_no_blanks hblank).cons (passes_nil _))
  | some s =>
      have hs := t.size_proper s hsize
      have hstart : StartsOutside isBlank (s.toList ++ '}' :: x) := hs.start.append hs.ne_nil _
      have htext : '{' :: (s.toList ++ ['}']) ++ x = '{' :: (s.toList ++ '}' :: x) := by simp
      rw [Option.elim_some, htext]
      refine Passes.opt (passes_char.cons ((passes_no_blanks hstart).cons ?_))
      have hblanks : Passes blanks (x, (3, s.toList) :: caps) (x, (3, s.toList) :: caps) :=
        passes_no_blanks hblank
      exact passes_enclosed (by decide) hs 3 (hblanks.cons (hblanks.cons (passes_nil _)))

/-- **The allowed values** of a type, if there are any, are passed over and captured, and so is the
closing brace of the type. -/
theorem passes_allowed (t : WrittenType) (hblank : StartsOutside isBlank x) :
    Passes (sequence
        [opt (sequence [char '=', blanks, .group 4 (lazyPlus anyChar)]), blanks, char '}', blanks])
      (t.allowedChars ++ '}' :: ' ' :: x, caps) (x, t.allowedCaptures ++ caps) := by
  rw [WrittenType.allowedChars, WrittenType.allowedCaptures]
  cases hallowed : t.allowed with
  | none =>
      refine passes_opt_of_fails ((fails_char (startsOutside_cons.mpr (by decide))).cons _) ?_
      exact (passes_no_blanks_cons (by decide)).cons
        (passes_char.cons ((passes_blank hblank).cons (passes_nil _)))
  | some values =>
      obtain ⟨hne, hvalues⟩ := t.allowed_proper values hallowed
      have henclosed := isEnclosed_join hne hvalues
      have hstart := henclosed.start.append henclosed.ne_nil ('}' :: ' ' :: x)
      refine Passes.opt (passes_char.cons ((passes_no_blanks hstart).cons ?_))
      exact passes_enclosed (by decide) henclosed 4 ((passes_blank hblank).cons (passes_nil _))

/-- **The type**, if there is one, is passed over and captured. -/
theorem passes_typePart (w : Written) (hblank : StartsOutside isBlank x)
    (hx : StartsOutside (· == '{') x) :
    Passes (sequence typePart) (w.typeChars ++ x, caps) (x, w.typeCaptures ++ caps) := by
  rw [typePart, Written.typeChars, Written.typeCaptures]
  cases w.type with
  | none =>
      exact (passes_no_blanks hblank).cons
        (passes_opt_of_fails ((fails_char hx).cons _) (passes_nil _))
  | some t =>
      have hname : StartsOutside isBlank
          (t.name.toList ++ (t.sizeChars ++ (t.allowedChars ++ '}' :: ' ' :: x))) :=
        t.name_proper.startsOutside (fun _ => isBlank_of_typeChars) _
      have htext : t.chars ++ [' '] ++ x =
          '{' :: (t.name.toList ++ (t.sizeChars ++ (t.allowedChars ++ '}' :: ' ' :: x))) := by
        simp [WrittenType.chars]
      rw [Option.elim_some, Option.elim_some, htext]
      refine (passes_no_blanks_cons (by decide)).cons (Passes.opt ?_)
      refine passes_char.cons ((passes_no_blanks hname).cons ?_)
      have hallowed : StartsOutside isBlank (t.allowedChars ++ '}' :: ' ' :: x) :=
        startsOutside_allowedChars t (by decide) (by decide) _
      have hbrace : StartsOutside (· == '{') (t.allowedChars ++ '}' :: ' ' :: x) :=
        startsOutside_allowedChars t (by decide) (by decide) _
      -- the name stops at a brace or at the equals sign
      have hstop : StartsOutside FieldDecl.typeChars.mem
          (t.sizeChars ++ (t.allowedChars ++ '}' :: ' ' :: x)) :=
        startsOutside_sizeChars t (by decide)
          (startsOutside_allowedChars t (by decide) (by decide) _)
      refine ((passes_plus t.name_proper hstop).group 2).cons ?_
      refine (passes_no_blanks (startsOutside_sizeChars t (by decide) hallowed)).cons ?_
      rw [WrittenType.captures, List.append_assoc, List.append_assoc]
      exact (passes_size t hallowed hbrace).append (passes_allowed t hblank)

end Parts

/-! ### The name and its default -/

section Name

variable {x gap : List Char} {caps : List (Nat × List Char)}

/-- Behind the default, only blanks and a closing bracket are left before the description. -/
theorem passes_ending (hgap : ∀ c ∈ gap, isBlank c = true) (hblank : StartsOutside isBlank x)
    (hx : StartsOutside (· == ']') x) :
    Passes (sequence [blanks, opt (char ']'), blanks]) (gap ++ x, caps) (x, caps) :=
  (passes_blanks hgap hblank).cons
    (passes_opt_of_fails (fails_char hx) ((passes_no_blanks hblank).cons (passes_nil _)))

/-- A closing bracket, and then blanks. -/
theorem passes_ending_bracket (hgap : ∀ c ∈ gap, isBlank c = true)
    (hblank : StartsOutside isBlank x) :
    Passes (sequence [blanks, opt (char ']'), blanks]) (']' :: (gap ++ x), caps) (x, caps) :=
  (passes_no_blanks_cons (by decide)).cons
    (Passes.opt_single (passes_char.cons ((passes_blanks hgap hblank).cons (passes_nil _))))

/-- **A default in quotes** is captured up to the closing quote. -/
theorem passes_default_quoted {text : List Char} (htext : '"' ∉ text) {rs : List Regex} {q : Place}
    (hrest : Passes (sequence rs) (x, (7, text) :: caps) q) :
    Passes (sequence (opt defaultPart :: rs)) ('=' :: '"' :: (text ++ '"' :: x), caps) q := by
  have hmem : ∀ c ∈ text, (CharSet.compl (.char '"')).mem c = true := by
    intro c hc
    rw [CharSet.mem, CharSet.mem_char]
    simp only [Bool.not_eq_true', beq_eq_false_iff_ne]
    rintro rfl
    exact htext hc
  have hstop : StartsOutside (CharSet.compl (.char '"')).mem ('"' :: x) :=
    startsOutside_cons.mpr (by decide)
  have hquoted : Passes (sequence [char '"', .group 7 (star (.set (.compl (.char '"')))), char '"'])
      ('"' :: (text ++ '"' :: x), caps) (x, (7, text) :: caps) :=
    passes_char.cons (((passes_star hmem hstop).group 7).cons (passes_char.cons (passes_nil _)))
  refine Passes.opt ((passes_no_blanks_cons (by decide)).cons
    (passes_char.cons ?_))
  exact (passes_no_blanks_cons (by decide)).cons
    ((hquoted.choice_cons _).cons hrest)

/-- What a default without quotes **stops at**: a blank, a closing bracket or the end. -/
def defaultStop : Regex :=
  choice [cls .blank, char ']', .look .endText]

/-- **A default without quotes** is captured up to where it must stop. -/
theorem passes_default_bare {text y : List Char} (htext : IsBareDefault text) {rs : List Regex}
    {q : Place} (hstop : Passes defaultStop (x, (9, text) :: caps) (y, (9, text) :: caps))
    (hrest : Passes (sequence rs) (y, (9, text) :: caps) q) :
    Passes (sequence (opt defaultPart :: rs)) ('=' :: (text ++ x), caps) q := by
  have hblank : StartsOutside isBlank (text ++ x) :=
    StartsOutside.append htext.ne_nil (fun c hc => (htext.bare c (List.mem_of_mem_head? hc)).2) x
  have hquote : StartsOutside isQuote (text ++ x) := htext.start.append htext.ne_nil x
  have hdouble : StartsOutside (· == '"') (text ++ x) := by
    intro c hc
    exact (Bool.or_eq_false_iff.mp (hquote c hc)).1
  have hsingle : StartsOutside (· == '\'') (text ++ x) := by
    intro c hc
    exact (Bool.or_eq_false_iff.mp (hquote c hc)).2
  have hearlier : ∀ a b, text = a ++ b → b ≠ [] → Fails (sequence [defaultStop]) (b ++ x) := by
    intro a b hsplit hb
    obtain ⟨c, b, rfl⟩ := List.exists_cons_of_ne_nil hb
    obtain ⟨hbracket, hblank⟩ := htext.bare c (by rw [hsplit]; simp)
    refine fails_choice fun r hr => ?_
    simp only [List.mem_cons, List.not_mem_nil, or_false] at hr
    rcases hr with rfl | rfl | rfl
    · exact fails_set (startsOutside_cons.mpr hblank)
    · exact fails_char (startsOutside_cons.mpr (beq_eq_false_iff_ne.mpr hbracket))
    · exact fails_endText
  have hbare : Passes (sequence [.group 9 (lazyStar anyChar), defaultStop]) (text ++ x, caps)
      (y, (9, text) :: caps) :=
    passes_lazyStar htext.ne_nil 9 hearlier (hstop.cons (passes_nil _))
  refine Passes.opt ((passes_no_blanks_cons (by decide)).cons
    (passes_char.cons ((passes_no_blanks hblank).cons (Passes.cons ?_ hrest))))
  exact Passes.choice_of_fails ((fails_char hdouble).cons _)
    (Passes.choice_of_fails ((fails_char hsingle).cons _) hbare)

end Name

section Declaration

variable (w : Written) {caps : List (Nat × List Char)}

/-- Where a default without quotes stops, the description is next. -/
theorem passes_defaultStop (caps : List (Nat × List Char)) :
    ∃ gap : List Char, (∀ c ∈ gap, isBlank c = true) ∧
      Passes defaultStop (w.closing ++ (w.gap ++ w.description.toList), caps)
        (gap ++ w.description.toList, caps) := by
  rw [Written.closing]
  cases w.isOptional with
  | true =>
      refine ⟨w.gap, gap_blank w, Passes.choice_of_fails ?_ (passes_char.choice_cons _)⟩
      exact fails_set (startsOutside_cons.mpr (by decide))
  | false =>
      refine ⟨[], fun c hc => absurd hc List.not_mem_nil, ?_⟩
      rcases gap_cases w with ⟨hnil, hgap⟩ | hgap
      · rw [hnil, hgap]
        exact Passes.choice_of_fails (fails_set (startsOutside_nil _))
          (Passes.choice_of_fails (fails_char (startsOutside_nil _)) passes_endText)
      · have hblank : (CharSet.named .blank).mem ' ' = true := by decide
        rw [hgap]
        exact (passes_set hblank).choice_cons _

/-- Where there is no default, there is no equals sign either. -/
theorem ending_equals : StartsOutside (· == '=')
    ((w.closing ++ (w.gap ++ w.description.toList)).dropWhile isBlank) := by
  rw [Written.closing]
  cases w.isOptional with
  | true => exact startsOutside_cons.mpr (by decide)
  | false =>
      have hdrop : (w.gap ++ w.description.toList).dropWhile isBlank = w.description.toList := by
        rw [List.dropWhile_append_of_pos (gap_blank w)]
        exact (description_spec w).1.dropWhile_eq
      have hequals := (description_spec w).2.1
      rw [← hdrop] at hequals
      exact hequals

/-- **The default**, if there is one, and the closing bracket of an optional field. -/
theorem passes_default :
    Passes (sequence [opt defaultPart, blanks, opt (char ']'), blanks])
      (w.endChars ++ (w.gap ++ w.description.toList), caps)
      (w.description.toList, w.defaultCaptures ++ caps) := by
  obtain ⟨hblank, -, hbracket⟩ := description_spec w
  have hending : ∀ caps, Passes (sequence [blanks, opt (char ']'), blanks])
      (w.closing ++ (w.gap ++ w.description.toList), caps) (w.description.toList, caps) := by
    intro caps
    rw [Written.closing]
    cases w.isOptional with
    | true => exact passes_ending_bracket (gap_blank w) hblank
    | false => exact passes_ending (gap_blank w) hblank hbracket
  rw [Written.endChars, Written.defaultCaptures, List.append_assoc]
  cases w.defaultValue with
  | none =>
      exact passes_opt_of_fails (fails_blanks_char (by decide) (ending_equals w) _) (hending caps)
  | some d =>
      cases d with
      | quoted text htext =>
          rw [Option.elim_some, WrittenDefault.chars, List.cons_append, List.cons_append,
            List.append_assoc]
          exact passes_default_quoted htext (hending _)
      | bare text htext =>
          obtain ⟨gap, hgap, hstop⟩ := passes_defaultStop w ((9, text.toList) :: caps)
          exact passes_default_bare htext hstop (passes_ending hgap hblank hbracket)

/-- **The name** with its default is passed over and captured. -/
theorem passes_namePart :
    Passes namePart (w.nameChars ++ w.gap ++ w.description.toList, caps)
      (w.description.toList,
        (5, w.nameChars ++ w.gap) :: (w.defaultCaptures ++ (6, w.name.toList) :: caps)) := by
  refine Passes.group ?_ 5
  have hname : Passes (.group 6 (sequence [plus (.set nameChars),
        opt (sequence [char '[', star (.set indexChars), char ']'])]))
      (w.name.toList ++ (w.endChars ++ (w.gap ++ w.description.toList)), caps)
      (w.endChars ++ (w.gap ++ w.description.toList), (6, w.name.toList) :: caps) := by
    refine Passes.group ((passes_plus w.name_proper ?_).cons
      (passes_opt_of_fails ((fails_char ?_).cons _) (passes_nil _))) 6
    · exact startsOutside_endChars w (by decide) (by decide) (by decide)
    · exact startsOutside_endChars w (by decide) (by decide) (by decide)
  have hblank : StartsOutside isBlank
      (w.name.toList ++ (w.endChars ++ (w.gap ++ w.description.toList))) :=
    w.name_proper.startsOutside
      (fun _ => isBlank_of_nameChars) _
  have hinner := Passes.cons (passes_no_blanks hblank) (hname.cons (passes_default w))
  have hbracket : StartsOutside (· == '[')
      (w.name.toList ++ (w.endChars ++ (w.gap ++ w.description.toList))) :=
    w.name_proper.startsOutside (beq_of_mem (by decide)) _
  rw [Written.nameChars, Written.opening]
  simp only [List.append_assoc]
  cases w.isOptional with
  | true => exact Passes.opt_single (passes_char.cons hinner)
  | false => exact passes_opt_of_fails (fails_char hbracket) hinner

/-! ### Whole declarations -/

/-- **The description** is all that is left. -/
theorem passes_description (text : List Char) (caps : List (Nat × List Char)) :
    Passes (sequence [descriptionPart, .look .endText]) (text, caps) ([], (10, text) :: caps) := by
  have hall : Passes (star anyChar) (text ++ [], caps) ([], caps) :=
    passes_star (fun _ _ => CharSet.mem_all _) (startsOutside_nil _)
  have hgroup := hall.group 10
  rw [List.append_nil] at hgroup
  exact Passes.opt_single (hgroup.cons (passes_endText.cons (passes_nil _)))

/-- **All parts** of a declaration are passed over and captured. -/
theorem passes_declaration :
    Passes (sequence (groupPart ++ (typePart ++ [namePart, descriptionPart, .look .endText])))
      (w.groupChars ++ (w.typeChars ++ (w.nameChars ++ w.gap ++ w.description.toList)), [])
      ([], w.captures) := by
  have hname : ∀ p : Char → Bool, p '[' = false → (∀ c, nameChars.mem c = true → p c = false) →
      StartsOutside p (w.nameChars ++ w.gap ++ w.description.toList) := by
    intro p hbracket hchars
    rw [List.append_assoc]
    exact startsOutside_nameChars w hbracket hchars _
  have hblank := hname isBlank (by decide)
    fun _ => isBlank_of_nameChars
  have hbrace := hname (· == '{') (by decide) (beq_of_mem (by decide))
  have hparen := hname (· == '(') (by decide) (beq_of_mem (by decide))
  rw [Written.captures, ← List.append_nil w.groupCaptures]
  refine (passes_groupPart w (startsOutside_typeChars w (by decide) hblank)
    (startsOutside_typeChars w (by decide) hparen)).append ?_
  exact (passes_typePart w hblank hbrace).append ((passes_namePart w).cons (passes_description _ _))

/-- **Reading undoes writing.** What is read from the written form of a declaration is the
declaration, with the default group if none is written and with the description unindented. -/
theorem parse?_written (defaultGroup : String) :
    parse? w.text defaultGroup = some (w.declaration defaultGroup) := by
  obtain ⟨m, hfind, hcaptures⟩ := find?_of_passes (passes_declaration w)
  have htext : w.text.toList =
      w.groupChars ++ (w.typeChars ++ (w.nameChars ++ w.gap ++ w.description.toList)) := by
    rw [Written.text, String.toList_ofList, List.append_assoc]
  have hexpression : expression = sequence (.look .startText ::
      (groupPart ++ (typePart ++ [namePart, descriptionPart, .look .endText]))) := rfl
  rw [parse?, hexpression, htext, hfind, Option.map_some, ofMatch_captures w hcaptures]

end Declaration

/-- A declaration with all parts. -/
def sortOrder : Written where
  group := some "Query"
  type := some {
    name := "String[]"
    size := some "1..5"
    allowed := some ["asc", "desc"]
    name_proper := by decide
    size_proper := by decide
    allowed_proper := by decide }
  name := "sort"
  isOptional := true
  defaultValue := some (.quoted "asc = up]" (by decide))
  description := "The order."
  group_proper := by decide
  name_proper := by decide
  description_start := by decide

/-- A declaration with few parts and a default without quotes. -/
def rowLimit : Written where
  name := "limit"
  defaultValue := some (.bare "a='b'" (by decide))
  group_proper := by decide
  name_proper := by decide
  description_start := by decide

/-- All parts of a declaration are read, also if a default holds the delimiters of other parts, and
parts that are left out are not found in others. -/
theorem parse?_written_all :
    parse? "(Query) \x7bString[]\x7b1..5\x7d=asc,desc\x7d [sort=\"asc = up]\"] The order."
        "Parameter" =
      some {
        group := "Query"
        type := some "String[]"
        size := some "1..5"
        allowedValues := some ["asc", "desc"]
        isOptional := true
        field := "sort"
        defaultValue := some "asc = up]"
        description := "The order." } ∧
    parse? "limit=a='b'" "Parameter" =
      some { group := "Parameter", field := "limit", defaultValue := some "a='b'" } := by
  have horder := parse?_written sortOrder "Parameter"
  have horderText : sortOrder.text =
      "(Query) \x7bString[]\x7b1..5\x7d=asc,desc\x7d [sort=\"asc = up]\"] The order." := by
    decide
  have horderProse : Text.unindent "The order." = "The order." := by decide
  have hlimit := parse?_written rowLimit "Parameter"
  have hlimitText : rowLimit.text = "limit=a='b'" := by decide
  have hlimitProse : Text.unindent "" = "" := by decide
  rw [horderText, Written.declaration] at horder
  rw [hlimitText, Written.declaration] at hlimit
  rw [horder, hlimit]
  exact ⟨congrArg some (congrArg _ horderProse), congrArg some (congrArg _ hlimitProse)⟩

end ApiGloss.FieldDecl
