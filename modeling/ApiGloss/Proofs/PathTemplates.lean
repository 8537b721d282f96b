import ApiGloss.Pattern.Basic
import ApiGloss.Proofs.FirstChoice
import ApiGloss.Proofs.OperationSlots
import Mathlib.Data.List.Chain
import Mathlib.Data.List.TakeWhile

/-!
# Converting a URL Loses Nothing

A URL is converted in one pass. The same path and the same names come from two searches for the
pattern of a parameter, one that replaces what it finds and one that collects what the group has
captured (`PathTemplate.convert_eq_scan`): at every place the pattern matches exactly if the pass
finds a parameter there, and then it takes the same word.

To read a path template, its braces are enough (`PathTemplate.pieces`). A URL and its template are
two ways to write the same pieces (`PathTemplate.exists_pieces`), and if the URL has no opening
brace of its own, the pieces can be read off the template. So the URL is given back, its parameters
are the names in braces, and no other such URL has the same template. A closing brace does no harm;
it stands for itself.

## Main results

* `PathTemplate.convert_eq_scan`: the conversion as two searches.
* `PathTemplate.pieces_flatMap_inTemplate`: the pieces of a written template.
* `PathTemplate.conversion_loses_nothing`: a URL is given back, and shares its path with no other.
-/

namespace ApiGloss.PathTemplate

/-! ### One step -/

/-- A colon and a word are a parameter. -/
theorem convert_parameter {cs : List Char} (hkey : cs.takeWhile Text.isWord ≠ []) :
    convert (':' :: cs) =
      ('{' :: (cs.takeWhile Text.isWord ++ '}' :: (convert (cs.dropWhile Text.isWord)).1),
        cs.takeWhile Text.isWord :: (convert (cs.dropWhile Text.isWord)).2) := by
  rw [convert, if_pos ⟨rfl, hkey⟩]
  rfl

/-- Any other character stays. -/
theorem convert_plain {c : Char} {cs : List Char}
    (h : ¬ (c = ':' ∧ cs.takeWhile Text.isWord ≠ [])) :
    convert (c :: cs) = (c :: (convert cs).1, (convert cs).2) := by
  rw [convert, if_neg h]

/-- Behind a colon that stays, no word comes next. -/
theorem startsOutside_of_plain {c : Char} {cs : List Char}
    (h : ¬ (c = ':' ∧ cs.takeWhile Text.isWord ≠ [])) (hc : c = ':') :
    Regex.StartsOutside Text.isWord cs :=
  Regex.takeWhile_eq_nil_iff.mp (not_not.mp fun hkey => h ⟨hc, hkey⟩)

/-- **Induction along a URL**: at a colon and a word the word is passed over at once. -/
@[elab_as_elim]
theorem conversion_induction {motive : List Char → Prop} (cs : List Char) (nil : motive [])
    (parameter : ∀ cs : List Char, cs.takeWhile Text.isWord ≠ [] →
      motive (cs.dropWhile Text.isWord) → motive (':' :: cs))
    (plain : ∀ (c : Char) (cs : List Char), ¬ (c = ':' ∧ cs.takeWhile Text.isWord ≠ []) →
      motive cs → motive (c :: cs)) : motive cs := by
  refine convert.induct motive nil ?_ ?_ cs
  · rintro c cs key ⟨rfl, hkey⟩ _ _ _ ih
    exact parameter cs hkey ih
  · intro c cs key hplain _ _ _ ih
    exact plain c cs hplain ih

/-! ### Two searches -/

section Searches

open Regex

/-- The pattern of a parameter: a colon and a word, which is captured. -/
def parameterPattern : Regex :=
  sequence [char ':', .group 1 (plus (cls .word))]

example : Pattern.read? ":(\\w+)" = some parameterPattern := by decide +kernel

/-- What a parameter that has been found is replaced by. -/
def inBraces (m : Found) : List Char :=
  '{' :: ((m.group? 1).getD [] ++ ['}'])

/-- At a colon and a word the pattern matches, and takes the whole word. -/
theorem exists_matchAt_parameterPattern {s : MatchState} {cs : List Char}
    (hahead : s.ahead = ':' :: cs) (hkey : cs.takeWhile Text.isWord ≠ []) :
    ∃ e, parameterPattern.matchAt s = some e ∧ e.ahead = cs.dropWhile Text.isWord ∧
      e.captures = [(1, cs.takeWhile Text.isWord)] := by
  have hword : IsRun (.named .word) (cs.takeWhile Text.isWord) :=
    ⟨hkey, fun _ hc => List.mem_takeWhile_imp hc⟩
  have hbehind : StartsOutside (CharSet.named .word).mem (cs.dropWhile Text.isWord) :=
    startsOutside_dropWhile Text.isWord cs
  have hsplit : s.ahead = ':' :: (cs.takeWhile Text.isWord ++ cs.dropWhile Text.isWord) := by
    rw [hahead, List.takeWhile_append_dropWhile]
  have hpasses : Passes parameterPattern (s.ahead, [])
      (cs.dropWhile Text.isWord, [(1, cs.takeWhile Text.isWord)]) := by
    rw [hsplit]
    exact passes_char.cons (((passes_plus hword hbehind).group 1).cons (passes_nil _))
  exact hpasses.matchAt

/-- The pattern fails where there is no colon, or no word behind it. -/
theorem fails_parameterPattern {cs : List Char}
    (h : ∀ rest, cs = ':' :: rest → StartsOutside Text.isWord rest) :
    Fails parameterPattern cs := by
  refine fails_cons_of_leads fun s s' hahead hleads => ?_
  obtain ⟨c, rest, hsplit, hmem, rfl⟩ := hleads
  obtain rfl : ':' = c := by simpa using hmem
  have hword : Fails (plus (cls .word)) rest := fails_plus (h rest (hahead.symm.trans hsplit))
  exact fails_group hword 1

/-- **The matches of the pattern** are the parameters that the conversion finds. -/
theorem scanned_parameterPattern (cs : List Char) {s : MatchState} (hahead : s.ahead = cs) :
    ∃ found rest, Scanned parameterPattern s found rest ∧
      convert cs = (found.flatMap (fun m => m.skipped ++ inBraces m) ++ rest,
        found.filterMap (·.group? 1)) := by
  induction cs using conversion_induction generalizing s with
  | nil =>
      have hnone : parameterPattern.matchAt s = none :=
        Fails.matchAt_eq_none (hahead ▸ fails_parameterPattern nofun)
      exact ⟨[], [], .at_end hahead hnone, by rw [convert]; rfl⟩
  | parameter cs hkey ih =>
      -- the match ends where the conversion goes on
      obtain ⟨e, hmatch, he, hcaptures⟩ := exists_matchAt_parameterPattern hahead hkey
      obtain ⟨found, rest, hscanned, hconvert⟩ := ih he
      have hlt : e.ahead.length < s.ahead.length := by
        rw [he, hahead, List.length_cons]
        exact Nat.lt_succ_of_le (List.dropWhile_sublist _).length_le
      refine ⟨_, rest, hscanned.here hmatch hlt, ?_⟩
      rw [convert_parameter hkey, hconvert]
      simp [inBraces, Found.group?, hcaptures]
  | plain c cs hplain ih =>
      have hnone : parameterPattern.matchAt s = none :=
        Fails.matchAt_eq_none (hahead ▸ fails_parameterPattern fun rest heq => by
          obtain ⟨hc, rfl⟩ := List.cons.inj heq
          exact startsOutside_of_plain hplain hc)
      -- the search goes on one character further, where the induction hypothesis speaks
      obtain ⟨found, rest, hscanned, hconvert⟩ := ih (s := s.after [c] cs) rfl
      rw [convert_plain hplain, hconvert]
      obtain ⟨rfl, hnext⟩ | ⟨f, more, rfl, hnext⟩ := hscanned.skip hahead hnone
      · exact ⟨[], c :: rest, hnext, rfl⟩
      · exact ⟨_, rest, hnext, rfl⟩

/-- **The conversion as two searches**: one replaces the parameters, and one collects their
names. -/
theorem convert_eq_scan (cs : List Char) :
    convert cs = (parameterPattern.replaceAll inBraces cs,
      (parameterPattern.scan cs).1.filterMap (·.group? 1)) := by
  obtain ⟨found, rest, hscanned, hconvert⟩ := scanned_parameterPattern cs (s := .start cs) rfl
  rw [hconvert, replaceAll, scan_of_scanned hscanned]

end Searches

/-! ### Reading a template -/

/-- A **piece** of a URL or of a path template: a character, or a parameter. -/
inductive Piece where
  | plain (c : Char)
  | parameter (key : List Char)
  deriving DecidableEq, Repr

namespace Piece

/-- How a piece is written in a URL. -/
def inUrl : Piece → List Char
  | .plain c => [c]
  | .parameter key => ':' :: key

/-- How a piece is written in a path template. -/
def inTemplate : Piece → List Char
  | .plain c => [c]
  | .parameter key => '{' :: (key ++ ['}'])

/-- The name of a parameter. -/
def key? : Piece → Option (List Char)
  | .plain _ => none
  | .parameter key => some key

/-- A piece is **clear** if its braces in a template are the only ones that count. -/
def Clear : Piece → Prop
  | .plain c => c ≠ '{'
  | .parameter key => '}' ∉ key

/-- A piece **stands in** a URL: a character of the URL, or a parameter with a word as its name. -/
def StandsIn (url : List Char) : Piece → Prop
  | .plain c => c ∈ url
  | .parameter key => key ≠ [] ∧ ∀ c ∈ key, Text.isWord c = true

variable {p : Piece} {url url' : List Char}

/-- What stands in a URL stands in a longer one. -/
theorem StandsIn.mono (h : p.StandsIn url) (hsub : url ⊆ url') : p.StandsIn url' := by
  cases p with
  | plain c => exact hsub h
  | parameter key => exact h

/-- The pieces of a URL without opening braces are clear, because a brace is in no word. -/
theorem StandsIn.clear (h : p.StandsIn url) (hnone : '{' ∉ url) : p.Clear := by
  cases p with
  | plain c =>
      rintro rfl
      exact hnone h
  | parameter key => exact fun hbrace => absurd (h.2 _ hbrace) (by decide)

end Piece

/-- **The pieces of a path template.** An opening brace and the next closing one enclose the name of
a parameter. -/
def pieces (path : List Char) : List Piece :=
  match path with
  | [] => []
  | c :: cs =>
    if c = '{' ∧ '}' ∈ cs then
      .parameter (cs.takeWhile (· != '}')) :: pieces ((cs.dropWhile (· != '}')).drop 1)
    else .plain c :: pieces cs
termination_by path.length
decreasing_by
  · have : (cs.dropWhile (· != '}')).length ≤ cs.length := (List.dropWhile_sublist _).length_le
    simp only [List.length_drop, List.length_cons]
    omega
  · simp

/-- A path template **turned back** into a URL: a name in braces becomes a colon and the name. -/
def restored (path : String) : String :=
  String.ofList ((pieces path.toList).flatMap Piece.inUrl)

/-- The **names in braces** of a path template, in order. -/
def braceGroups (path : String) : List String :=
  ((pieces path.toList).filterMap Piece.key?).map String.ofList

/-- **The pieces of a written template** are those that it was written from. -/
theorem pieces_flatMap_inTemplate {ps : List Piece} (h : ∀ p ∈ ps, p.Clear) :
    pieces (ps.flatMap Piece.inTemplate) = ps := by
  induction ps with
  | nil => rw [List.flatMap_nil, pieces]
  | cons p ps ih =>
      obtain ⟨hp, hps⟩ := List.forall_mem_cons.mp h
      rw [List.flatMap_cons]
      cases p with
      | plain c =>
          have hc : ¬ (c = '{' ∧ '}' ∈ ps.flatMap Piece.inTemplate) := fun hbrace => hp hbrace.1
          rw [Piece.inTemplate, List.singleton_append, pieces, if_neg hc, ih hps]
      | parameter key =>
          have hsplit : Piece.inTemplate (.parameter key) ++ ps.flatMap Piece.inTemplate =
              '{' :: (key ++ '}' :: ps.flatMap Piece.inTemplate) := by
            simp [Piece.inTemplate]
          have hkey : ∀ c ∈ key, (c != '}') = true := by
            intro c hc
            rw [bne_iff_ne]
            rintro rfl
            exact hp hc
          rw [hsplit, pieces, if_pos ⟨rfl, by simp⟩, List.takeWhile_append_of_pos hkey,
            List.dropWhile_append_of_pos hkey, List.takeWhile_cons_of_neg (by decide),
            List.dropWhile_cons_of_neg (by decide), List.append_nil, List.drop_one, List.tail_cons,
            ih hps]

/-! ### What a URL is made of -/

/-- A URL and its template are **two ways to write the same pieces**, and its parameters are the
names among them. -/
theorem exists_pieces (cs : List Char) :
    ∃ ps : List Piece, ps.flatMap Piece.inUrl = cs ∧
      convert cs = (ps.flatMap Piece.inTemplate, ps.filterMap Piece.key?) ∧
      ∀ p ∈ ps, p.StandsIn cs := by
  induction cs using conversion_induction with
  | nil => exact ⟨[], rfl, by rw [convert]; rfl, nofun⟩
  | parameter cs hkey ih =>
      obtain ⟨ps, hurl, hconvert, hps⟩ := ih
      have hsub : cs.dropWhile Text.isWord ⊆ ':' :: cs :=
        ((List.dropWhile_sublist _).cons _).subset
      refine ⟨.parameter (cs.takeWhile Text.isWord) :: ps, ?_, ?_, List.forall_mem_cons.mpr
        ⟨⟨hkey, fun _ hc => List.mem_takeWhile_imp hc⟩, fun p hp => (hps p hp).mono hsub⟩⟩
      · rw [List.flatMap_cons, hurl, Piece.inUrl, List.cons_append,
          List.takeWhile_append_dropWhile]
      · rw [convert_parameter hkey, hconvert]
        simp [Piece.inTemplate, Piece.key?]
  | plain c cs h ih =>
      obtain ⟨ps, hurl, hconvert, hps⟩ := ih
      refine ⟨.plain c :: ps, ?_, ?_, List.forall_mem_cons.mpr
        ⟨List.mem_cons_self, fun p hp => (hps p hp).mono (List.subset_cons_self c cs)⟩⟩
      · rw [List.flatMap_cons, hurl]
        rfl
      · rw [convert_plain h, hconvert]
        rfl

/-- **The pieces of a template** are the pieces of its URL, if that has no opening brace. -/
theorem pieces_convert {cs : List Char} (h : '{' ∉ cs) :
    (pieces (convert cs).1).flatMap Piece.inUrl = cs ∧
      (pieces (convert cs).1).filterMap Piece.key? = (convert cs).2 := by
  obtain ⟨ps, hurl, hconvert, hps⟩ := exists_pieces cs
  rw [hconvert, pieces_flatMap_inTemplate fun p hp => (hps p hp).clear h]
  exact ⟨hurl, rfl⟩

/-- Every name is a word. -/
theorem keys_convert {cs key : List Char} (h : key ∈ (convert cs).2) :
    key ≠ [] ∧ ∀ c ∈ key, Text.isWord c = true := by
  obtain ⟨ps, -, hconvert, hps⟩ := exists_pieces cs
  rw [hconvert] at h
  obtain ⟨p, hp, hkey⟩ := List.mem_filterMap.mp h
  cases p with
  | plain c => cases hkey
  | parameter key' =>
      cases hkey
      exact hps _ hp

/-! ### Colons that stay -/

/-- A template starts with no word if its URL does not. -/
theorem startsOutside_convert {cs : List Char} (h : Regex.StartsOutside Text.isWord cs) :
    Regex.StartsOutside Text.isWord (convert cs).1 := by
  induction cs using conversion_induction with
  | nil =>
      rw [convert]
      exact h
  | parameter cs hkey =>
      rw [convert_parameter hkey]
      exact Regex.startsOutside_cons.mpr (by decide)
  | plain c cs hplain =>
      rw [convert_plain hplain]
      exact Regex.startsOutside_cons.mpr (Regex.startsOutside_cons.mp h)

/-- In front of a text in which no word follows a colon, characters other than colons change
nothing. -/
theorem isChain_append_of_not_mem {before after : List Char} (h : ':' ∉ before)
    (hafter : after.IsChain fun c d => c = ':' → Text.isWord d = false) :
    (before ++ after).IsChain fun c d => c = ':' → Text.isWord d = false := by
  induction before with
  | nil => exact hafter
  | cons c before ih =>
      rw [List.mem_cons, not_or] at h
      exact (ih h.2).cons fun d _ hc => absurd hc.symm h.1

/-- **No word follows a colon** of a template. -/
theorem isChain_convert (cs : List Char) :
    (convert cs).1.IsChain fun c d => c = ':' → Text.isWord d = false := by
  induction cs using conversion_induction with
  | nil =>
      rw [convert]
      exact .nil
  | parameter cs hkey ih =>
      have hnone : ':' ∉ '{' :: (cs.takeWhile Text.isWord ++ ['}']) := by
        have hword : ':' ∉ cs.takeWhile Text.isWord := fun hmem =>
          absurd (List.mem_takeWhile_imp hmem) (by decide)
        simp [hword]
      have hchain := isChain_append_of_not_mem hnone ih
      rw [convert_parameter hkey]
      rwa [List.cons_append, List.append_assoc] at hchain
  | plain c cs h ih =>
      rw [convert_plain h]
      exact ih.cons fun d hd hc => startsOutside_convert (startsOutside_of_plain h hc) d hd

/-! ### The conversion -/

/-- **A URL without opening braces** is given back from its template. -/
theorem restored_ofUrl {url : String} (h : '{' ∉ url.toList) : restored (ofUrl url).1 = url := by
  have hrestored : restored (ofUrl url).1 =
      String.ofList ((pieces (convert url.toList).1).flatMap Piece.inUrl) := by
    rw [restored, ofUrl, String.toList_ofList]
  rw [hrestored, (pieces_convert h).1, String.ofList_toList]

/-- **The braces of a template** are the parameters of the URL, in order. -/
theorem braceGroups_ofUrl {url : String} (h : '{' ∉ url.toList) :
    braceGroups (ofUrl url).1 = (ofUrl url).2 := by
  have hgroups : braceGroups (ofUrl url).1 =
      ((pieces (convert url.toList).1).filterMap Piece.key?).map String.ofList := by
    rw [braceGroups, ofUrl, String.toList_ofList]
  rw [hgroups, (pieces_convert h).2]
  rfl

/-- **Two URLs without opening braces** have different templates. -/
theorem eq_of_ofUrl_eq {url other : String} (h : '{' ∉ url.toList) (hother : '{' ∉ other.toList)
    (heq : (ofUrl other).1 = (ofUrl url).1) : other = url := by
  rw [← restored_ofUrl hother, heq, restored_ofUrl h]

/-- **The operations of a path** belong to endpoints with one and the same URL. -/
theorem url_of_operation? {info : Info} {es : List Endpoint} {url : String} (h : '{' ∉ url.toList)
    (hes : ∀ e ∈ es, ∀ other ∈ e.url, '{' ∉ other.toList) {verb : Verb} {op : Operation}
    (hop : (Document.addAll { info } es).operation? (ofUrl url).1 verb.text = some op) :
    ∃ e ∈ es, e.url = some url ∧ op = e.operation verb := by
  have hnone : Document.operation? { info } (ofUrl url).1 verb.text = none := rfl
  rw [Document.operation?_addAll, hnone, Option.or_none] at hop
  obtain ⟨e, hlast, rfl⟩ := Option.map_eq_some_iff.mp hop
  have hmem := List.mem_of_getLast? hlast
  rw [List.mem_filter, decide_eq_true_eq, Endpoint.place?_eq_some_iff] at hmem
  obtain ⟨he, other, hother, hpath, -⟩ := hmem
  exact ⟨e, he, hother.trans (congrArg some (eq_of_ofUrl_eq h (hes e he other hother) hpath)), rfl⟩

/-- **Conversion loses nothing.** A URL without opening braces is given back if every name in braces
of its path is turned into a colon and the name. The names in braces are its parameters, in order,
and just what the two searches find; each is a word, and no word follows a colon that stays. So no
other such URL has the same path, and in a document made of such endpoints the operations of this
path belong to endpoints with this URL. -/
theorem conversion_loses_nothing {url : String} (h : '{' ∉ url.toList) :
    ofUrl url = (String.ofList (parameterPattern.replaceAll inBraces url.toList),
        ((parameterPattern.scan url.toList).1.filterMap (·.group? 1)).map String.ofList) ∧
      restored (ofUrl url).1 = url ∧ braceGroups (ofUrl url).1 = (ofUrl url).2 ∧
      (∀ key ∈ (ofUrl url).2, key ≠ "" ∧ ∀ c ∈ key.toList, Text.isWord c = true) ∧
      (∀ before c after, (ofUrl url).1.toList = before ++ ':' :: c :: after →
        Text.isWord c = false) ∧
      (∀ other : String, '{' ∉ other.toList → (ofUrl other).1 = (ofUrl url).1 → other = url) ∧
      ∀ info records es,
        List.Forall₂ (fun record e => Endpoint.ofJson? record = some e) records es →
        (∀ e ∈ es, ∀ other ∈ e.url, '{' ∉ other.toList) → ∀ j, ∃ d,
          ((Document.build info records).outcome j).1 = .ok d ∧
          ∀ verb op, d.operation? (ofUrl url).1 verb.text = some op →
            ∃ e ∈ es, e.url = some url ∧ op = e.operation verb := by
  refine ⟨?_, restored_ofUrl h, braceGroups_ofUrl h, ?_, ?_, ?_, ?_⟩
  · rw [ofUrl, convert_eq_scan]
  · intro key hkey
    obtain ⟨name, hname, rfl⟩ := List.mem_map.mp hkey
    obtain ⟨hne, hword⟩ := keys_convert hname
    rw [String.toList_ofList]
    exact ⟨fun hempty => hne (String.ofList_eq_empty_iff.mp hempty), hword⟩
  · intro before c after hsplit
    have hchain := isChain_convert url.toList
    rw [ofUrl, String.toList_ofList] at hsplit
    exact List.isChain_iff_forall_rel_of_append_cons_cons.mp hchain hsplit rfl
  · exact fun other hother heq => eq_of_ofUrl_eq h hother heq
  · intro info records es hread hes j
    refine ⟨Document.addAll { info } es, ?_, fun verb op hop => url_of_operation? h hes hop⟩
    rw [Document.build_yields, Document.buildOutcome_eq_addAll info hread]

/-- Parameters next to each other, colons without a word, and letters of any script. -/
theorem conversion_loses_nothing_colons :
    ofUrl "/:a:b/::c/:-/:größe:" =
        ("/\x7ba\x7d\x7bb\x7d/:\x7bc\x7d/:-/\x7bgröße\x7d:", ["a", "b", "c", "größe"]) ∧
      restored "/\x7ba\x7d\x7bb\x7d/:\x7bc\x7d/:-/\x7bgröße\x7d:" = "/:a:b/::c/:-/:größe:" ∧
      braceGroups "/\x7ba\x7d\x7bb\x7d/:\x7bc\x7d/:-/\x7bgröße\x7d:" =
        ["a", "b", "c", "größe"] := by
  have hurl : ofUrl "/:a:b/::c/:-/:größe:" =
      ("/\x7ba\x7d\x7bb\x7d/:\x7bc\x7d/:-/\x7bgröße\x7d:", ["a", "b", "c", "größe"]) := by
    decide +kernel
  have hnone : '{' ∉ "/:a:b/::c/:-/:größe:".toList := by decide +kernel
  obtain ⟨-, hrestored, hgroups, -⟩ := conversion_loses_nothing hnone
  rw [hurl] at hrestored hgroups
  exact ⟨hurl, hrestored, hgroups⟩

example : (ofUrl "/:a").1 = (ofUrl "/\x7ba\x7d").1 := by decide +kernel

end ApiGloss.PathTemplate
