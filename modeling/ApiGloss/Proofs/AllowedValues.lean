import ApiGloss.Proofs.WrittenFields

/-!
# Allowed Values in Quotes

Allowed values may be written between double quotes with commas between them. They are not found by
looking for the commas: the first quote is paired with the next one, if there is anything between
the two, and the search goes on behind the pair. As long as every value has a character, the pairs
are the quotes of the values, and the values are read back.

The quotes of an empty value are no pair. Its second quote is then paired with the first quote of
the next value, and so are all quotes behind it: what is found is the commas, and no value any more
(`FieldDecl.quotedTexts_shifted`). This shows how many texts are found, and so exactly which lists
are read back.

## Main results

* `FieldDecl.splitAllowed_inQuotes`: what is found of any list of quoted values.
* `FieldDecl.splitAllowed_quoted_iff`: a list is read back exactly if none of its values is empty.
-/

namespace ApiGloss.FieldDecl

open Regex

/-! ### Lists of quoted values -/

/-- A value can be written **between double quotes**: it holds none, and no single quote stands at
either end, since quotes of both kinds are dropped there. -/
@[mk_iff]
structure IsQuotable (value : List Char) : Prop where
  not_mem : '"' ∉ value
  start : StartsOutside (· == '\'') value
  last : StartsOutside (· == '\'') value.reverse

instance (value : List Char) : Decidable (IsQuotable value) :=
  decidable_of_iff _ (isQuotable_iff value).symm

/-- No quote of either kind stands at an end of such a value. -/
theorem IsQuotable.strip_eq_self {value : List Char} (h : IsQuotable value) :
    Chars.strip isQuote value = value := by
  have houtside : ∀ text : List Char, '"' ∉ text → StartsOutside (· == '\'') text →
      StartsOutside isQuote text := by
    intro text hnot hstart c hc
    refine Bool.or_eq_false_iff.mpr ⟨beq_eq_false_iff_ne.mpr ?_, hstart c hc⟩
    rintro rfl
    exact hnot (List.mem_of_mem_head? hc)
  exact Chars.strip_eq_self (houtside value h.not_mem h.start)
    (houtside _ (fun hmem => h.not_mem (List.mem_reverse.mp hmem)) h.last)

/-- A value between double quotes. -/
def inQuotes (value : List Char) : List Char :=
  '"' :: (value ++ ['"'])

/-- Values between double quotes, each behind a comma. -/
def quotedRest (values : List (List Char)) : List Char :=
  (values.map inQuotes).flatMap (',' :: ·)

/-- What is **found** of quoted values: the values before the first empty one, and a comma for each
value behind it. -/
def foundValues : List (List Char) → List (List Char)
  | [] => []
  | value :: values =>
    if value = [] then values.map fun _ => [','] else value :: foundValues values

/-- **All values are found** exactly if none is empty. -/
theorem foundValues_eq_self_iff {values : List (List Char)} :
    foundValues values = values ↔ [] ∉ values := by
  induction values with
  | nil => exact iff_of_true rfl List.not_mem_nil
  | cons value values ih =>
      by_cases h : value = []
      · subst h
        -- one comma for each value behind the empty one: a text is missing
        refine iff_of_false (fun heq => ?_) (not_not_intro List.mem_cons_self)
        have hlength := congrArg List.length heq
        rw [foundValues, if_pos rfl, List.length_map, List.length_cons] at hlength
        omega
      · rw [foundValues, if_neg h, List.cons_inj_right, ih, List.mem_cons, not_or]
        exact (and_iff_right (Ne.symm h)).symm

/-! ### The texts between quotes -/

section Pairing

variable {quote : Char}

/-- What is no quote is passed over. -/
theorem quotedTexts_append {text : List Char} (h : quote ∉ text) (rest : List Char) :
    quotedTexts quote (text ++ rest) = quotedTexts quote rest := by
  induction text with
  | nil => rfl
  | cons c text ih =>
      have hc : ¬ c = quote := fun heq => h (heq ▸ List.mem_cons_self)
      rw [List.cons_append, quotedTexts, if_neg hc, ih fun hmem => h (List.mem_cons_of_mem _ hmem)]

/-- A text between two quotes, if there is any, is found. -/
theorem quotedTexts_pair {text : List Char} (hne : text ≠ []) (h : quote ∉ text)
    (rest : List Char) :
    quotedTexts quote (quote :: (text ++ quote :: rest)) = text :: quotedTexts quote rest := by
  have hmem : ∀ c ∈ text, (c != quote) = true := fun c hc =>
    bne_iff_ne.mpr fun heq => h (heq ▸ hc)
  have htake : (text ++ quote :: rest).takeWhile (· != quote) = text := by
    rw [List.takeWhile_append_of_pos hmem, List.takeWhile_cons_of_neg (by simp), List.append_nil]
  have hdrop : (text ++ quote :: rest).dropWhile (· != quote) = quote :: rest := by
    rw [List.dropWhile_append_of_pos hmem, List.dropWhile_cons_of_neg (by simp)]
  have htext : ¬ text.isEmpty = true := by simpa using hne
  rw [quotedTexts, if_pos rfl]
  split
  · rename_i hnone
    cases hdrop.symm.trans hnone
  · rename_i after hsome
    obtain ⟨-, rfl⟩ := List.cons.inj (hdrop.symm.trans hsome)
    rw [htake, if_neg htext]

/-- Two quotes in a row are no pair, and the second one is tried again. -/
theorem quotedTexts_empty (rest : List Char) :
    quotedTexts quote (quote :: quote :: rest) = quotedTexts quote (quote :: rest) := by
  have htake : (quote :: rest).takeWhile (· != quote) = [] :=
    List.takeWhile_cons_of_neg (by simp)
  rw [quotedTexts, if_pos rfl]
  split
  · rfl
  · rw [htake]
    rfl

/-- A quote without another one behind it finds nothing. -/
theorem quotedTexts_singleton : quotedTexts quote [quote] = [] := by
  simp [quotedTexts]

end Pairing

section Values

variable {values : List (List Char)} (h : ∀ v ∈ values, IsQuotable v)

include h

/-- **Out of step**: behind a quote too many, the quotes of neighbouring values are paired, and all
that is found is the commas between them. -/
theorem quotedTexts_shifted :
    quotedTexts '"' ('"' :: quotedRest values) = values.map fun _ => [','] := by
  induction values with
  | nil => exact quotedTexts_singleton
  | cons value values ih =>
      obtain ⟨hvalue, hvalues⟩ := List.forall_mem_cons.mp h
      have htext : '"' :: quotedRest (value :: values) =
          '"' :: ([','] ++ '"' :: (value ++ '"' :: quotedRest values)) := by
        simp [quotedRest, inQuotes]
      rw [htext, quotedTexts_pair (List.cons_ne_nil _ _) (by decide),
        quotedTexts_append hvalue.not_mem, ih hvalues, List.map_cons]

/-- **In step**: the texts between quotes are the values, up to the first empty one. -/
theorem quotedTexts_quotedRest : quotedTexts '"' (quotedRest values) = foundValues values := by
  induction values with
  | nil => rw [quotedRest, List.map_nil, List.flatMap_nil, quotedTexts]; rfl
  | cons value values ih =>
      obtain ⟨hvalue, hvalues⟩ := List.forall_mem_cons.mp h
      have htext : quotedRest (value :: values) =
          [','] ++ '"' :: (value ++ '"' :: quotedRest values) := by
        simp [quotedRest, inQuotes]
      rw [htext, quotedTexts_append (by decide)]
      by_cases hempty : value = []
      · subst hempty
        rw [List.nil_append, quotedTexts_empty, quotedTexts_shifted hvalues, foundValues,
          if_pos rfl]
      · rw [quotedTexts_pair hempty hvalue.not_mem, ih hvalues, foundValues, if_neg hempty]

/-- No quote has to be dropped from what is found. -/
theorem map_strip_foundValues :
    (foundValues values).map (Chars.strip isQuote) = foundValues values := by
  induction values with
  | nil => rfl
  | cons value values ih =>
      obtain ⟨hvalue, hvalues⟩ := List.forall_mem_cons.mp h
      rw [foundValues]
      split
      · have hcomma : Chars.strip isQuote [','] = [','] := by decide
        rw [List.map_map]
        exact List.map_congr_left fun _ _ => hcomma
      · rw [List.map_cons, ih hvalues, hvalue.strip_eq_self]

/-- **What is found of quoted values**: the values before the first empty one, and a comma for each
value behind it. -/
theorem splitAllowed_inQuotes (hne : values ≠ []) :
    splitAllowed (Chars.join ',' (values.map inQuotes)) = foundValues values := by
  obtain ⟨value, values, rfl⟩ := List.exists_cons_of_ne_nil hne
  have hjoin : Chars.join ',' ((value :: values).map inQuotes) =
      '"' :: (value ++ '"' :: quotedRest values) := by
    rw [List.map_cons, Chars.join_cons, inQuotes, quotedRest]
    simp
  have hcomma : '"' ∉ [','] := by decide
  -- a comma in front of the first value changes nothing
  have hrest : quotedTexts '"' ('"' :: (value ++ '"' :: quotedRest values)) =
      foundValues (value :: values) := by
    rw [← quotedTexts_quotedRest h, ← hjoin, ← quotedTexts_append hcomma]
    rw [hjoin, quotedRest]
    simp [quotedRest, inQuotes]
  have hsplit : splitAllowed ('"' :: (value ++ '"' :: quotedRest values)) =
      (quotedTexts '"' ('"' :: (value ++ '"' :: quotedRest values))).map
        (Chars.strip isQuote) := rfl
  rw [hjoin, hsplit, hrest, map_strip_foundValues h]

end Values

/-- The written form of a list of values: each between double quotes, with commas between them. -/
def quotedValues (values : List String) : String :=
  Text.join "," (values.map fun v => "\"" ++ v ++ "\"")

/-- The characters of the written form. -/
theorem toList_quotedValues (values : List String) :
    (quotedValues values).toList = Chars.join ',' ((values.map String.toList).map inQuotes) := by
  rw [quotedValues, Text.join, String.toList_ofList, Chars.join, List.map_map, List.map_map]
  refine congrArg (List.intercalate [',']) (List.map_congr_left fun v _ => ?_)
  simp [inQuotes]

/-- **Quoted values are read back exactly if none is empty.** Let values be written between double
quotes and joined by commas; they hold no double quote, and no single quote at their ends. What is
found are the values before the first empty one and a comma for each value behind it, so that the
list of the values is found if and only if no value is empty. -/
theorem splitAllowed_quoted_iff {values : List String} (hne : values ≠ [])
    (h : ∀ v ∈ values, IsQuotable v.toList) :
    splitAllowed (quotedValues values).toList = foundValues (values.map String.toList) ∧
      ((splitAllowed (quotedValues values).toList).map String.ofList = values ↔ "" ∉ values) := by
  have hchars : ∀ v ∈ values.map String.toList, IsQuotable v := List.forall_mem_map.mpr h
  have hfound := splitAllowed_inQuotes hchars (by simpa using hne)
  have hback : ∀ l : List (List Char), l.map String.ofList = values ↔
      l = values.map String.toList := by
    intro l
    constructor
    · rintro rfl
      simp
    · rintro rfl
      simp
  rw [toList_quotedValues, hfound, hback, foundValues_eq_self_iff]
  exact ⟨rfl, by simp [String.toList_eq_nil_iff]⟩

/-- An empty value is lost, and all values behind it: the comma before the last value is found
instead. Without the empty value, single quotes and commas inside values do no harm. -/
theorem splitAllowed_quoted_iff_gap :
    (splitAllowed (quotedValues ["a", "", "b"]).toList).map String.ofList = ["a", ","] ∧
      (splitAllowed (quotedValues ["a, b", "it's"]).toList).map String.ofList =
        ["a, b", "it's"] := by
  obtain ⟨hgap, -⟩ := splitAllowed_quoted_iff (List.cons_ne_nil "a" ["", "b"]) (by decide)
  obtain ⟨-, hproper⟩ := splitAllowed_quoted_iff (List.cons_ne_nil "a, b" ["it's"]) (by decide)
  refine ⟨?_, hproper.mpr (by decide)⟩
  rw [hgap]
  decide

end ApiGloss.FieldDecl
