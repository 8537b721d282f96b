import ApiGloss.Proofs.FieldSchemas
import ApiGloss.Proofs.FirstChoice
import Mathlib.Data.List.TakeWhile

/-!
# Size Ranges Are Read in One Way

The bounds of a number are written with a hyphen between them, each of them may have a minus sign in
front, and each may be left out. So `-5` has no lower bound, `-5-` has no upper one, and `-5--3`
lies between two negative numbers. Where there is a lower bound, the first choice of the matcher is
right: it takes the sign and all digits, and the hyphen is next. Where there is none, the matcher
tries to take the separating hyphen as a sign, and must come to give that up. It does, because a
number has a digit, and no hyphen stands behind the first digit (`Bounds.not_mem_of_leads_signed`).

The bounds of a length have no signs, and two dots between them. They can be read in one way only,
but they need not fit: a bound of `2 ^ 64` or more is absent.

## Main results

* `Json.Number.parse?_toString`, `Bounds.length?_toDigits`: written numbers are read again.
* `Bounds.numeric_written`, `Bounds.length_written`: written ranges are read again.
* `Schema.size_ranges_are_read_back`: the bounds that a field gets from a range.
-/

namespace ApiGloss

/-! ### Written numbers -/

namespace Json

/-- Reading digits only makes a number larger. -/
theorem le_ofDigitChars (s : List Char) (n : Nat) : n ≤ Nat.ofDigitChars 10 s n := by
  induction s generalizing n with
  | nil => exact Nat.le_refl n
  | cons c s ih =>
      have hnext := ih (10 * n + (c.toNat - '0'.toNat))
      rw [Nat.ofDigitChars, List.foldl_cons]
      exact Nat.le_trans (by omega) hnext

/-- The value of digits, from the left. -/
theorem foldl_digitValue (s : List Char) (n : Nat) :
    s.foldl (fun n c => n * 10 + digitValue c) n = Nat.ofDigitChars 10 s n := by
  unfold Nat.ofDigitChars digitValue
  simp only [Nat.mul_comm]

/-- Digits that fit are taken all. -/
theorem takeDigits_of_le {s : List Char} {n : Nat} (h : Nat.ofDigitChars 10 s n ≤ maxUnsigned) :
    takeDigits n s = (Nat.ofDigitChars 10 s n, s.length, 0) := by
  induction s generalizing n with
  | nil => rfl
  | cons c s ih =>
      have hvalue : Nat.ofDigitChars 10 (c :: s) n =
          Nat.ofDigitChars 10 s (n * 10 + digitValue c) := by
        rw [← foldl_digitValue, List.foldl_cons, foldl_digitValue]
      rw [hvalue] at h ⊢
      rw [takeDigits, if_neg (Nat.not_lt.mpr (Nat.le_trans (le_ofDigitChars s _) h)), ih h]
      rfl

/-- Written numbers do not start with a zero, apart from zero itself. -/
theorem head?_toDigits {n : Nat} (h : n ≠ 0) : (Nat.toDigits 10 n).head? ≠ some '0' := by
  induction n using Nat.strongRecOn with
  | ind n ih =>
      by_cases hsmall : n < 10
      · have hdigits : ∀ n < 10, n ≠ 0 → (Nat.toDigits 10 n).head? ≠ some '0' := by decide
        exact hdigits n hsmall h
      · have hfront := ih (n / 10) (by omega) (by omega)
        obtain ⟨c, cs, hcs⟩ := List.exists_cons_of_ne_nil (Nat.toDigits_ne_nil (n := n / 10) (b := 10))
        rw [Nat.toDigits_of_base_le (by decide) (Nat.le_of_not_lt hsmall)]
        rw [hcs] at hfront ⊢
        exact hfront

/-- The characters of a written number are digits. -/
theorem isDigit_of_mem_toDigits {n : Nat} {c : Char} (h : c ∈ Nat.toDigits 10 n) :
    c.isDigit = true :=
  Nat.isDigit_of_mem_toDigits (by decide) (by decide) h

/-- A written number is read as a whole. -/
theorem readMagnitude?_toDigits (negative : Bool) (n : Nat) :
    readMagnitude? negative (Nat.toDigits 10 n) =
      (intOfDigits? negative (Nat.toDigits 10 n)).map (·, []) := by
  have hspan : spanDigits (Nat.toDigits 10 n) = (Nat.toDigits 10 n, []) := by
    have hdigits : ∀ c ∈ Nat.toDigits 10 n, c.isDigit = true := fun _ => isDigit_of_mem_toDigits
    rw [spanDigits, List.takeWhile_eq_self_iff.mpr hdigits, List.dropWhile_eq_nil_iff.mpr hdigits]
  have hzero : ¬ ((Nat.toDigits 10 n).head? = some '0' ∧ Nat.toDigits 10 n ≠ ['0']) := by
    rintro ⟨hhead, hne⟩
    by_cases hn : n = 0
    · exact hne (by rw [hn]; rfl)
    · exact head?_toDigits hn hhead
  rw [readMagnitude?, hspan]
  dsimp only
  rw [if_neg Nat.toDigits_ne_nil, if_neg hzero]

/-- The integer of a written number that fits. -/
theorem intOfDigits?_toDigits {n : Nat} (h : n ≤ maxUnsigned) :
    intOfDigits? false (Nat.toDigits 10 n) = some (.int n) := by
  have htake : takeDigits 0 (Nat.toDigits 10 n) = (n, (Nat.toDigits 10 n).length, 0) := by
    rw [takeDigits_of_le (by rwa [Nat.ofDigitChars_ten_toDigits]), Nat.ofDigitChars_ten_toDigits]
  rw [intOfDigits?, htake]
  rfl

/-- The integer of a written number with a sign. -/
theorem intOfDigits?_toDigits_of_negative {n : Nat} (hpos : n ≠ 0) (h : n ≤ Nat.pow 2 63) :
    intOfDigits? true (Nat.toDigits 10 n) = some (.int (-(n : Int))) := by
  have hfits : n ≤ maxUnsigned := Nat.le_trans h (by decide)
  have htake : takeDigits 0 (Nat.toDigits 10 n) = (n, (Nat.toDigits 10 n).length, 0) := by
    rw [takeDigits_of_le (by rwa [Nat.ofDigitChars_ten_toDigits]), Nat.ofDigitChars_ten_toDigits]
  have hrange : ¬ (n = 0 ∨ Nat.pow 2 63 < n) := by
    rw [not_or]
    exact ⟨hpos, Nat.not_lt.mpr h⟩
  rw [intOfDigits?, htake]
  dsimp only
  rw [if_neg (by decide), if_neg (by decide), if_neg hrange]

/-- An integer **fits** a machine word with a sign. -/
def FitsWord (n : Int) : Prop :=
  -(Nat.pow 2 63 : Nat) ≤ n ∧ n < (Nat.pow 2 63 : Nat)

instance (n : Int) : Decidable (FitsWord n) :=
  inferInstanceAs (Decidable (_ ∧ _))

/-- A text that does not start with a minus sign is read without one. -/
theorem readNumber?_of_ne {s : List Char} (h : s.head? ≠ some '-') :
    readNumber? s = readMagnitude? false s := by
  unfold readNumber?
  split
  · exact absurd rfl h
  · rfl

/-- **A written integer** that fits a word is read again. -/
theorem Number.parse?_toString {n : Int} (h : FitsWord n) :
    Number.parse? (toString n) = some (.int n) := by
  obtain ⟨hlow, hhigh⟩ := h
  cases n with
  | ofNat n =>
      have htext : (toString (Int.ofNat n)).toList = Nat.toDigits 10 n := Nat.toList_repr
      have hsign : (Nat.toDigits 10 n).head? ≠ some '-' := fun hhead =>
        absurd (isDigit_of_mem_toDigits (List.mem_of_mem_head? hhead)) (by decide)
      have hfits : n ≤ maxUnsigned :=
        Nat.le_trans (Int.ofNat_le.mp (Int.le_of_lt hhigh)) (by decide)
      rw [Number.parse?, htext, readNumber?_of_ne hsign, readMagnitude?_toDigits,
        intOfDigits?_toDigits hfits]
      rfl
  | negSucc n =>
      have htext : (toString (Int.negSucc n)).toList = '-' :: Nat.toDigits 10 (n + 1) := by
        have hminus : toString (Int.negSucc n) = "-" ++ Nat.repr (n + 1) := rfl
        rw [hminus, String.toList_append, Nat.toList_repr]
        rfl
      have hfits : n + 1 ≤ Nat.pow 2 63 := by
        have hneg : Int.negSucc n = -((n + 1 : Nat) : Int) := rfl
        rw [hneg] at hlow
        exact Int.ofNat_le.mp (Int.neg_le_neg_iff.mp hlow)
      rw [Number.parse?, htext, readNumber?, readMagnitude?_toDigits,
        intOfDigits?_toDigits_of_negative (Nat.succ_ne_zero n) hfits]
      rfl

end Json

namespace Bounds

open Regex Text

/-- A written natural number is read as a length if it fits. -/
theorem length?_toDigits (n : Nat) :
    length? (Nat.toDigits 10 n) = if n < Nat.pow 2 64 then some n else none := by
  have hdigits : Nat.toDigits 10 n ≠ [] ∧ (Nat.toDigits 10 n).all Char.isDigit = true :=
    ⟨Nat.toDigits_ne_nil, List.all_eq_true.mpr fun _ => Json.isDigit_of_mem_toDigits⟩
  have hfits : n ≤ Json.maxUnsigned ↔ n < Nat.pow 2 64 :=
    Nat.le_sub_one_iff_lt (by decide)
  rw [length?, if_pos hdigits, Json.foldl_digitValue, Nat.ofDigitChars_ten_toDigits]
  simp only [hfits]

/-! ### Where a bound ends -/

section Places

variable {x : List Char} {caps : List (Nat × List Char)}

/-- No digits where none is next. -/
theorem fails_digits (h : StartsOutside isDigit x) : Fails digits x :=
  fails_plus h

/-- No blanks where none is next. -/
theorem passes_no_blanks (h : StartsOutside isBlank x) : Passes blanks (x, caps) (x, caps) :=
  passes_star_nil h

/-- A character that does not occur is not found behind blanks. -/
theorem fails_blanks_char {c : Char} (h : c ∉ x) (rs : List Regex) :
    Fails (sequence (blanks :: char c :: rs)) x := by
  refine fails_star_cons fun text rest hsplit _ => (fails_char fun d hd => ?_).cons rs
  rw [beq_eq_false_iff_ne]
  rintro rfl
  exact h (hsplit ▸ List.mem_append_right _ (List.mem_of_mem_head? hd))

end Places

/-! ### The two ends of a range -/

/-- What a group captures of an end that may be left out. -/
def captured (index : Nat) (bound : Option (List Char)) : List (Nat × List Char) :=
  bound.elim [] fun text => [(index, text)]

section Ends

variable {r : Regex} {rs : List Regex} {x : List Char} {q : Place} {low high : Option (List Char)}
  {caps : List (Nat × List Char)}

/-- **The lower end** is captured if it is there. If it is left out, its expression must fail
together with the parts behind it. -/
theorem passes_lower (hblank : StartsOutside isBlank x)
    (hsome : ∀ text ∈ low, StartsOutside isBlank (text ++ x) ∧ Passes r (text ++ x, []) (x, []))
    (hnone : low = none → Fails (sequence (.group 1 r :: blanks :: rs)) x)
    (hrest : Passes (sequence rs) (x, captured 1 low) q) :
    Passes (sequence (blanks :: opt (.group 1 r) :: blanks :: rs)) (low.getD [] ++ x, []) q := by
  cases low with
  | none =>
      refine (passes_no_blanks hblank).cons ?_
      exact passes_opt_of_fails_cons (hnone rfl) ((passes_no_blanks hblank).cons hrest)
  | some text =>
      obtain ⟨hstart, htext⟩ := hsome text rfl
      refine (passes_no_blanks hstart).cons (Passes.opt_single ?_)
      exact (htext.group 1).cons ((passes_no_blanks hblank).cons hrest)

/-- **The upper end** is captured if it is there, and then the text is at its end. -/
theorem passes_upper
    (hsome : ∀ text ∈ high, StartsOutside isBlank text ∧ Passes r (text ++ [], caps) ([], caps))
    (hnone : Fails r []) :
    Passes (sequence [blanks, opt (.group 2 r), blanks, .look .endText])
      (high.getD [], caps) ([], captured 2 high ++ caps) := by
  have hend : ∀ caps, Passes (sequence [blanks, .look .endText]) ([], caps) ([], caps) :=
    fun caps => (passes_no_blanks (startsOutside_nil _)).cons (passes_endText.cons (passes_nil _))
  cases high with
  | none =>
      refine (passes_no_blanks (startsOutside_nil _)).cons ?_
      exact passes_opt_of_fails (fails_group hnone 2) (hend _)
  | some text =>
      obtain ⟨hstart, htext⟩ := hsome text rfl
      have hgroup := htext.group 2
      rw [List.append_nil] at hgroup
      exact (passes_no_blanks hstart).cons (Passes.opt_single (hgroup.cons (hend _)))

/-- **A range** whose ends are captured is read as its two ends. -/
theorem ends_of_passes {α : Type} {size : String}
    (h : Passes (sequence rs) (size.toList, []) ([], captured 2 high ++ captured 1 low))
    (read? : List Char → Option α) :
    ends (sequence (.look .startText :: rs)) read? size = (low.bind read?, high.bind read?) := by
  obtain ⟨m, hfind, hcaptures⟩ := find?_of_passes h
  rw [ends, hfind]
  dsimp only
  rw [MatchState.group?, MatchState.group?, hcaptures]
  cases low <;> cases high <;> rfl

end Ends

/-! ### Signed numbers -/

/-- A decimal digit is a digit, and neither a blank nor a sign nor a dot. -/
theorem digit_spec {c : Char} (h : c.isDigit = true) :
    isDigit c = true ∧ isBlank c = false ∧ c ≠ '-' ∧ c ≠ '.' := by
  have hten : ∀ n < 58, 48 ≤ n → isDigit (Char.ofNat n) = true ∧
      isBlank (Char.ofNat n) = false ∧ Char.ofNat n ≠ '-' ∧ Char.ofNat n ≠ '.' := by decide
  obtain ⟨hlow, hhigh⟩ : 48 ≤ c.toNat ∧ c.toNat ≤ 57 := by
    rw [Char.isDigit, Bool.and_eq_true, decide_eq_true_eq, decide_eq_true_eq] at h
    exact h
  have hc := hten c.toNat (by omega) hlow
  rwa [Char.ofNat_toNat] at hc

/-- A text of **decimal digits**, at least one. -/
def IsDigits (text : List Char) : Prop :=
  text ≠ [] ∧ ∀ c ∈ text, c.isDigit = true

/-- Written natural numbers are digits. -/
theorem isDigits_toDigits (n : Nat) : IsDigits (Nat.toDigits 10 n) :=
  ⟨Nat.toDigits_ne_nil, fun _ => Json.isDigit_of_mem_toDigits⟩

/-- What digits do not start with. -/
theorem IsDigits.startsOutside {text : List Char} (h : IsDigits text) {p : Char → Bool}
    (hp : ∀ c : Char, c.isDigit = true → p c = false) (x : List Char) :
    StartsOutside p (text ++ x) :=
  StartsOutside.append h.1 (fun c hc => hp c (h.2 c (List.mem_of_mem_head? hc))) x

/-- Digits are passed over as far as they go. -/
theorem IsDigits.passes {text : List Char} (h : IsDigits text) {x : List Char}
    (hx : StartsOutside isDigit x) (caps : List (Nat × List Char)) :
    Passes digits (text ++ x, caps) (x, caps) :=
  passes_plus ⟨h.1, fun c hc => (digit_spec (h.2 c hc)).1⟩ hx

/-- A text is the **numeral** of an integer: digits, with or without a minus sign. -/
def IsNumeral (text : List Char) : Prop :=
  ∃ ds, IsDigits ds ∧ (text = ds ∨ text = '-' :: ds)

/-- Written integers are numerals. -/
theorem isNumeral_toString (n : Int) : IsNumeral (toString n).toList := by
  cases n with
  | ofNat n => exact ⟨_, isDigits_toDigits n, Or.inl Nat.toList_repr⟩
  | negSucc n =>
      have hminus : toString (Int.negSucc n) = "-" ++ Nat.repr (n + 1) := rfl
      refine ⟨_, isDigits_toDigits (n + 1), Or.inr ?_⟩
      rw [hminus, String.toList_append, Nat.toList_repr]
      rfl

/-- Numerals do not start with a blank. -/
theorem IsNumeral.startsOutside {text : List Char} (h : IsNumeral text) (x : List Char) :
    StartsOutside isBlank (text ++ x) := by
  obtain ⟨ds, hds, rfl | rfl⟩ := h
  · exact hds.startsOutside (fun c hc => (digit_spec hc).2.1) x
  · exact startsOutside_cons.mpr (by decide)

/-- **A numeral** is passed over with its sign. -/
theorem IsNumeral.passes {text : List Char} (h : IsNumeral text) {x : List Char}
    (hx : StartsOutside isDigit x) (hdot : StartsOutside (· == '.') x)
    (caps : List (Nat × List Char)) : Passes signed (text ++ x, caps) (x, caps) := by
  obtain ⟨ds, hds, htext⟩ := h
  have hdigits : Passes (sequence [digits, opt (sequence [char '.', digits])])
      (ds ++ x, caps) (x, caps) :=
    (hds.passes hx caps).cons
      (passes_opt_of_fails ((fails_char hdot).cons _) (passes_nil _))
  rcases htext with rfl | rfl
  · have hsign : StartsOutside (· == '-') (text ++ x) :=
      hds.startsOutside (fun c hc => beq_eq_false_iff_ne.mpr (digit_spec hc).2.2.1) x
    exact passes_opt_of_fails (fails_char hsign) hdigits
  · exact Passes.opt_single (passes_char.cons hdigits)

/-- No number is read where there is neither a sign nor a digit. -/
theorem fails_signed_nil : Fails signed [] := by
  have hdigits : Fails (sequence [digits, opt (sequence [char '.', digits])]) [] :=
    (fails_digits (startsOutside_nil _)).cons _
  exact fails_opt_cons ((fails_char (startsOutside_nil _)).cons _) hdigits

/-- Every way to read a number takes in a digit. -/
theorem exists_digit_of_leads_signed {s m : MatchState} (h : signed.Leads s m) :
    ∃ a d b, s.ahead = a ++ d :: (b ++ m.ahead) ∧ isDigit d = true := by
  obtain ⟨m₁, hsign, m₂, ⟨n, hn, hrounds⟩, hfraction⟩ := h
  obtain ⟨a, ha⟩ := exists_append_of_leads _ hsign
  obtain ⟨b, hb⟩ := exists_append_of_leads _ hfraction
  obtain ⟨text, hlength, htext, hsplit, -, -⟩ := text_of_rounds hrounds
  obtain ⟨d, text, rfl⟩ : ∃ d rest, text = d :: rest :=
    List.exists_cons_of_ne_nil (by rintro rfl; rw [← hlength] at hn; exact absurd hn (by decide))
  refine ⟨a, d, text ++ b, ?_, htext d List.mem_cons_self⟩
  rw [ha, hsplit, hb, List.cons_append, List.append_assoc]

/-- **Behind a number no hyphen is left**, if all hyphens stand before the digits. -/
theorem not_mem_of_leads_signed {s m : MatchState} {hyphens ds : List Char}
    (hahead : s.ahead = hyphens ++ ds) (hhyphens : ∀ c ∈ hyphens, c = '-') (hds : '-' ∉ ds)
    (h : signed.Leads s m) : '-' ∉ m.ahead := by
  obtain ⟨a, d, b, hsplit, hd⟩ := exists_digit_of_leads_signed h
  rcases List.append_eq_append_iff.mp (hahead.symm.trans hsplit) with
    ⟨more, -, hmore⟩ | ⟨more, hmore, hrest⟩
  · exact fun hmem => hds (by rw [hmore]; simp [hmem])
  · cases more with
    | nil => exact fun hmem => hds (by rw [List.nil_append] at hrest; rw [← hrest]; simp [hmem])
    | cons c more =>
        -- the digit would be one of the hyphens
        obtain ⟨rfl, -⟩ := List.cons.inj hrest
        rw [hhyphens d (by rw [hmore]; simp)] at hd
        exact absurd hd (by decide)

/-- **The separating hyphen is no sign.** Where the lower end is left out, no number can be read such
that a hyphen is next. -/
theorem fails_lower_signed {high : Option (List Char)} (hhigh : ∀ text ∈ high, IsNumeral text)
    (rs : List Regex) :
    Fails (sequence (.group 1 signed :: blanks :: char '-' :: rs)) ('-' :: high.getD []) := by
  obtain ⟨hyphens, ds, hsplit, hhyphens, hds⟩ : ∃ hyphens ds, '-' :: high.getD [] = hyphens ++ ds ∧
      (∀ c ∈ hyphens, c = '-') ∧ '-' ∉ ds := by
    cases high with
    | none => exact ⟨['-'], [], rfl, by simp, by simp⟩
    | some text =>
        obtain ⟨ds, hds, htext⟩ := hhigh text rfl
        have hnone : '-' ∉ ds := fun hmem => (digit_spec (hds.2 _ hmem)).2.2.1 rfl
        rcases htext with rfl | rfl
        · exact ⟨['-'], text, rfl, by simp, hnone⟩
        · exact ⟨['-', '-'], ds, rfl, by simp, hnone⟩
  refine fails_cons_of_leads fun s s' hahead hleads => ?_
  obtain ⟨m, hm, rfl⟩ := hleads
  exact fails_blanks_char
    (not_mem_of_leads_signed (hahead.trans hsplit) hhyphens hds hm) rs

/-! ### Written ranges -/

/-- The text of a bound, if there is one. -/
def boundChars {α : Type} [ToString α] (bound : Option α) : Option (List Char) :=
  bound.map fun n => (toString n).toList

/-- A range is written with a separator between its ends. -/
theorem toList_range {α : Type} [ToString α] (low high : Option α) (separator : String) :
    (low.elim "" toString ++ separator ++ high.elim "" toString).toList =
      (boundChars low).getD [] ++ (separator.toList ++ (boundChars high).getD []) := by
  have hbound : ∀ bound : Option α,
      (bound.elim "" toString).toList = (boundChars bound).getD [] := by
    intro bound
    cases bound <;> rfl
  rw [String.toList_append, String.toList_append, hbound, hbound, List.append_assoc]

/-- The text of an integer bound is a numeral. -/
theorem isNumeral_of_mem {bound : Option Int} {text : List Char} (h : text ∈ boundChars bound) :
    IsNumeral text := by
  obtain ⟨n, -, rfl⟩ := Option.map_eq_some_iff.mp h
  exact isNumeral_toString n

/-- The text of a natural bound is its digits. -/
theorem isDigits_of_mem {bound : Option Nat} {text : List Char} (h : text ∈ boundChars bound) :
    IsDigits text := by
  obtain ⟨n, -, rfl⟩ := Option.map_eq_some_iff.mp h
  have htext : (toString n).toList = Nat.toDigits 10 n := Nat.toList_repr
  rw [htext]
  exact isDigits_toDigits n

/-- The text of an integer bound is read again. -/
theorem bind_boundChars_parse? {bound : Option Int} (h : ∀ n ∈ bound, Json.FitsWord n) :
    ((boundChars bound).bind fun s => Json.Number.parse? (String.ofList s)) =
      bound.map .int := by
  cases bound with
  | none => rfl
  | some n =>
      rw [boundChars, Option.map_some, Option.bind_some, String.ofList_toList,
        Json.Number.parse?_toString (h n rfl), Option.map_some]

/-- The text of a natural bound is read again if it fits. -/
theorem bind_boundChars_length? (bound : Option Nat) :
    (boundChars bound).bind length? = bound.filter (· < Nat.pow 2 64) := by
  cases bound with
  | none => rfl
  | some n =>
      have htext : (toString n).toList = Nat.toDigits 10 n := Nat.toList_repr
      rw [boundChars, Option.map_some, Option.bind_some, htext, length?_toDigits,
        Option.filter_some]
      simp only [decide_eq_true_eq]

/-- **A written range of numbers** is read as it is written. -/
theorem numeric_written {low high : Option Int} (hlow : ∀ n ∈ low, Json.FitsWord n)
    (hhigh : ∀ n ∈ high, Json.FitsWord n) :
    numeric (low.elim "" toString ++ "-" ++ high.elim "" toString) =
      (low.map .int, high.map .int) := by
  have hupper : Passes (sequence [blanks, opt (.group 2 signed), blanks, .look .endText])
      ((boundChars high).getD [], captured 1 (boundChars low))
      ([], captured 2 (boundChars high) ++ captured 1 (boundChars low)) := by
    refine passes_upper (fun text htext => ?_) fails_signed_nil
    have hnumeral := isNumeral_of_mem htext
    refine ⟨?_, hnumeral.passes (startsOutside_nil _) (startsOutside_nil _) _⟩
    have hstart := hnumeral.startsOutside []
    rwa [List.append_nil] at hstart
  have hpasses : Passes (sequence (blanks :: opt (.group 1 signed) :: blanks :: char '-' ::
        [blanks, opt (.group 2 signed), blanks, .look .endText]))
      ((boundChars low).getD [] ++ '-' :: (boundChars high).getD [], [])
      ([], captured 2 (boundChars high) ++ captured 1 (boundChars low)) := by
    refine passes_lower (startsOutside_cons.mpr (by decide)) (fun text htext => ?_)
      (fun _ => fails_lower_signed (fun _ => isNumeral_of_mem) _) (passes_char.cons hupper)
    have hnumeral := isNumeral_of_mem htext
    exact ⟨hnumeral.startsOutside _, hnumeral.passes (startsOutside_cons.mpr (by decide))
      (startsOutside_cons.mpr (by decide)) _⟩
  have hsize := toList_range low high "-"
  rw [← bind_boundChars_parse? hlow, ← bind_boundChars_parse? hhigh]
  exact ends_of_passes (hsize ▸ hpasses) _

/-- **A written range of lengths** is read as it is written, as far as its ends fit. -/
theorem length_written (low high : Option Nat) :
    length (low.elim "" toString ++ ".." ++ high.elim "" toString) =
      (low.filter (· < Nat.pow 2 64), high.filter (· < Nat.pow 2 64)) := by
  have hupper : Passes (sequence [blanks, opt (.group 2 digits), blanks, .look .endText])
      ((boundChars high).getD [], captured 1 (boundChars low))
      ([], captured 2 (boundChars high) ++ captured 1 (boundChars low)) := by
    refine passes_upper (fun text htext => ?_) (fails_digits (startsOutside_nil _))
    have hdigits := isDigits_of_mem htext
    refine ⟨?_, hdigits.passes (startsOutside_nil _) _⟩
    have hstart := hdigits.startsOutside (fun c hc => (digit_spec hc).2.1) []
    rwa [List.append_nil] at hstart
  have hpasses : Passes (sequence (blanks :: opt (.group 1 digits) :: blanks :: char '.' ::
        char '.' :: [blanks, opt (.group 2 digits), blanks, .look .endText]))
      ((boundChars low).getD [] ++ '.' :: '.' :: (boundChars high).getD [], [])
      ([], captured 2 (boundChars high) ++ captured 1 (boundChars low)) := by
    have hdot : ∀ p : Char → Bool, p '.' = false →
        StartsOutside p ('.' :: '.' :: (boundChars high).getD []) :=
      fun p hp => startsOutside_cons.mpr hp
    refine passes_lower (hdot _ (by decide)) (fun text htext => ?_)
      (fun _ => (fails_group (fails_digits (hdot _ (by decide))) 1).cons _)
      (passes_char.cons (passes_char.cons hupper))
    have hdigits := isDigits_of_mem htext
    exact ⟨hdigits.startsOutside (fun c hc => (digit_spec hc).2.1) _,
      hdigits.passes (hdot _ (by decide)) _⟩
  have hsize := toList_range low high ".."
  rw [← bind_boundChars_length? low, ← bind_boundChars_length? high]
  exact ends_of_passes (hsize ▸ hpasses) _

end Bounds

/-! ### The bounds of a field -/

namespace Schema

variable {kind : SchemaKind} {field : FieldDecl} {size : String}

/-- The size of a number bounds its values. -/
theorem bounds_of_number (htype : writtenType kind field = "number" ∨
    writtenType kind field = "integer") (hsize : field.size = some size) :
    (ofField kind field).minimum = (Bounds.numeric size).1 ∧
      (ofField kind field).maximum = (Bounds.numeric size).2 := by
  obtain ⟨hminimum, hmaximum, -, -⟩ := bounds_ofField kind field
  rw [hminimum, hmaximum, sized, hsize]
  rcases htype with htype | htype <;>
    · rw [written, htype]
      exact ⟨rfl, rfl⟩

/-- The size of a text bounds its length. -/
theorem bounds_of_text (htype : writtenType kind field = "string")
    (hsize : field.size = some size) :
    (ofField kind field).minLength = (Bounds.length size).1 ∧
      (ofField kind field).maxLength = (Bounds.length size).2 := by
  obtain ⟨-, -, hminimum, hmaximum⟩ := bounds_ofField kind field
  rw [hminimum, hmaximum, sized, hsize, written, htype]
  exact ⟨rfl, rfl⟩

/-- **Size ranges are read back as they are written.** A number or an integer whose size is two
integers with a hyphen between them, either of which may be left out or negative, is bounded by just
these. A text whose size is two natural numbers with two dots between them is bounded in its length
by just these, as far as they are below `2 ^ 64`; a larger bound is absent. -/
theorem size_ranges_are_read_back (kind : SchemaKind) (field : FieldDecl) :
    (∀ low high : Option Int, (∀ n ∈ low, Json.FitsWord n) → (∀ n ∈ high, Json.FitsWord n) →
      writtenType kind field = "number" ∨ writtenType kind field = "integer" →
      field.size = some (low.elim "" toString ++ "-" ++ high.elim "" toString) →
      (ofField kind field).minimum = low.map .int ∧
        (ofField kind field).maximum = high.map .int) ∧
    (∀ low high : Option Nat, writtenType kind field = "string" →
      field.size = some (low.elim "" toString ++ ".." ++ high.elim "" toString) →
      (ofField kind field).minLength = low.filter (· < Nat.pow 2 64) ∧
        (ofField kind field).maxLength = high.filter (· < Nat.pow 2 64)) := by
  constructor
  · intro low high hlow hhigh htype hsize
    have hbounds := bounds_of_number htype hsize
    rwa [Bounds.numeric_written hlow hhigh] at hbounds
  · intro low high htype hsize
    have hbounds := bounds_of_text htype hsize
    rwa [Bounds.length_written] at hbounds

/-- A change between two negative numbers. -/
def changeField : FieldDecl :=
  { field := "change", type := some "Integer|int64", size := some "-5--3" }

/-- A level that has no lower bound. -/
def levelField : FieldDecl :=
  { field := "level", type := some "Number", size := some "-5" }

/-- A name with an upper bound of its length that is too large by one. -/
def nameField : FieldDecl :=
  { field := "name", type := some "String", size := some "1..18446744073709551616" }

/-- A hyphen is a separator or a sign, and a bound that does not fit is absent. -/
theorem size_ranges_are_read_back_hyphens :
    ((ofField .request changeField).minimum = some (.int (-5)) ∧
      (ofField .request changeField).maximum = some (.int (-3))) ∧
    ((ofField .request levelField).minimum = none ∧
      (ofField .request levelField).maximum = some (.int 5)) ∧
    (ofField .response nameField).minLength = some 1 ∧
      (ofField .response nameField).maxLength = none := by
  have hchange := (size_ranges_are_read_back .request changeField).1 (some (-5)) (some (-3))
    (by decide) (by decide) (Or.inr (by decide +kernel)) (by decide +kernel)
  have hlevel := (size_ranges_are_read_back .request levelField).1 none (some 5)
    (by decide) (by decide) (Or.inl (by decide +kernel)) (by decide +kernel)
  have hname := (size_ranges_are_read_back .response nameField).2 (some 1) (some (Nat.pow 2 64))
    (by decide +kernel) (by decide +kernel)
  exact ⟨hchange, hlevel, hname.1.trans (by decide), hname.2.trans (by decide)⟩

end Schema

end ApiGloss
