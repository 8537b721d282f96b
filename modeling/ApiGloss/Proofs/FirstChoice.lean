import ApiGloss.Proofs.Preference

/-!
# When the First Choice Is Right

To follow a match through a text that is known, it is enough to look at one choice at a time. An
expression **passes** from one place in a text to another (`Regex.Passes`) if the match succeeds in
that way as soon as whatever comes behind succeeds there; everything that the matcher would try
before must fail, whatever comes behind. Since nothing is said about the parts behind, passages
compose: one expression after the other, an optional part with the parts behind it, a group with
what it captures.

A repetition that wants little is the exception, because it gives up only where the parts behind it
fail. It is followed together with them (`Regex.passes_lazyPlus`, `Regex.passes_lazyStar`): at every
earlier place these parts must fail.

## Main results

* `Regex.passes_star`, `Regex.passes_plus`: a run of characters that cannot be longer.
* `Regex.passes_lazyPlus`, `Regex.passes_lazyStar`: a text up to where the parts behind succeed.
* `Regex.find?_of_passes`: an expression that passes over a whole text is found there.
-/

namespace ApiGloss

/-! ### Passing and failing -/

/-- A **place** in a match: the text ahead and what the groups have captured, latest first. -/
abbrev Regex.Place := List Char × List (Nat × List Char)

namespace MatchState

/-- The state **at a place** behind a text that has been passed over. -/
def passed (s : MatchState) (text : List Char) (q : Regex.Place) : MatchState :=
  ⟨text.getLast?.or s.before, q.1, s.pos + text.length, q.2⟩

/-- Where nothing is passed over and nothing captured, the state stays. -/
theorem passed_nil {s : MatchState} {q : Regex.Place} (hahead : s.ahead = q.1)
    (hcaps : s.captures = q.2) : s.passed [] q = s := by
  rw [passed, ← hahead, ← hcaps]
  rfl

/-- One text after the other. -/
theorem passed_passed (s : MatchState) (a b : List Char) (m q : Regex.Place) :
    (s.passed a m).passed b q = s.passed (a ++ b) q := by
  simp only [passed, List.getLast?_append, List.length_append, Option.or_assoc, Nat.add_assoc]

/-- Behind a text, with the captures as they were. -/
theorem after_eq_passed {s : MatchState} {caps : List (Nat × List Char)}
    (hcaps : s.captures = caps) (text x : List Char) :
    s.after text x = s.passed text (x, caps) := by
  rw [after, hcaps]
  rfl

/-- Behind a text that a group captures. -/
theorem capture_eq_passed {s : MatchState} {text x : List Char} {caps : List (Nat × List Char)}
    (hahead : s.ahead = text ++ x) (hcaps : s.captures = caps) (index : Nat) :
    (s.after text x).capture index s = s.passed text (x, (index, text) :: caps) := by
  rw [capture_after hahead, hcaps]
  rfl

end MatchState

namespace Regex

/-- An expression **passes** from one place to another, whatever comes behind. -/
def Passes (r : Regex) (p q : Place) : Prop :=
  ∃ text, p.1 = text ++ q.1 ∧
    ∀ {β : Type} (k : MatchState → Option β) (s : MatchState) (b : β),
      s.ahead = p.1 → s.captures = p.2 → k (s.passed text q) = some b → r.run k s = some b

/-- An expression **fails** on a text ahead, whatever comes behind. -/
def Fails (r : Regex) (ahead : List Char) : Prop :=
  ∀ ⦃β : Type⦄ (k : MatchState → Option β) (s : MatchState), s.ahead = ahead → r.run k s = none

/-- A text **starts with none** of the characters with a property. -/
def StartsOutside (p : Char → Bool) (text : List Char) : Prop :=
  ∀ c ∈ text.head?, p c = false

instance (p : Char → Bool) (text : List Char) : Decidable (StartsOutside p text) :=
  decidable_of_iff (text.head?.any p = false) (by cases text <;> simp [StartsOutside])

instance (cs : CharSet) (text : List Char) : Decidable (IsRun cs text) :=
  decidable_of_iff (text ≠ [] ∧ text.all cs.mem = true) (by simp [IsRun])

variable {r : Regex} {rs ts : List Regex} {p q m : Place} {x : List Char}
  {caps caps' : List (Nat × List Char)} {cs : CharSet} {c : Char}

theorem startsOutside_nil (p : Char → Bool) : StartsOutside p [] := nofun

/-- A text starts with its first character. -/
theorem startsOutside_cons {p : Char → Bool} : StartsOutside p (c :: x) ↔ p c = false := by
  simp [StartsOutside]

/-- The first character of a text stands at its start, whatever follows. -/
theorem StartsOutside.append {p : Char → Bool} {text : List Char} (hne : text ≠ [])
    (h : StartsOutside p text) (rest : List Char) : StartsOutside p (text ++ rest) := by
  obtain ⟨c, text, rfl⟩ := List.exists_cons_of_ne_nil hne
  exact startsOutside_cons.mpr (startsOutside_cons.mp h)

/-- A run of a set starts with a character of the set, whatever follows. -/
theorem IsRun.startsOutside {text : List Char} (h : IsRun cs text) {p : Char → Bool}
    (hp : ∀ c, cs.mem c = true → p c = false) (rest : List Char) :
    StartsOutside p (text ++ rest) :=
  StartsOutside.append h.1 (fun c hc => hp c (h.2 c (List.mem_of_mem_head? hc))) rest

/-- No such character can be dropped at the start. -/
theorem StartsOutside.dropWhile_eq {p : Char → Bool} (h : StartsOutside p x) :
    x.dropWhile p = x := by
  cases x with
  | nil => rfl
  | cons c x =>
      rw [List.dropWhile_cons, startsOutside_cons.mp h]
      rfl

/-- No such character is taken at the start. -/
theorem takeWhile_eq_nil_iff {p : Char → Bool} : x.takeWhile p = [] ↔ StartsOutside p x := by
  cases x with
  | nil => exact iff_of_true rfl (startsOutside_nil p)
  | cons c x =>
      rw [startsOutside_cons, List.takeWhile_cons]
      cases p c <;> simp

/-- Where such characters have been dropped, there is none. -/
theorem startsOutside_dropWhile (p : Char → Bool) (x : List Char) :
    StartsOutside p (x.dropWhile p) := by
  intro c hc
  have hhead := List.head?_dropWhile_not p x
  rw [Option.mem_def.mp hc] at hhead
  exact hhead

/-! ### One expression after the other -/

/-- No expression stays where it is. -/
theorem passes_nil (p : Place) : Passes (sequence []) p p := by
  refine ⟨[], rfl, fun k s b hahead hcaps hk => ?_⟩
  rw [MatchState.passed_nil hahead hcaps] at hk
  exact hk

/-- **One expression after the other** passes from place to place. -/
theorem Passes.cons (h : Passes r p m) (hrest : Passes (sequence rs) m q) :
    Passes (sequence (r :: rs)) p q := by
  obtain ⟨text, htext, hrun⟩ := h
  obtain ⟨text', htext', hrun'⟩ := hrest
  refine ⟨text ++ text', by rw [htext, htext', List.append_assoc], ?_⟩
  intro β k s b hahead hcaps hk
  rw [run_sequence_cons]
  refine hrun _ s b hahead hcaps (hrun' k _ b rfl rfl ?_)
  rw [MatchState.passed_passed]
  exact hk

/-- Expressions in a row, and further ones. -/
theorem Passes.append (h : Passes (sequence rs) p m) (hrest : Passes (sequence ts) m q) :
    Passes (sequence (rs ++ ts)) p q := by
  have hcons : Passes (sequence (sequence rs :: ts)) p q := h.cons hrest
  obtain ⟨text, htext, hrun⟩ := hcons
  refine ⟨text, htext, fun k s b hahead hcaps hk => ?_⟩
  have hboth := hrun k s b hahead hcaps hk
  rwa [run_sequence_cons, ← run_sequence_append] at hboth

/-- A failure is final. -/
theorem Fails.cons (h : Fails r x) (rs : List Regex) : Fails (sequence (r :: rs)) x := by
  intro β k s hahead
  rw [run_sequence_cons]
  exact h _ s hahead

/-- Something fails behind an expression if it fails wherever that leads. -/
theorem fails_cons_of_leads
    (h : ∀ s s' : MatchState, s.ahead = x → r.Leads s s' → Fails (sequence rs) s'.ahead) :
    Fails (sequence (r :: rs)) x := by
  intro β k s hahead
  rw [run_sequence_cons]
  refine Option.eq_none_iff_forall_ne_some.mpr fun b hrun => ?_
  obtain ⟨s', hleads, hk⟩ := leads_of_run r _ _ _ hrun
  rw [h s s' hahead hleads k s' rfl] at hk
  cases hk

/-! ### Single characters, groups and optional parts -/

/-- One character of a set. -/
theorem passes_set (h : cs.mem c = true) : Passes (.set cs) (c :: x, caps) (x, caps) := by
  refine ⟨[c], rfl, fun k s b hahead hcaps hk => ?_⟩
  refine run_set_eq_some_iff.mpr ⟨c, x, hahead, h, ?_⟩
  rw [MatchState.after_eq_passed hcaps]
  exact hk

/-- One given character. -/
theorem passes_char : Passes (char c) (c :: x, caps) (x, caps) :=
  passes_set (by simp)

/-- A character outside a set, or none. -/
theorem fails_set (h : StartsOutside cs.mem x) : Fails (.set cs) x := by
  intro β k s hahead
  refine Option.eq_none_iff_forall_ne_some.mpr fun b hrun => ?_
  obtain ⟨c, rest, hsplit, hmem, -⟩ := run_set_eq_some_iff.mp hrun
  have hc : cs.mem c = false := h c (by rw [← hahead, hsplit]; rfl)
  rw [hmem] at hc
  cases hc

/-- Another character, or none. -/
theorem fails_char (h : StartsOutside (· == c) x) : Fails (char c) x := by
  refine fails_set fun d hd => ?_
  have hne : (d == c) = false := h d hd
  rw [CharSet.mem_char, BEq.comm]
  exact hne

/-- **A group** captures the text that its expression passes over. -/
theorem Passes.group {text : List Char} (h : Passes r (text ++ x, caps) (x, caps'))
    (index : Nat) : Passes (.group index r) (text ++ x, caps) (x, (index, text) :: caps') := by
  obtain ⟨text', htext, hrun⟩ := h
  obtain rfl : text = text' := List.append_cancel_right htext
  refine ⟨text, rfl, fun k s b hahead hcaps hk => ?_⟩
  rw [run]
  refine hrun _ s b hahead hcaps ?_
  have hcaptured : s.ahead.take ((s.passed text (x, caps')).pos - s.pos) = text := by
    rw [hahead, MatchState.passed, Nat.add_sub_cancel_left, List.take_left]
  rw [MatchState.capture, hcaptured]
  exact hk

/-- A group fails with its expression. -/
theorem fails_group (h : Fails r x) (index : Nat) : Fails (.group index r) x :=
  fun _ _ s hahead => h _ s hahead

/-- **An optional part** that passes, together with the parts behind it. -/
theorem Passes.opt (h : Passes (sequence (ts ++ rs)) p q) :
    Passes (sequence (opt (sequence ts) :: rs)) p q := by
  obtain ⟨text, htext, hrun⟩ := h
  refine ⟨text, htext, fun k s b hahead hcaps hk => ?_⟩
  have hboth := hrun k s b hahead hcaps hk
  rw [run_sequence_append] at hboth
  rw [run_sequence_cons, run_opt, hboth]
  rfl

/-- **An optional part** of a single expression. -/
theorem Passes.opt_single (h : Passes (sequence (r :: rs)) p q) :
    Passes (sequence (Regex.opt r :: rs)) p q := by
  have happend : Passes (sequence ([r] ++ rs)) p q := h
  exact happend.opt

/-- **An optional part** that fails is left out. -/
theorem passes_opt_of_fails (h : Fails r p.1) (hrest : Passes (sequence rs) p q) :
    Passes (sequence (opt r :: rs)) p q := by
  obtain ⟨text, htext, hrun⟩ := hrest
  refine ⟨text, htext, fun k s b hahead hcaps hk => ?_⟩
  rw [run_sequence_cons, run_opt, h _ s hahead]
  exact hrun k s b hahead hcaps hk

/-- An optional part is left out if it fails together with what comes behind. -/
theorem passes_opt_of_fails_cons (h : Fails (sequence (r :: rs)) p.1)
    (hrest : Passes (sequence rs) p q) : Passes (sequence (opt r :: rs)) p q := by
  obtain ⟨text, htext, hrun⟩ := hrest
  refine ⟨text, htext, fun k s b hahead hcaps hk => ?_⟩
  have hnone := h k s hahead
  rw [run_sequence_cons] at hnone
  rw [run_sequence_cons, run_opt, hnone]
  exact hrun k s b hahead hcaps hk

/-- Nothing is found behind an optional part, with it or without it. -/
theorem fails_opt_cons (h : Fails (sequence (r :: rs)) x) (hrest : Fails (sequence rs) x) :
    Fails (sequence (opt r :: rs)) x := by
  intro β k s hahead
  have hnone := h k s hahead
  rw [run_sequence_cons] at hnone
  rw [run_sequence_cons, run_opt, hnone]
  exact hrest k s hahead

/-- The first of several alternatives, and then the others. -/
theorem run_choice_cons {β : Type} (r r' : Regex) (rs : List Regex) (k : MatchState → Option β)
    (s : MatchState) : (choice (r :: r' :: rs)).run k s =
      (r.run k s).orElse fun _ => (choice (r' :: rs)).run k s := rfl

/-- The first of several alternatives. -/
theorem Passes.choice_cons (h : Passes r p q) (rs : List Regex) :
    Passes (choice (r :: rs)) p q := by
  cases rs with
  | nil => exact h
  | cons r' rs =>
      obtain ⟨text, htext, hrun⟩ := h
      refine ⟨text, htext, fun k s b hahead hcaps hk => ?_⟩
      rw [run_choice_cons, hrun k s b hahead hcaps hk]
      rfl

/-- The first of several alternatives fails. -/
theorem Passes.choice_of_fails {r' : Regex} (hfails : Fails r p.1)
    (h : Passes (choice (r' :: rs)) p q) : Passes (choice (r :: r' :: rs)) p q := by
  obtain ⟨text, htext, hrun⟩ := h
  refine ⟨text, htext, fun k s b hahead hcaps hk => ?_⟩
  rw [run_choice_cons, hfails k s hahead]
  exact hrun k s b hahead hcaps hk

/-- All of several alternatives fail. -/
theorem fails_choice (h : ∀ r ∈ rs, Fails r x) : Fails (choice rs) x := by
  induction rs with
  | nil =>
      intro β k s hahead
      refine Option.eq_none_iff_forall_ne_some.mpr fun b hrun => ?_
      obtain ⟨c, rest, -, hmem, -⟩ := run_set_eq_some_iff.mp hrun
      cases hmem
  | cons r rs ih =>
      obtain ⟨hr, hrs⟩ := List.forall_mem_cons.mp h
      cases rs with
      | nil => exact hr
      | cons r' rs =>
          intro β k s hahead
          rw [run_choice_cons, hr k s hahead]
          exact ih hrs k s hahead

/-- The end of the text. -/
theorem passes_endText : Passes (.look .endText) ([], caps) ([], caps) := by
  refine ⟨[], rfl, fun k s b hahead hcaps hk => ?_⟩
  have hholds : Assertion.holds .endText s = true := by
    simp [Assertion.holds, hahead]
  rw [MatchState.passed_nil hahead hcaps] at hk
  rw [run, if_pos hholds]
  exact hk

/-- A character stands before the end of the text. -/
theorem fails_endText : Fails (.look .endText) (c :: x) := by
  intro β k s hahead
  have hholds : Assertion.holds .endText s = false := by
    simp [Assertion.holds, hahead]
  rw [run, hholds]
  rfl

/-! ### Runs of characters -/

/-- **A run that cannot be longer** is what a repetition that wants much passes over. -/
theorem passes_star {text : List Char} (htext : ∀ c ∈ text, cs.mem c = true)
    (hx : StartsOutside cs.mem x) :
    Passes (star (.set cs)) (text ++ x, caps) (x, caps) := by
  refine ⟨text, rfl, fun k s b hahead hcaps hk => ?_⟩
  rw [← MatchState.after_eq_passed hcaps] at hk
  refine run_star_eq_some_iff.mpr ⟨text, x, hahead, htext, hk, ?_⟩
  intro longer rest hsplit hlonger hlength
  -- a longer run would take in the first character of what follows
  rcases List.append_eq_append_iff.mp (hahead.symm.trans hsplit) with
    ⟨more, rfl, hmore⟩ | ⟨more, rfl, -⟩
  · cases more with
    | nil => simp at hlength
    | cons d more =>
        have hd : cs.mem d = false := hx d (by rw [hmore]; rfl)
        rw [hlonger d (by simp)] at hd
        cases hd
  · rw [List.length_append] at hlength
    omega

/-- A repetition that wants much stays where it is if it has to. -/
theorem passes_star_nil (hx : StartsOutside cs.mem x) :
    Passes (star (.set cs)) (x, caps) (x, caps) := by
  have hnothing : ∀ c ∈ ([] : List Char), cs.mem c = true := nofun
  exact passes_star hnothing hx

/-- At least one character is one and then any number. -/
theorem run_plus_eq {β : Type} (cs : CharSet) (k : MatchState → Option β) (s : MatchState) :
    (plus (.set cs)).run k s = (Regex.set cs).run ((star (.set cs)).run k) s := by
  have hround : (plus (.set cs)).run k s = (Regex.set cs).run (fun s' =>
      if s'.pos = s.pos then k s'
      else many (fun k s => (Regex.set cs).run k s) true k s'.ahead.length s') s := rfl
  rw [hround, run, run]
  cases s.ahead with
  | nil => rfl
  | cons c rest =>
      have hpos : ¬ s.pos + 1 = s.pos := by omega
      simp only [hpos, if_false, run_star_eq_many]

/-- **A run of at least one character** that cannot be longer. -/
theorem passes_plus {text : List Char} (htext : IsRun cs text) (hx : StartsOutside cs.mem x) :
    Passes (plus (.set cs)) (text ++ x, caps) (x, caps) := by
  obtain ⟨hne, hmem⟩ := htext
  obtain ⟨c, text, rfl⟩ := List.exists_cons_of_ne_nil hne
  obtain ⟨hc, hmem⟩ := List.forall_mem_cons.mp hmem
  have hboth : Passes (sequence [.set cs, star (.set cs)]) (c :: (text ++ x), caps) (x, caps) :=
    (passes_set hc).cons (passes_star hmem hx)
  obtain ⟨text', htext', hrun⟩ := hboth
  refine ⟨text', htext', fun k s b hahead hcaps hk => ?_⟩
  rw [run_plus_eq]
  exact hrun k s b hahead hcaps hk

/-- No run where no character of the set is next. -/
theorem fails_plus (h : StartsOutside cs.mem x) : Fails (plus (.set cs)) x := by
  intro β k s hahead
  rw [run_plus_eq]
  exact fails_set h _ s hahead

/-- A run, and then something that fails wherever the run ends. -/
theorem fails_star_cons
    (h : ∀ text rest, x = text ++ rest → (∀ c ∈ text, cs.mem c = true) → Fails (sequence rs) rest) :
    Fails (sequence (star (.set cs) :: rs)) x := by
  intro β k s hahead
  rw [run_sequence_cons]
  refine Option.eq_none_iff_forall_ne_some.mpr fun b hrun => ?_
  obtain ⟨text, rest, hsplit, htext, hk, -⟩ := run_star_eq_some_iff.mp hrun
  rw [h text rest (hahead.symm.trans hsplit) htext k _ rfl] at hk
  cases hk

/-! ### As little as possible -/

/-- **As little as possible, but something**: at every earlier place the parts behind fail. -/
theorem passes_lazyPlus {text : List Char} (hne : text ≠ []) (index : Nat)
    (hearlier : ∀ a b, text = a ++ b → a ≠ [] → b ≠ [] → Fails (sequence rs) (b ++ x))
    (hrest : Passes (sequence rs) (x, (index, text) :: caps) q) :
    Passes (sequence (.group index (lazyPlus (.set .all)) :: rs)) (text ++ x, caps) q := by
  obtain ⟨text', htext', hrun⟩ := hrest
  have hx : x = text' ++ q.1 := htext'
  refine ⟨text ++ text', by rw [hx, List.append_assoc], fun k s b hahead hcaps hk => ?_⟩
  rw [run_sequence_cons, run]
  refine run_lazyPlus_eq_some_iff.mpr ⟨text, x, hahead, ⟨hne, fun _ _ => rfl⟩, ?_, ?_⟩
  · rw [MatchState.capture_eq_passed hahead hcaps]
    refine hrun k _ b rfl rfl ?_
    rw [MatchState.passed_passed]
    exact hk
  · intro shorter rest hsplit hshorter hlength
    rcases List.append_eq_append_iff.mp (hahead.symm.trans hsplit) with
      ⟨more, rfl, -⟩ | ⟨more, htext, hmore⟩
    · rw [List.length_append] at hlength
      omega
    · refine hearlier shorter more htext hshorter ?_ k _ (by rw [← hmore]; rfl)
      rintro rfl
      rw [htext, List.append_nil] at hlength
      omega

/-- Any number of characters, as few as possible: none, or else at least one. -/
theorem run_lazyStar_eq {β : Type} (r : Regex) (k : MatchState → Option β) (s : MatchState) :
    (lazyStar r).run k s = (k s).orElse fun _ => (lazyPlus r).run k s := rfl

/-- **As little as possible**, where that is not nothing. -/
theorem passes_lazyStar {text : List Char} (hne : text ≠ []) (index : Nat)
    (hearlier : ∀ a b, text = a ++ b → b ≠ [] → Fails (sequence rs) (b ++ x))
    (hrest : Passes (sequence rs) (x, (index, text) :: caps) q) :
    Passes (sequence (.group index (lazyStar (.set .all)) :: rs)) (text ++ x, caps) q := by
  obtain ⟨text', htext', hrun⟩ :=
    passes_lazyPlus hne index (fun a b htext _ hb => hearlier a b htext hb) hrest
  refine ⟨text', htext', fun k s b hahead hcaps hk => ?_⟩
  have hnothing : (sequence rs).run k (s.capture index s) = none :=
    hearlier [] text rfl hne k _ hahead
  have hmore := hrun k s b hahead hcaps hk
  rw [run_sequence_cons, run] at hmore ⊢
  rw [run_lazyStar_eq, hnothing]
  exact hmore

/-! ### Matches -/

/-- Where an expression fails, it does not match. -/
theorem Fails.matchAt_eq_none {s : MatchState} (h : Fails r s.ahead) : r.matchAt s = none :=
  h some { s with captures := [] } rfl

/-- **An expression that passes** from a place matches there, with what it has captured. -/
theorem Passes.matchAt {s : MatchState} (h : Passes r (s.ahead, []) (x, caps)) :
    ∃ e, r.matchAt s = some e ∧ e.ahead = x ∧ e.captures = caps := by
  obtain ⟨text, -, hrun⟩ := h
  refine ⟨MatchState.passed { s with captures := [] } text (x, caps), ?_, rfl, rfl⟩
  exact hrun some { s with captures := [] } _ rfl rfl rfl

/-- **An expression that passes over a whole text** is found there. -/
theorem find?_of_passes {text : List Char}
    (h : Passes (sequence rs) (text, []) ([], caps)) :
    ∃ m, (sequence (.look .startText :: rs)).find? text = some m ∧ m.captures = caps := by
  obtain ⟨text', htext', hrun⟩ := h
  have hmatch : (sequence (.look .startText :: rs)).matchAt (.start text) =
      some ((MatchState.start text).passed text' ([], caps)) := by
    rw [matchAt, run_sequence_cons, run]
    exact hrun some _ _ rfl rfl rfl
  have hfirst : ∀ earlier rest, text = earlier ++ rest → earlier.length < ([] : List Char).length →
      (sequence (.look .startText :: rs)).matchAt ((MatchState.start text).after earlier rest) =
        none := fun _ _ _ hlength => absurd hlength (Nat.not_lt_zero _)
  have hsearch : (sequence (.look .startText :: rs)).search none 0 text =
      some ([], text, (MatchState.start text).passed text' ([], caps)) :=
    (search_eq_some_iff (s := .start text)).mpr ⟨rfl, hmatch, hfirst⟩
  refine ⟨(MatchState.start text).passed text' ([], caps), ?_, rfl⟩
  rw [find?, hsearch]
  rfl

end Regex

end ApiGloss
