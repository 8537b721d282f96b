import ApiGloss.Proofs.Matching

/-!
# Which Match Is Preferred

`Regex.Leads` describes all ways to match an expression; this module says which of them the matcher
takes. A match passes over a text and stands behind it (`MatchState.after`). The laws below tell,
for the expressions that patterns are built from, with which text the continuation succeeds first: a
fixed text is passed over as it is, a repetition of single characters that wants much takes the
longest run after which the continuation succeeds, one that wants little takes the shortest.

The second half is about searching. The leftmost match is the one with no match before it, and the
matches of a text are found one after the other (`Regex.Scanned`), without a bound on their number.

## Main results

* `Regex.run_star_eq_some_iff`, `Regex.run_lazyPlus_eq_some_iff`: the longest and the shortest run.
* `Regex.search_eq_some_iff`: the leftmost match.
* `Regex.scan_of_scanned`: all matches, one after the other.
* `Regex.exists_matchAt_of_mem_scan`: every match that is found is a match at some place.
-/

namespace ApiGloss

namespace MatchState

/-- The state **after** passing over a text, with `rest` ahead. -/
def after (s : MatchState) (text rest : List Char) : MatchState :=
  ⟨text.getLast?.or s.before, rest, s.pos + text.length, s.captures⟩

@[simp] theorem ahead_after (s : MatchState) (text rest : List Char) :
    (s.after text rest).ahead = rest := rfl

@[simp] theorem pos_after (s : MatchState) (text rest : List Char) :
    (s.after text rest).pos = s.pos + text.length := rfl

/-- Nothing is passed over. -/
theorem after_nil {s : MatchState} {rest : List Char} (h : s.ahead = rest) :
    s.after [] rest = s := by
  subst h
  rfl

/-- One text after the other. -/
theorem after_after (s : MatchState) (a b ahead rest : List Char) :
    (s.after a ahead).after b rest = s.after (a ++ b) rest := by
  simp only [after, List.getLast?_append, List.length_append, Option.or_assoc, Nat.add_assoc]

/-- One character and then a text. -/
theorem after_singleton_after (s : MatchState) (c : Char) (text ahead rest : List Char) :
    (s.after [c] ahead).after text rest = s.after (c :: text) rest :=
  s.after_after [c] text ahead rest

/-- A group captures the text that is passed over. -/
theorem capture_after {s : MatchState} {text rest : List Char} (h : s.ahead = text ++ rest)
    (index : Nat) :
    (s.after text rest).capture index s =
      { s.after text rest with captures := (index, text) :: s.captures } := by
  have htext : s.ahead.take ((s.after text rest).pos - s.pos) = text := by
    rw [h, pos_after, Nat.add_sub_cancel_left, List.take_left]
  rw [capture, htext]
  rfl

end MatchState

namespace Regex

variable {β : Type} {k : MatchState → Option β} {s : MatchState} {b : β}

/-! ### Fixed texts and optional parts -/

/-- One character of a set. -/
theorem run_set_eq_some_iff {cs : CharSet} :
    (Regex.set cs).run k s = some b ↔
      ∃ c rest, s.ahead = c :: rest ∧ cs.mem c = true ∧ k (s.after [c] rest) = some b := by
  rw [run]
  cases hahead : s.ahead with
  | nil => simp
  | cons c rest =>
      by_cases hc : cs.mem c = true
      · simp only [hc, if_true]
        refine ⟨fun h => ⟨c, rest, rfl, hc, h⟩, ?_⟩
        rintro ⟨_, _, heq, -, h⟩
        cases heq
        exact h
      · simp only [hc]
        refine ⟨fun h => absurd h (Option.some_ne_none b).symm, ?_⟩
        rintro ⟨_, _, heq, hmem, -⟩
        cases heq
        exact absurd hmem hc

/-- One given character. -/
theorem run_char_eq_some_iff {c : Char} :
    (char c).run k s = some b ↔
      ∃ rest, s.ahead = c :: rest ∧ k (s.after [c] rest) = some b := by
  rw [char, run_set_eq_some_iff]
  constructor
  · rintro ⟨d, rest, hahead, hmem, hk⟩
    obtain rfl : c = d := by simpa using hmem
    exact ⟨rest, hahead, hk⟩
  · rintro ⟨rest, hahead, hk⟩
    exact ⟨c, rest, hahead, by simp, hk⟩

/-- The first of several expressions in a row. -/
theorem run_sequence_cons (r : Regex) (rs : List Regex) (k : MatchState → Option β) :
    (sequence (r :: rs)).run k = r.run ((sequence rs).run k) := by
  cases rs with
  | nil => rfl
  | cons r' rs => rfl

/-- Expressions in a row, and further ones. -/
theorem run_sequence_append (rs ts : List Regex) (k : MatchState → Option β) :
    (sequence (rs ++ ts)).run k = (sequence rs).run ((sequence ts).run k) := by
  induction rs with
  | nil => rfl
  | cons r rs ih => rw [List.cons_append, run_sequence_cons, run_sequence_cons, ih]

/-- **A fixed text** is passed over as it is. -/
theorem run_chars_eq_some_iff {text : String} :
    (sequence (chars text)).run k s = some b ↔
      ∃ rest, s.ahead = text.toList ++ rest ∧ k (s.after text.toList rest) = some b := by
  unfold chars
  induction text.toList generalizing s with
  | nil =>
      refine ⟨fun h => ⟨s.ahead, rfl, ?_⟩, fun ⟨rest, hahead, h⟩ => ?_⟩
      · rw [MatchState.after_nil rfl]
        exact h
      · rwa [MatchState.after_nil (hahead.trans (List.nil_append rest))] at h
  | cons c cs ih =>
      rw [List.map_cons, run_sequence_cons, run_char_eq_some_iff]
      constructor
      · rintro ⟨ahead, hahead, h⟩
        obtain ⟨rest, rfl, hk⟩ := ih.mp h
        exact ⟨rest, hahead, by rwa [MatchState.after_singleton_after] at hk⟩
      · rintro ⟨rest, hahead, hk⟩
        refine ⟨cs ++ rest, hahead, ih.mpr ⟨rest, rfl, ?_⟩⟩
        rwa [MatchState.after_singleton_after]

/-- **An optional part** is taken if the continuation succeeds after it. -/
theorem run_opt (r : Regex) : (opt r).run k s = (r.run k s).orElse fun _ => k s := rfl

/-- An optional part is taken, or it cannot be taken and the continuation succeeds without it. -/
theorem run_opt_eq_some_iff {r : Regex} :
    (opt r).run k s = some b ↔ r.run k s = some b ∨ r.run k s = none ∧ k s = some b := by
  rw [run_opt, Option.orElse_eq_or]
  cases r.run k s <;> simp

/-! ### Repetitions of single characters -/

/-- The **runs** of characters of a set at the start of a text, the shortest first, each with the
text behind it. -/
def runsOf (cs : CharSet) : List Char → List (List Char × List Char)
  | [] => [([], [])]
  | c :: rest =>
    ([], c :: rest) ::
      if cs.mem c then (runsOf cs rest).map fun (text, rest) => (c :: text, rest) else []

/-- A run is a text at the start that is made of characters of the set. -/
theorem mem_runsOf {cs : CharSet} {ahead text rest : List Char} :
    (text, rest) ∈ runsOf cs ahead ↔ ahead = text ++ rest ∧ ∀ c ∈ text, cs.mem c = true := by
  induction ahead generalizing text with
  | nil =>
      rw [runsOf, List.mem_singleton, Prod.mk.injEq, eq_comm (a := []), List.append_eq_nil_iff]
      refine ⟨?_, fun h => h.1⟩
      rintro ⟨rfl, rfl⟩
      exact ⟨⟨rfl, rfl⟩, nofun⟩
  | cons c ahead ih =>
      rw [runsOf, List.mem_cons]
      cases text with
      | nil =>
          refine ⟨fun h => ⟨?_, nofun⟩, fun ⟨h, _⟩ => Or.inl (by rw [h, List.nil_append])⟩
          rcases h with h | h
          · cases h
            rfl
          · split at h
            · simp at h
            · exact absurd h List.not_mem_nil
      | cons d text =>
          by_cases hc : cs.mem c = true
          · simp only [hc, if_true, List.mem_map, Prod.mk.injEq, Prod.exists, List.cons.injEq,
              List.cons_append, List.forall_mem_cons, reduceCtorEq, false_and, false_or]
            constructor
            · rintro ⟨text, rest, hmem, ⟨rfl, rfl⟩, rfl⟩
              obtain ⟨hahead, hall⟩ := ih.mp hmem
              exact ⟨⟨rfl, hahead⟩, hc, hall⟩
            · rintro ⟨⟨rfl, hahead⟩, -, hall⟩
              exact ⟨text, rest, ih.mpr ⟨hahead, hall⟩, ⟨rfl, rfl⟩, rfl⟩
          · simp only [hc, Prod.mk.injEq, List.cons.injEq, List.cons_append, List.forall_mem_cons,
              reduceCtorEq, false_and, false_or]
            refine ⟨fun h => absurd h List.not_mem_nil, fun ⟨⟨hd, _⟩, hmem, _⟩ => ?_⟩
            exact absurd (hd ▸ hmem) hc

/-- Runs become longer. -/
theorem pairwise_runsOf (cs : CharSet) (ahead : List Char) :
    (runsOf cs ahead).Pairwise fun e e' => e.1.length < e'.1.length := by
  induction ahead with
  | nil => exact List.pairwise_singleton _ _
  | cons c ahead ih =>
      rw [runsOf, List.pairwise_cons]
      split
      · refine ⟨fun e he => ?_, List.pairwise_map.mpr (ih.imp fun h => ?_)⟩
        · obtain ⟨e', -, rfl⟩ := List.mem_map.mp he
          exact Nat.succ_pos _
        · exact Nat.succ_lt_succ h
      · exact ⟨nofun, List.Pairwise.nil⟩

/-- In a list in strict order, the first success is one before which everything fails. -/
theorem findSome?_eq_some_iff_of_pairwise {α : Type} {R : α → α → Prop} {f : α → Option β}
    {l : List α} (hl : l.Pairwise R) (hR : ∀ a a', R a a' → ¬ R a' a) :
    l.findSome? f = some b ↔ ∃ a ∈ l, f a = some b ∧ ∀ a' ∈ l, R a' a → f a' = none := by
  rw [List.findSome?_eq_some_iff]
  constructor
  · rintro ⟨l₁, a, l₂, rfl, hfa, hbefore⟩
    refine ⟨a, List.mem_append_right _ List.mem_cons_self, hfa, fun a' ha' hrel => ?_⟩
    have hafter := (List.pairwise_cons.mp (List.pairwise_append.mp hl).2.1).1
    rcases List.mem_append.mp ha' with h | h
    · exact hbefore a' h
    · rcases List.mem_cons.mp h with rfl | h
      · exact absurd hrel (hR _ _ hrel)
      · exact absurd (hafter a' h) (hR _ _ hrel)
  · rintro ⟨a, ha, hfa, hbefore⟩
    obtain ⟨l₁, l₂, rfl⟩ := List.append_of_mem ha
    refine ⟨l₁, a, l₂, rfl, hfa, fun a' ha' => ?_⟩
    have hrel := (List.pairwise_append.mp hl).2.2 a' ha' a List.mem_cons_self
    exact hbefore a' (List.mem_append_left _ ha') hrel

/-- **Further rounds** try the runs in order of preference. -/
theorem many_set_eq {cs : CharSet} (greedy : Bool) {fuel : Nat}
    (hfuel : s.ahead.length ≤ fuel) :
    many (fun k s => (Regex.set cs).run k s) greedy k fuel s =
      (if greedy then (runsOf cs s.ahead).reverse else runsOf cs s.ahead).findSome?
        fun e => k (s.after e.1 e.2) := by
  induction fuel generalizing s with
  | zero =>
      have hnil : s.ahead = [] := List.length_eq_zero_iff.mp (Nat.le_zero.mp hfuel)
      rw [many, hnil]
      cases greedy <;> simp [runsOf, MatchState.after_nil hnil]
  | succ fuel ih =>
      cases hahead : s.ahead with
      | nil =>
          have hnow := MatchState.after_nil hahead
          cases greedy <;> simp [many, run, hahead, runsOf, prefer, hnow]
      | cons c rest =>
          have hnow := MatchState.after_nil hahead
          cases hc : cs.mem c with
          | false => cases greedy <;> simp [many, run, hahead, runsOf, prefer, hc, hnow]
          | true =>
              have hrest : (s.after [c] rest).ahead.length ≤ fuel := by
                rw [hahead, List.length_cons] at hfuel
                exact Nat.le_of_succ_le_succ hfuel
              have hmore : many (fun k s => (Regex.set cs).run k s) greedy k (fuel + 1) s =
                  prefer greedy (fun _ => many (fun k s => (Regex.set cs).run k s) greedy k fuel
                    (s.after [c] rest)) (fun _ => k s) := by
                simp [many, run, hahead, hc, MatchState.after]
              have hruns : runsOf cs (c :: rest) =
                  ([], c :: rest) :: (runsOf cs rest).map fun e => (c :: e.1, e.2) := by
                rw [runsOf, if_pos hc]
              rw [hmore, ih hrest, MatchState.ahead_after, hruns]
              simp only [MatchState.after_singleton_after]
              cases greedy with
              | true =>
                  simp only [prefer, if_true, List.reverse_cons, ← List.map_reverse,
                    List.findSome?_append, List.findSome?_map, Function.comp_def,
                    List.findSome?_singleton, hnow, Option.orElse_eq_or]
              | false =>
                  simp only [prefer, Bool.false_eq_true, if_false, List.findSome?_cons,
                    List.findSome?_map, Function.comp_def, hnow]
                  cases k s <;> rfl

/-- Any number of rounds are further rounds after none. -/
theorem run_star_eq_many (cs : CharSet) (k : MatchState → Option β) (s : MatchState) :
    (star (.set cs)).run k s =
      many (fun k s => (Regex.set cs).run k s) true k s.ahead.length s := by
  simp only [star, run, rounds, atLeastOne]
  cases hahead : s.ahead with
  | nil => rfl
  | cons c rest =>
      have hpos : ¬ s.pos + 1 = s.pos := by omega
      simp only [List.length_cons, many, hahead, hpos, if_false]

/-- At least one round is a first one with further ones behind it. -/
theorem run_lazyPlus_eq_some_iff_many {cs : CharSet} :
    (lazyPlus (.set cs)).run k s = some b ↔
      ∃ c rest, s.ahead = c :: rest ∧ cs.mem c = true ∧
        many (fun k s => (Regex.set cs).run k s) false k rest.length (s.after [c] rest) =
          some b := by
  have hpos : ∀ c rest, ¬ (s.after [c] rest).pos = s.pos := by
    intro c rest
    rw [MatchState.pos_after, List.length_singleton]
    omega
  have hround : (lazyPlus (.set cs)).run k s = (Regex.set cs).run (fun s' =>
      if s'.pos = s.pos then k s'
      else many (fun k s => (Regex.set cs).run k s) false k s'.ahead.length s') s := rfl
  rw [hround, run_set_eq_some_iff]
  simp only [hpos, if_false, MatchState.ahead_after]

/-- **As many characters as possible**: the longest run after which the continuation succeeds. -/
theorem run_star_eq_some_iff {cs : CharSet} :
    (star (.set cs)).run k s = some b ↔
      ∃ text rest, s.ahead = text ++ rest ∧ (∀ c ∈ text, cs.mem c = true) ∧
        k (s.after text rest) = some b ∧
        ∀ longer rest', s.ahead = longer ++ rest' → (∀ c ∈ longer, cs.mem c = true) →
          text.length < longer.length → k (s.after longer rest') = none := by
  have horder : (runsOf cs s.ahead).reverse.Pairwise fun e e' => e'.1.length < e.1.length :=
    List.pairwise_reverse.mpr (pairwise_runsOf cs s.ahead)
  rw [run_star_eq_many, many_set_eq true (Nat.le_refl _), if_pos rfl,
    findSome?_eq_some_iff_of_pairwise horder fun _ _ => Nat.lt_asymm]
  simp only [List.mem_reverse, Prod.exists, Prod.forall, mem_runsOf, and_assoc, and_imp]

/-- **As few characters as possible**: the shortest run after which the continuation succeeds. -/
theorem run_lazyPlus_eq_some_iff {cs : CharSet} :
    (lazyPlus (.set cs)).run k s = some b ↔
      ∃ text rest, s.ahead = text ++ rest ∧ IsRun cs text ∧ k (s.after text rest) = some b ∧
        ∀ shorter rest', s.ahead = shorter ++ rest' → shorter ≠ [] →
          shorter.length < text.length → k (s.after shorter rest') = none := by
  have hmany : ∀ c ahead, many (fun k s => (Regex.set cs).run k s) false k ahead.length
      (s.after [c] ahead) = some b ↔ ∃ text rest, (ahead = text ++ rest ∧
        ∀ c ∈ text, cs.mem c = true) ∧ k (s.after (c :: text) rest) = some b ∧
        ∀ shorter rest', (ahead = shorter ++ rest' ∧ ∀ c ∈ shorter, cs.mem c = true) →
          shorter.length < text.length → k (s.after (c :: shorter) rest') = none := by
    intro c ahead
    have hfuel : (s.after [c] ahead).ahead.length ≤ ahead.length := Nat.le_refl _
    rw [many_set_eq false hfuel, if_neg Bool.false_ne_true,
      findSome?_eq_some_iff_of_pairwise (pairwise_runsOf cs _) fun _ _ => Nat.lt_asymm]
    simp only [Prod.exists, Prod.forall, mem_runsOf, MatchState.ahead_after,
      MatchState.after_singleton_after]
  rw [run_lazyPlus_eq_some_iff_many]
  constructor
  · rintro ⟨c, ahead, hahead, hc, h⟩
    obtain ⟨text, rest, ⟨rfl, htext⟩, hk, hshorter⟩ := (hmany c ahead).mp h
    refine ⟨c :: text, rest, hahead, ⟨List.cons_ne_nil _ _, List.forall_mem_cons.mpr ⟨hc, htext⟩⟩,
      hk, fun shorter rest' hsplit hne hlt => ?_⟩
    obtain ⟨d, shorter, rfl⟩ := List.exists_cons_of_ne_nil hne
    obtain ⟨rfl, htail⟩ := List.cons.inj (hahead.symm.trans hsplit)
    have hlt' : shorter.length < text.length := Nat.lt_of_succ_lt_succ hlt
    refine hshorter shorter rest' ⟨htail, fun e he => ?_⟩ hlt'
    have hshort : shorter <+: text :=
      List.prefix_of_prefix_length_le ⟨rest', htail.symm⟩ (List.prefix_append text rest)
        (Nat.le_of_lt hlt')
    exact htext e (hshort.subset he)
  · rintro ⟨text, rest, hsplit, ⟨hne, htext⟩, hk, hshorter⟩
    obtain ⟨c, text, rfl⟩ := List.exists_cons_of_ne_nil hne
    obtain ⟨hc, htext⟩ := List.forall_mem_cons.mp htext
    refine ⟨c, text ++ rest, hsplit, hc, (hmany c _).mpr
      ⟨text, rest, ⟨rfl, htext⟩, hk, fun shorter rest' hshort hlt => ?_⟩⟩
    refine hshorter (c :: shorter) rest' ?_ (List.cons_ne_nil _ _) (Nat.succ_lt_succ hlt)
    rw [hsplit, List.cons_append, List.cons_append, hshort.1]

/-- An optional repetition is the repetition: it may pass over nothing anyway. -/
theorem run_opt_star (r : Regex) (k : MatchState → Option β) (s : MatchState) :
    (opt (star r)).run k s = (star r).run k s := by
  have hstar : (star r).run k s =
      (atLeastOne (fun k s => r.run k s) true k s).orElse fun _ => k s := rfl
  rw [run_opt, hstar]
  cases atLeastOne (fun k s => r.run k s) true k s with
  | some b => rfl
  | none => cases k s <;> rfl

/-! ### Searching -/

/-- A search tries all places in a text from left to right. -/
theorem search_eq_findSome? (r : Regex) (s : MatchState) :
    r.search s.before s.pos s.ahead =
      (runsOf .all s.ahead).findSome? fun e =>
        (r.matchAt (s.after e.1 e.2)).map fun m => (e.1, e.2, m) := by
  obtain ⟨before, ahead, pos, captures⟩ := s
  dsimp only
  induction ahead generalizing before pos with
  | nil =>
      rw [search, runsOf, List.findSome?_singleton, MatchState.after_nil rfl]
      rfl
  | cons c ahead ih =>
      have hruns : runsOf .all (c :: ahead) =
          ([], c :: ahead) :: (runsOf .all ahead).map fun e => (c :: e.1, e.2) := by
        rw [runsOf, CharSet.mem_all, if_pos rfl]
      have hnow : r.matchAt ((MatchState.mk before (c :: ahead) pos captures).after []
          (c :: ahead)) = r.matchAt ⟨before, c :: ahead, pos, []⟩ := rfl
      rw [search, hruns, List.findSome?_cons, hnow]
      cases r.matchAt ⟨before, c :: ahead, pos, []⟩ with
      | some m => rfl
      | none =>
          rw [ih (some c) (pos + 1), List.findSome?_map, List.map_findSome?]
          refine congrArg (List.findSome? · _) (funext fun e => ?_)
          have hplace := MatchState.after_singleton_after ⟨before, c :: ahead, pos, captures⟩ c
            e.1 ahead e.2
          simp only [Function.comp_apply, Option.map_map, ← hplace]
          rfl

/-- **No match** from a state on. -/
theorem search_eq_none_iff {r : Regex} :
    r.search s.before s.pos s.ahead = none ↔
      ∀ skipped here, s.ahead = skipped ++ here → r.matchAt (s.after skipped here) = none := by
  rw [search_eq_findSome?, List.findSome?_eq_none_iff]
  simp only [Prod.forall, mem_runsOf, CharSet.mem_all, implies_true, and_true,
    Option.map_eq_none_iff]

/-- **The leftmost match**: a match with none before it. -/
theorem search_eq_some_iff {r : Regex} {skipped here : List Char} {e : MatchState} :
    r.search s.before s.pos s.ahead = some (skipped, here, e) ↔
      s.ahead = skipped ++ here ∧ r.matchAt (s.after skipped here) = some e ∧
        ∀ earlier rest, s.ahead = earlier ++ rest → earlier.length < skipped.length →
          r.matchAt (s.after earlier rest) = none := by
  rw [search_eq_findSome?, findSome?_eq_some_iff_of_pairwise (pairwise_runsOf .all s.ahead)
    fun _ _ => Nat.lt_asymm]
  simp only [Prod.exists, Prod.forall, mem_runsOf, CharSet.mem_all, implies_true, and_true,
    Option.map_eq_none_iff, Option.map_eq_some_iff, Prod.mk.injEq]
  constructor
  · rintro ⟨_, _, hsplit, ⟨m, hm, rfl, rfl, rfl⟩, hnone⟩
    exact ⟨hsplit, hm, hnone⟩
  · rintro ⟨hsplit, hm, hnone⟩
    exact ⟨skipped, here, hsplit, ⟨e, hm, rfl, rfl, rfl⟩, hnone⟩

/-! ### All matches -/

/-- The matches from a state on, **one after the other**, and the text behind the last one. Every
match passes over something. -/
inductive Scanned (r : Regex) : MatchState → List Found → List Char → Prop
  | done {s : MatchState} : r.search s.before s.pos s.ahead = none → Scanned r s [] s.ahead
  | next {s e : MatchState} {skipped here rest : List Char} {more : List Found} :
      r.search s.before s.pos s.ahead = some (skipped, here, e) →
      e.ahead.length < here.length → Scanned r e more rest →
      Scanned r s (⟨skipped, here.take (here.length - e.ahead.length), e.captures⟩ :: more) rest

/-- **At the end of a text** where nothing matches, the matches are complete. -/
theorem Scanned.at_end {r : Regex} (hahead : s.ahead = []) (hnone : r.matchAt s = none) :
    Scanned r s [] [] := by
  have hdone : r.search s.before s.pos s.ahead = none :=
    search_eq_none_iff.mpr fun skipped here hsplit => by
      obtain ⟨rfl, rfl⟩ := List.append_eq_nil_iff.mp (hsplit.symm.trans hahead)
      rwa [MatchState.after_nil hahead]
  exact hahead ▸ Scanned.done hdone

/-- **A character at which nothing matches** is skipped: it comes before the first match or, if
there is none, before the text that is left. -/
theorem Scanned.skip {r : Regex} {c : Char} {cs : List Char} {found : List Found} {rest : List Char}
    (hahead : s.ahead = c :: cs) (hnone : r.matchAt s = none)
    (h : Scanned r (s.after [c] cs) found rest) :
    (found = [] ∧ Scanned r s [] (c :: rest)) ∨
      ∃ f more, found = f :: more ∧
        Scanned r s ({ f with skipped := c :: f.skipped } :: more) rest := by
  have hsearch : r.search s.before s.pos s.ahead =
      (r.search (some c) (s.pos + 1) cs).map fun e => (c :: e.1, e.2) := by
    have hhere : r.matchAt ⟨s.before, c :: cs, s.pos, []⟩ = none := by
      rw [← hahead]
      exact hnone
    rw [hahead, search, hhere]
  cases h with
  | done hdone =>
      have hdone' : r.search (some c) (s.pos + 1) cs = none := hdone
      refine Or.inl ⟨rfl, ?_⟩
      have hall := Scanned.done (r := r) (s := s) (by rw [hsearch, hdone']; rfl)
      rwa [hahead] at hall
  | @next _ e skipped here _ more hnext hlt hmore =>
      have hnext' : r.search (some c) (s.pos + 1) cs = some (skipped, here, e) := hnext
      refine Or.inr ⟨_, more, rfl, ?_⟩
      exact Scanned.next (by rw [hsearch, hnext']; rfl) hlt hmore

/-- **A match right here** that passes over something comes first. -/
theorem Scanned.here {r : Regex} {e : MatchState} {found : List Found} {rest : List Char}
    (hmatch : r.matchAt s = some e) (hlt : e.ahead.length < s.ahead.length)
    (h : Scanned r e found rest) :
    Scanned r s (⟨[], s.ahead.take (s.ahead.length - e.ahead.length), e.captures⟩ :: found)
      rest := by
  have hsearch : r.search s.before s.pos s.ahead = some ([], s.ahead, e) := by
    refine search_eq_some_iff.mpr ⟨rfl, ?_, fun _ _ _ hlt => absurd hlt (Nat.not_lt_zero _)⟩
    rwa [MatchState.after_nil rfl]
  exact .next hsearch hlt h

/-- Matches that come one after the other are found, if their number is not bounded too low. -/
theorem scanFrom_of_scanned {r : Regex} {found : List Found} {rest : List Char}
    (h : Scanned r s found rest) {fuel : Nat} (hfuel : s.ahead.length < fuel)
    (last : Option Nat) : r.scanFrom fuel last s = (found, rest) := by
  induction h generalizing fuel last with
  | @done s hnone =>
      obtain ⟨fuel, rfl⟩ := Nat.exists_eq_add_one_of_ne_zero (Nat.ne_zero_of_lt hfuel)
      rw [scanFrom, next?, hnone]
  | @next s e skipped here rest more hsome hlt _ ih =>
      obtain ⟨fuel, rfl⟩ := Nat.exists_eq_add_one_of_ne_zero (Nat.ne_zero_of_lt hfuel)
      have hlength := congrArg List.length (search_eq_some_iff.mp hsome).1
      rw [List.length_append] at hlength
      have hproper : ¬ (e.ahead.length = here.length ∧ some e.pos = last) := by omega
      rw [scanFrom, next?, hsome]
      dsimp only
      rw [if_neg hproper]
      dsimp only
      rw [ih (by omega)]

/-- **All matches** of a text, one after the other. -/
theorem scan_of_scanned {r : Regex} {text : List Char} {found : List Found} {rest : List Char}
    (h : Scanned r (.start text) found rest) : r.scan text = (found, rest) :=
  scanFrom_of_scanned h (show text.length < text.length + 2 by omega) none

/-- An expression leads over a text. -/
theorem exists_append_of_leads (r : Regex) {s s' : MatchState} (h : r.Leads s s') :
    ∃ text, s.ahead = text ++ s'.ahead := by
  induction r generalizing s s' with
  | empty =>
      cases h
      exact ⟨[], rfl⟩
  | set cs =>
      obtain ⟨c, ahead, hahead, -, rfl⟩ := h
      exact ⟨[c], hahead⟩
  | look a =>
      obtain ⟨-, rfl⟩ := h
      exact ⟨[], rfl⟩
  | seq a b iha ihb =>
      obtain ⟨m, hm, hs'⟩ := h
      obtain ⟨text, htext⟩ := iha hm
      obtain ⟨more, hmore⟩ := ihb hs'
      exact ⟨text ++ more, by rw [htext, hmore, List.append_assoc]⟩
  | alt a b iha ihb => exact h.elim iha ihb
  | rep min max greedy r ih =>
      obtain ⟨n, -, hrounds⟩ := h
      refine hrounds.invariant (P := fun m => ∃ text, s.ahead = text ++ m.ahead) ?_ ⟨[], rfl⟩
      rintro m m' hm ⟨text, htext⟩
      obtain ⟨more, hmore⟩ := ih hm
      exact ⟨text ++ more, by rw [htext, hmore, List.append_assoc]⟩
  | group index r ih =>
      obtain ⟨m, hm, rfl⟩ := h
      obtain ⟨text, htext⟩ := ih hm
      exact ⟨text, htext⟩

/-- A match that counts is a match at some place. -/
theorem exists_matchAt_of_next? {r : Regex} {last : Option Nat} {skipped here : List Char}
    {e : MatchState} (h : r.next? last s = some (skipped, here, e)) :
    s.ahead = skipped ++ here ∧ ∃ st, st.ahead = here ∧ r.matchAt st = some e := by
  rw [next?] at h
  split at h
  · cases h
  · rename_i skipped' here' e' hsearch
    split at h
    · split at h
      · cases h
      · rename_i c cs hahead
        obtain ⟨⟨skipped'', here'', e''⟩, hagain, heq⟩ := Option.map_eq_some_iff.mp h
        cases heq
        obtain ⟨hsplit, hmatch, -⟩ := (search_eq_some_iff (s := s.after [c] cs)).mp hagain
        rw [MatchState.ahead_after] at hsplit
        exact ⟨by rw [hahead, hsplit, List.cons_append], _, rfl, hmatch⟩
    · cases h
      obtain ⟨hsplit, hmatch, -⟩ := search_eq_some_iff.mp hsearch
      exact ⟨hsplit, _, rfl, hmatch⟩

/-- **Every match that is found** is a match at some place in the text. -/
theorem exists_matchAt_of_mem_scan {r : Regex} {text : List Char} {f : Found}
    (h : f ∈ (r.scan text).1) :
    ∃ before here st e, text = before ++ here ∧ st.ahead = here ∧ r.matchAt st = some e ∧
      f.captures = e.captures := by
  have hfrom : ∀ (fuel : Nat) (last : Option Nat) (s : MatchState),
      f ∈ (r.scanFrom fuel last s).1 → ∃ before here st e, s.ahead = before ++ here ∧
        st.ahead = here ∧ r.matchAt st = some e ∧ f.captures = e.captures := by
    intro fuel
    induction fuel with
    | zero => exact fun _ _ hmem => absurd hmem List.not_mem_nil
    | succ fuel ih =>
        intro last s hmem
        rw [scanFrom] at hmem
        split at hmem
        · exact absurd hmem List.not_mem_nil
        · rename_i skipped here e hnext
          obtain ⟨hsplit, st, hst, hmatch⟩ := exists_matchAt_of_next? hnext
          rcases List.mem_cons.mp hmem with rfl | hmore
          · exact ⟨skipped, here, st, e, hsplit, hst, hmatch, rfl⟩
          · obtain ⟨before, here', st', e', hahead, hst', hmatch', hcaptures⟩ := ih _ _ hmore
            obtain ⟨m, hm, heq⟩ := leads_of_run r _ _ _ hmatch
            cases heq
            obtain ⟨matched, hmatched⟩ := exists_append_of_leads r hm
            refine ⟨skipped ++ matched ++ before, here', st', e', ?_, hst', hmatch', hcaptures⟩
            rw [hsplit, ← hst, List.append_assoc, List.append_assoc, ← hahead]
            exact congrArg (skipped ++ ·) hmatched
  exact hfrom _ _ _ h

end Regex

end ApiGloss
