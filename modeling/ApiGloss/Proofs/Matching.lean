import ApiGloss.Field.Grammar

/-!
# What a Match Says

The matcher tries the ways to match an expression in order of preference, with a continuation
that decides which of them counts. What it finds is one of these ways. This module describes them
without regard to preference: an expression leads from one state of a match to another
(`Regex.Leads`), and whatever the matcher passes to its continuation is a state that the expression
leads to.

Facts about captured texts then follow by induction on the expression. A group around a run of
characters of a set captures a text of such characters, at least one; the types of declared fields
are captured so.

## Main results

* `Regex.leads_of_run`: the matcher passes on only what the expression leads to.
* `Regex.isRun_of_leads`: what a group around a run of characters captures.
* `FieldDecl.type_of_parse?`: the type of a declared field is a text of type characters.
-/

namespace ApiGloss

namespace Regex

/-! ### Ways to match -/

/-- So many rounds of a step, one after the other. -/
def Rounds (leads : MatchState → MatchState → Prop) : Nat → MatchState → MatchState → Prop
  | 0, s, s' => s' = s
  | n + 1, s, s' => ∃ m, leads s m ∧ Rounds leads n m s'

/-- An expression **leads** from one state to another. -/
def Leads : Regex → MatchState → MatchState → Prop
  | .empty, s, s' => s' = s
  | .set cs, s, s' => ∃ c ahead, s.ahead = c :: ahead ∧ cs.mem c = true ∧
      s' = { s with before := some c, ahead := ahead, pos := s.pos + 1 }
  | .look a, s, s' => a.holds s = true ∧ s' = s
  | .seq a b, s, s' => ∃ m, a.Leads s m ∧ b.Leads m s'
  | .alt a b, s, s' => a.Leads s s' ∨ b.Leads s s'
  | .rep min _ _ r, s, s' => ∃ n, min ≤ n ∧ Rounds (fun s s' => r.Leads s s') n s s'
  | .group index r, s, s' => ∃ m, r.Leads s m ∧ s' = m.capture index s

/-- Rounds after rounds. -/
theorem Rounds.append {leads : MatchState → MatchState → Prop} {a b : Nat}
    {s m s' : MatchState} (ha : Rounds leads a s m) (hb : Rounds leads b m s') :
    Rounds leads (a + b) s s' := by
  induction a generalizing s with
  | zero =>
      cases ha
      rwa [Nat.zero_add]
  | succ a ih =>
      obtain ⟨m₁, hstep, hrest⟩ := ha
      rw [Nat.add_right_comm]
      exact ⟨m₁, hstep, ih hrest⟩

/-- What one round keeps, all rounds keep. -/
theorem Rounds.invariant {leads : MatchState → MatchState → Prop} {P : MatchState → Prop}
    {n : Nat} {s s' : MatchState} (h : Rounds leads n s s')
    (hstep : ∀ s s', leads s s' → P s → P s') (hs : P s) : P s' := by
  induction n generalizing s with
  | zero =>
      cases h
      exact hs
  | succ n ih =>
      obtain ⟨m, hm, hrest⟩ := h
      exact ih hrest (hstep s m hm hs)

/-! ### The matcher takes one of the ways -/

section Steps

variable {β : Type} {step : (MatchState → Option β) → MatchState → Option β}
  {leads : MatchState → MatchState → Prop}

/-- A step **passes on** only states that it leads to. -/
def PassesOn (step : (MatchState → Option β) → MatchState → Option β)
    (leads : MatchState → MatchState → Prop) : Prop :=
  ∀ k s b, step k s = some b → ∃ s', leads s s' ∧ k s' = some b

/-- Of two continuations, one succeeds. -/
theorem prefer_eq_some {greedy : Bool} {more stop : Unit → Option β} {b : β}
    (h : prefer greedy more stop = some b) : more () = some b ∨ stop () = some b := by
  unfold prefer at h
  split at h
  · cases hmore : more () with
    | none =>
        rw [hmore] at h
        exact Or.inr h
    | some b' =>
        rw [hmore] at h
        exact Or.inl h
  · cases hstop : stop () with
    | none =>
        rw [hstop] at h
        exact Or.inl h
    | some b' =>
        rw [hstop] at h
        exact Or.inr h

/-- A number of rounds. -/
theorem rounds_of_copies (hstep : PassesOn step leads) {n : Nat} {k : MatchState → Option β}
    {s : MatchState} {b : β} (h : copies step n k s = some b) :
    ∃ s', Rounds leads n s s' ∧ k s' = some b := by
  induction n generalizing s with
  | zero => exact ⟨s, rfl, h⟩
  | succ n ih =>
      obtain ⟨m, hm, hrest⟩ := hstep _ _ _ h
      obtain ⟨s', hs', hk⟩ := ih hrest
      exact ⟨s', ⟨m, hm, hs'⟩, hk⟩

/-- A limited number of rounds. -/
theorem rounds_of_upTo (hstep : PassesOn step leads) {greedy : Bool} {limit : Nat}
    {k : MatchState → Option β} {s : MatchState} {b : β}
    (h : upTo step greedy limit k s = some b) :
    ∃ n s', Rounds leads n s s' ∧ k s' = some b := by
  induction limit generalizing s with
  | zero => exact ⟨0, s, rfl, h⟩
  | succ limit ih =>
      rcases prefer_eq_some h with hmore | hstop
      · obtain ⟨m, hm, hrest⟩ := hstep _ _ _ hmore
        obtain ⟨n, s', hs', hk⟩ := ih hrest
        exact ⟨n + 1, s', ⟨m, hm, hs'⟩, hk⟩
      · exact ⟨0, s, rfl, hstop⟩

/-- Any number of rounds. -/
theorem rounds_of_many (hstep : PassesOn step leads) {greedy : Bool} {fuel : Nat}
    {k : MatchState → Option β} {s : MatchState} {b : β}
    (h : many step greedy k fuel s = some b) :
    ∃ n s', Rounds leads n s s' ∧ k s' = some b := by
  induction fuel generalizing s with
  | zero => exact ⟨0, s, rfl, h⟩
  | succ fuel ih =>
      rcases prefer_eq_some h with hmore | hstop
      · obtain ⟨m, hm, hrest⟩ := hstep _ _ _ hmore
        split at hrest
        · cases hrest
        · obtain ⟨n, s', hs', hk⟩ := ih hrest
          exact ⟨n + 1, s', ⟨m, hm, hs'⟩, hk⟩
      · exact ⟨0, s, rfl, hstop⟩

/-- At least one round. -/
theorem rounds_of_atLeastOne (hstep : PassesOn step leads) {greedy : Bool}
    {k : MatchState → Option β} {s : MatchState} {b : β}
    (h : atLeastOne step greedy k s = some b) :
    ∃ n s', Rounds leads (n + 1) s s' ∧ k s' = some b := by
  obtain ⟨m, hm, hrest⟩ := hstep _ _ _ h
  split at hrest
  · exact ⟨0, m, ⟨m, hm, rfl⟩, hrest⟩
  · obtain ⟨n, s', hs', hk⟩ := rounds_of_many hstep hrest
    exact ⟨n, s', ⟨m, hm, hs'⟩, hk⟩

/-- **A repetition** takes at least as many rounds as it must. -/
theorem rounds_of_rounds (hstep : PassesOn step leads) {min : Nat} {max : Option Nat}
    {greedy : Bool} {k : MatchState → Option β} {s : MatchState} {b : β}
    (h : rounds step min max greedy k s = some b) :
    ∃ n s', min ≤ n ∧ Rounds leads n s s' ∧ k s' = some b := by
  unfold rounds at h
  split at h
  · obtain ⟨m, hm, hrest⟩ := rounds_of_copies hstep h
    obtain ⟨n, s', hs', hk⟩ := rounds_of_upTo hstep hrest
    exact ⟨min + n, s', Nat.le_add_right _ _, hm.append hs', hk⟩
  · rcases prefer_eq_some h with hmore | hstop
    · obtain ⟨n, s', hs', hk⟩ := rounds_of_atLeastOne hstep hmore
      exact ⟨n + 1, s', Nat.zero_le _, hs', hk⟩
    · exact ⟨0, s, Nat.le_refl _, rfl, hstop⟩
  · rename_i n
    obtain ⟨m, hm, hrest⟩ := rounds_of_copies hstep h
    obtain ⟨more, s', hs', hk⟩ := rounds_of_atLeastOne hstep hrest
    exact ⟨n + (more + 1), s', by omega, hm.append hs', hk⟩

end Steps

/-- **The matcher passes on** only what the expression leads to. -/
theorem leads_of_run {β : Type} (r : Regex) :
    PassesOn (fun (k : MatchState → Option β) s => r.run k s) r.Leads := by
  induction r with
  | empty => exact fun k s b h => ⟨s, rfl, h⟩
  | set cs =>
      intro k s b h
      simp only [run] at h
      split at h
      · cases h
      · rename_i c ahead hahead
        split at h
        · rename_i hmem
          exact ⟨_, ⟨c, ahead, hahead, hmem, rfl⟩, h⟩
        · cases h
  | look a =>
      intro k s b h
      simp only [run] at h
      split at h
      · rename_i hholds
        exact ⟨s, ⟨hholds, rfl⟩, h⟩
      · cases h
  | seq a b iha ihb =>
      intro k s out h
      obtain ⟨m, hm, hrest⟩ := iha _ _ _ h
      obtain ⟨s', hs', hk⟩ := ihb _ _ _ hrest
      exact ⟨s', ⟨m, hm, hs'⟩, hk⟩
  | alt a b iha ihb =>
      intro k s out h
      simp only [run] at h
      cases ha : a.run k s with
      | none =>
          rw [ha] at h
          obtain ⟨s', hs', hk⟩ := ihb _ _ _ h
          exact ⟨s', Or.inr hs', hk⟩
      | some out' =>
          rw [ha] at h
          cases h
          obtain ⟨s', hs', hk⟩ := iha _ _ _ ha
          exact ⟨s', Or.inl hs', hk⟩
  | rep min max greedy r ih =>
      intro k s b h
      obtain ⟨n, s', hmin, hs', hk⟩ := rounds_of_rounds ih h
      exact ⟨s', ⟨n, hmin, hs'⟩, hk⟩
  | group index r ih =>
      intro k s b h
      obtain ⟨m, hm, hk⟩ := ih _ _ _ h
      exact ⟨_, ⟨m, hm, rfl⟩, hk⟩

/-- A match that is found starts from a state without captures. -/
theorem leads_of_find? {r : Regex} {text : List Char} {m : MatchState}
    (h : r.find? text = some m) : ∃ s, s.captures = [] ∧ r.Leads s m := by
  obtain ⟨⟨skipped, here, e⟩, hsearch, rfl⟩ := Option.map_eq_some_iff.mp h
  clear h
  have hat : ∀ s, r.matchAt s = some e → ∃ s, s.captures = [] ∧ r.Leads s e := by
    intro s hs
    obtain ⟨s', hs', hk⟩ := leads_of_run r _ _ _ hs
    cases hk
    exact ⟨_, rfl, hs'⟩
  generalize none = before at hsearch
  generalize 0 = pos at hsearch
  induction text generalizing before pos skipped with
  | nil =>
      obtain ⟨e', he', heq⟩ := Option.map_eq_some_iff.mp hsearch
      cases heq
      exact hat _ he'
  | cons c cs ih =>
      rw [search] at hsearch
      split at hsearch
      · rename_i he'
        cases hsearch
        exact hat _ he'
      · obtain ⟨⟨skipped', rest⟩, hrest, heq⟩ := Option.map_eq_some_iff.mp hsearch
        cases heq
        exact ih _ _ _ hrest

/-! ### Groups around runs of characters -/

/-- A text is a **run** of characters of a set, with at least one of them. -/
def IsRun (cs : CharSet) (text : List Char) : Prop :=
  text ≠ [] ∧ ∀ c ∈ text, cs.mem c = true

/-- Whether every group of a number stands around a given expression. -/
def groupIs (index : Nat) (body : Regex) : Regex → Bool
  | .empty | .set _ | .look _ => true
  | .seq a b | .alt a b => groupIs index body a && groupIs index body b
  | .rep _ _ _ r => groupIs index body r
  | .group i r => if i = index then r == body else groupIs index body r

/-- Rounds of single characters pass over a text of these characters and capture nothing. -/
theorem text_of_rounds {cs : CharSet} {n : Nat} {s s' : MatchState}
    (h : Rounds (fun s s' => (Regex.set cs).Leads s s') n s s') :
    ∃ text, text.length = n ∧ (∀ c ∈ text, cs.mem c = true) ∧ s.ahead = text ++ s'.ahead ∧
      s'.pos = s.pos + n ∧ s'.captures = s.captures := by
  induction n generalizing s with
  | zero =>
      cases h
      exact ⟨[], rfl, nofun, rfl, rfl, rfl⟩
  | succ n ih =>
      obtain ⟨_, ⟨c, ahead, hahead, hmem, rfl⟩, hrest⟩ := h
      obtain ⟨text, hlength, htext, hsplit, hpos, hcaptures⟩ := ih hrest
      refine ⟨c :: text, by rw [List.length_cons, hlength],
        List.forall_mem_cons.mpr ⟨hmem, htext⟩, ?_, ?_, hcaptures⟩
      · rw [hahead, List.cons_append, ← hsplit]
      · rw [hpos]
        exact Nat.add_right_comm _ _ _

/-- A run of characters that is captured. -/
theorem isRun_capture {cs : CharSet} {s m : MatchState} (h : (plus (.set cs)).Leads s m) :
    IsRun cs (s.ahead.take (m.pos - s.pos)) ∧ m.captures = s.captures := by
  obtain ⟨n, hn, hrounds⟩ := h
  obtain ⟨text, hlength, htext, hsplit, hpos, hcaptures⟩ := text_of_rounds hrounds
  have hlen : m.pos - s.pos = text.length := by omega
  rw [hsplit, hlen, List.take_left]
  refine ⟨⟨?_, htext⟩, hcaptures⟩
  rintro rfl
  rw [List.length_nil] at hlength
  omega

/-- All texts that groups of a number have captured are runs. -/
def CapturesRuns (index : Nat) (cs : CharSet) (s : MatchState) : Prop :=
  ∀ e ∈ s.captures, e.1 = index → IsRun cs e.2

/-- **A group around a run of characters** captures runs. -/
theorem isRun_of_leads {index : Nat} {cs : CharSet} (r : Regex)
    (hr : groupIs index (plus (.set cs)) r = true) {s s' : MatchState} (h : r.Leads s s')
    (hs : CapturesRuns index cs s) : CapturesRuns index cs s' := by
  induction r generalizing s s' with
  | empty =>
      cases h
      exact hs
  | set _ =>
      obtain ⟨c, ahead, -, -, rfl⟩ := h
      exact hs
  | look a =>
      obtain ⟨-, rfl⟩ := h
      exact hs
  | seq a b iha ihb =>
      obtain ⟨ha, hb⟩ := Bool.and_eq_true_iff.mp hr
      obtain ⟨m, hm, hs'⟩ := h
      exact ihb hb hs' (iha ha hm hs)
  | alt a b iha ihb =>
      obtain ⟨ha, hb⟩ := Bool.and_eq_true_iff.mp hr
      exact h.elim (fun h => iha ha h hs) fun h => ihb hb h hs
  | rep min max greedy r ih =>
      obtain ⟨n, -, hrounds⟩ := h
      exact hrounds.invariant (fun _ _ hm => ih hr hm) hs
  | group i r ih =>
      obtain ⟨m, hm, rfl⟩ := h
      rw [groupIs] at hr
      split at hr
      · obtain rfl := eq_of_beq hr
        obtain ⟨hrun, hcaptures⟩ := isRun_capture hm
        refine List.forall_mem_cons.mpr ⟨fun _ => hrun, ?_⟩
        rw [hcaptures]
        exact hs
      · rename_i hi
        exact List.forall_mem_cons.mpr ⟨fun heq => absurd heq hi, ih hr hm hs⟩

/-- What a group around a run of characters has captured when a match is found. -/
theorem isRun_of_find? {index : Nat} {cs : CharSet} {r : Regex}
    (hr : groupIs index (plus (.set cs)) r = true) {text captured : List Char} {m : MatchState}
    (h : r.find? text = some m) (hcaptured : m.group? index = some captured) :
    IsRun cs captured := by
  obtain ⟨s, hempty, hleads⟩ := leads_of_find? h
  have hstart : CapturesRuns index cs s := by
    intro e he
    rw [hempty] at he
    cases he
  have hmem : (index, captured) ∈ m.captures := by
    obtain ⟨earlier, later, heq, -⟩ := List.lookup_eq_some_iff.mp hcaptured
    rw [heq]
    exact List.mem_append_right _ List.mem_cons_self
  exact isRun_of_leads r hr hleads hstart _ hmem rfl

end Regex

namespace FieldDecl

/-- **The type of a declared field** is a text of type characters, with at least one of them. -/
theorem type_of_parse? {content defaultGroup : String} {d : FieldDecl}
    (h : parse? content defaultGroup = some d) {type : String} (htype : d.type = some type) :
    type ≠ "" ∧ ∀ c ∈ type.toList, typeChars.mem c = true := by
  obtain ⟨m, hm, rfl⟩ := Option.map_eq_some_iff.mp h
  obtain ⟨captured, hcaptured, rfl⟩ := Option.map_eq_some_iff.mp htype
  have hgroup : Regex.groupIs 2 (Regex.plus (.set typeChars)) expression = true := by decide
  obtain ⟨hne, hmem⟩ := Regex.isRun_of_find? hgroup hm hcaptured
  rw [String.toList_ofList]
  refine ⟨fun hempty => hne ?_, hmem⟩
  have hlist := congrArg String.toList hempty
  rwa [String.toList_ofList] at hlist

end FieldDecl

end ApiGloss
