import Mathlib.Data.List.Infix
import Mathlib.Data.List.Nodup

/-!
# Breadth-First Order

The names that a list of roots leads to, when every name refers to a list of further names,
and the order in which a breadth-first search meets them. Nothing here is a search: the order
is given by rounds. Round zero holds the roots, each at its first mention; every further round
reads the roots and then the references of all names of the round before, in order, and again
keeps first mentions. A name that is `k` references away is therefore met in round `k`, behind
all names that are nearer.

## Main results

* `foldl_eq_append_firsts`: a run that adds what is new at the end, step by step.
* `reachedWithin_isPrefix`: a round only adds names at the end of the one before.
* `IsBreadthFirst.unique`: there is at most one breadth-first order.
* `isBreadthFirst_of_fixpoint`: a list that a further round leaves as it is, and that holds
  reachable names only, is the breadth-first order. This is how a work list is recognised.
-/

namespace ApiGloss.Search

variable {α : Type} [DecidableEq α]

/-! ### First mentions -/

/-- The items of a list that are not in `seen`, each where it stands first. -/
def firsts (seen : List α) : List α → List α
  | [] => []
  | a :: rest => if a ∈ seen then firsts seen rest else a :: firsts (a :: seen) rest

/-- First mentions are the items that were not seen before. -/
theorem mem_firsts {a : α} {seen l : List α} : a ∈ firsts seen l ↔ a ∈ l ∧ a ∉ seen := by
  induction l generalizing seen with
  | nil => simp [firsts]
  | cons b rest ih =>
      rw [firsts]
      split
      · rename_i hb
        rw [ih, List.mem_cons]
        refine ⟨fun ⟨h, hs⟩ => ⟨Or.inr h, hs⟩, ?_⟩
        rintro ⟨rfl | h, hs⟩
        · exact absurd hb hs
        · exact ⟨h, hs⟩
      · rename_i hb
        rw [List.mem_cons, ih, List.mem_cons, List.mem_cons]
        by_cases hab : a = b
        · subst hab
          simp [hb]
        · simp [hab]

/-- No item is a first mention twice. -/
theorem nodup_firsts (seen l : List α) : (firsts seen l).Nodup := by
  induction l generalizing seen with
  | nil => exact List.nodup_nil
  | cons b rest ih =>
      rw [firsts]
      split
      · exact ih seen
      · refine List.nodup_cons.mpr ⟨fun h => ?_, ih _⟩
        exact (mem_firsts.mp h).2 List.mem_cons_self

/-- Reading on adds first mentions at the end. -/
theorem firsts_isPrefix (seen : List α) {l₁ l₂ : List α} (h : l₁ <+: l₂) :
    firsts seen l₁ <+: firsts seen l₂ := by
  obtain ⟨more, rfl⟩ := h
  induction l₁ generalizing seen with
  | nil => exact List.nil_prefix
  | cons a rest ih =>
      rw [List.cons_append, firsts, firsts]
      split
      · exact ih seen
      · exact List.cons_prefix_cons.mpr ⟨rfl, ih _⟩

/-- In which order items were seen does not matter. -/
theorem firsts_congr {seen seen' : List α} (h : ∀ a, a ∈ seen ↔ a ∈ seen') (l : List α) :
    firsts seen l = firsts seen' l := by
  induction l generalizing seen seen' with
  | nil => rfl
  | cons b rest ih =>
      have hnext : ∀ a, a ∈ b :: seen ↔ a ∈ b :: seen' := by
        intro a
        rw [List.mem_cons, List.mem_cons, h a]
      simp only [firsts, h b, ih h, ih hnext]

/-- First mentions of one list and then of another one. -/
theorem firsts_append (seen l₁ l₂ : List α) :
    firsts seen (l₁ ++ l₂) = firsts seen l₁ ++ firsts (seen ++ firsts seen l₁) l₂ := by
  induction l₁ generalizing seen with
  | nil => simp only [firsts, List.nil_append, List.append_nil]
  | cons b rest ih =>
      simp only [List.cons_append, firsts]
      split
      · exact ih seen
      · rw [ih, List.cons_append]
        refine congrArg (fun l => b :: (_ ++ l)) (firsts_congr (fun a => ?_) l₂)
        simp only [List.mem_append, List.mem_cons, or_left_comm]

/-- **A run that adds what is new** at the end, step by step, has added the first mentions of all
that its steps were given. -/
theorem foldl_eq_append_firsts {σ β : Type} (view : σ → List α) {step : σ → β → σ}
    {items : β → List α}
    (hstep : ∀ s b, view (step s b) = view s ++ firsts (view s) (items b)) (s : σ) (bs : List β) :
    view (bs.foldl step s) = view s ++ firsts (view s) (bs.flatMap items) := by
  induction bs generalizing s with
  | nil => exact (List.append_nil _).symm
  | cons b bs ih =>
      rw [List.foldl_cons, ih, hstep, List.flatMap_cons, firsts_append, List.append_assoc]

/-- What was seen before is not mentioned again. -/
theorem firsts_eq_nil {seen l : List α} (h : ∀ a ∈ l, a ∈ seen) : firsts seen l = [] := by
  refine List.eq_nil_iff_forall_not_mem.mpr fun a ha => ?_
  obtain ⟨hmem, hnew⟩ := mem_firsts.mp ha
  exact hnew (h a hmem)

/-- Only one item is mentioned. -/
theorem firsts_eq_singleton {seen l : List α} {a : α} (hne : l ≠ []) (hl : ∀ b ∈ l, b = a)
    (hnew : a ∉ seen) : firsts seen l = [a] := by
  obtain ⟨b, rest, rfl⟩ := List.exists_cons_of_ne_nil hne
  obtain ⟨rfl, hrest⟩ := List.forall_mem_cons.mp hl
  rw [firsts, if_neg hnew, firsts_eq_nil fun c hc => hrest c hc ▸ List.mem_cons_self]

/-- Every item of a list is mentioned for a while, and then the next one. -/
theorem firsts_flatMap {seen names : List α} (hnodup : names.Nodup)
    (hnew : ∀ a ∈ names, a ∉ seen) {f : α → List α} (hne : ∀ a ∈ names, f a ≠ [])
    (hf : ∀ a, ∀ b ∈ f a, b = a) : firsts seen (names.flatMap f) = names := by
  induction names generalizing seen with
  | nil => rfl
  | cons a rest ih =>
      obtain ⟨ha, hrest⟩ := List.nodup_cons.mp hnodup
      obtain ⟨hanew, hrestnew⟩ := List.forall_mem_cons.mp hnew
      obtain ⟨hane, hrestne⟩ := List.forall_mem_cons.mp hne
      rw [List.flatMap_cons, firsts_append, firsts_eq_singleton hane (hf a) hanew,
        ih hrest ?_ hrestne, List.singleton_append]
      intro b hb hseen
      rcases List.mem_append.mp hseen with hseen | hseen
      · exact hrestnew b hb hseen
      · exact ha (List.mem_singleton.mp hseen ▸ hb)

/-- First mentions under another name for every item. -/
theorem firsts_map {β : Type} [DecidableEq β] {f : α → β} (hf : Function.Injective f)
    (seen l : List α) : firsts (seen.map f) (l.map f) = (firsts seen l).map f := by
  induction l generalizing seen with
  | nil => rfl
  | cons a rest ih =>
      simp only [List.map_cons, firsts, List.mem_map_of_injective hf]
      split
      · exact ih seen
      · rw [List.map_cons, ← ih, List.map_cons]

/-- What was seen does not matter if it is not mentioned. -/
theorem firsts_of_disjoint {seen l : List α} (h : ∀ a ∈ l, a ∉ seen) :
    firsts seen l = firsts [] l := by
  have hmore : ∀ more : List α, firsts (more ++ seen) l = firsts more l := by
    induction l with
    | nil => exact fun _ => rfl
    | cons a rest ih =>
        obtain ⟨ha, hrest⟩ := List.forall_mem_cons.mp h
        intro more
        simp only [firsts, List.mem_append, ha, or_false]
        rw [ih hrest, ← ih hrest (a :: more), List.cons_append]
  exact hmore []

/-! ### Reachable names and rounds -/

variable (roots : List α) (next : α → List α)

/-- **Reachable**: a root, or referred to by something reachable. -/
inductive Reachable : α → Prop
  | root {a : α} : a ∈ roots → Reachable a
  | step {a b : α} : Reachable a → b ∈ next a → Reachable b

/-- The names **reached within** `k` references, in the order in which they are met. -/
def reachedWithin : Nat → List α
  | 0 => firsts [] roots
  | k + 1 => firsts [] (roots ++ (reachedWithin k).flatMap next)

/-- A list is the **breadth-first order** if it holds exactly the reachable names, and is one
of the rounds. -/
structure IsBreadthFirst (order : List α) : Prop where
  mem_iff : ∀ a, a ∈ order ↔ Reachable roots next a
  round : ∃ k, order = reachedWithin roots next k

variable {roots next}

/-- A round holds no name twice. -/
theorem nodup_reachedWithin (k : Nat) : (reachedWithin roots next k).Nodup := by
  cases k with
  | zero => exact nodup_firsts _ _
  | succ k => exact nodup_firsts _ _

/-- **A round extends the one before**: it only adds names at the end. -/
theorem reachedWithin_isPrefix (k : Nat) :
    reachedWithin roots next k <+: reachedWithin roots next (k + 1) := by
  induction k with
  | zero => exact firsts_isPrefix [] (List.prefix_append _ _)
  | succ k ih =>
      obtain ⟨more, hmore⟩ := ih
      refine firsts_isPrefix [] ?_
      rw [← hmore, List.flatMap_append, ← List.append_assoc]
      exact List.prefix_append _ _

/-- Later rounds extend earlier ones. -/
theorem reachedWithin_isPrefix_of_le {k m : Nat} (h : k ≤ m) :
    reachedWithin roots next k <+: reachedWithin roots next m := by
  induction h with
  | refl => exact List.prefix_rfl
  | step _ ih => exact ih.trans (reachedWithin_isPrefix _)

omit [DecidableEq α] in
/-- Prefix-related lists of distinct items with the same members are equal. -/
theorem eq_of_isPrefix_of_mem_iff {l₁ l₂ : List α} (hp : l₁ <+: l₂) (h₁ : l₁.Nodup)
    (h₂ : l₂.Nodup) (hmem : ∀ a, a ∈ l₁ ↔ a ∈ l₂) : l₁ = l₂ :=
  hp.eq_of_length ((List.perm_ext_iff_of_nodup h₁ h₂).mpr hmem).length_eq

/-- The names of a breadth-first order are distinct. -/
theorem IsBreadthFirst.nodup {order : List α} (h : IsBreadthFirst roots next order) :
    order.Nodup := by
  obtain ⟨k, rfl⟩ := h.round
  exact nodup_reachedWithin k

/-- **There is at most one breadth-first order.** -/
theorem IsBreadthFirst.unique {l₁ l₂ : List α} (h₁ : IsBreadthFirst roots next l₁)
    (h₂ : IsBreadthFirst roots next l₂) : l₁ = l₂ := by
  have hmem : ∀ a, a ∈ l₁ ↔ a ∈ l₂ := fun a => (h₁.mem_iff a).trans (h₂.mem_iff a).symm
  have hnd₁ := h₁.nodup
  have hnd₂ := h₂.nodup
  obtain ⟨k₁, rfl⟩ := h₁.round
  obtain ⟨k₂, rfl⟩ := h₂.round
  rcases Nat.le_total k₁ k₂ with hle | hle
  · exact eq_of_isPrefix_of_mem_iff (reachedWithin_isPrefix_of_le hle) hnd₁ hnd₂ hmem
  · exact (eq_of_isPrefix_of_mem_iff (reachedWithin_isPrefix_of_le hle) hnd₂ hnd₁
      fun a => (hmem a).symm).symm

/-! ### Changing the roots -/

omit [DecidableEq α] in
/-- A further root takes nothing away. -/
theorem Reachable.cons {a b : α} (h : Reachable roots next b) : Reachable (a :: roots) next b := by
  induction h with
  | root hr => exact Reachable.root (List.mem_cons_of_mem _ hr)
  | step _ hb ih => exact Reachable.step ih hb

omit [DecidableEq α] in
/-- Replacing a root by the names it refers to adds nothing. -/
theorem Reachable.of_advance {a b : α} (h : Reachable (roots ++ next a) next b) :
    Reachable (a :: roots) next b := by
  induction h with
  | root hr =>
      rcases List.mem_append.mp hr with hr | hr
      · exact Reachable.root (List.mem_cons_of_mem _ hr)
      · exact Reachable.step (Reachable.root List.mem_cons_self) hr
  | step _ hb ih => exact Reachable.step ih hb

/-! ### Recognising the order -/

omit [DecidableEq α] in
/-- What is closed under references and holds the roots holds everything reachable. -/
theorem Reachable.mem_of_closed {s : List α} (hroots : ∀ a ∈ roots, a ∈ s)
    (hnext : ∀ a ∈ s, ∀ b ∈ next a, b ∈ s) {a : α} (h : Reachable roots next a) : a ∈ s := by
  induction h with
  | root hr => exact hroots _ hr
  | step _ hb ih => exact hnext _ ih _ hb

/-- A list that a further round leaves as it is holds everything reachable. -/
theorem mem_of_fixpoint {l : List α} (hfix : l = firsts [] (roots ++ l.flatMap next)) {a : α}
    (h : Reachable roots next a) : a ∈ l := by
  refine h.mem_of_closed ?_ ?_
  · intro b hb
    rw [hfix, mem_firsts]
    exact ⟨List.mem_append_left _ hb, List.not_mem_nil⟩
  · intro b hb c hc
    rw [hfix, mem_firsts]
    exact ⟨List.mem_append_right _ (List.mem_flatMap.mpr ⟨b, hb, hc⟩), List.not_mem_nil⟩

/-- Every round is a beginning of a list that a further round leaves as it is. -/
theorem reachedWithin_isPrefix_fixpoint {l : List α}
    (hfix : l = firsts [] (roots ++ l.flatMap next)) (k : Nat) :
    reachedWithin roots next k <+: l := by
  induction k with
  | zero =>
      rw [hfix]
      exact firsts_isPrefix [] (List.prefix_append _ _)
  | succ k ih =>
      obtain ⟨more, hmore⟩ := ih
      rw [hfix]
      refine firsts_isPrefix [] ?_
      rw [← hmore, List.flatMap_append, ← List.append_assoc]
      exact List.prefix_append _ _

/-- Each round adds a name, until one is complete. -/
theorem le_length_or_eq_fixpoint {l : List α} (hfix : l = firsts [] (roots ++ l.flatMap next))
    (hsound : ∀ a ∈ l, Reachable roots next a) (k : Nat) :
    k ≤ (reachedWithin roots next k).length ∨ reachedWithin roots next k = l := by
  have hnd : l.Nodup := hfix ▸ nodup_firsts _ _
  induction k with
  | zero => exact Or.inl (Nat.zero_le _)
  | succ k ih =>
      have hgrow : reachedWithin roots next k <+: reachedWithin roots next (k + 1) :=
        reachedWithin_isPrefix k
      by_cases hstop : reachedWithin roots next k = reachedWithin roots next (k + 1)
      · -- a round that adds nothing is closed, so that it holds everything reachable
        refine Or.inr ?_
        rw [← hstop]
        refine eq_of_isPrefix_of_mem_iff (reachedWithin_isPrefix_fixpoint hfix k)
          (nodup_reachedWithin k) hnd fun a => ⟨?_, fun ha => ?_⟩
        · exact fun ha => (reachedWithin_isPrefix_fixpoint hfix k).mem ha
        · exact mem_of_fixpoint hstop (hsound a ha)
      · have hlt : (reachedWithin roots next k).length
            < (reachedWithin roots next (k + 1)).length :=
          lt_of_le_of_ne hgrow.length_le fun hlen => hstop (hgrow.eq_of_length hlen)
        rcases ih with hle | heq
        · exact Or.inl (by omega)
        · have hle := (reachedWithin_isPrefix_fixpoint hfix (k + 1)).length_le
          rw [heq] at hlt
          omega

/-- **A list of reachable names that a further round leaves as it is** is the breadth-first
order. -/
theorem isBreadthFirst_of_fixpoint {l : List α}
    (hfix : l = firsts [] (roots ++ l.flatMap next))
    (hsound : ∀ a ∈ l, Reachable roots next a) : IsBreadthFirst roots next l := by
  refine ⟨fun a => ⟨hsound a, mem_of_fixpoint hfix⟩, l.length + 1, ?_⟩
  rcases le_length_or_eq_fixpoint hfix hsound (l.length + 1) with hle | heq
  · have := (reachedWithin_isPrefix_fixpoint hfix (l.length + 1)).length_le
    omega
  · exact heq.symm

end ApiGloss.Search
