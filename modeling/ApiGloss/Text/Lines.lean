/-!
# Lines and Simple Replacement

Cutting a text at a separator, putting the pieces together again, and replacing fixed
pieces of text. `Chars.join_split` says that cutting loses nothing, and `Chars.split_join` that
pieces without the separator are found again.
-/

namespace ApiGloss

namespace Chars

/-- Cuts a text at every occurrence of `sep`; there is always at least one piece. -/
def split (sep : Char) : List Char → List (List Char)
  | [] => [[]]
  | c :: cs =>
    if c = sep then [] :: split sep cs
    else match split sep cs with
      | [] => [[c]]
      | piece :: pieces => (c :: piece) :: pieces

/-- Puts pieces together with `sep` between them. -/
def join (sep : Char) (pieces : List (List Char)) : List Char :=
  [sep].intercalate pieces

/-- The lines of a text. -/
def lines (s : List Char) : List (List Char) :=
  split '\n' s

/-- The text with the given lines. -/
def unlines (ls : List (List Char)) : List Char :=
  join '\n' ls

/-- Cuts a text at the first character with property `p`, which is dropped. -/
def splitOnce (p : Char → Bool) (s : List Char) : Option (List Char × List Char) :=
  match s.dropWhile (fun c => !p c) with
  | [] => none
  | _ :: after => some (s.takeWhile (fun c => !p c), after)

/-- Replaces every occurrence of `old`, from the left, by `new`. An empty `old` changes
nothing. -/
def replace (old new : List Char) (s : List Char) : List Char :=
  if old = [] then s else go s 0
where
  /-- Skips `n` characters of an occurrence already replaced, then goes on replacing. -/
  go : List Char → Nat → List Char
    | [], _ => []
    | _ :: cs, n + 1 => go cs n
    | c :: cs, 0 =>
      if old.isPrefixOf (c :: cs) then new ++ go cs (old.length - 1) else c :: go cs 0

/-- Whether `piece` occurs in a text. -/
def contains (piece : List Char) : List Char → Bool
  | [] => piece.isEmpty
  | c :: cs => piece.isPrefixOf (c :: cs) || contains piece cs

/-- Writes every line break as a single `\n`. -/
def unifyBreaks : List Char → List Char
  | [] => []
  | '\r' :: '\n' :: cs => '\n' :: unifyBreaks cs
  | c :: cs => c :: unifyBreaks cs

/-- What is no carriage return stays where it is. -/
theorem unifyBreaks_cons {c : Char} (h : c ≠ '\r') (cs : List Char) :
    unifyBreaks (c :: cs) = c :: unifyBreaks cs := by
  rw [unifyBreaks]
  exact fun _ hc => absurd hc h

/-- Cutting never leaves an empty list of pieces. -/
theorem split_ne_nil (sep : Char) (s : List Char) : split sep s ≠ [] := by
  cases s with
  | nil => simp [split]
  | cons c cs =>
    unfold split
    split
    · simp
    · split <;> simp

/-- **Cutting loses nothing**: the pieces joined by the separator are the text. -/
theorem join_split (sep : Char) (s : List Char) : join sep (split sep s) = s := by
  induction s with
  | nil => simp [split, join, List.intercalate]
  | cons c cs ih =>
    unfold split
    by_cases h : c = sep
    · subst h
      simp only [if_pos]
      generalize hp : split c cs = pieces at ih
      cases pieces with
      | nil => exact absurd hp (split_ne_nil _ _)
      | cons p ps => simpa [join, List.intercalate] using ih
    · simp only [h, if_neg, not_false_eq_true]
      generalize hp : split sep cs = pieces at ih
      cases pieces with
      | nil => exact absurd hp (split_ne_nil _ _)
      | cons p ps =>
        cases ps <;> simp_all [join, List.intercalate]

/-- The pieces put together, each but the first behind a separator. -/
theorem join_cons (sep : Char) (piece : List Char) (pieces : List (List Char)) :
    join sep (piece :: pieces) = piece ++ pieces.flatMap (sep :: ·) := by
  induction pieces generalizing piece with
  | nil => simp [join, List.intercalate]
  | cons next pieces ih =>
      have hnext := ih next
      simp only [join, List.intercalate] at hnext ⊢
      simp [hnext]

/-- A text without the separator is one piece. -/
theorem split_of_not_mem {sep : Char} {s : List Char} (h : sep ∉ s) : split sep s = [s] := by
  induction s with
  | nil => rfl
  | cons c cs ih =>
      have hc : ¬ c = sep := fun heq => h (heq ▸ List.mem_cons_self)
      rw [split, if_neg hc, ih fun hmem => h (List.mem_cons_of_mem _ hmem)]

/-- A piece ends at the separator. -/
theorem split_append {sep : Char} {a : List Char} (h : sep ∉ a) (b : List Char) :
    split sep (a ++ sep :: b) = a :: split sep b := by
  induction a with
  | nil => rw [List.nil_append, split, if_pos rfl]
  | cons c cs ih =>
      have hc : ¬ c = sep := fun heq => h (heq ▸ List.mem_cons_self)
      rw [List.cons_append, split, if_neg hc, ih fun hmem => h (List.mem_cons_of_mem _ hmem)]

/-- No piece holds the separator. -/
theorem not_mem_of_mem_split {sep : Char} {s piece : List Char} (h : piece ∈ split sep s) :
    sep ∉ piece := by
  induction s generalizing piece with
  | nil =>
      obtain rfl := List.mem_singleton.mp h
      exact List.not_mem_nil
  | cons c cs ih =>
      rw [split] at h
      split at h
      · rcases List.mem_cons.mp h with rfl | h
        · exact List.not_mem_nil
        · exact ih h
      · rename_i hc
        split at h
        · obtain rfl := List.mem_singleton.mp h
          exact fun hmem => hc (List.mem_singleton.mp hmem).symm
        · rename_i first pieces hsplit
          rcases List.mem_cons.mp h with rfl | h
          · intro hmem
            rcases List.mem_cons.mp hmem with heq | hmem
            · exact hc heq.symm
            · exact ih (hsplit ▸ List.mem_cons_self) hmem
          · exact ih (hsplit ▸ List.mem_cons_of_mem _ h)

/-- Pieces without the separator are found again when they are put together and cut. -/
theorem split_join {sep : Char} {pieces : List (List Char)} (hne : pieces ≠ [])
    (h : ∀ piece ∈ pieces, sep ∉ piece) : split sep (join sep pieces) = pieces := by
  induction pieces with
  | nil => exact absurd rfl hne
  | cons piece pieces ih =>
      obtain ⟨hpiece, hrest⟩ := List.forall_mem_cons.mp h
      cases pieces with
      | nil =>
          rw [join_cons, List.flatMap_nil, List.append_nil]
          exact split_of_not_mem hpiece
      | cons next pieces =>
          have hjoin : join sep (piece :: next :: pieces) =
              piece ++ sep :: join sep (next :: pieces) := by
            rw [join_cons, join_cons, List.flatMap_cons, List.cons_append]
          rw [hjoin, split_append hpiece, ih (List.cons_ne_nil _ _) hrest]

end Chars

namespace Text

/-- Replaces every occurrence of `old`, from the left, by `new`. -/
def replace (old new s : String) : String :=
  String.ofList (Chars.replace old.toList new.toList s.toList)

/-- Cuts a text at the first character with property `p`, which is dropped. -/
def splitOnce (p : Char → Bool) (s : String) : Option (String × String) :=
  (Chars.splitOnce p s.toList).map fun (a, b) => (String.ofList a, String.ofList b)

/-- Cuts a text at every occurrence of `sep`. -/
def split (sep : Char) (s : String) : List String :=
  (Chars.split sep s.toList).map String.ofList

/-- Puts texts together with `sep` between them. -/
def join (sep : String) (pieces : List String) : String :=
  String.ofList (sep.toList.intercalate (pieces.map String.toList))

end Text

end ApiGloss
