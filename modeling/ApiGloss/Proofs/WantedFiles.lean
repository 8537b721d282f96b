import ApiGloss.Files.Discovery
import ApiGloss.Proofs.FileTrees
import ApiGloss.Proofs.Outcome

/-!
# Which Files a Search Lists

A search walks through a tree and passes over whole directories: hidden ones, build output, and
those that a rejecting pattern matches. Whether a file is listed can be said without the walk, by
the names that lead to it from the root, its **route**: an accepting pattern matches the path of
these names, no rejecting pattern matches it or the path of a first part of the names, and no name
but the last is that of a directory which is never entered (`Discovery.Wanted`).

The walk goes depth first through the entries of each directory in the order of their names. Of two
files the one comes first whose name comes first where their routes part (`Discovery.Before`).
Routes in this order are determined by which ones they are (`Discovery.Listing.unique`). So it is of
no consequence in which order the tree lists the entries of its directories.

What the texts of patterns mean is left open. All that is said here holds for every compiler of
patterns; whether the texts compile at all is a condition of its own (`Discovery.Compiles`).

## Main results

* `Discovery.wants_directory_iff`: what one step of the walk into a directory does.
* `Discovery.listing_filesBelow`: the walk through a directory lists the wanted files in order.
* `Discovery.exists_withPatterns_iff`: when there is a search with patterns.
* `Discovery.scan_lists_wanted`: what a search with patterns finds in a tree.
-/

namespace ApiGloss

namespace Discovery

/-! ### The order of the walk -/

/-- The route that comes **before** another one in a walk depth first: its name comes first where
the two part. -/
def Before (route route' : List String) : Prop :=
  ∃ way name name' rest rest', name < name' ∧ route = way ++ name :: rest ∧
    route' = way ++ name' :: rest'

variable {route route' : List String}

/-- Of two routes that part at once, the one with the first name comes before. -/
theorem Before.of_lt {name name' : String} (h : name < name') (rest rest' : List String) :
    Before (name :: rest) (name' :: rest') :=
  ⟨[], name, name', rest, rest', h, rfl, rfl⟩

/-- The order is that of what follows a common name. -/
theorem Before.cons (h : Before route route') (name : String) :
    Before (name :: route) (name :: route') := by
  obtain ⟨way, n, n', rest, rest', hlt, rfl, rfl⟩ := h
  exact ⟨name :: way, n, n', rest, rest', hlt, rfl, rfl⟩

/-- Of two routes at most one comes before the other. -/
theorem Before.asymm (h : Before route route') : ¬ Before route' route := by
  have hlt : ∀ {r r' : List String}, Before r r' → r < r' := by
    rintro _ _ ⟨way, n, n', rest, rest', hlt, rfl, rfl⟩
    exact List.append_left_lt (List.Lex.rel hlt)
  exact fun h' => List.lt_asymm (hlt h) (hlt h')

/-- No route comes before itself. -/
theorem Before.ne (h : Before route route') : route ≠ route' := by
  rintro rfl
  exact h.asymm h

/-! ### Listings -/

/-- A **listing** of the routes with a property, in the order of the walk; each is written as a
path. -/
def Listing (toPath : List String → String) (wanted : List String → Prop) (files : List String) :
    Prop :=
  ∃ routes : List (List String), files = routes.map toPath ∧ routes.Pairwise Before ∧
    ∀ route, route ∈ routes ↔ wanted route

namespace Listing

variable {toPath : List String → String} {wanted wanted' : List String → Prop}
  {files files' : List String}

/-- Nothing is listed if nothing is wanted. -/
theorem nil (h : ∀ route, ¬ wanted route) : Listing toPath wanted [] :=
  ⟨[], rfl, .nil, fun route => iff_of_false List.not_mem_nil (h route)⟩

/-- The listing of a single route. -/
theorem singleton (toPath : List String → String) (h : ∀ r, wanted r ↔ r = route) :
    Listing toPath wanted [toPath route] :=
  ⟨[route], rfl, List.pairwise_singleton _ _, fun r => List.mem_singleton.trans (h r).symm⟩

/-- Properties of the same routes have the same listings. -/
theorem congr (h : Listing toPath wanted files) (hiff : ∀ route, wanted route ↔ wanted' route) :
    Listing toPath wanted' files := by
  obtain ⟨routes, hfiles, hsorted, hmem⟩ := h
  exact ⟨routes, hfiles, hsorted, fun route => (hmem route).trans (hiff route)⟩

/-- The paths of a listing written in another way. -/
theorem map (h : Listing toPath wanted files) (f : String → String) :
    Listing (fun route => f (toPath route)) wanted (files.map f) := by
  obtain ⟨routes, rfl, hsorted, hmem⟩ := h
  exact ⟨routes, List.map_map, hsorted, hmem⟩

/-- **There is only one listing** of the same routes. -/
theorem unique (h : Listing toPath wanted files) (h' : Listing toPath wanted files') :
    files = files' := by
  obtain ⟨routes, rfl, hsorted, hmem⟩ := h
  obtain ⟨routes', rfl, hsorted', hmem'⟩ := h'
  have hperm : routes.Perm routes' := (List.perm_ext_iff_of_nodup
    (hsorted.imp Before.ne) (hsorted'.imp Before.ne)).mpr fun route =>
      (hmem route).trans (hmem' route).symm
  rw [hperm.eq_of_pairwise (fun a b _ _ hab hba => absurd hba hab.asymm) hsorted hsorted']

/-- **Every file is listed once**, if different wanted routes have different paths. -/
theorem nodup (h : Listing toPath wanted files)
    (hinj : ∀ r r', wanted r → wanted r' → toPath r = toPath r' → r = r') : files.Nodup := by
  obtain ⟨routes, rfl, hsorted, hmem⟩ := h
  refine List.Nodup.map_on (fun r hr r' hr' => ?_) (hsorted.imp Before.ne)
  exact hinj r r' ((hmem r).mp hr) ((hmem r').mp hr')

/-- **Listings one after the other**: those of the routes through each of several names, in the
order of these names. -/
theorem flatMap {α : Type} {items : List α} {nameOf : α → String} {filesOf : α → List String}
    (hsorted : items.Pairwise fun a b => nameOf a < nameOf b)
    (h : ∀ a ∈ items, Listing (fun route => toPath (nameOf a :: route))
      (fun route => wanted (nameOf a :: route)) (filesOf a)) :
    Listing toPath (fun route => ∃ a ∈ items, ∃ rest, route = nameOf a :: rest ∧ wanted route)
      (items.flatMap filesOf) := by
  induction items with
  | nil => exact nil fun route ⟨a, ha, _⟩ => (nomatch ha)
  | cons a items ih =>
      obtain ⟨hfirst, hsorted⟩ := List.pairwise_cons.mp hsorted
      obtain ⟨hlisting, hrest⟩ := List.forall_mem_cons.mp h
      obtain ⟨tails, hfiles, htails, hmemTails⟩ := hlisting
      obtain ⟨routes, hroutes, hbefore, hmemRoutes⟩ := ih hsorted hrest
      refine ⟨tails.map (nameOf a :: ·) ++ routes, ?_, ?_, fun route => ?_⟩
      · rw [List.flatMap_cons, hfiles, hroutes, List.map_append, List.map_map]
        rfl
      · refine List.pairwise_append.mpr ⟨?_, hbefore, ?_⟩
        · exact List.pairwise_map.mpr (htails.imp fun hbefore => hbefore.cons _)
        · intro r hr r' hr'
          obtain ⟨tail, -, rfl⟩ := List.mem_map.mp hr
          obtain ⟨b, hb, rest, rfl, -⟩ := (hmemRoutes r').mp hr'
          exact .of_lt (hfirst b hb) tail rest
      · rw [List.mem_append, List.mem_map, hmemRoutes]
        constructor
        · rintro (⟨tail, htail, rfl⟩ | ⟨b, hb, hroute⟩)
          · exact ⟨a, List.mem_cons_self, tail, rfl, (hmemTails tail).mp htail⟩
          · exact ⟨b, List.mem_cons_of_mem _ hb, hroute⟩
        · rintro ⟨b, hb, rest, rfl, hwanted⟩
          rcases List.mem_cons.mp hb with rfl | hb
          · exact Or.inl ⟨rest, (hmemTails rest).mpr hwanted, rfl⟩
          · exact Or.inr ⟨b, hb, rest, rfl, hwanted⟩

end Listing

/-! ### The walk -/

/-- The path of an entry of a directory, from the names that lead to the directory. -/
theorem below_join {way : List String} (hway : ∀ name ∈ way, name ≠ "") (name : String) :
    below (Text.join "/" way) name = Text.join "/" (way ++ [name]) := by
  cases way with
  | nil =>
      refine String.toList_inj.mp ?_
      rw [List.nil_append, Text.toList_join, List.flatMap_nil, List.append_nil]
      rfl
  | cons first way =>
      have hne : Text.join "/" (first :: way) ≠ "" := by
        intro hempty
        have hnil := congrArg String.toList hempty
        rw [Text.toList_join] at hnil
        exact hway first List.mem_cons_self
          (String.toList_eq_nil_iff.mp (List.append_eq_nil_iff.mp hnil).1)
      refine String.toList_inj.mp ?_
      rw [below, if_neg hne, List.cons_append, Text.toList_join, String.toList_append,
        String.toList_append, Text.toList_join, List.flatMap_append]
      simp

variable (d : Discovery)

/-- Whether the walk passes over an entry. -/
def passesOver (path name : String) : FileEntry → Bool
  | .file _ => d.rejects path
  | .directory _ => isSkipped name || d.rejects path

/-- The wanted files at an entry that is not passed over. -/
def filesBelow (path : String) : FileEntry → List String
  | .file _ => if d.accepts path then [path] else []
  | .directory entries => inOrder (d.filesIn path entries)

/-- The walk passes over an entry or lists the wanted files there. -/
theorem filesAt_eq (path name : String) (entry : FileEntry) :
    d.filesAt path name entry =
      if d.passesOver path name entry then [] else d.filesBelow path entry := by
  cases entry with
  | file content => cases h : d.rejects path <;> simp [filesAt, passesOver, filesBelow, h]
  | directory entries => rw [filesAt, passesOver, filesBelow]

/-- **What the walk wants** of the routes through an entry; the names of `way` lead to the
entry. -/
structure Wants (way : List String) (entry : FileEntry) (route : List String) : Prop where
  isFile : ∃ content, entry.at? route = some (.file content)
  accepted : d.accepts (Text.join "/" (way ++ route)) = true
  notRejected : ∀ part, part <+: route → part ≠ [] → d.rejects (Text.join "/" (way ++ part)) = false
  entered : ∀ name ∈ route.dropLast, isSkipped name = false

variable {d} {way : List String} {entry : FileEntry} {entries : List (String × FileEntry)}

/-- The only route through a file is the one that ends there. -/
theorem wants_file_iff {content : List UInt8} :
    d.Wants way (.file content) route ↔ route = [] ∧ d.accepts (Text.join "/" way) = true := by
  constructor
  · rintro ⟨⟨content', hat⟩, haccepted, -, -⟩
    obtain ⟨rfl, -⟩ := FileEntry.at?_file_eq_some_iff.mp hat
    exact ⟨rfl, by rwa [List.append_nil] at haccepted⟩
  · rintro ⟨rfl, haccepted⟩
    refine ⟨⟨content, rfl⟩, by rwa [List.append_nil], fun part hpart hne => ?_,
      fun name hname => (nomatch hname)⟩
    exact absurd (List.prefix_nil.mp hpart) hne

/-- An entry through which a route leads to a file is passed over if it is rejected, or if the route
leads on and the name is that of a directory which is never entered. -/
theorem passesOver_eq_false_iff {content : List UInt8}
    (hat : entry.at? route = some (.file content)) {path name : String} :
    d.passesOver path name entry = false ↔
      d.rejects path = false ∧ (route ≠ [] → isSkipped name = false) := by
  cases entry with
  | file content =>
      obtain ⟨rfl, -⟩ := FileEntry.at?_file_eq_some_iff.mp hat
      simp [passesOver]
  | directory entries =>
      obtain ⟨_, _, _, rfl, -⟩ := FileEntry.at?_directory_eq_file_iff.mp hat
      simp [passesOver, and_comm]

/-- A route through a directory goes on at one of its entries that is not passed over. -/
theorem wants_directory_iff : d.Wants way (.directory entries) route ↔
    ∃ name rest entry, route = name :: rest ∧ Table.get? name entries = some entry ∧
      d.passesOver (Text.join "/" (way ++ [name])) name entry = false ∧
      d.Wants (way ++ [name]) entry rest := by
  constructor
  · rintro ⟨⟨content, hat⟩, haccepted, hrejected, hentered⟩
    obtain ⟨name, rest, entry, rfl, hget, hat⟩ := FileEntry.at?_directory_eq_file_iff.mp hat
    refine ⟨name, rest, entry, rfl, hget, (passesOver_eq_false_iff hat).mpr ⟨?_, fun hrest => ?_⟩,
      ⟨content, hat⟩, ?_, fun part hpart _ => ?_, fun n hn => ?_⟩
    · exact hrejected [name] ⟨rest, rfl⟩ (List.cons_ne_nil _ _)
    · exact hentered name (List.dropLast_cons_of_ne_nil hrest ▸ List.mem_cons_self)
    · rwa [← List.append_cons]
    · rw [← List.append_cons]
      exact hrejected (name :: part) (List.cons_prefix_cons.mpr ⟨rfl, hpart⟩)
        (List.cons_ne_nil _ _)
    · have hrest : rest ≠ [] := by
        rintro rfl
        cases hn
      exact hentered n (List.dropLast_cons_of_ne_nil hrest ▸ List.mem_cons_of_mem _ hn)
  · rintro ⟨name, rest, entry, rfl, hget, hpasses, ⟨content, hat⟩, haccepted, hrejected, hentered⟩
    obtain ⟨hreject, hskipped⟩ := (passesOver_eq_false_iff hat).mp hpasses
    refine ⟨⟨content, ?_⟩, ?_, fun part hpart hne => ?_, fun n hn => ?_⟩
    · exact FileEntry.at?_directory_eq_file_iff.mpr ⟨name, rest, entry, rfl, hget, hat⟩
    · rwa [List.append_cons]
    · rcases List.prefix_cons_iff.mp hpart with rfl | ⟨rest', rfl, hrest'⟩
      · exact absurd rfl hne
      · by_cases hnil : rest' = []
        · rwa [hnil]
        · rw [List.append_cons]
          exact hrejected rest' hrest' hnil
    · by_cases hrest : rest = []
      · rw [hrest] at hn
        cases hn
      · rw [List.dropLast_cons_of_ne_nil hrest] at hn
        rcases List.mem_cons.mp hn with rfl | hn
        · exact hskipped hrest
        · exact hentered n hn

/-- What is wanted at an entry of a directory is listed, if it is when the entry is not passed
over. -/
theorem listing_filesAt {name : String} (hget : Table.get? name entries = some entry)
    (h : Listing (fun route => Text.join "/" (way ++ [name] ++ route))
      (d.Wants (way ++ [name]) entry) (d.filesBelow (Text.join "/" (way ++ [name])) entry)) :
    Listing (fun route => Text.join "/" (way ++ name :: route))
      (fun route => d.Wants way (.directory entries) (name :: route))
      (d.filesAt (Text.join "/" (way ++ [name])) name entry) := by
  have hiff : ∀ route, d.Wants way (.directory entries) (name :: route) ↔
      d.passesOver (Text.join "/" (way ++ [name])) name entry = false ∧
        d.Wants (way ++ [name]) entry route := by
    intro route
    rw [wants_directory_iff]
    constructor
    · rintro ⟨_, _, entry', heq, hget', hparts⟩
      cases heq
      cases hget.symm.trans hget'
      exact hparts
    · exact fun hparts => ⟨name, route, entry, rfl, hget, hparts⟩
  have hpath : (fun route => Text.join "/" (way ++ name :: route)) =
      fun route => Text.join "/" (way ++ [name] ++ route) :=
    funext fun route => congrArg (Text.join "/") (List.append_cons way name route)
  rw [hpath, filesAt_eq]
  split_ifs with hpasses
  · exact .nil fun route hwants =>
      Bool.false_ne_true (((hiff route).mp hwants).1.symm.trans hpasses)
  · exact h.congr fun route =>
      ((hiff route).trans (and_iff_right (Bool.eq_false_iff.mpr hpasses))).symm

/-- The entries of a directory in the order of their names. -/
def sortedEntries (entries : List (String × FileEntry)) : List (String × FileEntry) :=
  entries.mergeSort fun a b => decide (a.1 ≤ b.1)

/-- Entries with different names are sorted strictly. -/
theorem pairwise_sortedEntries (h : Table.Distinct entries) :
    (sortedEntries entries).Pairwise fun a b => a.1 < b.1 := by
  have hle : (sortedEntries entries).Pairwise fun a b => decide (a.1 ≤ b.1) = true := by
    refine List.pairwise_mergeSort (fun a b c hab hbc => ?_) (fun a b => ?_) entries
    · exact decide_eq_true (String.le_trans (of_decide_eq_true hab) (of_decide_eq_true hbc))
    · rw [Bool.or_eq_true]
      exact (String.le_total a.1 b.1).imp decide_eq_true decide_eq_true
  have hne : (sortedEntries entries).Pairwise fun a b => a.1 ≠ b.1 :=
    List.pairwise_map.mp (h.of_perm (List.mergeSort_perm entries _).symm)
  refine (hle.and hne).imp fun ⟨hle, hne⟩ => Decidable.byContradiction fun hlt => hne ?_
  exact String.le_antisymm (of_decide_eq_true hle) (String.not_lt.mp hlt)

/-- The files of a directory are those of its entries in the order of their names. -/
theorem inOrder_filesIn (d : Discovery) (path : String) (entries : List (String × FileEntry)) :
    inOrder (d.filesIn path entries) =
      (sortedEntries entries).flatMap fun e => d.filesAt (below path e.1) e.1 e.2 := by
  have hfilesIn : d.filesIn path entries =
      entries.map fun e => (e.1, d.filesAt (below path e.1) e.1 e.2) := by
    induction entries with
    | nil => rfl
    | cons e entries ih => rw [filesIn, ih, List.map_cons]
  rw [inOrder, hfilesIn, sortedEntries,
    ← List.map_mergeSort (r := fun a b => decide (a.1 ≤ b.1)) fun _ _ _ _ => rfl, List.flatMap_map]

/-- **The walk lists the wanted files in order.** -/
theorem listing_filesBelow (d : Discovery) (hentry : entry.WellFormed)
    (hway : ∀ name ∈ way, name ≠ "") :
    Listing (fun route => Text.join "/" (way ++ route)) (d.Wants way entry)
      (d.filesBelow (Text.join "/" way) entry) := by
  induction hentry generalizing way with
  | file content =>
      rw [filesBelow]
      split_ifs with haccepts
      · have hiff : ∀ route, d.Wants way (.file content) route ↔ route = [] := fun route =>
          wants_file_iff.trans (and_iff_left haccepts)
        have hlisting := Listing.singleton (fun route => Text.join "/" (way ++ route)) hiff
        rwa [List.append_nil] at hlisting
      · exact .nil fun route hwants => haccepts (wants_file_iff.mp hwants).2
  | @directory entries hdistinct hnames hentries ih =>
      -- the sorted entries have strictly increasing names, so their listings follow one another
      rw [filesBelow, inOrder_filesIn]
      have hlisting : Listing (fun route => Text.join "/" (way ++ route))
          (fun route => ∃ e ∈ sortedEntries entries, ∃ rest, route = e.1 :: rest ∧
            d.Wants way (.directory entries) route)
          ((sortedEntries entries).flatMap fun e =>
            d.filesAt (below (Text.join "/" way) e.1) e.1 e.2) := by
        refine .flatMap (pairwise_sortedEntries hdistinct) fun e he => ?_
        have hmem : e ∈ entries := (List.mergeSort_perm entries _).mem_iff.mp he
        rw [below_join hway]
        refine listing_filesAt ((Table.get?_eq_some_iff hdistinct).mpr hmem) (ih e hmem ?_)
        intro name hname
        rcases List.mem_append.mp hname with hname | hname
        · exact hway name hname
        · exact List.mem_singleton.mp hname ▸ (hnames e hmem).ne_empty
      refine hlisting.congr fun route => ⟨fun ⟨_, _, _, _, hwants⟩ => hwants, fun hwants => ?_⟩
      obtain ⟨name, rest, entry, rfl, hget, -⟩ := wants_directory_iff.mp hwants
      exact ⟨(name, entry), (List.mergeSort_perm entries _).mem_iff.mpr (Table.mem_of_get? hget),
        rest, rfl, hwants⟩

/-! ### Searches with patterns -/

section Patterns

/-- Whether the pattern that a text spells matches a path. -/
def Selects (compile : Pattern.Compiler) (text path : String) : Prop :=
  ∃ matching, compile text = some matching ∧ matching (matchText path) = true

/-- Whether one of the accepting patterns matches a path; the default one if there is none. -/
def Includes (compile : Pattern.Compiler) (including : List String) (path : String) : Prop :=
  ∃ text ∈ acceptingTexts including, Selects compile text path

/-- Whether one of the rejecting patterns that are not empty matches a path. -/
def Excludes (compile : Pattern.Compiler) (excluding : List String) (path : String) : Prop :=
  ∃ text ∈ excluding, text ≠ "" ∧ Selects compile text path

instance (compile : Pattern.Compiler) (text path : String) : Decidable (Selects compile text path) :=
  decidable_of_iff ((compile text).any (fun matching => matching (matchText path)) = true) (by
    rw [Option.any_eq_true]
    exact Iff.rfl)

instance (compile : Pattern.Compiler) (including : List String) (path : String) :
    Decidable (Includes compile including path) :=
  inferInstanceAs (Decidable (∃ text ∈ acceptingTexts including, Selects compile text path))

instance (compile : Pattern.Compiler) (excluding : List String) (path : String) :
    Decidable (Excludes compile excluding path) :=
  inferInstanceAs (Decidable (∃ text ∈ excluding, text ≠ "" ∧ Selects compile text path))

/-- The patterns of a search **compile**: the accepting ones, or the default one if there is none,
and the rejecting ones that are not empty. -/
structure Compiles (compile : Pattern.Compiler) (including excluding : List String) : Prop where
  including : ∀ text ∈ acceptingTexts including, (compile text).isSome = true
  excluding : ∀ text ∈ excluding, text ≠ "" → (compile text).isSome = true

/-- The default pattern compiles if the program compiles its patterns itself. -/
theorem isSome_compile_defaultPattern : (Pattern.compile defaultPattern).isSome = true := by
  decide +kernel

variable {compile : Pattern.Compiler} {including excluding texts : List String}

/-- A text that spells a pattern is compiled to what the pattern matches. -/
theorem pattern_eq_ok_iff {text : String} {matching : String → Bool} :
    pattern compile text = .ok matching ↔ compile text = some matching := by
  rw [pattern]
  cases compile text with
  | none => exact iff_of_false nofun nofun
  | some m => rw [Except.ok.injEq, Option.some.injEq]

/-- Texts can be compiled if every one of them is a pattern. -/
theorem exists_mapM_pattern_iff :
    (∃ ms, texts.mapM (pattern compile) = .ok ms) ↔
      ∀ text ∈ texts, (compile text).isSome = true := by
  simp only [Run.exists_mapM_eq_ok_iff, pattern_eq_ok_iff, Option.isSome_iff_exists]

/-- Patterns that are compiled from texts match what the texts select. -/
theorem any_matching_iff {ms : List (String → Bool)}
    (h : texts.mapM (pattern compile) = .ok ms) (path : String) :
    (ms.any fun matching => matching (matchText path)) = true ↔
      ∃ text ∈ texts, Selects compile text path := by
  have hcompiled := Run.mapM_eq_ok_iff.mp h
  clear h
  induction hcompiled with
  | nil => simp
  | @cons text m texts ms hm _ ih =>
      have hselects : m (matchText path) = true ↔ Selects compile text path := by
        rw [Selects, pattern_eq_ok_iff.mp hm]
        exact ⟨fun hmatch => ⟨m, rfl, hmatch⟩, fun ⟨_, heq, hmatch⟩ => Option.some.inj heq ▸ hmatch⟩
      rw [List.any_cons, Bool.or_eq_true, hselects, List.exists_mem_cons_iff]
      exact or_congr_right ih

/-- The parts of a search with patterns. -/
theorem withPatterns_eq_ok_iff {root : String} {d : Discovery} :
    withPatterns compile root including excluding = .ok d ↔
      (acceptingTexts including).mapM (pattern compile) = .ok d.accepting ∧
        (excluding.filter (· != "")).mapM (pattern compile) = .ok d.rejecting ∧ d.root = root := by
  simp only [withPatterns, Run.bind_eq_ok_iff]
  constructor
  · rintro ⟨accepting, haccepting, rejecting, hrejecting, hd⟩
    obtain rfl := Except.ok.inj hd
    exact ⟨haccepting, hrejecting, rfl⟩
  · rintro ⟨haccepting, hrejecting, rfl⟩
    exact ⟨d.accepting, haccepting, d.rejecting, hrejecting, rfl⟩

/-- **There is a search with patterns** exactly if they compile. -/
theorem exists_withPatterns_iff {root : String} :
    (∃ d, withPatterns compile root including excluding = .ok d) ↔
      Compiles compile including excluding := by
  have hexcluding : (∀ text ∈ excluding.filter (· != ""), (compile text).isSome = true) ↔
      ∀ text ∈ excluding, text ≠ "" → (compile text).isSome = true := by
    simp only [List.mem_filter, bne_iff_ne, and_imp]
  simp only [withPatterns_eq_ok_iff]
  constructor
  · rintro ⟨d, haccepting, hrejecting, -⟩
    exact ⟨exists_mapM_pattern_iff.mp ⟨_, haccepting⟩,
      hexcluding.mp (exists_mapM_pattern_iff.mp ⟨_, hrejecting⟩)⟩
  · rintro ⟨hincluding, hexcluded⟩
    obtain ⟨accepting, haccepting⟩ := exists_mapM_pattern_iff.mpr hincluding
    obtain ⟨rejecting, hrejecting⟩ := exists_mapM_pattern_iff.mpr (hexcluding.mpr hexcluded)
    exact ⟨⟨root, accepting, rejecting⟩, haccepting, hrejecting, rfl⟩

/-- A search accepts what its accepting patterns select. -/
theorem accepts_iff_includes {root : String} {d : Discovery}
    (h : withPatterns compile root including excluding = .ok d) (path : String) :
    d.accepts path = true ↔ Includes compile including path :=
  any_matching_iff (withPatterns_eq_ok_iff.mp h).1 path

/-- A search rejects what its rejecting patterns select. -/
theorem rejects_iff_excludes {root : String} {d : Discovery}
    (h : withPatterns compile root including excluding = .ok d) (path : String) :
    d.rejects path = true ↔ Excludes compile excluding path := by
  refine (any_matching_iff (withPatterns_eq_ok_iff.mp h).2.1 path).trans
    (exists_congr fun text => ?_)
  rw [List.mem_filter, bne_iff_ne, and_assoc]

end Patterns

/-- A **wanted file** below a directory, told by the names that lead to it: an accepting pattern
matches its path; no rejecting pattern matches this path or that of a directory on the way; and no
directory on the way is hidden or build output. -/
structure Wanted (compile : Pattern.Compiler) (including excluding : List String)
    (top : FileEntry) (route : List String) : Prop where
  isFile : ∃ content, top.at? route = some (.file content)
  included : Includes compile including (Text.join "/" route)
  notExcluded : ∀ part, part <+: route → part ≠ [] → ¬ Excludes compile excluding (Text.join "/" part)
  entered : ∀ name ∈ route.dropLast, name.toList.head? ≠ some '.' ∧ name ≠ "target"

/-- The route of a wanted file below a directory consists of names of entries. -/
theorem Wanted.isEntryName {compile : Pattern.Compiler} {including excluding : List String}
    (h : Wanted compile including excluding (.directory entries) route)
    (htop : (FileEntry.directory entries).WellFormed) :
    route ≠ [] ∧ ∀ name ∈ route, IsEntryName name := by
  obtain ⟨content, hat⟩ := h.isFile
  refine ⟨?_, htop.isEntryName_of_at? hat⟩
  rintro rfl
  cases hat

/-- **What a search is to list** for what its root leads to: nothing if there is nothing, a file
itself if an accepting pattern matches the root, and of a directory the wanted files in order. -/
def Lists (compile : Pattern.Compiler) (root : String) (including excluding : List String) :
    Except PathProblem FileEntry → List String → Prop
  | .error _, files => files = []
  | .ok (.file _), files =>
    Includes compile including root ∧ files = [root] ∨ ¬ Includes compile including root ∧ files = []
  | .ok (.directory entries), files =>
    Listing (fun route => SourcePath.join root (Text.join "/" route))
      (Wanted compile including excluding (.directory entries)) files

instance (compile : Pattern.Compiler) (including excluding : List String) (top : FileEntry)
    (route : List String) : Decidable (Wanted compile including excluding top route) :=
  decidable_of_iff
    (((top.at? route).any fun entry => entry matches .file _) = true ∧
      Includes compile including (Text.join "/" route) ∧
      (∀ part ∈ route.inits, part ≠ [] → ¬ Excludes compile excluding (Text.join "/" part)) ∧
      ∀ name ∈ route.dropLast, name.toList.head? ≠ some '.' ∧ name ≠ "target") (by
    have hfile : ((top.at? route).any fun entry => entry matches .file _) = true ↔
        ∃ content, top.at? route = some (.file content) := by
      rcases top.at? route with _ | (content | entries) <;> simp
    simp only [hfile, List.mem_inits]
    exact ⟨fun ⟨h₁, h₂, h₃, h₄⟩ => ⟨h₁, h₂, h₃, h₄⟩, fun ⟨h₁, h₂, h₃, h₄⟩ => ⟨h₁, h₂, h₃, h₄⟩⟩)

/-- The directories that are entered are those that are neither hidden nor build output. -/
theorem isSkipped_eq_false_iff {name : String} :
    isSkipped name = false ↔ name.toList.head? ≠ some '.' ∧ name ≠ "target" := by
  rw [isSkipped, Bool.or_eq_false_iff, beq_eq_false_iff_ne, beq_eq_false_iff_ne]

variable {compile : Pattern.Compiler} {root : String} {including excluding : List String}
  {tree tree' : FileTree}

/-- The walk of a search with patterns wants what is wanted. -/
theorem wants_iff_wanted (hd : withPatterns compile root including excluding = .ok d) :
    d.Wants [] entry route ↔ Wanted compile including excluding entry route := by
  have haccepts := accepts_iff_includes hd
  have hrejects : ∀ path, d.rejects path = false ↔ ¬ Excludes compile excluding path :=
    fun path => by rw [← rejects_iff_excludes hd, Bool.not_eq_true]
  constructor
  · rintro ⟨hfile, haccepted, hrejected, hentered⟩
    exact ⟨hfile, (haccepts _).mp haccepted,
      fun part hpart hne => (hrejects _).mp (hrejected part hpart hne),
      fun name hname => isSkipped_eq_false_iff.mp (hentered name hname)⟩
  · rintro ⟨hfile, hincluded, hexcluded, hentered⟩
    exact ⟨hfile, (haccepts _).mpr hincluded,
      fun part hpart hne => (hrejects _).mpr (hexcluded part hpart hne),
      fun name hname => isSkipped_eq_false_iff.mpr (hentered name hname)⟩

/-- A file is wanted however directories list their entries. -/
theorem wanted_relisted_iff {entry' : FileEntry} (h : entry.Relisted entry') :
    Wanted compile including excluding entry route ↔
      Wanted compile including excluding entry' route := by
  constructor
  · rintro ⟨⟨content, hat⟩, hincluded, hexcluded, hentered⟩
    exact ⟨⟨content, h.at?_eq_file_iff.mp hat⟩, hincluded, hexcluded, hentered⟩
  · rintro ⟨⟨content, hat⟩, hincluded, hexcluded, hentered⟩
    exact ⟨⟨content, h.at?_eq_file_iff.mpr hat⟩, hincluded, hexcluded, hentered⟩

/-- The files that a search lists in a tree. -/
def listed (d : Discovery) (tree : FileTree) : List String :=
  match tree.find d.root with
  | .ok entry => d.filesOf entry
  | .error _ => []

/-- **A search lists what it is to list.** -/
theorem lists_listed (hd : withPatterns compile d.root including excluding = .ok d)
    (htree : tree.WellFormed) :
    Lists compile d.root including excluding (tree.find d.root) (d.listed tree) := by
  rw [listed]
  cases hfind : tree.find d.root with
  | error problem => rfl
  | ok entry =>
      cases entry with
      | file content =>
          show Includes compile including d.root ∧ d.filesOf (.file content) = [d.root] ∨
            ¬ Includes compile including d.root ∧ d.filesOf (.file content) = []
          rw [filesOf, ← accepts_iff_includes hd]
          split_ifs with hroot
          · exact Or.inl ⟨hroot, rfl⟩
          · exact Or.inr ⟨hroot, rfl⟩
      | directory entries =>
          have hlisting := listing_filesBelow d (htree.find hfind) (List.forall_mem_nil _)
          exact (hlisting.map (SourcePath.join d.root)).congr fun route => wants_iff_wanted hd

/-- **No file is listed twice.** -/
theorem nodup_of_lists {files : List String} (htree : tree.WellFormed)
    (h : Lists compile root including excluding (tree.find root) files) : files.Nodup := by
  cases hfind : tree.find root with
  | error problem =>
      rw [hfind] at h
      obtain rfl : files = [] := h
      exact List.nodup_nil
  | ok entry =>
      rw [hfind] at h
      cases entry with
      | file content =>
          rcases h with ⟨-, rfl⟩ | ⟨-, rfl⟩
          · exact List.nodup_singleton _
          · exact List.nodup_nil
      | directory entries =>
          refine Listing.nodup h fun route route' hwanted hwanted' hpaths => ?_
          obtain ⟨hne, hnames⟩ := hwanted.isEntryName (htree.find hfind)
          obtain ⟨hne', hnames'⟩ := hwanted'.isEntryName (htree.find hfind)
          exact SourcePath.eq_of_join_eq hne hne' hnames hnames' hpaths

/-- **A search does not depend on how directories list their entries.** -/
theorem scan_relisted (hd : withPatterns compile root including excluding = .ok d)
    (htree : tree.WellFormed) (h : tree.Relisted tree') : d.scan tree' = d.scan tree := by
  rcases h.find d.root with ⟨problem, hfind, hfind'⟩ | ⟨entry, entry', hfind, hfind', hentry⟩
  · rw [scan, scan, hfind, hfind']
  · have hwf := htree.find hfind
    have hfiles : d.filesOf entry' = d.filesOf entry := by
      cases hentry with
      | file content => rfl
      | directory hnames hentries =>
          have hentry := FileEntry.Relisted.directory hnames hentries
          have hlisting := (listing_filesBelow d hwf (List.forall_mem_nil _)).congr fun route =>
            (wants_iff_wanted hd).trans (wanted_relisted_iff hentry)
          have hlisting' := (listing_filesBelow d (hwf.relisted hentry)
            (List.forall_mem_nil _)).congr fun route => wants_iff_wanted hd
          exact congrArg (List.map (SourcePath.join d.root)) (hlisting'.unique hlisting)
    simp only [scan, hfind, hfind', hfiles]

/-- **What comes of a search**: what is listed, or an error if that is nothing. -/
theorem scan_outcome (d : Discovery) (tree : FileTree) (j : Journal) :
    ((d.scan tree).outcome j).1 =
      if d.listed tree = [] then .error (.noFiles d.root) else .ok { files := d.listed tree } := by
  rw [scan, listed]
  cases tree.find d.root with
  | error problem => rfl
  | ok entry =>
      simp only [pure_bind]
      split_ifs <;> rfl

/-- **A search with patterns finds the wanted files**, whatever compiles the patterns. There is a
search exactly if they compile. It lists the wanted files, each once and in the order of the walk, and
fails if and only if there is none. The order in which directories list their entries makes no
difference. -/
theorem scan_lists_wanted (compile : Pattern.Compiler) (root : String)
    (including excluding : List String) {tree : FileTree} (htree : tree.WellFormed) :
    ((∃ d, withPatterns compile root including excluding = .ok d) ↔
      Compiles compile including excluding) ∧
    ∀ d, withPatterns compile root including excluding = .ok d →
      ∃ files, Lists compile root including excluding (tree.find root) files ∧ files.Nodup ∧
        (∀ j, ((d.scan tree).outcome j).1 =
          if files = [] then .error (.noFiles root) else .ok { files := files }) ∧
        ∀ tree' : FileTree, tree.Relisted tree' → d.scan tree' = d.scan tree := by
  refine ⟨exists_withPatterns_iff, fun d hd => ?_⟩
  obtain ⟨-, -, rfl⟩ := withPatterns_eq_ok_iff.mp hd
  have hlists := lists_listed hd htree
  exact ⟨d.listed tree, hlists, nodup_of_lists htree hlists, scan_outcome d tree,
    fun _ hrelisted => scan_relisted hd htree hrelisted⟩

/-- A directory with a source file, a source file below it, and one that is to be rejected. -/
def sampleSources : FileEntry :=
  .directory [("c.js", .file []), ("vendor", .directory [("lib.js", .file [])]),
    ("a", .directory [("z.js", .file [])])]

/-- A tree in which source files can be searched. -/
def sampleTree : FileTree where
  root := .directory [("src", sampleSources)]
  workingDirectory := []

/-- The names in the sample tree are different. -/
theorem wellFormed_sampleTree : sampleTree.WellFormed := by
  have hname : ∀ name ∈ ["src", "c.js", "vendor", "lib.js", "a", "z.js"], IsEntryName name := by
    have hall : ∀ name ∈ ["src", "c.js", "vendor", "lib.js", "a", "z.js"],
        name ≠ "" ∧ '/' ∉ name.toList := by decide
    exact fun name hmem => ⟨(hall name hmem).1, (hall name hmem).2⟩
  have hsingle : ∀ {name : String} {entry : FileEntry}, IsEntryName name → entry.WellFormed →
      (FileEntry.directory [(name, entry)]).WellFormed := fun hname hentry =>
    .directory (List.nodup_singleton _) (List.forall_mem_singleton.mpr hname)
      (List.forall_mem_singleton.mpr hentry)
  refine hsingle (hname _ (by decide)) (.directory (by decide) ?_ ?_)
  · simp only [List.forall_mem_cons]
    exact ⟨hname _ (by decide), hname _ (by decide), hname _ (by decide), List.forall_mem_nil _⟩
  · simp only [List.forall_mem_cons]
    exact ⟨.file _, hsingle (hname _ (by decide)) (.file _),
      hsingle (hname _ (by decide)) (.file _), List.forall_mem_nil _⟩

/-- The source files are found in the order of their names, below their directories; the rejected
one is not among them. -/
theorem scan_lists_wanted_sample :
    ∃ d, ofPatterns "src" [] ["vendor", ""] = .ok d ∧
      ∀ j, ((d.scan sampleTree).outcome j).1 = .ok { files := ["src/a/z.js", "src/c.js"] } := by
  have hcompiles : Compiles Pattern.compile [] ["vendor", ""] :=
    ⟨List.forall_mem_singleton.mpr isSome_compile_defaultPattern, by decide +kernel⟩
  obtain ⟨hexists, hsearch⟩ :=
    scan_lists_wanted Pattern.compile "src" [] ["vendor", ""] wellFormed_sampleTree
  obtain ⟨d, hd⟩ := hexists.mpr hcompiles
  obtain ⟨files, hlists, -, hscan, -⟩ := hsearch d hd
  have hroutes : ∀ route, Wanted Pattern.compile [] ["vendor", ""] sampleSources route →
      route ∈ [["a", "z.js"], ["c.js"]] := by
    intro route hwanted
    obtain ⟨content, hat⟩ := hwanted.isFile
    have hroute : route = ["c.js"] ∨ route = ["vendor", "lib.js"] ∨ route = ["a", "z.js"] := by
      obtain ⟨name, rest, entry, rfl, hget, hat⟩ := FileEntry.at?_directory_eq_file_iff.mp hat
      have hmem := Table.mem_of_get? hget
      simp only [List.mem_cons, Prod.mk.injEq, List.not_mem_nil, or_false] at hmem
      rcases hmem with ⟨rfl, rfl⟩ | ⟨rfl, rfl⟩ | ⟨rfl, rfl⟩
      · obtain ⟨rfl, -⟩ := FileEntry.at?_file_eq_some_iff.mp hat
        exact Or.inl rfl
      all_goals
        obtain ⟨name, rest, entry, rfl, hget, hat⟩ := FileEntry.at?_directory_eq_file_iff.mp hat
        obtain ⟨rfl, rfl⟩ := Prod.mk.inj (List.mem_singleton.mp (Table.mem_of_get? hget))
        obtain ⟨rfl, -⟩ := FileEntry.at?_file_eq_some_iff.mp hat
        simp
    rcases hroute with rfl | rfl | rfl
    · decide
    · exact absurd hwanted (by decide +kernel)
    · decide
  have hwanted : ∀ route ∈ [["a", "z.js"], ["c.js"]],
      Wanted Pattern.compile [] ["vendor", ""] sampleSources route := by
    decide +kernel
  have hexpected : Lists Pattern.compile "src" [] ["vendor", ""] (sampleTree.find "src")
      ["src/a/z.js", "src/c.js"] :=
    ⟨[["a", "z.js"], ["c.js"]], by decide, List.pairwise_pair.mpr (.of_lt (by decide) _ _),
      fun route => ⟨hwanted route, hroutes route⟩⟩
  obtain rfl := hlists.unique hexpected
  exact ⟨d, hd, hscan⟩

end Discovery

end ApiGloss
