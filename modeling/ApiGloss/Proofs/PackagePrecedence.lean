import ApiGloss.Files.PackageFiles
import ApiGloss.Proofs.Outcome
import ApiGloss.Proofs.Tables

/-!
# Which File Package Information Is Taken From

Package information is put together from layers: an override file, the documentation section of the
package file, and its general entries. Every part is looked up layer by layer, and the first layer
that names it decides (`Package.chosen`). The look-up is by name, so it does not matter in which
order the entries of a layer stand.

There are several override files, and one of them is to be read: the first one that is there. What
is read is the first one that **says something**, though, with at least one entry. The two differ if
an override file is there without entries, an empty object or no object at all. Then the next
override file is read in its place, and its entries show.

## Main results

* `Package.overrides_eq_firstWhere`: the override is the first file that says something.
* `Package.hasParts_of_load`: a package that is loaded has the parts that its layers give.
* `Package.load_precedence_iff`: when the file that is there first decides.
-/

namespace ApiGloss

namespace Json

/-- The entries of an object that is read have distinct names. -/
theorem distinct_of_readEntries? {item? : List Char → Option (Json × List Char)} {fuel : Nat}
    {acc entries : Table Json} {s rest : List Char} (hacc : Table.Distinct acc)
    (h : readEntries? item? fuel acc s = some (entries, rest)) : Table.Distinct entries := by
  induction fuel generalizing acc s with
  | zero => cases h
  | succ fuel ih =>
      unfold readEntries? at h
      split at h
      · cases h
      · split at h
        · split at h
          · cases h
          · split at h
            · exact ih (hacc.insert _ _) h
            · obtain ⟨rfl, -⟩ := Prod.mk.inj (Option.some.inj h)
              exact hacc.insert _ _
            · cases h
        · cases h

/-- An object at the start of a text has entries with distinct names. -/
theorem distinct_of_readValue? {depth : Nat} {entries : Table Json} {s rest : List Char}
    (h : readValue? depth s = some (.obj entries, rest)) : Table.Distinct entries := by
  unfold readValue? at h
  split at h
  · cases h
  · cases h
  · cases h
  · obtain ⟨_, -, hobj⟩ := Option.map_eq_some_iff.mp h
    cases hobj
  · split at h
    · cases h
    · split at h
      · cases h
      · obtain ⟨_, -, hobj⟩ := Option.map_eq_some_iff.mp h
        cases hobj
  · split at h
    · cases h
    · split at h
      · cases h
        exact List.nodup_nil
      · obtain ⟨⟨entries', rest'⟩, hentries, hobj⟩ := Option.map_eq_some_iff.mp h
        cases hobj
        have hnil : Table.Distinct ([] : Table Json) := List.nodup_nil
        exact distinct_of_readEntries? hnil hentries
  · obtain ⟨_, -, hobj⟩ := Option.map_eq_some_iff.mp h
    cases hobj

/-- **An object that a text spells** has entries with distinct names. -/
theorem distinct_of_parse? {s : String} {entries : Table Json}
    (h : parse? s = some (.obj entries)) : Table.Distinct entries := by
  unfold parse? at h
  split at h
  · rename_i j rest hread
    split at h
    · cases h
      exact distinct_of_readValue? hread
    · cases h
  · cases h

end Json

namespace Package

/-! ### The layers of package information -/

/-- The documentation section of the package file. -/
def documentation (package : Table Json) : Table Json :=
  ((Table.get? documentationKey package).bind Json.obj?).getD []

/-- What a part is when no layer names it: the general entry of the package file or, if that is no
text or empty, its default. A part without a general entry is missing. -/
def unnamed (package : Table Json) (key : String) : Json :=
  match Table.get? key generalEntries with
  | some fallback => .str ((general? package key).getD fallback)
  | none => .null

/-- The value of a part that is **chosen**: that of the override or else of the documentation
section. -/
def chosen (override package : Table Json) (key : String) : Json :=
  ((Table.get? key override).or (Table.get? key (documentation package))).getD
    (unnamed package key)

/-- A package **has the parts** that are given by name. -/
structure HasParts (p : Package) (part : String → Json) : Prop where
  name : part "name" = .str p.name
  title : part "title" = Json.ofStr? p.title
  version : part "version" = .str p.version
  description : part "description" = .str p.description

/-- Parts with the same names are the same if a package has both. -/
theorem HasParts.congr_iff {p : Package} {part part' : String → Json} (h : p.HasParts part) :
    p.HasParts part' ↔ ∀ n ∈ partNames, part n.name = part' n.name := by
  have hnames : (∀ n ∈ partNames, part n.name = part' n.name) ↔
      part "name" = part' "name" ∧ part "title" = part' "title" ∧
        part "version" = part' "version" ∧ part "description" = part' "description" := by
    simp [partNames]
  rw [hnames, h.name, h.title, h.version, h.description]
  constructor
  · rintro ⟨hname, htitle, hversion, hdescription⟩
    exact ⟨hname.symm, htitle.symm, hversion.symm, hdescription.symm⟩
  · rintro ⟨hname, htitle, hversion, hdescription⟩
    exact ⟨hname.symm, htitle.symm, hversion.symm, hdescription.symm⟩

/-- A table is completed by the entries that it does not name. -/
theorem get?_completed (package : Table Json) (fallbacks : List (String × String))
    (t : Table Json) (key : String) :
    Table.get? key (fallbacks.foldl (fun entries (key, fallback) =>
        if Table.contains key entries then entries
        else Table.insert key (.str ((general? package key).getD fallback)) entries) t) =
      (Table.get? key t).or ((Table.get? key fallbacks).map fun fallback =>
        .str ((general? package key).getD fallback)) := by
  induction fallbacks generalizing t with
  | nil => rw [List.foldl_nil, Table.get?_nil, Option.map_none, Option.or_none]
  | cons e fallbacks ih =>
      obtain ⟨k, fallback⟩ := e
      rw [List.foldl_cons, ih, Table.get?_cons]
      dsimp only
      cases hk : Table.get? k t with
      | some v =>
          rw [Table.contains, hk, Option.isSome_some, if_pos rfl]
          by_cases hkey : k = key
          · rw [← hkey, hk]
            rfl
          · rw [if_neg hkey]
      | none =>
          rw [Table.contains, hk, Option.isSome_none, if_neg Bool.false_ne_true, Table.get?_insert]
          by_cases hkey : k = key
          · rw [if_pos hkey, if_pos hkey, ← hkey, hk]
            rfl
          · rw [if_neg hkey, if_neg hkey]

/-- The entries of the package file, by name. -/
theorem get?_packageEntries (package : Table Json) (key : String) :
    Table.get? key (packageEntries package) =
      (Table.get? key (documentation package)).or ((Table.get? key generalEntries).map fun fallback =>
        .str ((general? package key).getD fallback)) :=
  get?_completed package generalEntries (documentation package) key

/-- All entries together give the parts that are chosen. -/
theorem getD_entries {override : Table Json} (hoverride : Table.Distinct override)
    (package : Table Json) (key : String) :
    (Table.get? key (Table.extend (packageEntries package) override)).getD .null =
      chosen override package key := by
  rw [Table.get?_extend hoverride, get?_packageEntries, chosen, unnamed]
  cases Table.get? key override <;> cases Table.get? key (documentation package) <;>
    cases Table.get? key generalEntries <;> rfl

/-- A text that must be there. -/
theorem eq_str_of_textPart? {fallback s : String} {part : Option Json}
    (h : Json.textPart? fallback part = some s) (hpart : part.isSome = true) :
    part.getD .null = .str s := by
  unfold Json.textPart? at h
  split at h
  · cases hpart
  · cases h
    rfl
  · cases h

/-- A text that may be missing. -/
theorem eq_ofStr?_of_optionalPart? {s : Option String} {part : Option Json}
    (h : Json.optionalPart? Json.str? part = some s) : part.getD .null = Json.ofStr? s := by
  unfold Json.optionalPart? at h
  split at h
  · cases h
    rfl
  · cases h
    rfl
  · rename_i j _
    obtain ⟨t, ht, rfl⟩ := Option.map_eq_some_iff.mp h
    cases j <;> cases ht
    rfl

/-- **A package that is read** has the parts that the table names. -/
theorem hasParts_of_ofJson? {t : Table Json} {p : Package} (h : ofJson? (.obj t) = some p)
    (hgeneral : ∀ e ∈ generalEntries, (Table.get? e.1 t).isSome = true) :
    p.HasParts fun key => (Table.get? key t).getD .null := by
  have hparts : ofJson? (.obj t) = (do
      return {
        name := ← Json.textPart? "" (Table.get? "name" t)
        title := ← Json.optionalPart? Json.str? (Table.get? "title" t)
        version := ← Json.textPart? "0.0.0" (Table.get? "version" t)
        description := ← Json.textPart? "" (Table.get? "description" t) }) := rfl
  rw [hparts] at h
  obtain ⟨name, hname, h⟩ := Option.bind_eq_some_iff.mp h
  obtain ⟨title, htitle, h⟩ := Option.bind_eq_some_iff.mp h
  obtain ⟨version, hversion, h⟩ := Option.bind_eq_some_iff.mp h
  obtain ⟨description, hdescription, h⟩ := Option.bind_eq_some_iff.mp h
  cases h
  simp only [generalEntries, List.forall_mem_cons] at hgeneral
  obtain ⟨hisName, hisVersion, hisDescription, -⟩ := hgeneral
  exact ⟨eq_str_of_textPart? hname hisName, eq_ofStr?_of_optionalPart? htitle,
    eq_str_of_textPart? hversion hisVersion, eq_str_of_textPart? hdescription hisDescription⟩

/-! ### Override files -/

variable {tree : FileTree} {dir : String}

/-- The entries of a package file have distinct names. -/
theorem distinct_of_entriesOf {file : String} {entries : Table Json}
    (h : entriesOf tree dir file = .ok entries) : Table.Distinct entries := by
  unfold entriesOf at h
  split at h
  · cases h
    exact List.nodup_nil
  · split at h
    · cases h
    · split at h
      · cases h
      · rename_i j hj
        cases h
        cases hobj : j.obj? with
        | none => exact List.nodup_nil
        | some entries =>
            cases j <;> cases hobj
            exact Json.distinct_of_parse? hj

/-- A package file **is there**, in one of the places where it is looked for. -/
def isPresent (tree : FileTree) (dir file : String) : Bool :=
  (locate? tree dir file).isSome

/-- A package file **says something**: it has an entry. One that cannot be read counts, and the
error is what it says. -/
def saysSomething (tree : FileTree) (dir file : String) : Bool :=
  match entriesOf tree dir file with
  | .ok entries => !entries.isEmpty
  | .error _ => true

/-- The entries of the **first file with a property**; without one there are none. -/
def firstWhere (tree : FileTree) (dir : String) (p : String → Bool) (files : List String) :
    Except Error (Table Json) :=
  match files.find? p with
  | some file => entriesOf tree dir file
  | none => .ok []

/-- A file that says something is there. -/
theorem isPresent_of_saysSomething {file : String} (h : saysSomething tree dir file = true) :
    isPresent tree dir file = true := by
  unfold saysSomething entriesOf at h
  unfold isPresent
  cases hlocate : locate? tree dir file with
  | none =>
      rw [hlocate] at h
      cases h
  | some found => rfl

/-- Whether a file says something depends on its entries. -/
theorem saysSomething_congr {tree' : FileTree} {file : String}
    (h : entriesOf tree' dir file = entriesOf tree dir file) :
    saysSomething tree' dir file = saysSomething tree dir file := by
  unfold saysSomething
  rw [h]

/-- A file that says nothing has no entries. -/
theorem entriesOf_of_not_saysSomething {file : String}
    (h : saysSomething tree dir file = false) : entriesOf tree dir file = .ok [] := by
  unfold saysSomething at h
  split at h
  · rename_i entries hentries
    have hempty : entries = [] := by simpa using h
    rw [hentries, hempty]
  · cases h

/-- **The override is the first file that says something.** -/
theorem overrides_eq_firstWhere (files : List String) :
    overrides tree dir files = firstWhere tree dir (saysSomething tree dir) files := by
  induction files with
  | nil => rfl
  | cons file files ih =>
      have hstep : overrides tree dir (file :: files) = (entriesOf tree dir file >>= fun entries =>
          if entries.isEmpty then overrides tree dir files else return entries) := rfl
      rw [hstep, firstWhere]
      cases htold : saysSomething tree dir file with
      | false =>
          rw [List.find?_cons_of_neg (by rw [htold]; exact Bool.false_ne_true),
            entriesOf_of_not_saysSomething htold]
          exact ih
      | true =>
          rw [List.find?_cons_of_pos htold]
          dsimp only
          unfold saysSomething at htold
          split at htold
          · rename_i entries hentries
            have hne : ¬ entries.isEmpty = true := by simpa using htold
            rw [hentries]
            exact if_neg hne
          · rename_i e hentries
            rw [hentries]
            rfl

/-- The first file that is there can be read if the one that says something first can. If it has
entries, the two are the same. -/
theorem firstWhere_isPresent {files : List String} {override : Table Json}
    (h : firstWhere tree dir (saysSomething tree dir) files = .ok override) :
    ∃ found, firstWhere tree dir (isPresent tree dir) files = .ok found ∧
      (found ≠ [] → override = found) := by
  induction files with
  | nil => exact ⟨[], rfl, fun hne => absurd rfl hne⟩
  | cons file files ih =>
      unfold firstWhere at h ih ⊢
      cases hpresent : isPresent tree dir file with
      | false =>
          have hsilent : ¬ saysSomething tree dir file = true := fun htold =>
            Bool.false_ne_true (hpresent.symm.trans (isPresent_of_saysSomething htold))
          have habsent : ¬ isPresent tree dir file = true := by
            rw [hpresent]
            exact Bool.false_ne_true
          rw [List.find?_cons_of_neg hsilent] at h
          rw [List.find?_cons_of_neg habsent]
          exact ih h
      | true =>
          rw [List.find?_cons_of_pos hpresent]
          cases htold : saysSomething tree dir file with
          | false => exact ⟨[], entriesOf_of_not_saysSomething htold, fun hne => absurd rfl hne⟩
          | true =>
              rw [List.find?_cons_of_pos htold] at h
              exact ⟨override, h, fun _ => rfl⟩

/-! ### Loading -/

/-- What comes of loading package information. -/
def loadOutcome (tree : FileTree) (dir : String) : Except Error Package := do
  let package ← entriesOf tree dir packageFile
  let override ← overrides tree dir overrideFiles
  match ofJson? (.obj (Table.extend (packageEntries package) override)) with
  | some p => return p
  | none => throw .shape

/-- **Loading yields package information**, whatever the journal says. -/
theorem load_yields (tree : FileTree) (dir : String) :
    Run.Yields (load tree dir) (loadOutcome tree dir) := by
  have hlift : ∀ {α : Type} (x : Except Error α), Run.Yields (ofExcept x) x := by
    intro α x
    cases x with
    | error e => exact Run.yields_throw e
    | ok a => exact Run.yields_pure a
  unfold load loadOutcome
  refine (hlift _).bind fun package => (hlift _).bind fun override => ?_
  have hpart : Run.Yields
      (match ofJson? (.obj (Table.extend (packageEntries package) override)) with
        | some p => return p
        | none => throw .shape)
      (match ofJson? (.obj (Table.extend (packageEntries package) override)) with
        | some p => return p
        | none => throw .shape) := by
    cases ofJson? (.obj (Table.extend (packageEntries package) override)) with
    | none => exact Run.yields_throw _
    | some p => exact Run.yields_pure p
  by_cases hempty : override.isEmpty = true
  · simp only [hempty, if_true]
    exact (Run.yields_modify _).bind fun _ => hpart
  · simp only [hempty]
    exact hpart

/-- **The parts of a package that is loaded** are chosen from its layers. -/
theorem hasParts_of_load {p : Package} {j : Journal}
    (h : ((load tree dir).outcome j).1 = .ok p) :
    ∃ package override, entriesOf tree dir packageFile = .ok package ∧
      overrides tree dir overrideFiles = .ok override ∧ p.HasParts (chosen override package) := by
  rw [load_yields tree dir j, loadOutcome] at h
  obtain ⟨package, hpackage, h⟩ := Run.bind_eq_ok_iff.mp h
  obtain ⟨override, hoverride, h⟩ := Run.bind_eq_ok_iff.mp h
  refine ⟨package, override, hpackage, hoverride, ?_⟩
  have hdistinct : Table.Distinct override := by
    rw [overrides_eq_firstWhere, firstWhere] at hoverride
    split at hoverride
    · exact distinct_of_entriesOf hoverride
    · cases hoverride
      exact List.nodup_nil
  split at h
  · rename_i p' hread
    cases h
    have hgeneral : ∀ e ∈ generalEntries,
        (Table.get? e.1 (Table.extend (packageEntries package) override)).isSome = true := by
      intro e he
      have hkey : (Table.get? e.1 generalEntries).isSome = true := by
        revert he e
        decide
      rw [Table.get?_extend hdistinct, get?_packageEntries, Option.isSome_or, Option.isSome_or,
        Option.isSome_map, hkey, Bool.or_true, Bool.or_true]
    have hparts := hasParts_of_ofJson? hread hgeneral
    simp only [getD_entries hdistinct] at hparts
    exact hparts
  · cases h

/-- **When the file that is there first decides.** A package that is loaded has the parts that are
chosen from the first override file that says something. They are the parts that are chosen from the
first override file that is there if and only if that file has an entry, or else the file that is
read in its place does not change any part. Once the preferred override file says something, nothing
else but the package file matters. -/
theorem load_precedence_iff {p : Package} {j : Journal}
    (h : ((load tree dir).outcome j).1 = .ok p) :
    ∃ package override found, entriesOf tree dir packageFile = .ok package ∧
      firstWhere tree dir (saysSomething tree dir) overrideFiles = .ok override ∧
      firstWhere tree dir (isPresent tree dir) overrideFiles = .ok found ∧
      p.HasParts (chosen override package) ∧
      (p.HasParts (chosen found package) ↔
        found ≠ [] ∨ ∀ n ∈ partNames, chosen override package n.name = chosen [] package n.name) ∧
      (saysSomething tree dir "swaggee.json" = true → ∀ tree' : FileTree,
        entriesOf tree' dir packageFile = entriesOf tree dir packageFile →
        entriesOf tree' dir "swaggee.json" = entriesOf tree dir "swaggee.json" →
        ((load tree' dir).outcome j).1 = .ok p) := by
  obtain ⟨package, override, hpackage, hoverride, hparts⟩ := hasParts_of_load h
  rw [overrides_eq_firstWhere] at hoverride
  obtain ⟨found, hfound, hsame⟩ := firstWhere_isPresent hoverride
  refine ⟨package, override, found, hpackage, hoverride, hfound, hparts, ?_, ?_⟩
  · rw [hparts.congr_iff]
    by_cases hempty : found = []
    · subst hempty
      exact (or_iff_right (not_not_intro rfl)).symm
    · rw [hsame hempty]
      exact iff_of_true (fun _ _ => rfl) (Or.inl hempty)
  · intro htold tree' hpackage' hpreferred
    have htold' : saysSomething tree' dir "swaggee.json" = true :=
      (saysSomething_congr hpreferred).trans htold
    have hfirst : ∀ t : FileTree, saysSomething t dir "swaggee.json" = true →
        overrides t dir overrideFiles = entriesOf t dir "swaggee.json" := by
      intro t ht
      rw [overrides_eq_firstWhere, firstWhere, overrideFiles, List.find?_cons_of_pos ht]
    rw [load_yields tree dir j] at h
    rw [load_yields tree' dir j, ← h, loadOutcome, loadOutcome, hpackage', hfirst tree' htold',
      hfirst tree htold, hpreferred]

/-- A file that holds a text of ASCII characters. -/
def asciiFile (s : String) : FileEntry :=
  .file (s.toList.map fun c => UInt8.ofNat c.toNat)

/-- A tree in which the preferred override file is an empty object. -/
def silentTree : FileTree where
  root := .directory [("package.json", asciiFile "\x7b\"name\": \"pkg\"\x7d"),
    ("swaggee.json", asciiFile "\x7b\x7d"), ("apidoc.json", asciiFile "\x7b\"name\": \"old\"\x7d")]
  workingDirectory := []

/-- The other override file is read in its place, and gives the name that the package file should
have given. -/
theorem load_precedence_iff_silent :
    ((load silentTree ".").outcome {}).1 = .ok { name := "old" } ∧
      firstWhere silentTree "." (isPresent silentTree ".") overrideFiles = .ok [] ∧
      ∃ package, entriesOf silentTree "." packageFile = .ok package ∧
        chosen [] package "name" = .str "pkg" ∧
        ¬ ({ name := "old" } : Package).HasParts (chosen [] package) := by
  have hload : ((load silentTree ".").outcome {}).1 = .ok { name := "old" } := by decide +kernel
  obtain ⟨package, override, found, hpackage, -, hfound, -⟩ := load_precedence_iff hload
  have hempty : (firstWhere silentTree "." (isPresent silentTree ".") overrideFiles).toOption.map
      List.isEmpty = some true := by decide +kernel
  have hpkg : (entriesOf silentTree "." packageFile).toOption.bind
      (fun package => (chosen [] package "name").str?) = some "pkg" := by decide +kernel
  rw [hfound] at hempty ⊢
  obtain rfl := List.isEmpty_iff.mp (Option.some.inj hempty)
  rw [hpackage] at hpkg
  replace hpkg : (chosen [] package "name").str? = some "pkg" := hpkg
  have hname : chosen [] package "name" = .str "pkg" := by
    cases hchosen : chosen [] package "name" <;> rw [hchosen] at hpkg <;> cases hpkg
    rfl
  refine ⟨hload, rfl, package, hpackage, hname, fun hparts => ?_⟩
  exact absurd (Json.str.inj (hname.symm.trans hparts.name)) (by decide)

end Package

end ApiGloss
