import ApiGloss.Files.Tree
import ApiGloss.Proofs.Places
import ApiGloss.Proofs.Tables
import Mathlib.Data.List.Forall2

/-!
# File Trees up to the Order of Entries

In a well-formed tree the entries of every directory have different names, and names are not empty
and hold no slash. Then names and the path that is written for them determine each other.

A directory gives its entries in some order, and the order may change from one look at the tree to
the next: a tree may be **listed otherwise**. What is at a path is found by name, so it is the same
in both, up to the order of entries in it.

## Main results

* `Text.eq_of_join_eq`, `SourcePath.eq_of_join_eq`: names are determined by their path.
* `FileTree.WellFormed.find`: what is at a path of a well-formed tree is well-formed.
* `FileTree.Relisted.find`: a path leads to the same place, however directories list their entries.
-/

namespace ApiGloss

/-! ### Paths of names -/

/-- A **name of an entry**: it is not empty and holds no slash. -/
structure IsEntryName (name : String) : Prop where
  ne_empty : name ≠ ""
  not_mem : '/' ∉ name.toList

/-- The characters of a path of names. -/
theorem Text.toList_join (name : String) (names : List String) :
    (Text.join "/" (name :: names)).toList =
      name.toList ++ names.flatMap fun n => '/' :: n.toList := by
  have hjoin : (Text.join "/" (name :: names)).toList =
      Chars.join '/' (name.toList :: names.map String.toList) := String.toList_ofList
  rw [hjoin, Chars.join_cons, List.flatMap_map]

/-- Names are determined by their path. -/
theorem Text.eq_of_join_eq {names names' : List String} (hne : names ≠ []) (hne' : names' ≠ [])
    (h : ∀ name ∈ names, IsEntryName name) (h' : ∀ name ∈ names', IsEntryName name)
    (hjoin : Text.join "/" names = Text.join "/" names') : names = names' := by
  have hsplit : ∀ {ns : List String}, ns ≠ [] → (∀ name ∈ ns, IsEntryName name) →
      Chars.split '/' (Text.join "/" ns).toList = ns.map String.toList := by
    intro ns hns hnames
    have hpieces : (Text.join "/" ns).toList = Chars.join '/' (ns.map String.toList) :=
      String.toList_ofList
    rw [hpieces]
    refine Chars.split_join (fun hnil => hns (List.map_eq_nil_iff.mp hnil)) fun piece hpiece => ?_
    obtain ⟨name, hname, rfl⟩ := List.mem_map.mp hpiece
    exact (hnames name hname).not_mem
  have hlists := (hsplit hne h).symm.trans ((congrArg _ (congrArg _ hjoin)).trans (hsplit hne' h'))
  exact List.map_injective_iff.mpr (fun _ _ => String.toList_inj.mp) hlists

/-- A path of names does not start at the root. -/
theorem SourcePath.isAbsolute_join {name : String} (h : IsEntryName name) (names : List String) :
    SourcePath.isAbsolute (Text.join "/" (name :: names)) = false := by
  obtain ⟨c, cs, hname⟩ := List.exists_cons_of_ne_nil fun hnil =>
    h.ne_empty (String.toList_eq_nil_iff.mp hnil)
  have hc : c ≠ '/' := by
    rintro rfl
    exact h.not_mem (hname ▸ List.mem_cons_self)
  rw [SourcePath.isAbsolute, Text.toList_join, hname, List.cons_append, List.head?_cons]
  simpa using hc

/-- Relative paths below a directory all start in the same way. -/
theorem SourcePath.exists_join_eq (dir : String) :
    ∃ start, ∀ path, isAbsolute path = false → join dir path = start ++ path := by
  by_cases hdir : dir = ""
  · refine ⟨"", fun path hpath => ?_⟩
    rw [join, if_neg (ne_true_of_eq_false hpath), if_pos hdir, String.empty_append]
  · by_cases hlast : dir.toList.getLast? == some '/'
    · refine ⟨dir, fun path hpath => ?_⟩
      rw [join, if_neg (ne_true_of_eq_false hpath), if_neg hdir, if_pos hlast]
    · refine ⟨dir ++ "/", fun path hpath => ?_⟩
      rw [join, if_neg (ne_true_of_eq_false hpath), if_neg hdir, if_neg hlast]

/-- Names are determined by their path below a directory. -/
theorem SourcePath.eq_of_join_eq {dir : String} {names names' : List String} (hne : names ≠ [])
    (hne' : names' ≠ []) (h : ∀ name ∈ names, IsEntryName name)
    (h' : ∀ name ∈ names', IsEntryName name)
    (hjoin : join dir (Text.join "/" names) = join dir (Text.join "/" names')) :
    names = names' := by
  obtain ⟨start, hstart⟩ := exists_join_eq dir
  have hpath : ∀ {ns : List String}, ns ≠ [] → (∀ name ∈ ns, IsEntryName name) →
      join dir (Text.join "/" ns) = start ++ Text.join "/" ns := by
    intro ns hns hnames
    cases ns with
    | nil => exact absurd rfl hns
    | cons name ns => exact hstart _ (isAbsolute_join (hnames name List.mem_cons_self) ns)
  rw [hpath hne h, hpath hne' h'] at hjoin
  have hlists := congrArg String.toList hjoin
  rw [String.toList_append, String.toList_append] at hlists
  exact Text.eq_of_join_eq hne hne' h h' (String.toList_inj.mp (List.append_cancel_left hlists))

/-! ### Entries -/

namespace FileEntry

/-- The entry that names lead down to. -/
def at? : FileEntry → List String → Option FileEntry
  | here, [] => some here
  | .file _, _ :: _ => none
  | .directory entries, name :: names => (Table.get? name entries).bind fun entry => entry.at? names

/-- A **well-formed** entry: the entries of every directory have different names. -/
inductive WellFormed : FileEntry → Prop
  | file (content : List UInt8) : WellFormed (.file content)
  | directory {entries : List (String × FileEntry)} (hdistinct : Table.Distinct entries)
      (hnames : ∀ e ∈ entries, IsEntryName e.1) (hentries : ∀ e ∈ entries, WellFormed e.2) :
      WellFormed (.directory entries)

/-- An entry and **the same entry listed otherwise**: the entries of directories stand in any
order. -/
inductive Relisted : FileEntry → FileEntry → Prop
  | file (content : List UInt8) : Relisted (.file content) (.file content)
  | directory {entries entries' : List (String × FileEntry)}
      (hnames : (Table.keys entries).Perm (Table.keys entries'))
      (hentries : ∀ name entry entry', Table.get? name entries = some entry →
        Table.get? name entries' = some entry' → Relisted entry entry') :
      Relisted (.directory entries) (.directory entries')

variable {entry entry' : FileEntry} {entries entries' : List (String × FileEntry)}

/-- No names lead on from a file. -/
theorem at?_file_eq_some_iff {content : List UInt8} {route : List String} :
    (FileEntry.file content).at? route = some entry ↔ route = [] ∧ entry = .file content := by
  cases route <;> simp [at?, eq_comm]

/-- The names that lead to a file lead to an entry of the directory first. -/
theorem at?_directory_eq_file_iff {content : List UInt8} {route : List String} :
    (FileEntry.directory entries).at? route = some (.file content) ↔
      ∃ name rest entry, route = name :: rest ∧ Table.get? name entries = some entry ∧
        entry.at? rest = some (.file content) := by
  cases route with
  | nil => simp [at?]
  | cons name rest => simp [at?, Option.bind_eq_some_iff]

/-- What a directory lists under a name, listed in two ways. -/
theorem Relisted.get? (h : Relisted (.directory entries) (.directory entries')) (name : String) :
    Option.Rel Relisted (Table.get? name entries) (Table.get? name entries') := by
  cases h with
  | directory hnames hentries =>
      cases hget : Table.get? name entries with
      | none =>
          have hget' : Table.get? name entries' = none := Table.get?_eq_none_iff.mpr fun hmem =>
            Table.get?_eq_none_iff.mp hget (hnames.mem_iff.mpr hmem)
          rw [hget']
          exact .none
      | some entry =>
          cases hget' : Table.get? name entries' with
          | none =>
              have hmem : name ∈ Table.keys entries := List.mem_map_of_mem (Table.mem_of_get? hget)
              exact absurd (hnames.mem_iff.mp hmem) (Table.get?_eq_none_iff.mp hget')
          | some entry' => exact .some (hentries name entry entry' hget hget')

/-- Names lead to the same entry, listed in two ways. -/
theorem Relisted.at? (h : Relisted entry entry') (route : List String) :
    Option.Rel Relisted (entry.at? route) (entry'.at? route) := by
  induction route generalizing entry entry' with
  | nil => exact .some h
  | cons name route ih =>
      cases h with
      | file content => exact .none
      | directory hnames hentries =>
          have hget := Relisted.get? (.directory hnames hentries) name
          rw [FileEntry.at?, FileEntry.at?]
          revert hget
          generalize Table.get? name _ = found
          generalize Table.get? name _ = found'
          rintro (hentry | _)
          · exact ih hentry
          · exact .none

/-- Names lead to a file, however directories list their entries. -/
theorem Relisted.at?_eq_file_iff (h : Relisted entry entry') {route : List String}
    {content : List UInt8} :
    entry.at? route = some (.file content) ↔ entry'.at? route = some (.file content) := by
  have hat := h.at? route
  revert hat
  generalize entry.at? route = found
  generalize entry'.at? route = found'
  rintro (hentry | _)
  · cases hentry <;> simp
  · rfl

/-- A well-formed entry is well-formed however directories list their entries. -/
theorem WellFormed.relisted (hwf : entry.WellFormed) (h : Relisted entry entry') :
    entry'.WellFormed := by
  induction h with
  | file content => exact .file content
  | @directory entries entries' hnames hentries ih =>
      cases hwf with
      | directory hdistinct hwfnames hwfentries =>
          have hdistinct' : Table.Distinct entries' := hnames.nodup_iff.mp hdistinct
          have hfind : ∀ e' ∈ entries', ∃ entry, (e'.1, entry) ∈ entries := by
            intro e' he'
            obtain ⟨⟨name, entry⟩, he, heq⟩ := List.mem_map.mp (hnames.mem_iff.mpr
              (List.mem_map_of_mem he'))
            exact ⟨entry, heq ▸ he⟩
          refine .directory hdistinct' (fun e' he' => ?_) fun e' he' => ?_
          · obtain ⟨entry, he⟩ := hfind e' he'
            exact hwfnames (e'.1, entry) he
          · obtain ⟨entry, he⟩ := hfind e' he'
            exact ih e'.1 entry e'.2 ((Table.get?_eq_some_iff hdistinct).mpr he)
              ((Table.get?_eq_some_iff hdistinct').mpr he') (hwfentries _ he)

/-- Names that lead somewhere are names of entries. -/
theorem WellFormed.isEntryName_of_at? (h : entry.WellFormed) {route : List String}
    (hat : entry.at? route = some entry') : ∀ name ∈ route, IsEntryName name := by
  induction route generalizing entry with
  | nil => exact fun name hname => (nomatch hname)
  | cons name route ih =>
      cases h with
      | file content => cases hat
      | directory hdistinct hnames hentries =>
          obtain ⟨next, hget, hat⟩ := Option.bind_eq_some_iff.mp hat
          have hmem := Table.mem_of_get? hget
          exact List.forall_mem_cons.mpr ⟨hnames _ hmem, ih (hentries _ hmem) hat⟩

end FileEntry

/-! ### Following paths -/

namespace FileTree

open FileEntry

/-- A **well-formed** tree. -/
def WellFormed (tree : FileTree) : Prop :=
  tree.root.WellFormed

/-- A tree and the same tree listed otherwise. -/
structure Relisted (tree tree' : FileTree) : Prop where
  root : tree.root.Relisted tree'.root
  workingDirectory : tree.workingDirectory = tree'.workingDirectory

variable {tree tree' : FileTree} {above above' : List FileEntry} {here here' entry : FileEntry}

/-- Following a name from a directory: it stays, leads to the directory above or leads on. -/
theorem follow_directory (above : List FileEntry) (entries : List (String × FileEntry))
    (name : String) (names : List String) :
    follow above (.directory entries) (name :: names) =
      if name = "" ∨ name = "." then follow above (.directory entries) names
      else if name = ".." then follow above.tail (above.headD (.directory entries)) names
      else match Table.get? name entries with
        | none => .error .noEntry
        | some entry => follow (.directory entries :: above) entry names := by
  cases above <;> rfl

/-- Following names in a well-formed tree leads to well-formed entries. -/
theorem wellFormed_of_follow {names : List String} (habove : ∀ e ∈ above, e.WellFormed)
    (hhere : here.WellFormed) (h : follow above here names = .ok entry) : entry.WellFormed := by
  induction names generalizing above here with
  | nil =>
      cases h
      exact hhere
  | cons name names ih =>
      cases hhere with
      | file content => cases h
      | directory hdistinct hnames hentries =>
          have hhere := WellFormed.directory hdistinct hnames hentries
          rw [follow_directory] at h
          split_ifs at h
          · exact ih habove hhere h
          · cases above with
            | nil => exact ih habove hhere h
            | cons up above =>
                obtain ⟨hup, habove⟩ := List.forall_mem_cons.mp habove
                exact ih habove hup h
          · split at h
            · cases h
            · rename_i next hget
              exact ih (List.forall_mem_cons.mpr ⟨hhere, habove⟩)
                (hentries _ (Table.mem_of_get? hget)) h

/-- What is at a path of a well-formed tree is well-formed. -/
theorem WellFormed.find (h : tree.WellFormed) {path : String} (hfind : tree.find path = .ok entry) :
    entry.WellFormed := by
  rw [FileTree.find] at hfind
  split at hfind
  · cases hfind
  · exact wellFormed_of_follow (List.forall_mem_nil _) h hfind

/-- Names lead to the same place or to the same problem, however directories list their
entries. -/
theorem follow_relisted {names : List String}
    (habove : List.Forall₂ FileEntry.Relisted above above') (hhere : here.Relisted here') :
    (∃ problem, follow above here names = .error problem ∧
        follow above' here' names = .error problem) ∨
      ∃ entry entry', follow above here names = .ok entry ∧
        follow above' here' names = .ok entry' ∧ entry.Relisted entry' := by
  induction names generalizing above above' here here' with
  | nil => exact Or.inr ⟨here, here', rfl, rfl, hhere⟩
  | cons name names ih =>
      cases hhere with
      | file content => exact Or.inl ⟨.notDirectory, rfl, rfl⟩
      | directory hnames hentries =>
          have hhere := FileEntry.Relisted.directory hnames hentries
          have hget := hhere.get? name
          rw [follow_directory, follow_directory]
          split_ifs
          · exact ih habove hhere
          · cases habove with
            | nil => exact ih .nil hhere
            | cons hup habove => exact ih habove hup
          · revert hget
            generalize Table.get? name _ = found
            generalize Table.get? name _ = found'
            rintro (hentry | _)
            · exact ih (.cons hhere habove) hentry
            · exact Or.inl ⟨.noEntry, rfl, rfl⟩

/-- **A path leads to the same place** or to the same problem, however directories list their
entries. -/
theorem Relisted.find (h : tree.Relisted tree') (path : String) :
    (∃ problem, tree.find path = .error problem ∧ tree'.find path = .error problem) ∨
      ∃ entry entry', tree.find path = .ok entry ∧ tree'.find path = .ok entry' ∧
        entry.Relisted entry' := by
  have hroute : tree.route path = tree'.route path := by
    rw [FileTree.route, FileTree.route, h.workingDirectory]
  rw [FileTree.find, FileTree.find, hroute]
  split_ifs
  · exact Or.inl ⟨.noEntry, rfl, rfl⟩
  · exact follow_relisted .nil h.root

end FileTree

end ApiGloss
