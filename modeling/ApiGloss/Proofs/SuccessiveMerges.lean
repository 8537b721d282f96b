import ApiGloss.Proofs.DeepMerge
import ApiGloss.Proofs.LookupOrder
import Mathlib.Data.List.Induction

/-!
# Merging One Record after the Other

A record that takes over two definitions is merged twice. The order of the two merges matters, but
their grouping does not, as long as the records are of the same make: merging the definitions one
after the other is merging their combination. For records of different make this fails: an array
takes up a scalar as one more item, and a scalar does not take up an array.

Of the same make, or *compatible*, are records that have arrays, objects or scalars in the same
places. What the grouping leaves under a name is settled by the three values there
(`Json.mergeValue_assoc`), and where one of the records lacks the name nothing is merged. The order
of the names is the same on both sides (`Json.keys_mergeInto`), so that the merged tables agree in
all entries and not only up to order. Merging keeps records compatible with a third one
(`Json.Compatible.mergeValue`), and with that the law goes on to any number of definitions.

## Main results

* `Json.mergeValue_assoc`, `Json.foldl_mergeInto`: two values, and any number of records.
* `Resolve.follow_combined`: a block that refers to definitions takes over their combination.
* `Resolve.merging_is_associative`: three records, and a block that refers to two definitions.
-/

namespace ApiGloss

namespace Table

variable {α : Type}

/-- **Names in order and look-up determine a distinct table.** -/
theorem eq_of_keys_of_get? {t u : Table α} (ht : Distinct t) (hkeys : keys t = keys u)
    (hget : ∀ key, get? key t = get? key u) : t = u := by
  induction t generalizing u with
  | nil => exact (List.map_eq_nil_iff.mp hkeys.symm).symm
  | cons e rest ih =>
      obtain ⟨k, v⟩ := e
      cases u with
      | nil => cases hkeys
      | cons e' rest' =>
          obtain ⟨k', v'⟩ := e'
          obtain ⟨rfl, hrest⟩ : k = k' ∧ keys rest = keys rest' := List.cons.inj hkeys
          obtain ⟨hk, hdistinct⟩ : k ∉ keys rest ∧ Distinct rest := List.nodup_cons.mp ht
          have hv : v = v' := by
            have hhead := hget k
            rwa [get?_cons, get?_cons, if_pos rfl, if_pos rfl, Option.some.injEq] at hhead
          have hlookup : ∀ key, get? key rest = get? key rest' := by
            intro key
            by_cases hkey : k = key
            · subst hkey
              rw [get?_eq_none_iff.mpr hk, get?_eq_none_iff.mpr (hrest ▸ hk)]
            · have htail := hget key
              rwa [get?_cons, get?_cons, if_neg hkey, if_neg hkey] at htail
          rw [hv, ih hdistinct hrest hlookup]

/-- Removing a name that is not there changes nothing. -/
theorem swapErase_of_not_mem {key : String} {t : Table α} (h : key ∉ keys t) :
    swapErase key t = t := by
  induction t with
  | nil => rfl
  | cons e rest ih =>
      obtain ⟨k, v⟩ := e
      obtain ⟨hk, hrest⟩ : key ≠ k ∧ key ∉ keys rest := by simpa [keys] using h
      rw [swapErase, if_neg (Ne.symm hk), ih hrest]

end Table

namespace Json

/-! ### Merged values -/

/-- A scalar stays as it is. -/
theorem mergeValue_of_isScalar {x : Json} (hx : x.IsScalar) (y : Json) : mergeValue x y = x :=
  Option.some.inj (mergeEntry_scalar hx (some y))

/-- An array is continued. -/
theorem mergeValue_arr (items : List Json) (y : Json) :
    mergeValue (.arr items) y = .arr (items ++ additions (some y)) :=
  Option.some.inj (mergeEntry_arr items (some y))

/-- What a well-formed value adds to an array is well-formed. -/
theorem WellFormed.of_mem_additions {y : Json} (hy : y.WellFormed) :
    ∀ j ∈ additions (some y), j.WellFormed := by
  cases y with
  | arr items =>
      cases hy with
      | arr hitems => exact hitems
  | _ => exact List.forall_mem_singleton.mpr hy

/-- **A merged value is well-formed.** -/
theorem WellFormed.mergeValue {x y : Json} (hx : x.WellFormed) (hy : y.WellFormed) :
    (Json.mergeValue x y).WellFormed := by
  induction hx generalizing y with
  | arr hitems =>
      rw [mergeValue_arr]
      exact .arr (List.forall_mem_append.mpr ⟨hitems, hy.of_mem_additions⟩)
  | @obj s hdistinct hentries ih =>
      cases y with
      | obj t =>
          have hmerged := distinct_mergeInto hdistinct t
          refine .obj hmerged fun e he => ?_
          have hget := (Table.get?_eq_some_iff hmerged).mpr he
          rw [get?_mergeInto hy.distinct] at hget
          cases hs : Table.get? e.1 s with
          | none =>
              rw [hs, mergeEntry_none_left] at hget
              exact hy.get? hget
          | some v =>
              have hv := Table.mem_of_get? hs
              cases ht : Table.get? e.1 t with
              | none =>
                  rw [hs, ht] at hget
                  exact Option.some.inj hget ▸ hentries _ hv
              | some w =>
                  rw [hs, ht] at hget
                  exact Option.some.inj hget ▸ ih _ hv (hy.get? ht)
      | _ => exact .obj hdistinct hentries
  | null => exact (mergeValue_of_isScalar (x := .null) trivial y).symm ▸ .null
  | bool b => exact (mergeValue_of_isScalar (x := .bool b) trivial y).symm ▸ .bool b
  | num n => exact (mergeValue_of_isScalar (x := .num n) trivial y).symm ▸ .num n
  | str s => exact (mergeValue_of_isScalar (x := .str s) trivial y).symm ▸ .str s

/-! ### Records of the same make -/

/-- Two values are **compatible**: both are arrays, or both are scalars, or both are objects and
hold compatible values under every name that they share. -/
inductive Compatible : Json → Json → Prop where
  | arr (items more : List Json) : Compatible (.arr items) (.arr more)
  | scalar {x y : Json} (hx : x.IsScalar) (hy : y.IsScalar) : Compatible x y
  | obj {s t : Table Json}
      (h : ∀ key v w, Table.get? key s = some v → Table.get? key t = some w → Compatible v w) :
      Compatible (.obj s) (.obj t)

namespace Compatible

/-- Compatible objects hold compatible values under a name that they share. -/
theorem of_get? {s t : Table Json} (h : Compatible (.obj s) (.obj t)) {key : String} {v w : Json}
    (hv : Table.get? key s = some v) (hw : Table.get? key t = some w) : Compatible v w := by
  cases h with
  | scalar hs _ => exact hs.elim
  | obj h => exact h key v w hv hw

/-- Objects are compatible if their entries are, wherever these have the same name. -/
theorem of_entries {s t : Table Json}
    (h : ∀ e ∈ s, ∀ e' ∈ t, e.1 = e'.1 → Compatible e.2 e'.2) :
    Compatible (.obj s) (.obj t) :=
  .obj fun _ _ _ hv hw => h _ (Table.mem_of_get? hv) _ (Table.mem_of_get? hw) rfl

/-- What an object is compatible with is an object. -/
theorem exists_obj {s : Table Json} {y : Json} (h : Compatible (.obj s) y) : ∃ t, y = .obj t := by
  cases h with
  | scalar hs _ => exact hs.elim
  | obj _ => exact ⟨_, rfl⟩

/-- What an array is compatible with is an array. -/
theorem exists_arr {items : List Json} {y : Json} (h : Compatible (.arr items) y) :
    ∃ more, y = .arr more := by
  cases h with
  | arr _ more => exact ⟨more, rfl⟩
  | scalar hs _ => exact hs.elim

/-- Compatibility goes both ways. -/
theorem symm {x y : Json} (h : Compatible x y) : Compatible y x := by
  induction h with
  | arr items more => exact .arr more items
  | scalar hx hy => exact .scalar hy hx
  | obj _ ih => exact .obj fun key v w hv hw => ih key w v hw hv

/-- **Merging keeps compatibility**: two values that are compatible with a third one are so when
they have been merged. -/
theorem mergeValue {x y z : Json} (hxy : Compatible x y) (hy : y.WellFormed)
    (hxz : Compatible x z) (hyz : Compatible y z) : Compatible (Json.mergeValue x y) z := by
  induction hxy generalizing z with
  | arr items more =>
      obtain ⟨_, rfl⟩ := hxz.exists_arr
      exact .arr _ _
  | scalar hx _ => rwa [mergeValue_of_isScalar hx]
  | @obj s t h ih =>
      obtain ⟨u, rfl⟩ := hxz.exists_obj
      refine .obj fun key v w hv hw => ?_
      rw [get?_mergeInto hy.distinct] at hv
      cases hs : Table.get? key s with
      | none =>
          rw [hs, mergeEntry_none_left] at hv
          exact hyz.of_get? hv hw
      | some v₁ =>
          cases ht : Table.get? key t with
          | none =>
              rw [hs, ht] at hv
              exact Option.some.inj hv ▸ hxz.of_get? hs hw
          | some v₂ =>
              rw [hs, ht] at hv
              exact Option.some.inj hv ▸
                ih key v₁ v₂ hs ht (hy.get? ht) (hxz.of_get? hs hw) (hyz.of_get? ht hw)

end Compatible

/-! ### Three values -/

/-- The names of merged tables do not depend on the grouping. -/
theorem keys_mergeInto_mergeInto {t u : Table Json} (ht : Table.Distinct t)
    (hu : Table.Distinct u) (s : Table Json) :
    Table.keys (mergeInto (mergeInto s t) u) = Table.keys (mergeInto s (mergeInto t u)) := by
  rw [keys_mergeInto hu, keys_mergeInto ht, keys_mergeInto (distinct_mergeInto ht u),
    keys_mergeInto hu, List.filter_append, List.filter_filter, List.append_assoc]
  congr 2
  refine List.filter_congr fun key _ => ?_
  rw [← Bool.decide_and, decide_eq_decide, List.mem_append, List.mem_filter, decide_eq_true_eq]
  tauto

/-- **Merging three compatible values** in either grouping leaves the same. The first and the third
need not be compatible: where the second is missing, they are merged with each other on both
sides. -/
theorem mergeValue_assoc {x y z : Json} (hxy : Compatible x y) (hyz : Compatible y z)
    (hx : x.WellFormed) (hy : y.WellFormed) (hz : z.WellFormed) :
    mergeValue (mergeValue x y) z = mergeValue x (mergeValue y z) := by
  induction hxy generalizing z with
  | arr items more =>
      obtain ⟨rest, rfl⟩ := hyz.exists_arr
      exact congrArg Json.arr (List.append_assoc items more rest)
  | scalar hscalar _ => simp only [mergeValue_of_isScalar hscalar]
  | @obj s t h ih =>
      obtain ⟨u, rfl⟩ := hyz.exists_obj
      have htu := distinct_mergeInto hy.distinct u
      refine congrArg Json.obj (Table.eq_of_keys_of_get?
        (distinct_mergeInto (distinct_mergeInto hx.distinct t) u)
        (keys_mergeInto_mergeInto hy.distinct hz.distinct s) fun key => ?_)
      rw [get?_mergeInto hz.distinct, get?_mergeInto hy.distinct, get?_mergeInto htu,
        get?_mergeInto hz.distinct]
      cases hs : Table.get? key s with
      | none => simp only [mergeEntry_none_left]
      | some v₁ =>
          cases ht : Table.get? key t with
          | none => simp only [mergeEntry_none_left, mergeEntry_none_right]
          | some v₂ =>
              cases hu : Table.get? key u with
              | none => simp only [mergeEntry_none_right]
              | some v₃ =>
                  exact congrArg some (ih key v₁ v₂ hs ht (hyz.of_get? ht hu) (hx.get? hs)
                    (hy.get? ht) (hz.get? hu))

/-! ### Any number of records -/

/-- Two records are compatible. -/
def CompatibleRecords (s t : Table Json) : Prop :=
  Compatible (.obj s) (.obj t)

/-- The **combination** of records: all of them merged, in order. -/
def combined (records : List (Table Json)) : Table Json :=
  records.foldl mergeInto []

/-- One record more. -/
theorem combined_concat (records : List (Table Json)) (d : Table Json) :
    combined (records ++ [d]) = mergeInto (combined records) d := by
  rw [combined, List.foldl_concat]
  rfl

/-- The combination of one record is this record. -/
theorem combined_singleton {t : Table Json} (ht : Table.Distinct t) : combined [t] = t := by
  have hempty : Table.Distinct ([] : Table Json) := List.nodup_nil
  rw [combined, List.foldl_cons, List.foldl_nil]
  refine Table.eq_of_keys_of_get? (distinct_mergeInto hempty t) ?_ fun key => ?_
  · rw [keys_mergeInto ht]
    exact List.filter_eq_self.mpr fun key _ => decide_eq_true List.not_mem_nil
  · rw [get?_mergeInto ht, Table.get?_nil, mergeEntry_none_left]

/-- A combination of records is a record. -/
theorem wellFormed_combined {records : List (Table Json)}
    (hw : ∀ d ∈ records, (Json.obj d).WellFormed) : (Json.obj (combined records)).WellFormed := by
  induction records using List.reverseRecOn with
  | nil => exact .obj List.nodup_nil nofun
  | append_singleton records d ih =>
      obtain ⟨hw, hd⟩ := List.forall_mem_append.mp hw
      rw [combined_concat]
      exact (ih hw).mergeValue (hd d (List.mem_singleton_self d))

/-- A record that is compatible with others is compatible with their combination, if they are so
with each other. -/
theorem compatible_combined {records : List (Table Json)}
    (hw : ∀ d ∈ records, (Json.obj d).WellFormed) (hrecords : records.Pairwise CompatibleRecords)
    {a : Table Json} (ha : ∀ d ∈ records, CompatibleRecords d a) :
    CompatibleRecords (combined records) a := by
  induction records using List.reverseRecOn generalizing a with
  | nil => exact .obj nofun
  | append_singleton records d ih =>
      obtain ⟨hw, hd⟩ := List.forall_mem_append.mp hw
      obtain ⟨hrecords, -, hlast⟩ := List.pairwise_append.mp hrecords
      obtain ⟨ha, hda⟩ := List.forall_mem_append.mp ha
      have hwith : CompatibleRecords (combined records) d :=
        ih hw hrecords fun e he => hlast e he d List.mem_cons_self
      rw [combined_concat]
      exact Compatible.mergeValue hwith (hd d (List.mem_singleton_self d)) (ih hw hrecords ha)
        (hda d (List.mem_singleton_self d))

/-- **Merging records one after the other** is merging their combination. -/
theorem foldl_mergeInto {a : Table Json} {records : List (Table Json)}
    (ha : (Json.obj a).WellFormed) (hw : ∀ d ∈ records, (Json.obj d).WellFormed)
    (h : (a :: records).Pairwise CompatibleRecords) :
    records.foldl mergeInto a = mergeInto a (combined records) := by
  induction records using List.reverseRecOn with
  | nil => rfl
  | append_singleton records d ih =>
      obtain ⟨hw, hd⟩ := List.forall_mem_append.mp hw
      obtain ⟨hbefore, -, hlast⟩ := List.pairwise_append.mp (List.cons_append ▸ h)
      obtain ⟨hfirst, hrecords⟩ := List.pairwise_cons.mp hbefore
      have hcombined : CompatibleRecords (combined records) a :=
        compatible_combined hw hrecords fun e he => (hfirst e he).symm
      have hwith : CompatibleRecords (combined records) d :=
        compatible_combined hw hrecords fun e he =>
          hlast e (List.mem_cons_of_mem a he) d List.mem_cons_self
      have hassoc := mergeValue_assoc hcombined.symm hwith ha (wellFormed_combined hw)
        (hd d (List.mem_singleton_self d))
      rw [List.foldl_concat, ih hw hbefore, combined_concat]
      exact Json.obj.inj hassoc

end Json

namespace Resolve

open Json

/-! ### Blocks that refer to definitions -/

variable {t : DefinitionTable} {target version defaultVersion : String}

/-- **The work list** merges the definitions of its names one after the other, if these refer to
nothing further. -/
theorem follow_of_plain {names : List String} {records : List (Table Json)}
    (hfound : List.Forall₂ (fun name d => lookup t name version defaultVersion = .found (.obj d))
      names records)
    (hnames : names.Nodup) (hdistinct : ∀ d ∈ records, Table.Distinct d)
    (hplain : ∀ d ∈ records, target ∉ Table.keys d) {a : Table Json}
    (ha : target ∉ Table.keys a) {visited : List String} (hvisited : ∀ n ∈ names, n ∉ visited) :
    follow t target version defaultVersion visited names a = (records.foldl mergeInto a, none) := by
  induction hfound generalizing a visited with
  | nil =>
      rw [follow]
      rfl
  | @cons name d names records hlookup _ ih =>
      obtain ⟨hname, hnames⟩ := List.nodup_cons.mp hnames
      obtain ⟨hd, hdistinct⟩ := List.forall_mem_cons.mp hdistinct
      obtain ⟨hdplain, hplain⟩ := List.forall_mem_cons.mp hplain
      obtain ⟨hnew, hvisited⟩ := List.forall_mem_cons.mp hvisited
      have hmerged : target ∉ Table.keys (mergeInto a d) := by
        rw [keys_mergeInto hd, List.mem_append, List.mem_filter]
        exact fun h => h.elim ha fun h => hdplain h.1
      have hrest : ∀ n ∈ names, n ∉ name :: visited := fun n hn hmem =>
        (List.mem_cons.mp hmem).elim (fun h => hname (h ▸ hn)) (hvisited n hn)
      rw [follow_cons_found (fun h => hnew (List.contains_iff_mem.mp h)) hlookup, mergeDefinition,
        Table.get?_eq_none_iff.mpr hmerged, Table.swapErase_of_not_mem hmerged]
      exact (congrArg (follow t target version defaultVersion (name :: visited) · _)
        (List.append_nil names)).trans (ih hnames hdistinct hplain hmerged hrest)

/-- **A block that refers to definitions** takes over their combination. -/
theorem follow_combined {names : List String} {records : List (Table Json)}
    (hfound : List.Forall₂ (fun name d => lookup t name version defaultVersion = .found (.obj d))
      names records)
    (hnames : names.Nodup) {a : Table Json} (ha : (Json.obj a).WellFormed)
    (hw : ∀ d ∈ records, (Json.obj d).WellFormed)
    (h : (a :: records).Pairwise CompatibleRecords)
    (hplain : ∀ d ∈ a :: records, target ∉ Table.keys d) :
    follow t target version defaultVersion [] names a = (mergeInto a (combined records), none) := by
  obtain ⟨haplain, hplain⟩ := List.forall_mem_cons.mp hplain
  rw [follow_of_plain hfound hnames (fun d hd => (hw d hd).distinct) hplain haplain
    fun _ _ => List.not_mem_nil, foldl_mergeInto ha hw h]

/-- **Merging is associative on compatible records.** Merging a second record and then a third one
into a first leaves the same, in the same order, as merging the combination of the two. So a block
that refers to two definitions takes over what it would take over from one definition that combines
them; the definitions are to refer to nothing further, since the place of a list of references goes
to the last entry when it is removed. -/
theorem merging_is_associative {a b c : Table Json} (ha : (Json.obj a).WellFormed)
    (hb : (Json.obj b).WellFormed) (hc : (Json.obj c).WellFormed)
    (h : [a, b, c].Pairwise CompatibleRecords) :
    mergeInto (mergeInto a b) c = mergeInto a (mergeInto b c) ∧
    ∀ (t : DefinitionTable) (target version defaultVersion first second both : String),
      first ≠ second →
      lookup t first version defaultVersion = .found (.obj b) →
      lookup t second version defaultVersion = .found (.obj c) →
      lookup t both version defaultVersion = .found (.obj (mergeInto b c)) →
      (∀ d ∈ [a, b, c], target ∉ Table.keys d) →
      follow t target version defaultVersion [] [first, second] a =
          (mergeInto a (mergeInto b c), none) ∧
        follow t target version defaultVersion [] [both] a =
          follow t target version defaultVersion [] [first, second] a := by
  obtain ⟨hfirst, hrest⟩ := List.pairwise_cons.mp h
  have hab : CompatibleRecords a b := hfirst b (by simp)
  have hac : CompatibleRecords a c := hfirst c (by simp)
  have hbc : CompatibleRecords b c := (List.pairwise_cons.mp hrest).1 c (by simp)
  have hboth : (Json.obj (mergeInto b c)).WellFormed := hb.mergeValue hc
  have hcombined : combined [b, c] = mergeInto b c :=
    (combined_concat [b] c).trans (congrArg (mergeInto · c) (combined_singleton hb.distinct))
  refine ⟨Json.obj.inj (mergeValue_assoc hab hbc ha hb hc), ?_⟩
  intro t target version defaultVersion first second both hne hlookup₁ hlookup₂ hlookup hplain
  obtain ⟨haplain, hbplain, hcplain⟩ : target ∉ Table.keys a ∧ target ∉ Table.keys b ∧
      target ∉ Table.keys c := by simpa using hplain
  have hbothplain : target ∉ Table.keys (mergeInto b c) := by
    rw [keys_mergeInto hc.distinct, List.mem_append, List.mem_filter]
    exact fun h => h.elim hbplain fun h => hcplain h.1
  have htwo := follow_combined (.cons hlookup₁ (.cons hlookup₂ .nil)) (by simpa using hne) ha
    (by simpa using ⟨hb, hc⟩) h hplain
  have hone := follow_combined (.cons hlookup .nil) (List.nodup_singleton both) ha
    (List.forall_mem_singleton.mpr hboth)
    (List.pairwise_pair.mpr (Compatible.mergeValue hbc hc hab.symm hac.symm).symm)
    (List.forall_mem_cons.mpr ⟨haplain, List.forall_mem_singleton.mpr hbothplain⟩)
  rw [hcombined] at htwo
  rw [combined_singleton hboth.distinct] at hone
  exact ⟨htwo, hone.trans htwo.symm⟩

/-- A section of fields by group; here a field is just its name. -/
def sectionOf (groups : Table (List String)) : Json :=
  .obj [("fields", .obj (groups.map fun group => (group.1, ofStrs group.2)))]

/-- A section with distinct groups is well-formed. -/
theorem wellFormed_sectionOf {groups : Table (List String)} (h : Table.Distinct groups) :
    (sectionOf groups).WellFormed := by
  have hgroups : (Json.obj (groups.map fun group => (group.1, ofStrs group.2))).WellFormed := by
    refine .obj ?_ (List.forall_mem_map.mpr fun group _ => .arr ?_)
    · unfold Table.Distinct Table.keys at h ⊢
      rwa [List.map_map]
    · exact List.forall_mem_map.mpr fun name _ => .str name
  exact .obj (List.nodup_singleton _) (List.forall_mem_singleton.mpr hgroups)

/-- Sections of fields are compatible. -/
theorem compatible_sectionOf (groups more : Table (List String)) :
    Compatible (sectionOf groups) (sectionOf more) := by
  refine .of_entries (List.forall_mem_singleton.mpr (List.forall_mem_singleton.mpr fun _ => ?_))
  exact .of_entries (List.forall_mem_map.mpr fun _ _ => List.forall_mem_map.mpr fun _ _ _ =>
    .arr _ _)

/-- The record of an endpoint with a title and a parameter. -/
def endpointRecord : Table Json :=
  [("title", .str "Own"), ("parameter", sectionOf [("Parameter", ["id"])])]

/-- The record of a definition with another parameter and a header. -/
def pagingRecord : Table Json :=
  [("header", sectionOf [("Header", ["token"])]),
    ("parameter", sectionOf [("Parameter", ["page"])])]

/-- The record of a definition with a title, parameters of two groups and another header. -/
def loginRecord : Table Json :=
  [("title", .str "Login"),
    ("parameter", sectionOf [("Login", ["user"]), ("Parameter", ["size"])]),
    ("header", sectionOf [("Header", ["agent"])])]

/-- The two definitions, and one that combines them. -/
def combiningDefinitions : DefinitionTable :=
  [("Paging", [("0.0.0", .obj pagingRecord)]), ("Login", [("1.0.0", .obj loginRecord)]),
    ("Both", [("1.0.0", .obj (mergeInto pagingRecord loginRecord))])]

/-- The endpoint keeps its title, has the parameters of both groups, and the header comes last. -/
theorem merging_is_associative_login :
    follow combiningDefinitions "use" "1.1.0" "0.0.0" [] ["Both"] endpointRecord =
        follow combiningDefinitions "use" "1.1.0" "0.0.0" [] ["Paging", "Login"] endpointRecord ∧
      mergeInto (mergeInto endpointRecord pagingRecord) loginRecord =
        [("title", .str "Own"),
          ("parameter", sectionOf [("Parameter", ["id", "page", "size"]), ("Login", ["user"])]),
          ("header", sectionOf [("Header", ["token", "agent"])])] := by
  have hown : (Json.obj endpointRecord).WellFormed :=
    .obj (by decide) (by
      simpa [endpointRecord] using ⟨.str _, wellFormed_sectionOf (by decide)⟩)
  have hpaging : (Json.obj pagingRecord).WellFormed :=
    .obj (by decide) (by
      simpa [pagingRecord] using
        ⟨wellFormed_sectionOf (by decide), wellFormed_sectionOf (by decide)⟩)
  have hlogin : (Json.obj loginRecord).WellFormed :=
    .obj (by decide) (by
      simpa [loginRecord] using
        ⟨.str _, wellFormed_sectionOf (by decide), wellFormed_sectionOf (by decide)⟩)
  have hownpaging : CompatibleRecords endpointRecord pagingRecord :=
    .of_entries (by simpa [endpointRecord, pagingRecord] using compatible_sectionOf _ _)
  have hownlogin : CompatibleRecords endpointRecord loginRecord :=
    .of_entries (by
      simpa [endpointRecord, loginRecord] using
        ⟨.scalar trivial trivial, compatible_sectionOf _ _⟩)
  have hpaginglogin : CompatibleRecords pagingRecord loginRecord :=
    .of_entries (by
      simpa [pagingRecord, loginRecord] using
        ⟨compatible_sectionOf _ _, compatible_sectionOf _ _⟩)
  obtain ⟨hassoc, hfollow⟩ := merging_is_associative hown hpaging hlogin
    (.cons (by simp [hownpaging, hownlogin]) (List.pairwise_pair.mpr hpaginglogin))
  refine ⟨(hfollow combiningDefinitions "use" "1.1.0" "0.0.0" "Paging" "Login" "Both" (by decide)
    rfl rfl rfl (by decide)).2, ?_⟩
  rw [hassoc]
  rfl

/-- A scalar between two arrays: merged into the first it becomes an item, and when the second is
merged into it, it keeps the items of the second away. -/
example :
    mergeInto (mergeInto [("x", .arr [])] [("x", .null)]) [("x", .arr [.null])] =
        [("x", .arr [.null, .null])] ∧
      mergeInto [("x", .arr [])] (mergeInto [("x", .null)] [("x", .arr [.null])]) =
        [("x", .arr [.null])] :=
  ⟨rfl, rfl⟩

end Resolve

end ApiGloss
