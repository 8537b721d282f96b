import ApiGloss.Proofs.Paths

/-!
# Deep Merge along Paths

Merging a source record into a target record goes down both records at once. What comes out is
described here path by path: a path of names leads through the objects of a record to a value
(`Json.at?`), and the value that the merged record has there follows from what the two records have
there. Where the target has a value, the two values are merged (`Json.at?_mergeValue`); where the
target has an object without the name, the source's value is taken over
(`Json.at?_mergeValue_of_missing`); and where the target has anything else above, nothing of the
source gets in (`Json.at?_mergeValue_of_none`).

The names in the objects of a source are distinct, as in every well-formed value; a repeated name
would be merged into its own first value.

## Main results

* `Json.at?_mergeValue`: the merged value at a path that the target has.
* `Json.keys_mergeInto`: the names of a merged table.
* `Json.mergeInto_at_paths`: what a merged record has at every path, and in which order.
-/

namespace ApiGloss.Json

/-! ### Values along paths -/

/-- A path that goes on leads on from where it has led. -/
theorem at?_append (path rest : List String) (j : Json) :
    at? (path ++ rest) j = (at? path j).bind (at? rest) := by
  induction path generalizing j with
  | nil => rfl
  | cons key path ih =>
      rw [List.cons_append, at?, at?, Option.bind_assoc]
      exact congrArg _ (funext ih)

/-- The name behind a path is looked up in the object there. -/
theorem at?_append_singleton (path : List String) (key : String) (j : Json) :
    at? (path ++ [key]) j = (at? path j).bind (get? key) := by
  rw [at?_append]
  refine congrArg _ (funext fun v => ?_)
  rw [at?]
  cases v.get? key <;> rfl

/-- What a name in a well-formed value leads to is well-formed. -/
theorem WellFormed.get? {j v : Json} (h : j.WellFormed) {key : String}
    (hget : j.get? key = some v) : v.WellFormed := by
  cases h with
  | obj _ hentries => exact hentries _ (Table.mem_of_get? hget)
  | _ => cases hget

/-- What a path in a well-formed value leads to is well-formed. -/
theorem WellFormed.at? {j v : Json} (h : j.WellFormed) {path : List String}
    (hat : Json.at? path j = some v) : v.WellFormed := by
  induction path generalizing j with
  | nil =>
      obtain rfl := Option.some.inj hat
      exact h
  | cons key path ih =>
      obtain ⟨w, hw, hrest⟩ := Option.bind_eq_some_iff.mp hat
      exact ih (h.get? hw) hrest

/-- The names of a well-formed object are distinct. -/
theorem WellFormed.distinct {t : Table Json} (h : (Json.obj t).WellFormed) : Table.Distinct t := by
  cases h with
  | obj hdistinct _ => exact hdistinct

/-! ### One level -/

/-- Under a name of an object, a merge leaves what it makes of the two entries. -/
theorem get?_mergeValue_obj {incoming : Json} (h : incoming.WellFormed) (t : Table Json)
    (key : String) :
    (mergeValue (.obj t) incoming).get? key =
      mergeEntry (Table.get? key t) (incoming.get? key) := by
  cases incoming with
  | obj source => exact get?_mergeInto h.distinct t key
  | _ => exact (mergeEntry_none_right _).symm

/-- A value that is no object has no entries, and merging changes nothing in that. -/
theorem get?_mergeValue_of_not_obj {existing : Json} (h : existing.obj? = none) (incoming : Json)
    (key : String) : (mergeValue existing incoming).get? key = none := by
  cases existing with
  | obj t => cases h
  | _ => cases incoming <;> rfl

/-- A merge stores the names of the source like those of any table. -/
theorem keys_mergeInto_eq_extend {t u : Table Json} (h : Table.keys t = Table.keys u)
    (source : Table Json) :
    Table.keys (mergeInto t source) = Table.keys (Table.extend u source) := by
  unfold Table.extend
  induction source generalizing t u with
  | nil => rwa [mergeInto]
  | cons e rest ih =>
      obtain ⟨key, incoming⟩ := e
      rw [mergeInto_cons, List.foldl_cons]
      refine ih ?_
      rw [Table.keys_insert_eq_firsts, Table.keys_insert_eq_firsts, h]

/-- **The names of a merged table**: those of the target, then the new ones of the source. -/
theorem keys_mergeInto {source : Table Json} (hs : Table.Distinct source) (t : Table Json) :
    Table.keys (mergeInto t source) =
      Table.keys t ++ (Table.keys source).filter fun key => key ∉ Table.keys t := by
  rw [keys_mergeInto_eq_extend rfl, Table.keys_extend hs]

/-! ### All levels -/

/-- **Where the target has a value**, it is merged with what the source has there. -/
theorem at?_mergeValue {existing incoming v : Json} (hw : incoming.WellFormed)
    {path : List String} (h : at? path existing = some v) :
    at? path (mergeValue existing incoming) = mergeEntry (some v) (at? path incoming) := by
  induction path generalizing existing incoming with
  | nil =>
      obtain rfl := Option.some.inj h
      rfl
  | cons key path ih =>
      obtain ⟨e, he, hrest⟩ := Option.bind_eq_some_iff.mp h
      cases existing with
      | obj t =>
          have hentry : Table.get? key t = some e := he
          rw [at?, at?, get?_mergeValue_obj hw, hentry]
          cases hi : incoming.get? key with
          | none => exact hrest
          | some i => exact ih (hw.get? hi) hrest
      | _ => cases he

/-- **Where the target has an object without the name**, the source's value is taken over. -/
theorem at?_mergeValue_of_missing {existing incoming : Json} (hw : incoming.WellFormed)
    {path : List String} {key : String} {t : Table Json} (h : at? path existing = some (.obj t))
    (hkey : key ∉ Table.keys t) :
    at? (path ++ [key]) (mergeValue existing incoming) = at? (path ++ [key]) incoming := by
  have hmissing : Table.get? key t = none := Table.get?_eq_none_iff.mpr hkey
  rw [at?_append_singleton, at?_append_singleton, at?_mergeValue hw h]
  cases hi : at? path incoming with
  | none => exact hmissing
  | some i =>
      show (mergeValue (.obj t) i).get? key = i.get? key
      rw [get?_mergeValue_obj (hw.at? hi), hmissing, mergeEntry_none_left]

/-- **Where the target has nothing**, there is what the source has, or nothing. -/
theorem at?_mergeValue_of_none {existing incoming : Json} (hw : incoming.WellFormed)
    {path : List String} (h : at? path existing = none) :
    at? path (mergeValue existing incoming) = at? path incoming ∨
      at? path (mergeValue existing incoming) = none := by
  induction path generalizing existing incoming with
  | nil => cases h
  | cons key path ih =>
      cases existing with
      | obj t =>
          rw [at?, at?, get?_mergeValue_obj hw]
          have hrest : (Table.get? key t).bind (at? path) = none := h
          cases he : Table.get? key t with
          | none => exact Or.inl rfl
          | some e =>
              rw [he, Option.bind_some] at hrest
              cases hi : incoming.get? key with
              | none => exact Or.inr hrest
              | some i => exact ih (hw.get? hi) hrest
      | _ =>
          refine Or.inr ?_
          rw [at?, get?_mergeValue_of_not_obj rfl]
          rfl

/-- A **scalar**: neither an array nor an object. -/
def IsScalar : Json → Prop
  | .arr _ | .obj _ => False
  | _ => True

/-- What a value of the source adds to an array of the target: its items, or itself. -/
def additions : Option Json → List Json
  | none => []
  | some (.arr items) => items
  | some v => [v]

/-- The entries of the object at a path; none if there is no object. -/
def entriesAt (path : List String) (j : Json) : Table Json :=
  ((at? path j).bind obj?).getD []

/-- A scalar of the target stays. -/
theorem mergeEntry_scalar {v : Json} (h : v.IsScalar) (incoming : Option Json) :
    mergeEntry (some v) incoming = some v := by
  cases incoming with
  | none => rfl
  | some i =>
      cases v with
      | arr _ => exact h.elim
      | obj _ => exact h.elim
      | _ => cases i <;> rfl

/-- An array of the target is continued. -/
theorem mergeEntry_arr (items : List Json) (incoming : Option Json) :
    mergeEntry (some (.arr items)) incoming = some (.arr (items ++ additions incoming)) := by
  cases incoming with
  | none => exact congrArg (some ∘ Json.arr) (List.append_nil items).symm
  | some i => cases i <;> rfl

/-- An object of the target takes up the entries of an object. -/
theorem mergeEntry_obj (t : Table Json) (incoming : Option Json) :
    mergeEntry (some (.obj t)) incoming =
      some (.obj (mergeInto t ((incoming.bind obj?).getD []))) := by
  cases incoming with
  | none => rfl
  | some i => cases i <;> rfl

/-- An object comes of an object of the target. -/
theorem exists_obj_of_mergeEntry {v : Json} {incoming : Option Json} {fields : Table Json}
    (h : mergeEntry (some v) incoming = some (.obj fields)) : ∃ t, v = .obj t := by
  cases v with
  | obj t => exact ⟨t, rfl⟩
  | _ =>
      cases incoming with
      | none => cases h
      | some i => cases i <;> cases h

/-- **The names of an object in a merged value.** -/
theorem keys_of_at?_mergeValue {existing incoming : Json} (hw : incoming.WellFormed)
    {path : List String} {fields : Table Json}
    (h : at? path (mergeValue existing incoming) = some (.obj fields)) :
    Table.keys fields = Table.keys (entriesAt path existing) ++
      (Table.keys (entriesAt path incoming)).filter
        fun key => key ∉ Table.keys (entriesAt path existing) := by
  have hdistinct : Table.Distinct (entriesAt path incoming) := by
    rw [entriesAt]
    cases hi : at? path incoming with
    | none => exact List.nodup_nil
    | some i =>
        cases i with
        | obj t => exact (hw.at? hi).distinct
        | _ => exact List.nodup_nil
  cases he : at? path existing with
  | none =>
      have hnone : entriesAt path existing = [] := by rw [entriesAt, he]; rfl
      rcases at?_mergeValue_of_none hw he with hsource | hnothing
      · have hfields : entriesAt path incoming = fields := by
          rw [entriesAt, ← hsource, h]
          rfl
        simp [hnone, hfields, Table.keys]
      · rw [hnothing] at h
        cases h
  | some v =>
      rw [at?_mergeValue hw he] at h
      obtain ⟨t, rfl⟩ := exists_obj_of_mergeEntry h
      rw [mergeEntry_obj] at h
      obtain rfl := Json.obj.inj (Option.some.inj h)
      have ht : entriesAt path existing = t := by rw [entriesAt, he]; rfl
      rw [ht]
      exact keys_mergeInto hdistinct t

/-- **What a merged record has at every path.** A scalar of the target stays. An array of the target
is continued by what the source has there: the items of an array, any other value as one item, or
nothing. Where the target has an object without the last name of the path, there is what the source
has there, or nothing. Where the target has an object, there is an object; and in every object the
names of the target come first, in their order, and then the new names of the source in theirs. -/
theorem mergeInto_at_paths (target source : Table Json) (h : (Json.obj source).WellFormed)
    (path : List String) :
    (∀ v, at? path (.obj target) = some v → v.IsScalar →
      at? path (.obj (mergeInto target source)) = some v) ∧
    (∀ items, at? path (.obj target) = some (.arr items) →
      at? path (.obj (mergeInto target source)) =
        some (.arr (items ++ additions (at? path (.obj source))))) ∧
    (∀ parent key fields, path = parent ++ [key] →
      at? parent (.obj target) = some (.obj fields) → key ∉ Table.keys fields →
      at? path (.obj (mergeInto target source)) = at? path (.obj source)) ∧
    (∀ fields, at? path (.obj target) = some (.obj fields) →
      ∃ fields', at? path (.obj (mergeInto target source)) = some (.obj fields')) ∧
    ∀ fields, at? path (.obj (mergeInto target source)) = some (.obj fields) →
      Table.keys fields = Table.keys (entriesAt path (.obj target)) ++
        (Table.keys (entriesAt path (.obj source))).filter
          fun key => key ∉ Table.keys (entriesAt path (.obj target)) := by
  have hmerge : Json.obj (mergeInto target source) = mergeValue (.obj target) (.obj source) := rfl
  rw [hmerge]
  refine ⟨fun v hv hscalar => ?_, fun items hitems => ?_, ?_, fun fields hfields => ?_,
    fun fields hfields => keys_of_at?_mergeValue h hfields⟩
  · rw [at?_mergeValue h hv, mergeEntry_scalar hscalar]
  · rw [at?_mergeValue h hitems, mergeEntry_arr]
  · rintro parent key fields rfl hparent hkey
    exact at?_mergeValue_of_missing h hparent hkey
  · rw [at?_mergeValue h hfields, mergeEntry_obj]
    exact ⟨_, rfl⟩

/-- A record with a title, a tag and a section. -/
def ownRecord : Table Json :=
  [("title", .str "Own"), ("tags", .arr [.str "a"]),
    ("parameter", .obj [("fields", .arr []), ("kept", .null)])]

/-- A record with another title, a single tag and a larger section. -/
def inheritedRecord : Table Json :=
  [("parameter", .obj [("note", .str "b"), ("fields", .obj [])]), ("tags", .str "b"),
    ("title", .arr [])]

/-- The title stays, the tag becomes a second one, and the section has its own names first. -/
theorem mergeInto_at_paths_inherited :
    at? ["title"] (.obj (mergeInto ownRecord inheritedRecord)) = some (.str "Own") ∧
    at? ["tags"] (.obj (mergeInto ownRecord inheritedRecord)) =
      some (.arr [.str "a", .str "b"]) ∧
    at? ["parameter", "note"] (.obj (mergeInto ownRecord inheritedRecord)) = some (.str "b") ∧
    ∃ fields, at? ["parameter"] (.obj (mergeInto ownRecord inheritedRecord)) =
        some (.obj fields) ∧
      Table.keys fields = ["fields", "kept", "note"] := by
  have hsection : (Json.obj [("note", .str "b"), ("fields", .obj [])]).WellFormed :=
    .obj (by decide) (List.forall_mem_cons.mpr ⟨.str _, List.forall_mem_singleton.mpr
      (.obj List.nodup_nil nofun)⟩)
  have hsource : (Json.obj inheritedRecord).WellFormed :=
    .obj (by decide) (List.forall_mem_cons.mpr ⟨hsection, List.forall_mem_cons.mpr
      ⟨.str _, List.forall_mem_singleton.mpr (.arr nofun)⟩⟩)
  have hmerge := mergeInto_at_paths ownRecord inheritedRecord hsource
  obtain ⟨fields, hfields⟩ := (hmerge ["parameter"]).2.2.2.1 _ rfl
  refine ⟨(hmerge ["title"]).1 _ rfl trivial, (hmerge ["tags"]).2.1 _ rfl,
    (hmerge ["parameter", "note"]).2.2.1 ["parameter"] "note" _ rfl rfl (by decide), fields,
    hfields, ?_⟩
  exact (hmerge ["parameter"]).2.2.2.2 fields hfields

end ApiGloss.Json
