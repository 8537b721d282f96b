import ApiGloss.Proofs.DeepMerge

/-!
# Attaching along Paths

Attaching values below a path goes down the record level by level and creates what is missing. To
describe it by induction on the path, the level at which it has arrived is an optional value: nothing
is there, or a value of any shape (`Record.attachBelow`). What is read along paths before and after
is then compared at once for all levels.

Attaching looks at nothing but the path itself, and writes to nothing else. It fails where a value
on the path has the wrong shape, and only there. On success the value at the end of the path is
renewed, every path that leaves the attach path reads as before, and the names in the objects on the
way keep their order, since a created level is stored like any other entry.

## Main results

* `Record.attachBelow_obj`: attaching, as a function of optional values.
* `Record.at?_attachBelow`, `Record.at?_attachBelow_of_apart`: reading at the path, and elsewhere.
* `Record.attach_at_paths`: when attaching succeeds, and what it does to a record.
-/

namespace ApiGloss.Record

open Json

variable {method : AttachMethod} {values : Table Json}

/-! ### Attaching below a value that may be missing -/

/-- Attaches values below a path of an optional value, which is created if it is missing. -/
def attachBelow (method : AttachMethod) (values : Table Json) :
    List String → Option Json → Option Json
  | [], slot? => attachTo method values (slot?.getD (emptySlot method))
  | head :: rest, slot? =>
    match slot?.getD (.obj []) with
    | .obj fields => (attachBelow method values rest (Table.get? head fields)).map
        fun v => .obj (Table.insert head v fields)
    | _ => none

/-- A missing level is an empty object, if the path goes on. -/
theorem attachBelow_getD (head : String) (rest : List String) (slot? : Option Json) :
    attachBelow method values (head :: rest) slot? =
      attachBelow method values (head :: rest) (some (slot?.getD (.obj []))) := rfl

/-- **Attaching to a record** is attaching below an object. -/
theorem attachBelow_obj (path : List String) (t : Table Json) :
    attachBelow method values path (some (.obj t)) = (attach method values path t).map .obj := by
  induction path generalizing t with
  | nil => cases method <;> rfl
  | cons head rest ih =>
      rw [attachBelow, Option.getD_some]
      cases rest with
      | nil => rw [attach, Option.map_map]; rfl
      | cons next rest =>
          dsimp only
          rw [attachBelow_getD, attach]
          · cases (Table.get? head t).getD (.obj []) with
            | obj child => rw [ih child, Option.map_map, Option.map_map]; rfl
            | _ => rfl
          · exact List.cons_ne_nil _ _

/-- One level of attaching that succeeds. -/
theorem attachBelow_cons_eq_some_iff {head : String} {rest : List String} {slot? : Option Json}
    {v : Json} :
    attachBelow method values (head :: rest) slot? = some v ↔
      ∃ fields w, slot?.getD (.obj []) = .obj fields ∧
        attachBelow method values rest (Table.get? head fields) = some w ∧
        v = .obj (Table.insert head w fields) := by
  rw [attachBelow]
  constructor
  · intro h
    split at h
    · rename_i fields hslot
      obtain ⟨w, hw, rfl⟩ := Option.map_eq_some_iff.mp h
      exact ⟨fields, w, hslot, hw, rfl⟩
    · cases h
  · rintro ⟨fields, w, hslot, hw, rfl⟩
    rw [hslot]
    exact Option.map_eq_some_iff.mpr ⟨w, hw, rfl⟩

/-- Reading along a path through an object that may be missing. -/
theorem bind_at?_cons {slot? : Option Json} {fields : Table Json}
    (h : slot?.getD (.obj []) = .obj fields) (key : String) (path : List String) :
    slot?.bind (at? (key :: path)) = (Table.get? key fields).bind (at? path) := by
  cases slot? with
  | none =>
      cases h
      rfl
  | some v =>
      cases h
      rfl

/-! ### When attaching succeeds -/

/-- The shape of a value to which values are attached: an array takes one more item, and an object
takes entries. -/
def Takes : AttachMethod → Json → Prop
  | .push, v => ∃ items, v = .arr items
  | .insert, v => ∃ fields, v = .obj fields

/-- A path of an optional value is **open**: the values on the way are objects, and the one at its
end can take what is attached. Nothing has to be there. -/
structure Open (method : AttachMethod) (path : List String) (slot? : Option Json) : Prop where
  objects : ∀ before, before <+: path → before ≠ path →
    ∀ v, slot?.bind (at? before) = some v → ∃ fields, v = .obj fields
  takes : ∀ v, slot?.bind (at? path) = some v → Takes method v

/-- Attaching to a value succeeds if it has the shape, and a created one does. -/
theorem isSome_attachTo_iff {slot? : Option Json} :
    (attachTo method values (slot?.getD (emptySlot method))).isSome ↔
      ∀ v, slot? = some v → Takes method v := by
  cases slot? with
  | none => exact iff_of_true (by cases method <;> rfl) nofun
  | some v =>
      have htakes : (∀ w, some v = some w → Takes method w) ↔ Takes method v :=
        ⟨fun h => h v rfl, fun h w hw => Option.some.inj hw ▸ h⟩
      rw [htakes, Option.getD_some]
      cases method <;> cases v <;> simp [attachTo, Takes]

/-- A path is open if its first value is an object, or missing, and the rest of it is open. -/
theorem open_cons_iff {head : String} {rest : List String} {slot? : Option Json} :
    Open method (head :: rest) slot? ↔
      ∃ fields, slot?.getD (.obj []) = .obj fields ∧
        Open method rest (Table.get? head fields) := by
  constructor
  · intro h
    obtain ⟨fields, hfields⟩ : ∃ fields, slot?.getD (.obj []) = .obj fields := by
      cases hslot : slot? with
      | none => exact ⟨[], rfl⟩
      | some v =>
          exact h.objects [] List.nil_prefix (List.cons_ne_nil _ _).symm v (by rw [hslot]; rfl)
    refine ⟨fields, hfields, fun before hbefore hne v hv => ?_, fun v hv => ?_⟩
    · refine h.objects (head :: before) ((List.prefix_cons_inj head).mpr hbefore)
        (fun heq => hne (List.cons.inj heq).2) v ?_
      rwa [bind_at?_cons hfields]
    · refine h.takes v ?_
      rwa [bind_at?_cons hfields]
  · rintro ⟨fields, hfields, h⟩
    refine ⟨fun before hbefore hne v hv => ?_, fun v hv => ?_⟩
    · cases before with
      | nil =>
          obtain ⟨w, rfl, hw⟩ := Option.bind_eq_some_iff.mp hv
          cases hw
          exact ⟨fields, hfields⟩
      | cons key before =>
          obtain ⟨rfl, hrest⟩ := List.cons_prefix_cons.mp hbefore
          rw [bind_at?_cons hfields] at hv
          exact h.objects before hrest (fun heq => hne (heq ▸ rfl)) v hv
    · rw [bind_at?_cons hfields] at hv
      exact h.takes v hv

/-- **Attaching succeeds** exactly if the path is open. -/
theorem isSome_attachBelow_iff {path : List String} {slot? : Option Json} :
    (attachBelow method values path slot?).isSome ↔ Open method path slot? := by
  induction path generalizing slot? with
  | nil =>
      rw [attachBelow, isSome_attachTo_iff]
      refine ⟨fun h => ⟨fun before hbefore hne => absurd (List.prefix_nil.mp hbefore) hne, ?_⟩, ?_⟩
      · intro v hv
        obtain ⟨w, hslot, hw⟩ := Option.bind_eq_some_iff.mp hv
        cases hw
        exact h v hslot
      · rintro h v rfl
        exact h.takes v rfl
  | cons head rest ih =>
      rw [open_cons_iff, Option.isSome_iff_exists]
      simp only [attachBelow_cons_eq_some_iff]
      constructor
      · rintro ⟨v, fields, w, hslot, hw, rfl⟩
        exact ⟨fields, hslot, ih.mp (Option.isSome_iff_exists.mpr ⟨w, hw⟩)⟩
      · rintro ⟨fields, hslot, hopen⟩
        obtain ⟨w, hw⟩ := Option.isSome_iff_exists.mp (ih.mpr hopen)
        exact ⟨_, fields, w, hslot, hw, rfl⟩

/-! ### What attaching does -/

section Attached

variable {path : List String} {slot? : Option Json} {v : Json}

/-- **The value at the path** is the old one, or a created one, with the values attached. -/
theorem at?_attachBelow (h : attachBelow method values path slot? = some v) :
    at? path v = attachTo method values ((slot?.bind (at? path)).getD (emptySlot method)) := by
  induction path generalizing slot? v with
  | nil =>
      have hslot : slot?.bind (at? []) = slot? := by cases slot? <;> rfl
      rw [hslot, at?]
      exact h.symm
  | cons head rest ih =>
      obtain ⟨fields, w, hslot, hw, rfl⟩ := attachBelow_cons_eq_some_iff.mp h
      rw [bind_at?_cons hslot, ← ih hw, at?, Json.get?, Table.get?_insert, if_pos rfl,
        Option.bind_some]

/-- **Apart from the path**, everything reads as before. -/
theorem at?_attachBelow_of_apart (h : attachBelow method values path slot? = some v)
    {other : List String} (hbefore : ¬ other <+: path) (hbehind : ¬ path <+: other) :
    at? other v = slot?.bind (at? other) := by
  induction path generalizing slot? v other with
  | nil => exact absurd List.nil_prefix hbehind
  | cons head rest ih =>
      cases other with
      | nil => exact absurd List.nil_prefix hbefore
      | cons key other =>
          obtain ⟨fields, w, hslot, hw, rfl⟩ := attachBelow_cons_eq_some_iff.mp h
          rw [bind_at?_cons hslot, at?, Json.get?, Table.get?_insert]
          by_cases hkey : head = key
          · subst hkey
            rw [if_pos rfl]
            rw [List.prefix_cons_inj] at hbefore hbehind
            exact ih hw hbefore hbehind
          · rw [if_neg hkey]

/-- What takes entries is an object, and then has the entries as well. -/
theorem exists_obj_of_attachTo {key : String} {e w : Json} (h : attachTo method values v = some w)
    (hget : v.get? key = some e) :
    ∃ t, v = .obj t ∧ w = .obj (Table.extend t values) := by
  cases v with
  | obj t =>
      cases method with
      | push => cases h
      | insert => exact ⟨t, rfl, (Option.some.inj h).symm⟩
  | _ => cases hget

/-- Attaching to a value keeps the names of its objects in front, unless they stood under a name that
is stored anew. -/
theorem keys_isPrefix_attachTo (hvalues : Table.Distinct values) {w : Json}
    (h : attachTo method values v = some w) {other : List String} {fields : Table Json}
    (hfields : at? other v = some (.obj fields))
    (hkept : ∀ key rest, other = key :: rest → key ∉ Table.keys values) :
    ∃ fields', at? other w = some (.obj fields') ∧ Table.keys fields <+: Table.keys fields' := by
  cases other with
  | nil =>
      obtain rfl := Option.some.inj hfields
      cases method with
      | push => cases h
      | insert =>
          obtain rfl := Option.some.inj h
          refine ⟨_, rfl, ?_⟩
          rw [Table.keys_extend hvalues]
          exact List.prefix_append _ _
  | cons key rest =>
      obtain ⟨e, he, -⟩ := Option.bind_eq_some_iff.mp hfields
      obtain ⟨t, rfl, rfl⟩ := exists_obj_of_attachTo h he
      have hkey : Table.get? key values = none := Table.get?_eq_none_iff.mpr (hkept key rest rfl)
      refine ⟨fields, ?_, List.prefix_rfl⟩
      rw [at?, Json.get?, Table.get?_extend hvalues, hkey, Option.none_or]
      exact hfields

/-- **The names in every object stay in front**, in their order. What stands under a name that is
stored anew is no longer there. -/
theorem keys_isPrefix_attachBelow (hvalues : Table.Distinct values)
    (h : attachBelow method values path slot? = some v) {other : List String}
    {fields : Table Json} (hfields : slot?.bind (at? other) = some (.obj fields))
    (hkept : ∀ key rest, other = path ++ key :: rest → key ∉ Table.keys values) :
    ∃ fields', at? other v = some (.obj fields') ∧
      Table.keys fields <+: Table.keys fields' := by
  induction path generalizing slot? v other with
  | nil =>
      obtain ⟨w, rfl, hw⟩ := Option.bind_eq_some_iff.mp hfields
      exact keys_isPrefix_attachTo hvalues h hw hkept
  | cons head rest ih =>
      obtain ⟨t, w, hslot, hw, rfl⟩ := attachBelow_cons_eq_some_iff.mp h
      cases other with
      | nil =>
          obtain ⟨_, rfl, hobj⟩ := Option.bind_eq_some_iff.mp hfields
          obtain rfl := Option.some.inj hobj
          obtain rfl := Json.obj.inj hslot
          exact ⟨_, rfl, Table.keys_isPrefix_insert _ _ _⟩
      | cons key other =>
          rw [bind_at?_cons hslot] at hfields
          rw [at?, Json.get?, Table.get?_insert]
          by_cases hkey : head = key
          · subst hkey
            rw [if_pos rfl]
            exact ih hw hfields fun key' rest' heq =>
              hkept key' rest' (congrArg (head :: ·) heq)
          · rw [if_neg hkey]
            exact ⟨fields, hfields, List.prefix_rfl⟩

end Attached

/-- The items of the array at a path; none if there is no array. -/
def itemsAt (path : List String) (j : Json) : List Json :=
  ((at? path j).bind arr?).getD []

/-- What attaching makes of a value that takes it, or of nothing. -/
theorem attachTo_eq_some_of_takes {slot? : Option Json} (h : ∀ v, slot? = some v → Takes method v) :
    attachTo method values (slot?.getD (emptySlot method)) =
      some (match method with
        | .push => .arr ((slot?.bind arr?).getD [] ++ [.obj values])
        | .insert => .obj (Table.extend ((slot?.bind obj?).getD []) values)) := by
  cases slot? with
  | none => cases method <;> rfl
  | some v =>
      cases method with
      | push =>
          obtain ⟨items, rfl⟩ := h v rfl
          rfl
      | insert =>
          obtain ⟨fields, rfl⟩ := h v rfl
          rfl

/-- **Attaching values below a path of a record.** It succeeds exactly if every value on the way is
an object, and the value at the path, if there is one, is an array to which an item is added or an
object to which entries are added. On success

* the array at the path has its items, if there was one, and then an object with the values;
* the object at the path has its names, if there was one, and then the new names of the values; under
  a name of the values it has their value, and under any other name its own;
* every path that is neither a start nor a continuation of the path reads as before; and
* every object of the record has its names in front, in their order, unless it stood under a name
  that is stored anew. -/
theorem attach_at_paths (method : AttachMethod) {values : Table Json}
    (hvalues : Table.Distinct values) (path : List String) (t : Table Json) :
    ((attach method values path t).isSome ↔
      (∀ before, before <+: path → before ≠ path →
        ∀ v, at? before (.obj t) = some v → ∃ fields, v = .obj fields) ∧
      ∀ v, at? path (.obj t) = some v → Takes method v) ∧
    ∀ t', attach method values path t = some t' →
      (method = .push →
        at? path (.obj t') = some (.arr (itemsAt path (.obj t) ++ [.obj values]))) ∧
      (method = .insert → ∃ fields, at? path (.obj t') = some (.obj fields) ∧
        Table.keys fields = Table.keys (entriesAt path (.obj t)) ++
          (Table.keys values).filter (fun key => key ∉ Table.keys (entriesAt path (.obj t))) ∧
        ∀ key, Table.get? key fields =
          (Table.get? key values).or (Table.get? key (entriesAt path (.obj t)))) ∧
      (∀ other, ¬ other <+: path → ¬ path <+: other →
        at? other (.obj t') = at? other (.obj t)) ∧
      ∀ other fields, at? other (.obj t) = some (.obj fields) →
        (∀ key rest, other = path ++ key :: rest → key ∉ Table.keys values) →
        ∃ fields', at? other (.obj t') = some (.obj fields') ∧
          Table.keys fields <+: Table.keys fields' := by
  have hopen : (attachBelow method values path (some (.obj t))).isSome ↔
      Open method path (some (.obj t)) := isSome_attachBelow_iff
  rw [attachBelow_obj, Option.isSome_map] at hopen
  refine ⟨hopen.trans ⟨fun h => ⟨h.objects, h.takes⟩, fun h => ⟨h.1, h.2⟩⟩, fun t' ht' => ?_⟩
  have h : attachBelow method values path (some (.obj t)) = some (.obj t') := by
    rw [attachBelow_obj, ht', Option.map_some]
  have hat : at? path (.obj t') = _ := (at?_attachBelow h).trans
    (attachTo_eq_some_of_takes (hopen.mp (ht' ▸ rfl)).takes)
  refine ⟨?_, ?_, fun other => at?_attachBelow_of_apart h,
    fun other fields => keys_isPrefix_attachBelow hvalues h⟩
  · rintro rfl
    exact hat
  · rintro rfl
    exact ⟨_, hat, Table.keys_extend hvalues _, Table.get?_extend hvalues _⟩

/-- A record with one group of fields. -/
def groupedRecord : Table Json :=
  [("title", .str "List"),
    ("parameter", .obj [("fields", .obj [("Login", .arr [.obj [("field", .str "token")]])]),
      ("examples", .arr [])])]

/-- A field of another group. -/
def pageField : Table Json :=
  [("field", .str "page"), ("optional", .bool true)]

/-- A second group is created behind the first one, which reads as before; a title is in the way of
everything below it. -/
theorem attach_at_paths_second_group :
    Table.Distinct pageField ∧
      (∃ t', attach .push pageField ["parameter", "fields", "Paging"] groupedRecord = some t' ∧
        at? ["parameter", "fields", "Paging"] (.obj t') = some (.arr [.obj pageField]) ∧
        at? ["parameter", "fields", "Login"] (.obj t') =
          some (.arr [.obj [("field", .str "token")]]) ∧
        ∃ fields, at? ["parameter"] (.obj t') = some (.obj fields) ∧
          ["fields", "examples"] <+: Table.keys fields) ∧
      ¬ (attach .push pageField ["title", "fields"] groupedRecord).isSome := by
  have hdistinct : Table.Distinct pageField := by decide
  obtain ⟨-, hattached⟩ :=
    attach_at_paths .push hdistinct ["parameter", "fields", "Paging"] groupedRecord
  obtain ⟨hblocked, -⟩ := attach_at_paths .push hdistinct ["title", "fields"] groupedRecord
  obtain ⟨hitem, -, hapart, hnames⟩ := hattached _ rfl
  refine ⟨hdistinct, ⟨_, rfl, hitem rfl, ?_, hnames ["parameter"] _ rfl nofun⟩, fun hsome => ?_⟩
  · exact hapart ["parameter", "fields", "Login"] (by decide) (by decide)
  · obtain ⟨fields, hfields⟩ := (hblocked.mp hsome).1 ["title"] (by decide) (by decide) _ rfl
    cases hfields

end ApiGloss.Record
