import ApiGloss.Proofs.Tables
import ApiGloss.Record.Registry

/-!
# Where the Built-in Tags Attach Their Values

Every tag says by a path where its values belong in the record of a block. Paths are cut at
dots, so that names without dots can be put together to a path and are found again when it is
cut (`Text.split_append`). The built-in tags have one of four places: field tags attach below
the fields of a section, at a group that is free text; references and examples are items of
arrays away from these fields; the other tags store single values of the endpoint record, or
definitions.

## Main results

* `Tag.place_builtin`: the places of the built-in tags.
* `Tag.split_path_field`: the path of a field tag, cut at its dots.
-/

namespace ApiGloss

/-! ### Cutting paths at dots -/

namespace Text

/-- A text without dots is one name. -/
theorem split_of_not_mem {s : String} (h : '.' ∉ s.toList) : split '.' s = [s] := by
  rw [split, Chars.split_of_not_mem h, List.map_singleton, String.ofList_toList]

/-- A text that is one name is that name. -/
theorem eq_of_split_eq_singleton {s name : String} (h : split '.' s = [name]) : s = name := by
  obtain ⟨piece, hpiece, rfl⟩ := List.map_eq_singleton_iff.mp h
  have hjoin := Chars.join_split '.' s.toList
  rw [hpiece, Chars.join, List.intercalate_singleton] at hjoin
  rw [hjoin, String.ofList_toList]

/-- A name ends at a dot. -/
theorem split_append {a : String} (h : '.' ∉ a.toList) (b : String) :
    split '.' (a ++ "." ++ b) = a :: split '.' b := by
  have hlist : (a ++ "." ++ b).toList = a.toList ++ '.' :: b.toList := by
    simp only [String.toList_append, List.append_assoc]
    rfl
  rw [split, hlist, Chars.split_append h, List.map_cons, String.ofList_toList]
  rfl

/-- No name holds a dot. -/
theorem not_mem_of_mem_split {s name : String} (h : name ∈ split '.' s) : '.' ∉ name.toList := by
  obtain ⟨piece, hpiece, rfl⟩ := List.mem_map.mp h
  rw [String.toList_ofList]
  exact Chars.not_mem_of_mem_split hpiece

/-- There is at least one name. -/
theorem exists_split_eq_cons (s : String) : ∃ name rest, split '.' s = name :: rest := by
  cases h : split '.' s with
  | nil => exact absurd (List.map_eq_nil_iff.mp h) (Chars.split_ne_nil _ _)
  | cons name rest => exact ⟨name, rest, rfl⟩

end Text

/-! ### Where the built-in tags attach their values -/

namespace Tag

/-- The names under which tags store texts in the endpoint record. -/
def endpointTexts : List String :=
  ["type", "url", "title", "description", "group", "name", "version"]

/-- The names under which tags mark an endpoint record. -/
def endpointMarks : List String :=
  ["deprecated", "private"]

/-- A **single value** of an endpoint record: a text or a mark, under its name. -/
def SingleValue (key : String) (value : Json) : Prop :=
  (key ∈ endpointTexts ∧ ∃ s, value = .str s) ∨ key ∈ endpointMarks

/-- No single value is a section. -/
theorem SingleValue.ne_sectionName {key : String} {value : Json} (h : SingleValue key value)
    (kind : FieldKind) : kind.sectionName ≠ key := by
  rintro rfl
  rcases h with ⟨h, -⟩ | h <;> revert h <;> cases kind <;> decide

/-- The places of the endpoint record at which items are attached: references and examples. -/
def itemPlaces : List (List String) :=
  [["use"], ["errorStructure"], ["headerStructure"], ["successStructure"], ["examples"]] ++
    FieldKind.all.map fun kind => [kind.sectionName, "examples"]

/-- Items are attached away from the fields of all sections. -/
theorem ne_fields_of_mem_itemPlaces {place : List String} (h : place ∈ itemPlaces) (head : String)
    (rest : List String) : place ≠ head :: "fields" :: rest := by
  have hall : ∀ place ∈ itemPlaces, place[1]? ≠ some "fields" := by decide
  rintro rfl
  exact hall _ h rfl

/-- The **place of a tag** in the record of its block, and what it attaches there. -/
inductive Place : TagReader → Prop
  /-- A field tag: an item below the fields of a section. -/
  | field (kind : FieldKind) : Place (Tag.field kind)
  /-- A reference or an example: an item of an array of the endpoint record. -/
  | item {reader : TagReader} (place : List String) (hplace : place ∈ itemPlaces)
      (hmethod : reader.method = .push) (hroot : reader.extendRoot = false)
      (hmarkdown : reader.markdown = [])
      (hpath : ∀ ctx, Text.split '.' (reader.path ctx) = "local" :: place) : Place reader
  /-- Single values of the endpoint record. -/
  | entries {reader : TagReader} (hmethod : reader.method = .insert)
      (hmarkdown : ∀ field ∈ reader.markdown, field ∈ ["description", "deprecated.content"])
      (hroot : reader.extendRoot = true → reader.markdown = [])
      (hpath : ∀ ctx, Text.split '.' (reader.path ctx) = ["local"])
      (hvalues : ∀ content ctx values ctx', reader.read content ctx = .ok (some values, ctx') →
        values ≠ [] ∧ ∀ e ∈ values, SingleValue e.1 e.2) : Place reader
  /-- A definition. -/
  | definition (kind : DefineKind) : Place (Tag.definition kind)

/-- What is read without regard to the context. -/
theorem eq_ok_of_plainly {read : String → Except ParameterError (Option (Table Json))}
    {content : String} {ctx ctx' : ReadContext} {values : Table Json}
    (h : plainly read content ctx = .ok (some values, ctx')) :
    read content = .ok (some values) := by
  unfold plainly at h
  cases hr : read content with
  | error e =>
      rw [hr] at h
      cases h
  | ok values? =>
      rw [hr] at h
      cases h
      rfl

/-- A reader of single values has its place. -/
theorem place_of_values {reader : TagReader} (hmethod : reader.method = .insert)
    (hmarkdown : ∀ field ∈ reader.markdown, field ∈ ["description", "deprecated.content"])
    (hroot : reader.extendRoot = true → reader.markdown = [])
    (hpath : reader.path = fun _ => "local")
    (hvalues : ∀ content ctx values ctx', reader.read content ctx = .ok (some values, ctx') →
      values ≠ [] ∧ ∀ e ∈ values, SingleValue e.1 e.2) : Place reader := by
  have hlocal : Text.split '.' "local" = ["local"] := by decide
  exact Place.entries hmethod hmarkdown hroot (fun ctx => by rw [hpath, hlocal]) hvalues

/-- A text is a single value under the name of a text. -/
theorem singleValue_text (key : String) (hkey : key ∈ endpointTexts) (s : String) :
    SingleValue key (.str s) :=
  Or.inl ⟨hkey, s, rfl⟩

/-- One single value. -/
theorem singleValue_of_eq {key : String} {value : Json} (h : SingleValue key value)
    {values : Table Json} (heq : some [(key, value)] = some values) :
    values ≠ [] ∧ ∀ e ∈ values, SingleValue e.1 e.2 := by
  cases heq
  exact ⟨List.cons_ne_nil _ _, List.forall_mem_singleton.mpr h⟩

/-- A reader of one text has its place. -/
theorem place_singleValue {key : String} (hkey : key ∈ endpointTexts)
    (value : String → String) : Place (singleValue key value) := by
  unfold singleValue endpointReader
  refine place_of_values rfl nofun nofun rfl fun content ctx values ctx' h => ?_
  dsimp only at h
  replace h := eq_ok_of_plainly h
  split at h
  · cases h
  · exact singleValue_of_eq (singleValue_text key hkey _) (Except.ok.inj h)

/-- The reader of the endpoint line has its place. -/
theorem place_endpoint : Place endpoint := by
  unfold endpoint endpointReader
  refine place_of_values rfl nofun nofun rfl fun content ctx values ctx' h => ?_
  dsimp only at h
  replace h := eq_ok_of_plainly h
  obtain ⟨line, -, rfl⟩ := Option.map_eq_some_iff.mp (Except.ok.inj h)
  have hlast : ∀ e ∈ [("url", Json.str line.url), ("title", Json.str line.title)],
      SingleValue e.1 e.2 :=
    List.forall_mem_cons.mpr ⟨singleValue_text "url" (by decide) _,
      List.forall_mem_singleton.mpr (singleValue_text "title" (by decide) _)⟩
  refine ⟨by simp, List.forall_mem_append.mpr ⟨?_, hlast⟩⟩
  cases line.verb with
  | none => exact nofun
  | some verb => exact List.forall_mem_singleton.mpr (singleValue_text "type" (by decide) _)

/-- The reader of descriptions has its place. -/
theorem place_description : Place description := by
  unfold description endpointReader
  refine place_of_values rfl (by decide) nofun rfl fun content ctx values ctx' h => ?_
  dsimp only at h
  replace h := eq_ok_of_plainly h
  split at h
  · cases h
  · exact singleValue_of_eq (singleValue_text "description" (by decide) _) (Except.ok.inj h)

/-- The reader of deprecations has its place. -/
theorem place_deprecation : Place deprecation := by
  unfold deprecation endpointReader
  refine place_of_values rfl (by decide) nofun rfl fun content ctx values ctx' h => ?_
  dsimp only at h
  replace h := eq_ok_of_plainly h
  split at h
  · exact singleValue_of_eq (Or.inr (by decide)) (Except.ok.inj h)
  · exact singleValue_of_eq (Or.inr (by decide)) (Except.ok.inj h)

/-- The reader of private marks has its place. -/
theorem place_privateMark : Place privateMark := by
  unfold privateMark endpointReader
  refine place_of_values rfl nofun nofun rfl fun content ctx values ctx' h => ?_
  dsimp only at h
  replace h := eq_ok_of_plainly h
  exact singleValue_of_eq (Or.inr (by decide)) (Except.ok.inj h)

/-- The reader of versions has its place. -/
theorem place_version : Place version := by
  unfold version endpointReader
  refine place_of_values rfl nofun (fun _ => rfl) rfl fun content ctx values ctx' h => ?_
  dsimp only at h
  replace h := eq_ok_of_plainly h
  split at h
  · cases h
  · split at h
    · cases h
    · exact singleValue_of_eq (singleValue_text "version" (by decide) _) (Except.ok.inj h)

/-- A reader of items of the endpoint record has its place. -/
theorem place_of_path {reader : TagReader} {path : String} (name : String)
    (hplace : [name] ∈ itemPlaces) (hmethod : reader.method = .push)
    (hroot : reader.extendRoot = false) (hmarkdown : reader.markdown = [])
    (hpath : reader.path = fun _ => path)
    (hsplit : Text.split '.' path = ["local", name]) : Place reader :=
  Place.item [name] hplace hmethod hroot hmarkdown fun ctx => by rw [hpath, hsplit]

/-- The readers of examples have their place. -/
theorem place_fieldExample (kind : FieldKind) : Place (fieldExample kind) := by
  have hsplit : Text.split '.' ("local." ++ kind.sectionName ++ ".examples") =
      ["local", kind.sectionName, "examples"] := by
    cases kind <;> decide
  have hplace : [kind.sectionName, "examples"] ∈ itemPlaces := by
    cases kind <;> decide
  exact Place.item _ hplace rfl rfl rfl fun ctx => hsplit

/-- The path of a definition. -/
theorem split_path_definition (kind : DefineKind) (ctx : ReadContext) :
    Text.split '.' ((definition kind).path ctx) = ["global", kind.target] := by
  show Text.split '.' ("global." ++ kind.target) = ["global", kind.target]
  cases kind <;> decide

/-- The path of a declaration leads through its section and `fields` to its group. -/
theorem split_path_field (kind : FieldKind) (group : String) :
    Text.split '.' ((field kind).path { currentGroup := some group }) =
      "local" :: kind.sectionName :: "fields" :: Text.split '.' group := by
  have hpath : (field kind).path { currentGroup := some group } =
      "local" ++ "." ++ (kind.sectionName ++ "." ++ ("fields" ++ "." ++ group)) := by
    show "local." ++ kind.sectionName ++ ".fields." ++ group = _
    rw [show "local." = "local" ++ "." from rfl,
      show ".fields." = "." ++ ("fields" ++ ".") from rfl]
    simp only [String.append_assoc]
  have hsection : '.' ∉ kind.sectionName.toList := by
    cases kind <;> decide
  rw [hpath, Text.split_append (by decide), Text.split_append hsection,
    Text.split_append (by decide)]

/-- **Every built-in tag has its place.** -/
theorem place_builtin {name : String} {reader : TagReader}
    (h : Table.get? name builtin = some reader) : Place reader := by
  have hall : ∀ e ∈ builtin, Place e.2 := by
    simp only [builtin, List.forall_mem_cons]
    refine ⟨place_endpoint, Place.definition _, Place.definition _, Place.definition _,
      Place.definition _, place_deprecation, place_description, Place.field _,
      place_fieldExample _, place_of_path "errorStructure" (by decide) rfl rfl rfl rfl (by decide),
      place_of_path "examples" (by decide) rfl rfl rfl rfl (by decide),
      place_singleValue (by decide) _, Place.field _, place_fieldExample _,
      place_of_path "headerStructure" (by decide) rfl rfl rfl rfl (by decide),
      place_singleValue (by decide) _, Place.field _, place_fieldExample _, place_privateMark,
      Place.field _, place_fieldExample _,
      place_of_path "successStructure" (by decide) rfl rfl rfl rfl (by decide),
      place_of_path "use" (by decide) rfl rfl rfl rfl (by decide), place_version, nofun⟩
  exact hall _ (Table.mem_of_get? h)

end Tag

end ApiGloss
