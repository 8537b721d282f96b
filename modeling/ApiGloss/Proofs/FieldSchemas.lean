import ApiGloss.Schema.Field

/-!
# What the Schema of a Field Says

The schema of a field is built in steps. The declared type is read first, and with it the items of
an array; its format is split off; the size and the values are added for the type that this leaves;
and in the end the type is settled, an object becoming a reference and an unknown type a text. Every
step writes some parts of the schema and leaves the others alone, so that each part of the result
can be read off the step that wrote it (`Schema.type_ofField` and the lemmas after it).

What one step writes has to go with what a later one makes of the type. It does, because only a type
without bounds and formats is settled otherwise than it is written (`Schema.ofField_consistent`).
The items of an array are written by the first step and never looked at again: an element type that
is not known stays as it is, and an array that still has its format behind it when the items are
written gets none (`Schema.ofField_known_iff`).

## Main results

* `Schema.splitFormat_cases`, `Schema.declaredType_cases`: what the first two steps read.
* `Schema.ofField_consistent`: the parts of a schema go together.
* `Schema.ofField_known_iff`: when an array says what it holds.
-/

namespace ApiGloss

/-! ### Pieces of texts -/

namespace Chars

/-- Removing an ending is undone by appending it. -/
theorem dropEnding?_eq_some_iff {ending s rest : List Char} :
    dropEnding? ending s = some rest ↔ s = rest ++ ending := by
  unfold dropEnding?
  rw [Option.ite_none_right_eq_some, List.isSuffixOf_iff_suffix]
  constructor
  · rintro ⟨⟨before, rfl⟩, hrest⟩
    obtain rfl := Option.some.inj hrest
    simp
  · rintro rfl
    exact ⟨List.suffix_append _ _, by simp⟩

/-- The pieces of a text that is cut, with the character between them, are the text. -/
theorem eq_append_of_splitOnce {p : Char → Bool} {s before after : List Char}
    (h : splitOnce p s = some (before, after)) : ∃ c, p c = true ∧ s = before ++ c :: after := by
  unfold splitOnce at h
  split at h
  · cases h
  · rename_i c rest hdrop
    obtain ⟨rfl, rfl⟩ := Prod.mk.inj (Option.some.inj h)
    refine ⟨c, ?_, ?_⟩
    · have hhead := List.head_dropWhile_not (fun c => !p c) (l := s) (by simp [hdrop])
      simpa [hdrop] using hhead
    · rw [← hdrop]
      exact List.takeWhile_append_dropWhile.symm

/-- A text is cut at the first character with the property. -/
theorem splitOnce_append {p : Char → Bool} {before : List Char} {c : Char}
    (hbefore : ∀ d ∈ before, p d = false) (hc : p c = true) (after : List Char) :
    splitOnce p (before ++ c :: after) = some (before, after) := by
  have hskip : ∀ d ∈ before, (!p d) = true := fun d hd => by rw [hbefore d hd, Bool.not_false]
  unfold splitOnce
  rw [List.dropWhile_append_of_pos hskip, List.takeWhile_append_of_pos hskip]
  simp [hc]

end Chars

/-- The **type text** of a field: the declared type, or that of a field that declares none. -/
def FieldDecl.typeText (d : FieldDecl) : String :=
  d.type.getD Schema.defaultType

/-- The items of an array are **known** if they are references or have a known type. -/
def ItemSchema.IsKnown : ItemSchema → Prop
  | .reference _ => True
  | .typed type => type ∈ Schema.knownTypes

namespace Schema

/-! ### Reading the declared type -/

/-- **A declared type** is an array of elements, or it is taken in lower case. -/
theorem declaredType_cases (kind : SchemaKind) (declared : String) :
    (∃ element, declared = element ++ "[]" ∧
      declaredType kind declared = ("array", some (itemsOf kind (Text.lower element)))) ∨
    ((∀ element, declared ≠ element ++ "[]") ∧
      declaredType kind declared = (Text.lower declared,
        if Text.lower declared = "array" then some (.typed defaultType) else none)) := by
  have hending : "[]".toList = ['[', ']'] := rfl
  unfold declaredType
  cases hdrop : Chars.dropEnding? ['[', ']'] declared.toList with
  | some inner =>
      refine Or.inl ⟨String.ofList inner, String.toList_inj.mp ?_, rfl⟩
      rw [String.toList_append, String.toList_ofList, hending]
      exact Chars.dropEnding?_eq_some_iff.mp hdrop
  | none =>
      refine Or.inr ⟨?_, rfl⟩
      rintro element rfl
      have hsome : Chars.dropEnding? ['[', ']'] (element ++ "[]").toList = some element.toList :=
        Chars.dropEnding?_eq_some_iff.mpr (by rw [String.toList_append, hending])
      rw [hdrop] at hsome
      cases hsome

/-- **A type** has no format, or it is cut into its base and its format. -/
theorem splitFormat_cases (type : String) :
    splitFormat type = (type, none) ∨
      ∃ base format, type = base ++ "|" ++ format ∧
        splitFormat type = (base, if (formatsOf base).contains format then
          some (if format = "datetime" then "date-time" else format) else none) := by
  unfold splitFormat Text.splitOnce
  cases hsplit : Chars.splitOnce (· == '|') type.toList with
  | none => exact Or.inl rfl
  | some pieces =>
      obtain ⟨before, after⟩ := pieces
      obtain ⟨c, hc, htype⟩ := Chars.eq_append_of_splitOnce hsplit
      obtain rfl := eq_of_beq hc
      refine Or.inr ⟨String.ofList before, String.ofList after, String.toList_inj.mp ?_, rfl⟩
      simp [htype]

/-- A format **goes with** a type. -/
def FormatFits (type format : String) : Prop :=
  type = "integer" ∧ format ∈ ["int32", "int64"] ∨
    type = "number" ∧ format ∈ ["float", "double"] ∨
    type = "string" ∧ format ∈ ["byte", "binary", "password", "date", "date-time"]

instance (type format : String) : Decidable (FormatFits type format) :=
  inferInstanceAs (Decidable (_ ∨ _ ∨ _))

/-- A format that is kept goes with its type. -/
theorem formatFits_splitFormat {type format : String}
    (h : (splitFormat type).2 = some format) : FormatFits (splitFormat type).1 format := by
  have hfits : ∀ base ∈ ["integer", "number", "string"], ∀ declared ∈ formatsOf base,
      FormatFits base (if declared = "datetime" then "date-time" else declared) := by decide
  obtain hplain | ⟨base, declared, -, hsplit⟩ := splitFormat_cases type
  · rw [hplain] at h
    cases h
  · rw [hsplit] at h ⊢
    obtain ⟨hknown, hformat⟩ := Option.ite_none_right_eq_some.mp h
    rw [← Option.some.inj hformat]
    rw [List.contains_iff_mem] at hknown
    refine hfits base ?_ declared hknown
    unfold formatsOf at hknown
    split at hknown
    · decide
    · decide
    · decide
    · cases hknown

/-! ### One step -/

/-- **The size** writes the bounds of a number or the bounds of a length, and nothing for other
types. -/
theorem withSize_cases (s : Schema) (size : Option String) :
    s.withSize size = s ∨
      (∃ low high, (s.type = some "number" ∨ s.type = some "integer") ∧
        s.withSize size = { s with minimum := low, maximum := high }) ∨
      ∃ low high, s.type = some "string" ∧
        s.withSize size = { s with minLength := low, maxLength := high } := by
  unfold withSize
  split
  · exact Or.inl rfl
  · rename_i htype
    exact Or.inr (Or.inl ⟨_, _, Or.inl htype, rfl⟩)
  · rename_i htype
    exact Or.inr (Or.inl ⟨_, _, Or.inr htype, rfl⟩)
  · rename_i htype
    exact Or.inr (Or.inr ⟨_, _, htype, rfl⟩)
  · exact Or.inl rfl

/-- The size leaves all but the bounds alone. -/
theorem withSize_eq (s : Schema) (size : Option String) :
    s.withSize size = { s with
      minimum := (s.withSize size).minimum, maximum := (s.withSize size).maximum
      minLength := (s.withSize size).minLength, maxLength := (s.withSize size).maxLength } := by
  obtain h | ⟨low, high, -, h⟩ | ⟨low, high, -, h⟩ := s.withSize_cases size <;> rw [h]

/-- **The values** write the default and the allowed values. -/
theorem withValues_cases (s : Schema) (defaultValue : Option String)
    (allowed : Option (List String)) :
    ((∀ values, allowed = some values → values = []) ∧
      s.withValues defaultValue allowed = { s with default := defaultValue.filter (· != "") }) ∨
    ∃ first rest, allowed = some (first :: rest) ∧
      s.withValues defaultValue allowed =
        { s with
          default := if (defaultValue.filter (· != "")).any fun d => (first :: rest).contains d then
            defaultValue.filter (· != "") else some first
          allowed := some (first :: rest) } := by
  cases allowed with
  | none => exact Or.inl ⟨nofun, rfl⟩
  | some values =>
      cases values with
      | nil => exact Or.inl ⟨fun _ h => (Option.some.inj h).symm, rfl⟩
      | cons first rest => exact Or.inr ⟨first, rest, rfl, rfl⟩

/-- The values leave all but the default and the allowed values alone. -/
theorem withValues_eq (s : Schema) (defaultValue : Option String)
    (allowed : Option (List String)) :
    s.withValues defaultValue allowed = { s with
      default := (s.withValues defaultValue allowed).default
      allowed := (s.withValues defaultValue allowed).allowed } := by
  obtain ⟨-, h⟩ | ⟨first, rest, -, h⟩ := s.withValues_cases defaultValue allowed <;> rw [h]

/-- **Settling the type** makes a reference of an object and a text of an unknown type. -/
theorem settleType_cases (kind : SchemaKind) (field : String) {s : Schema} {t : String}
    (h : s.type = some t) :
    (t = "object" ∧ settleType kind field s =
      { s with reference := some (kind.reference field), type := none, description := none }) ∨
    (t ≠ "object" ∧ t ∈ knownTypes ∧ settleType kind field s = s) ∨
    (t ∉ knownTypes ∧ settleType kind field s = { s with type := some "string" }) := by
  unfold settleType
  rw [h]
  dsimp only
  split
  · rename_i hobject
    exact Or.inl ⟨hobject, rfl⟩
  · rename_i hobject
    split
    · rename_i hknown
      exact Or.inr (Or.inl ⟨hobject, List.contains_iff_mem.mp hknown, rfl⟩)
    · rename_i hunknown
      exact Or.inr (Or.inr ⟨fun hmem => hunknown (List.contains_iff_mem.mpr hmem), rfl⟩)

/-- Settling the type leaves all but the type, the reference and the description alone. -/
theorem settleType_eq (kind : SchemaKind) (field : String) (s : Schema) :
    settleType kind field s = { s with
      reference := (settleType kind field s).reference
      type := (settleType kind field s).type
      description := (settleType kind field s).description } := by
  cases h : s.type with
  | none =>
      have hsame : settleType kind field s = s := by
        unfold settleType
        rw [h]
      rw [hsame]
  | some t =>
      obtain ⟨-, h⟩ | ⟨-, -, h⟩ | ⟨-, h⟩ := settleType_cases kind field h <;> rw [h]

/-! ### All steps -/

section Field

variable (kind : SchemaKind) (field : FieldDecl)

/-- The **written type** of a field: its declared type without the format. -/
def writtenType : String :=
  (splitFormat (declaredType kind field.typeText).1).1

/-- The schema of a field as its type and description are written. -/
def written : Schema where
  type := some (writtenType kind field)
  format := (splitFormat (declaredType kind field.typeText).1).2
  items := (declaredType kind field.typeText).2
  description :=
    if Text.removeTags field.description = "" then none
    else some (Text.removeTags field.description)

/-- The schema of a field with its bounds. -/
def sized : Schema :=
  (written kind field).withSize field.size

/-- The schema of a field before its type is settled. -/
def unsettled : Schema :=
  (sized kind field).withValues field.defaultValue field.allowedValues

/-- The schema of a field is put together by these steps. -/
theorem ofField_eq_settleType :
    ofField kind field = settleType kind field.field (unsettled kind field) := by
  unfold ofField unsettled sized written writtenType FieldDecl.typeText
  generalize declaredType kind _ = declared
  rfl

/-- Settling the type leaves the parts alone that other steps write. -/
theorem ofField_eq_unsettled :
    ofField kind field = { unsettled kind field with
      reference := (ofField kind field).reference, type := (ofField kind field).type
      description := (ofField kind field).description } := by
  rw [ofField_eq_settleType]
  exact settleType_eq kind field.field (unsettled kind field)

/-- The values leave the parts alone that other steps write. -/
theorem unsettled_eq_sized :
    unsettled kind field = { sized kind field with
      default := (unsettled kind field).default, allowed := (unsettled kind field).allowed } :=
  withValues_eq (sized kind field) field.defaultValue field.allowedValues

/-- The size leaves the parts alone that other steps write. -/
theorem sized_eq_written :
    sized kind field = { written kind field with
      minimum := (sized kind field).minimum, maximum := (sized kind field).maximum
      minLength := (sized kind field).minLength, maxLength := (sized kind field).maxLength } :=
  withSize_eq (written kind field) field.size

/-- Before it is settled, the type is the written one. -/
theorem type_unsettled : (unsettled kind field).type = some (writtenType kind field) := by
  rw [unsettled_eq_sized, sized_eq_written]
  rfl

/-- Before the type is settled, there is no reference. -/
theorem reference_unsettled : (unsettled kind field).reference = none := by
  rw [unsettled_eq_sized, sized_eq_written]
  rfl

/-- **The type of a schema**: an object is a reference without a type and a description, a known
type stays, and any other is a text. -/
theorem ofField_cases :
    (writtenType kind field = "object" ∧ (ofField kind field).type = none ∧
      (ofField kind field).reference = some (kind.reference field.field) ∧
      (ofField kind field).description = none) ∨
    (writtenType kind field ≠ "object" ∧ writtenType kind field ∈ knownTypes ∧
      (ofField kind field).type = some (writtenType kind field) ∧
      (ofField kind field).reference = none) ∨
    (writtenType kind field ∉ knownTypes ∧ (ofField kind field).type = some "string" ∧
      (ofField kind field).reference = none) := by
  rw [ofField_eq_settleType]
  obtain ⟨hobject, h⟩ | ⟨hobject, hknown, h⟩ | ⟨hunknown, h⟩ :=
    settleType_cases kind field.field (type_unsettled kind field) <;> rw [h]
  · exact Or.inl ⟨hobject, rfl, rfl, rfl⟩
  · exact Or.inr (Or.inl ⟨hobject, hknown, type_unsettled kind field,
      reference_unsettled kind field⟩)
  · exact Or.inr (Or.inr ⟨hunknown, rfl, reference_unsettled kind field⟩)

variable {kind field}

/-- A known type other than that of objects stays as it is written. -/
theorem type_ofField_of_eq {t : String} (h : writtenType kind field = t)
    (hknown : t ∈ knownTypes := by decide) (hobject : t ≠ "object" := by decide) :
    (ofField kind field).type = some t := by
  subst h
  obtain ⟨h, -⟩ | ⟨-, -, h, -⟩ | ⟨h, -⟩ := ofField_cases kind field
  · exact absurd h hobject
  · exact h
  · exact absurd hknown h

variable (kind field)

/-- **The format** of a schema is split off the declared type. -/
theorem format_ofField :
    (ofField kind field).format = (splitFormat (declaredType kind field.typeText).1).2 := by
  rw [ofField_eq_unsettled, unsettled_eq_sized, sized_eq_written, written]

/-- **The items** of a schema are read off the declared type. -/
theorem items_ofField : (ofField kind field).items = (declaredType kind field.typeText).2 := by
  rw [ofField_eq_unsettled, unsettled_eq_sized, sized_eq_written]
  rfl

/-- **The bounds** of a schema are written with the size. -/
theorem bounds_ofField :
    (ofField kind field).minimum = (sized kind field).minimum ∧
      (ofField kind field).maximum = (sized kind field).maximum ∧
      (ofField kind field).minLength = (sized kind field).minLength ∧
      (ofField kind field).maxLength = (sized kind field).maxLength := by
  rw [ofField_eq_unsettled, unsettled_eq_sized]
  exact ⟨rfl, rfl, rfl, rfl⟩

variable {kind field}

/-- **Bounds of numbers** are those of a number or an integer. -/
theorem writtenType_of_bounds
    (h : (ofField kind field).minimum ≠ none ∨ (ofField kind field).maximum ≠ none) :
    writtenType kind field = "number" ∨ writtenType kind field = "integer" := by
  obtain ⟨hminimum, hmaximum, -, -⟩ := bounds_ofField kind field
  rw [hminimum, hmaximum, sized] at h
  obtain hsame | ⟨_, _, htype, -⟩ | ⟨_, _, -, hlength⟩ :=
    withSize_cases (written kind field) field.size
  · rw [hsame] at h
    exact absurd h (by simp [written])
  · exact htype.imp Option.some.inj Option.some.inj
  · rw [hlength] at h
    exact absurd h (by simp [written])

/-- **Bounds of lengths** are those of a text. -/
theorem writtenType_of_lengths
    (h : (ofField kind field).minLength ≠ none ∨ (ofField kind field).maxLength ≠ none) :
    writtenType kind field = "string" := by
  obtain ⟨-, -, hminimum, hmaximum⟩ := bounds_ofField kind field
  rw [hminimum, hmaximum, sized] at h
  obtain hsame | ⟨_, _, -, hnumber⟩ | ⟨_, _, htype, -⟩ :=
    withSize_cases (written kind field) field.size
  · rw [hsame] at h
    exact absurd h (by simp [written])
  · rw [hnumber] at h
    exact absurd h (by simp [written])
  · exact Option.some.inj htype

/-- The format of a schema goes with the written type. -/
theorem formatFits_writtenType {format : String} (h : (ofField kind field).format = some format) :
    FormatFits (writtenType kind field) format := by
  rw [format_ofField] at h
  exact formatFits_splitFormat h

variable (kind field)

/-- **The values of a schema**: without allowed values the default is the declared one, if it says
something; with allowed values it is one of them. -/
theorem values_ofField :
    ((∀ values, field.allowedValues = some values → values = []) ∧
      (ofField kind field).allowed = none ∧
      (ofField kind field).default = field.defaultValue.filter (· != "")) ∨
    ∃ first rest, field.allowedValues = some (first :: rest) ∧
      (ofField kind field).allowed = some (first :: rest) ∧
      (ofField kind field).default =
        if (field.defaultValue.filter (· != "")).any fun d => (first :: rest).contains d then
          field.defaultValue.filter (· != "") else some first := by
  have hallowed : (ofField kind field).allowed = (unsettled kind field).allowed := by
    rw [ofField_eq_unsettled]
  have hdefault : (ofField kind field).default = (unsettled kind field).default := by
    rw [ofField_eq_unsettled]
  have hnone : (sized kind field).allowed = none := by
    rw [sized_eq_written]
    rfl
  rw [hallowed, hdefault, unsettled]
  obtain ⟨hempty, h⟩ | ⟨first, rest, hvalues, h⟩ :=
    withValues_cases (sized kind field) field.defaultValue field.allowedValues
  · rw [h]
    exact Or.inl ⟨hempty, hnone, rfl⟩
  · rw [h]
    exact Or.inr ⟨first, rest, hvalues, rfl, rfl⟩

end Field

/-! ### The parts of a schema -/

/-- The parts of the schema of a field **go together**. -/
structure Consistent (field : FieldDecl) (s : Schema) : Prop where
  /-- A schema is a reference or has a type, and not both. -/
  reference_or_type : (s.reference.isSome ∧ s.type = none) ∨ (s.reference = none ∧ s.type.isSome)
  /-- A reference has no description. -/
  reference_bare : s.reference.isSome → s.description = none
  /-- The allowed values are the declared ones, if there are any. -/
  allowed_iff : ∀ values, s.allowed = some values ↔ field.allowedValues = some values ∧ values ≠ []
  /-- The default is one of the allowed values: the declared one if it is among them, or else the
  first. -/
  default_allowed : ∀ values, s.allowed = some values → ∃ d ∈ values, s.default = some d ∧
    (field.defaultValue = some d ∧ d ≠ "" ∨
      (∀ own, field.defaultValue = some own → own ≠ "" → own ∉ values) ∧ values.head? = some d)
  /-- Without allowed values the default is the declared one, if it is not empty. -/
  default_free : s.allowed = none → ∀ d, s.default = some d ↔ field.defaultValue = some d ∧ d ≠ ""
  /-- Only numbers have bounds. -/
  bounds : s.minimum.isSome ∨ s.maximum.isSome → s.type = some "number" ∨ s.type = some "integer"
  /-- Only texts have bounds of their length. -/
  lengths : s.minLength.isSome ∨ s.maxLength.isSome → s.type = some "string"
  /-- A format goes with the type. -/
  format : ∀ format, s.format = some format → ∃ type, s.type = some type ∧ FormatFits type format

/-- **The parts of the schema of a field go together**, whatever the field declares. -/
theorem ofField_consistent (kind : SchemaKind) (field : FieldDecl) :
    (ofField kind field).Consistent field where
  reference_or_type := by
    obtain ⟨-, htype, hreference, -⟩ | ⟨-, -, htype, hreference⟩ | ⟨-, htype, hreference⟩ :=
      ofField_cases kind field
    · exact Or.inl ⟨by rw [hreference]; rfl, htype⟩
    · exact Or.inr ⟨hreference, by rw [htype]; rfl⟩
    · exact Or.inr ⟨hreference, by rw [htype]; rfl⟩
  reference_bare h := by
    obtain ⟨-, -, -, hbare⟩ | ⟨-, -, -, hreference⟩ | ⟨-, -, hreference⟩ :=
      ofField_cases kind field
    · exact hbare
    · rw [hreference] at h
      cases h
    · rw [hreference] at h
      cases h
  allowed_iff values := by
    obtain ⟨hempty, hallowed, -⟩ | ⟨first, rest, hdeclared, hallowed, -⟩ :=
      values_ofField kind field
    · rw [hallowed]
      exact ⟨nofun, fun h => absurd (hempty values h.1) h.2⟩
    · rw [hallowed, hdeclared]
      exact ⟨fun h => ⟨h, by rintro rfl; cases h⟩, And.left⟩
  default_allowed values h := by
    obtain ⟨-, hallowed, -⟩ | ⟨first, rest, -, hallowed, hdefault⟩ := values_ofField kind field
    · rw [hallowed] at h
      cases h
    · rw [hallowed] at h
      obtain rfl := Option.some.inj h
      rw [hdefault]
      split
      · rename_i hkeeps
        obtain ⟨d, hd, hmem⟩ := (Option.any_eq_true _ _).mp hkeeps
        obtain ⟨hown, hne⟩ := Option.filter_eq_some_iff.mp hd
        exact ⟨d, List.contains_iff_mem.mp hmem, hd, Or.inl ⟨hown, bne_iff_ne.mp hne⟩⟩
      · rename_i hkeeps
        refine ⟨first, List.mem_cons_self, rfl, Or.inr ⟨fun own hown hne hmem => hkeeps ?_, rfl⟩⟩
        have hsays : field.defaultValue.filter (· != "") = some own :=
          Option.filter_eq_some_iff.mpr ⟨hown, bne_iff_ne.mpr hne⟩
        exact (Option.any_eq_true _ _).mpr ⟨own, hsays, List.contains_iff_mem.mpr hmem⟩
  default_free h d := by
    obtain ⟨-, -, hdefault⟩ | ⟨first, rest, -, hallowed, -⟩ := values_ofField kind field
    · rw [hdefault, Option.filter_eq_some_iff, bne_iff_ne]
    · rw [hallowed] at h
      cases h
  bounds h := by
    have hwritten : writtenType kind field = "number" ∨ writtenType kind field = "integer" :=
      writtenType_of_bounds (h.imp Option.isSome_iff_ne_none.mp Option.isSome_iff_ne_none.mp)
    rcases hwritten with hwritten | hwritten
    · exact Or.inl (type_ofField_of_eq hwritten)
    · exact Or.inr (type_ofField_of_eq hwritten)
  lengths h := by
    have hwritten : writtenType kind field = "string" :=
      writtenType_of_lengths (h.imp Option.isSome_iff_ne_none.mp Option.isSome_iff_ne_none.mp)
    exact type_ofField_of_eq hwritten
  format format h := by
    have hfits := formatFits_writtenType h
    refine ⟨writtenType kind field, ?_, hfits⟩
    rcases hfits with ⟨hwritten, -⟩ | ⟨hwritten, -⟩ | ⟨hwritten, -⟩
    · exact hwritten ▸ type_ofField_of_eq hwritten
    · exact hwritten ▸ type_ofField_of_eq hwritten
    · exact hwritten ▸ type_ofField_of_eq hwritten

/-! ### Arrays and what they hold -/

/-- The **element type** of an array is known if it is left out, is a reference or is a known
type. -/
def ElementIsKnown (element : String) : Prop :=
  Text.lower element = "" ∨ (∃ name, Text.lower element = "$" ++ name) ∨
    Text.lower element ∈ knownTypes

/-- A declared type that is an array **with a format**; the array is not written with brackets. -/
def IsFormattedArray (declared : String) : Prop :=
  (∀ element, declared ≠ element ++ "[]") ∧ ∃ format, Text.lower declared = "array|" ++ format

/-- The items of an array are known if its element type is. -/
theorem isKnown_itemsOf (kind : SchemaKind) (element : String) :
    (itemsOf kind (Text.lower element)).IsKnown ↔ ElementIsKnown element := by
  unfold ElementIsKnown
  generalize Text.lower element = inner
  have hdollar : "$".toList = ['$'] := rfl
  unfold itemsOf
  split
  · rename_i hempty
    exact iff_of_true (by decide : defaultType ∈ knownTypes)
      (Or.inl (String.toList_eq_nil_iff.mp hempty))
  · rename_i name hname
    refine iff_of_true trivial (Or.inr (Or.inl ⟨String.ofList name, String.toList_inj.mp ?_⟩))
    simp [hname]
  · rename_i hempty hreference
    refine ⟨fun h => Or.inr (Or.inr h), ?_⟩
    rintro (h | ⟨name, h⟩ | h)
    · exact absurd (String.toList_eq_nil_iff.mpr h) hempty
    · refine absurd ?_ (hreference name.toList)
      rw [h, String.toList_append, hdollar]
      rfl
    · exact h

/-- The base of a type is an array if the type is one, without a format or with one behind it. -/
theorem splitFormat_fst_eq_array_iff {type : String} :
    (splitFormat type).1 = "array" ↔ type = "array" ∨ ∃ format, type = "array|" ++ format := by
  constructor
  · intro h
    obtain hplain | ⟨base, format, rfl, hsplit⟩ := splitFormat_cases type
    · rw [hplain] at h
      exact Or.inl h
    · rw [hsplit] at h
      obtain rfl : base = "array" := h
      exact Or.inr ⟨format, rfl⟩
  · rintro (rfl | ⟨format, rfl⟩)
    · rfl
    · have hcut : Chars.splitOnce (· == '|') ("array|" ++ format).toList =
          some ("array".toList, format.toList) := by
        rw [String.toList_append]
        rfl
      rw [splitFormat, Text.splitOnce, hcut]
      rfl

section Known

variable (kind : SchemaKind) (field : FieldDecl)

/-- **The type of a schema is known.** -/
theorem mem_knownTypes_of_type {type : String} (h : (ofField kind field).type = some type) :
    type ∈ knownTypes := by
  obtain ⟨-, hnone, -⟩ | ⟨-, hknown, hsome, -⟩ | ⟨-, hstring, -⟩ := ofField_cases kind field
  · rw [hnone] at h
    cases h
  · exact Option.some.inj (hsome.symm.trans h) ▸ hknown
  · have hstringknown : "string" ∈ knownTypes := by decide
    exact Option.some.inj (hstring.symm.trans h) ▸ hstringknown

/-- A schema is one of an array if it is written as one. -/
theorem type_ofField_eq_array_iff :
    (ofField kind field).type = some "array" ↔ writtenType kind field = "array" := by
  refine ⟨fun h => ?_, type_ofField_of_eq⟩
  obtain ⟨-, hnone, -⟩ | ⟨-, -, hsome, -⟩ | ⟨-, hstring, -⟩ := ofField_cases kind field
  · rw [hnone] at h
    cases h
  · exact Option.some.inj (hsome.symm.trans h)
  · exact absurd (Option.some.inj (hstring.symm.trans h)) (by decide)

/-- **An array has items** unless it is declared with a format. -/
theorem array_has_items_iff :
    ((ofField kind field).type = some "array" → (ofField kind field).items.isSome) ↔
      ¬ IsFormattedArray field.typeText := by
  rw [type_ofField_eq_array_iff, items_ofField, writtenType]
  obtain ⟨element, htext, hdeclared⟩ | ⟨hbare, hdeclared⟩ := declaredType_cases kind field.typeText
  · rw [hdeclared]
    exact iff_of_true (fun _ => rfl) fun h => h.1 element htext
  · -- without brackets, only the plain array has been given items
    have hitems : (if Text.lower field.typeText = "array" then some (ItemSchema.typed defaultType)
        else none).isSome ↔ Text.lower field.typeText = "array" := by
      split <;> simp [*]
    have hformat : ∀ format, "array" ≠ "array|" ++ format := fun format h => by
      have hlists := congrArg String.toList h
      simp at hlists
    rw [hdeclared, splitFormat_fst_eq_array_iff, hitems, IsFormattedArray]
    constructor
    · rintro h ⟨-, format, hlower⟩
      exact hformat format ((h (Or.inr ⟨format, hlower⟩)).symm.trans hlower)
    · rintro h (hlower | hlower)
      · exact hlower
      · exact absurd ⟨hbare, hlower⟩ h

/-- **Items are known** unless the declared element type is unknown. -/
theorem items_known_iff :
    (∀ items, (ofField kind field).items = some items → items.IsKnown) ↔
      ∀ element, field.typeText = element ++ "[]" → ElementIsKnown element := by
  rw [items_ofField]
  obtain ⟨element, htext, hdeclared⟩ | ⟨hbare, hdeclared⟩ := declaredType_cases kind field.typeText
  · rw [hdeclared, htext]
    constructor
    · intro h other hother
      obtain rfl : element = other := by
        have hlists := congrArg String.toList hother
        rw [String.toList_append, String.toList_append, List.append_left_inj] at hlists
        exact String.toList_inj.mp hlists
      exact (isKnown_itemsOf kind element).mp (h _ rfl)
    · intro h items hitems
      obtain rfl := Option.some.inj hitems
      exact (isKnown_itemsOf kind element).mpr (h element rfl)
  · rw [hdeclared]
    refine iff_of_true (fun items hitems => ?_) fun element h => absurd h (hbare element)
    obtain ⟨-, hitems⟩ := Option.ite_none_right_eq_some.mp hitems
    obtain rfl := Option.some.inj hitems
    exact (by decide : defaultType ∈ knownTypes)

/-- **When a schema says what it holds.** The type of a schema is always a known one. An array has
items unless it is declared with a format, and these are references or have a known type unless the
declared element type is unknown. -/
theorem ofField_known_iff :
    (∀ type, (ofField kind field).type = some type → type ∈ knownTypes) ∧
    (((ofField kind field).type = some "array" → (ofField kind field).items.isSome) ↔
      ¬ IsFormattedArray field.typeText) ∧
    ((∀ items, (ofField kind field).items = some items → items.IsKnown) ↔
      ∀ element, field.typeText = element ++ "[]" → ElementIsKnown element) :=
  ⟨fun _ => mem_knownTypes_of_type kind field, array_has_items_iff kind field,
    items_known_iff kind field⟩

/-- An array with a format behind it has no items. -/
example : (ofField .request { type := some "Array|int32" }).items = none := by decide +kernel

/-- An element type that is not known stays. -/
example : (ofField .request { type := some "Widget[]" }).items = some (.typed "widget") := by
  decide +kernel

end Known

end Schema

end ApiGloss
