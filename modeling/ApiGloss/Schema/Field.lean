import ApiGloss.Field.Declaration
import ApiGloss.Schema.Basic
import ApiGloss.Schema.Bounds
import ApiGloss.Text.Lines
import ApiGloss.Text.Markup

/-!
# The Schema of a Field

A declared field becomes a schema. `Type[]` is an array of `Type`, and `$Name[]` an array of
references; `type|format` keeps a format that goes with its type. The size bounds numbers and
the lengths of texts. A default must be among the allowed values. An object is a reference
to the component of the field, and an unknown type is a text.

`Schema.nestedName` says which object a qualified field name belongs to.
-/

namespace ApiGloss

namespace Chars

/-- Removes `ending` from the end of a text, if it is there. -/
def dropEnding? (ending s : List Char) : Option (List Char) :=
  if ending.isSuffixOf s then some (s.take (s.length - ending.length)) else none

/-- Cuts a text at the last occurrence of `sep`, which is dropped. -/
def splitLast (sep : Char) (s : List Char) : Option (List Char × List Char) :=
  (splitOnce (· == sep) s.reverse).map fun (after, before) => (before.reverse, after.reverse)

end Chars

namespace Schema

/-- The types that a schema may have. -/
def knownTypes : List String :=
  ["string", "number", "integer", "boolean", "array", "file", "$ref", "object"]

/-- The type of a field that declares none. -/
def defaultType : String := "string"

/-- The schema of the items of an array that declares them in lower case. -/
def itemsOf (kind : SchemaKind) (inner : String) : ItemSchema :=
  match inner.toList with
  | [] => .typed defaultType
  | '$' :: name => .reference (kind.reference (String.ofList name))
  | _ => .typed inner

/-- The type that is written in a declaration and, for an array, its items. -/
def declaredType (kind : SchemaKind) (declared : String) : String × Option ItemSchema :=
  match Chars.dropEnding? ['[', ']'] declared.toList with
  | some inner => ("array", some (itemsOf kind (Text.lower (String.ofList inner))))
  | none =>
    let type := Text.lower declared
    (type, if type = "array" then some (.typed defaultType) else none)

/-- The formats that go with a type. -/
def formatsOf : String → List String
  | "integer" => ["int32", "int64"]
  | "number" => ["float", "double"]
  | "string" => ["byte", "binary", "password", "date", "datetime", "date-time"]
  | _ => []

/-- Splits a type into its base and its format; an unknown format is dropped. -/
def splitFormat (type : String) : String × Option String :=
  match Text.splitOnce (· == '|') type with
  | none => (type, none)
  | some (base, format) =>
    (base,
      if (formatsOf base).contains format then
        some (if format = "datetime" then "date-time" else format)
      else none)

/-- Bounds a schema by a declared size. -/
def withSize (s : Schema) (size : Option String) : Schema :=
  match size, s.type with
  | none, _ => s
  | some size, some "number" | some size, some "integer" =>
    let (low, high) := Bounds.numeric size
    { s with minimum := low, maximum := high }
  | some size, some "string" =>
    let (low, high) := Bounds.length size
    { s with minLength := low, maxLength := high }
  | some _, _ => s

/-- Gives a schema its default and its allowed values. -/
def withValues (s : Schema) (defaultValue : Option String) (allowed : Option (List String)) :
    Schema :=
  let own := defaultValue.filter (· != "")
  match allowed with
  | none | some [] => { s with default := own }
  | some (first :: rest) =>
    let keeps := own.any fun d => (first :: rest).contains d
    { s with default := if keeps then own else some first, allowed := some (first :: rest) }

/-- Turns an object into a reference to the component of the field, and an unknown type into
a text. -/
def settleType (kind : SchemaKind) (field : String) (s : Schema) : Schema :=
  match s.type with
  | none => s
  | some t =>
    if t = "object" then
      { s with reference := some (kind.reference field), type := none, description := none }
    else if knownTypes.contains t then s
    else { s with type := some "string" }

/-- The **schema of a declared field**. -/
def ofField (kind : SchemaKind) (field : FieldDecl) : Schema :=
  let description := Text.removeTags field.description
  let (declared, items) := declaredType kind (field.type.getD defaultType)
  let (type, format) := splitFormat declared
  let base : Schema :=
    { type := some type, format := format, items := items
      description := if description = "" then none else some description }
  settleType kind field.field
    ((base.withSize field.size).withValues field.defaultValue field.allowedValues)

/-- The **object and property of a qualified field name**. `a:b.c` is property `c` of `a`,
`a.b.c` is property `c` of `a.b`, and a plain name belongs to no object. -/
def nestedName (field : String) : Option String × String :=
  let (object, property) := match Text.split ':' field with
    | first :: second :: _ => (some first, second)
    | _ => (none, field)
  match Chars.splitLast '.' property.toList with
  | some (path, last) => (object.orElse fun _ => some (String.ofList path), String.ofList last)
  | none => (object, property)

end Schema

end ApiGloss
