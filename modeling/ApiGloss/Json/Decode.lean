import ApiGloss.Json.Basic

/-!
# Records from JSON

A record is given by name, as an object, or by position, as an array of its parts in order.
By name every part may be missing and unknown names are ignored; what a missing part means
is for the part to say. By position only parts marked so may be missing, all at the end, and
there may be no surplus part.
-/

namespace ApiGloss.Json

/-- The name of a part of a record, and whether it may be missing by position. -/
structure PartName where
  name : String
  mayMiss : Bool

/-- The parts of a record given by position. -/
def positionalParts? : List PartName → List Json → Option (List (Option Json))
  | [], [] => some []
  | [], _ :: _ => none
  | p :: ps, [] => if p.mayMiss then (positionalParts? ps []).map (none :: ·) else none
  | _ :: ps, j :: js => (positionalParts? ps js).map (some j :: ·)

/-- The **parts of a record**, given by name or by position. -/
def parts? (names : List PartName) : Json → Option (List (Option Json))
  | .obj fields => some (names.map fun p => Table.get? p.name fields)
  | .arr items => positionalParts? names items
  | _ => none

/-- A part that is a text; a missing one has a default. -/
def textPart? (fallback : String) : Option Json → Option String
  | none => some fallback
  | some (.str s) => some s
  | some _ => none

/-- A part that is a text and must be present. -/
def requiredText? : Option Json → Option String
  | some (.str s) => some s
  | _ => none

/-- A part that is a truth value, false when missing. -/
def boolPart? : Option Json → Option Bool
  | none => some false
  | some (.bool b) => some b
  | some _ => none

/-- A part that may be missing or `null`. -/
def optionalPart? {α : Type} (read? : Json → Option α) : Option Json → Option (Option α)
  | none => some none
  | some .null => some none
  | some j => (read? j).map some

/-- An array of texts. -/
def texts? (j : Json) : Option (List String) :=
  j.arr?.bind fun items => items.mapM str?

end ApiGloss.Json
