import ApiGloss.Record.Basic
import ApiGloss.Tag.Basic

/-!
# Attaching Values

Values are attached to a record below a path of names. Levels that are missing on the way
are created as objects; the last one is created as an array or as an object, as the method
asks. Attaching fails where something of another shape is in the way.
-/

namespace ApiGloss.Record

/-- The value that a missing last level is created with. -/
def emptySlot : AttachMethod → Json
  | .push => .arr []
  | .insert => .obj []

/-- Attaches values to an existing value, if it has the shape for the method. -/
def attachTo (method : AttachMethod) (values : Table Json) (slot : Json) : Option Json :=
  match method, slot with
  | .push, .arr items => some (.arr (items ++ [.obj values]))
  | .insert, .obj fields => some (.obj (Table.extend fields values))
  | _, _ => none

/-- **Attaches values below a path.** -/
def attach (method : AttachMethod) (values : Table Json) :
    List String → Table Json → Option (Table Json)
  | [], t =>
    match method with
    | .insert => some (Table.extend t values)
    | .push => none
  | [last], t =>
    (attachTo method values ((Table.get? last t).getD (emptySlot method))).map
      fun slot => Table.insert last slot t
  | head :: rest, t =>
    match (Table.get? head t).getD (.obj []) with
    | .obj child => (attach method values rest child).map fun c => Table.insert head (.obj c) t
    | _ => none

/-- Changes the value at a path, if there is one. -/
def modifyAt (f : Json → Json) : List String → Table Json → Table Json
  | [], t => t
  | [last], t => Table.modify last f t
  | head :: rest, t =>
    Table.modify head (fun j => match j with
      | .obj child => .obj (modifyAt f rest child)
      | j => j) t

end ApiGloss.Record
