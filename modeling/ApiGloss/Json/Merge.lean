import ApiGloss.Json.Basic

/-!
# Deep Merge

Merging a source record into a target record. Names that the target lacks are copied. Where
both have a value, arrays are joined (target items first), objects are merged in turn, and
every other value of the target stays. An array takes up a source value of any other kind
as one more item.
-/

namespace ApiGloss.Json

mutual
/-- Merges a source value into an existing one. -/
def mergeValue (existing : Json) : Json → Json
  | .arr right =>
    match existing with
    | .arr left => .arr (left ++ right)
    | other => other
  | .obj right =>
    match existing with
    | .obj left => .obj (mergeInto left right)
    | .arr left => .arr (left ++ [.obj right])
    | other => other
  | incoming =>
    match existing with
    | .arr left => .arr (left ++ [incoming])
    | other => other

/-- **Merges a source table into a target table**, entry by entry. -/
def mergeInto (target : List (String × Json)) : List (String × Json) → List (String × Json)
  | [] => target
  | (key, incoming) :: rest =>
    match Table.get? key target with
    | none => mergeInto (Table.insert key incoming target) rest
    | some existing => mergeInto (Table.insert key (mergeValue existing incoming) target) rest
end

end ApiGloss.Json
