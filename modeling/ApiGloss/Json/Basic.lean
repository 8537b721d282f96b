import ApiGloss.Decimal.Basic
import ApiGloss.Table

/-!
# JSON Values

The values that records, package files and answers are made of. Objects are tables in order
of insertion. Integers between `-2 ^ 63` and `2 ^ 64 - 1` are kept as integers, every other
number as the shortest decimal of its double.
-/

namespace ApiGloss

/-- A number: an integer, or a decimal that stands for a double. -/
inductive Json.Number where
  | int (value : Int)
  | real (value : Decimal)
  deriving DecidableEq, Repr, Inhabited

/-- A **JSON value**. -/
inductive Json where
  | null
  | bool (value : Bool)
  | num (value : Json.Number)
  | str (value : String)
  | arr (items : List Json)
  | obj (fields : List (String × Json))
  deriving Repr, Inhabited

namespace Json

/-- The text of a string value. -/
def str? : Json → Option String
  | .str s => some s
  | _ => none

/-- The items of an array. -/
def arr? : Json → Option (List Json)
  | .arr items => some items
  | _ => none

/-- The entries of an object. -/
def obj? : Json → Option (Table Json)
  | .obj fields => some fields
  | _ => none

/-- The entry of an object under a name; nothing for other values. -/
def get? (key : String) : Json → Option Json
  | .obj fields => Table.get? key fields
  | _ => none

/-- The text under a name of an object. -/
def getStr? (key : String) (j : Json) : Option String :=
  (j.get? key).bind str?

/-- An integer value. -/
def ofNat (n : Nat) : Json :=
  .num (.int n)

/-- An optional text, absent as `null`. -/
def ofStr? : Option String → Json
  | some s => .str s
  | none => .null

/-- An array of texts. -/
def ofStrs (items : List String) : Json :=
  .arr (items.map .str)

/-- A **well-formed** value: in every object the names are distinct. -/
inductive WellFormed : Json → Prop where
  | null : WellFormed .null
  | bool (b : Bool) : WellFormed (.bool b)
  | num (n : Number) : WellFormed (.num n)
  | str (s : String) : WellFormed (.str s)
  | arr {items : List Json} (h : ∀ j ∈ items, WellFormed j) : WellFormed (.arr items)
  | obj {fields : List (String × Json)} (distinct : Table.Distinct fields)
      (h : ∀ e ∈ fields, WellFormed e.2) : WellFormed (.obj fields)

end Json

end ApiGloss
