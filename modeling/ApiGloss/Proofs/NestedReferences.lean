import ApiGloss.Proofs.ComponentRuns
import ApiGloss.Proofs.FieldSchemas
import ApiGloss.Proofs.Places

/-!
# Objects and Their Parts Meet

The schema of a field that is an object is a reference to a component, and the component is named
after the whole name of the field. The parts of the object are declared by fields of their own, and
the component that such a part is filed in is found by cutting its name at the last dot. The two
names are computed apart from each other, from different fields, and in any order of declarations.
They meet because a part is named by the object, a dot and a last piece without dots, however many
dots the object has (`Schema.nestedName_part`).

A part is filed wherever it stands, unless it is the first field that counts and stands for the list
as a whole (`Components.mem_filed`). A property that is filed once is never taken away again
(`Components.isSome_property?_addLists`), so that the reference keeps its meaning while further
lists of fields are added.

## Main results

* `Schema.nestedName_part`: the object and the property of a part.
* `Schema.eq_reference_of_ofField`: where the schema of an object points to.
* `Components.reference_leads_to_parts`: the component that an object points to has its parts.
-/

namespace ApiGloss

/-! ### Names of parts -/

namespace Chars

/-- A text is cut at the last separator. -/
theorem splitLast_append {sep : Char} {last : List Char} (h : sep ∉ last) (path : List Char) :
    splitLast sep (path ++ sep :: last) = some (path, last) := by
  have hlast : ∀ d ∈ last.reverse, (d == sep) = false := by
    intro d hd
    rw [beq_eq_false_iff_ne]
    rintro rfl
    exact h (List.mem_reverse.mp hd)
  have hreverse : (path ++ sep :: last).reverse = last.reverse ++ sep :: path.reverse := by simp
  rw [splitLast, hreverse, splitOnce_append hlast (beq_self_eq_true sep)]
  simp

end Chars

namespace Schema

/-- A name without a colon is a single piece. -/
theorem split_colon_of_not_mem {name : String} (h : ':' ∉ name.toList) :
    Text.split ':' name = [name] := by
  rw [Text.split, Chars.split_of_not_mem h, List.map_singleton, String.ofList_toList]

/-- **A part of an object**: behind the last dot stands the property, before it the object, which may
have dots itself. -/
theorem nestedName_part {object part : String} (hobject : ':' ∉ object.toList)
    (hpart : '.' ∉ part.toList ∧ ':' ∉ part.toList) :
    nestedName (object ++ "." ++ part) = (some object, part) := by
  have hname : (object ++ "." ++ part).toList = object.toList ++ '.' :: part.toList := by
    rw [String.toList_append, String.toList_append, List.append_assoc]
    rfl
  have hcolon : ':' ∉ (object ++ "." ++ part).toList := by
    rw [hname, List.mem_append, List.mem_cons]
    rintro (h | h | h)
    · exact hobject h
    · exact absurd h (by decide)
    · exact hpart.2 h
  unfold nestedName
  rw [split_colon_of_not_mem hcolon]
  dsimp only
  rw [hname, Chars.splitLast_append hpart.1]
  simp only [String.ofList_toList]
  rfl

/-- **Where the schema of an object points to**: the component of its whole name. -/
theorem eq_reference_of_ofField {kind : SchemaKind} {field : FieldDecl} {target : String}
    (h : (ofField kind field).reference = some target) : target = kind.reference field.field := by
  obtain ⟨-, -, hreference, -⟩ | ⟨-, -, -, hnone⟩ | ⟨-, -, hnone⟩ := ofField_cases kind field
  · exact Option.some.inj (h.symm.trans hreference)
  · cases h.symm.trans hnone
  · cases h.symm.trans hnone

end Schema

/-! ### Filed properties -/

namespace FieldList

/-- The fields of a list that **count**: those that are not to be skipped. -/
def counted (l : FieldList) : List FieldDecl :=
  l.fields.filter fun f => !l.skip.contains f.field

end FieldList

namespace Components

/-- **Where a field is filed**: everywhere but at the front, if it stands for a whole there. -/
theorem mem_filed {fields before after : List FieldDecl} {field : FieldDecl}
    (hfields : fields = before ++ field :: after) (hfirst : before = [] → ¬ field.IsWhole) :
    field ∈ filed fields := by
  subst hfields
  cases before with
  | nil =>
      rw [List.nil_append, filed, if_neg (hfirst rfl)]
      exact List.mem_cons_self
  | cons first before =>
      have hmem : field ∈ before ++ field :: after :=
        List.mem_append_right _ List.mem_cons_self
      rw [List.cons_append, filed]
      split
      · exact hmem
      · exact List.mem_cons_of_mem _ hmem

/-- A slot is filled if a field that is filed goes into it, and stays filled otherwise. -/
theorem isSome_property?_addList (cs : Components) (l : FieldList) (slot : String × String) :
    ((cs.addList l).property? slot).isSome ↔
      (∃ f ∈ l.contributing, l.slotOf f = slot) ∨ (cs.property? slot).isSome := by
  have hfiled : (∃ f ∈ l.contributing, l.slotOf f = slot) ↔
      (lastIn? l.kind l.endpoint slot l.contributing).isSome := isSome_lastIn?.symm
  rw [addList, property?_addFields, Option.isSome_or, Option.isSome_map, Bool.or_eq_true, hfiled]
  rfl

/-- **A filled slot stays filled** while lists of fields are added. -/
theorem isSome_property?_addLists {cs : Components} {slot : String × String}
    (h : (cs.property? slot).isSome) (ls : List FieldList) :
    ((cs.addLists ls).property? slot).isSome := by
  unfold addLists
  induction ls generalizing cs with
  | nil => exact h
  | cons l ls ih => exact ih ((isSome_property?_addList cs l slot).mpr (Or.inr h))

/-- A filled slot is a property of a component. -/
theorem isSome_property?_iff {cs : Components} {name property : String} :
    (cs.property? (name, property)).isSome ↔
      ∃ c, Table.get? name cs = some c ∧ property ∈ Table.keys c.properties := by
  unfold property?
  rw [Option.isSome_bind, Option.any_eq_true]
  simp only [← Table.contains_iff_mem_keys, Table.contains]

/-- **An object points to the component of its parts.** Let the schema of a field be a reference,
and let a list of fields be added in which a field counts that is named by the field, a dot and a
last piece; it must not be the first that counts if it stands for the list as a whole. Then the
reference names a component that exists, whatever components there were before, and the component
has the last piece as a property. This stays so when further lists are added. -/
theorem reference_leads_to_parts (cs : Components) (l : FieldList) {object part : FieldDecl}
    {target property : String} (hcolon : ':' ∉ object.field.toList)
    (hreference : (Schema.ofField l.kind object).reference = some target)
    {before after : List FieldDecl} (hcounts : l.counted = before ++ part :: after)
    (hfirst : before = [] → ¬ part.IsWhole)
    (hname : part.field = object.field ++ "." ++ property)
    (hproperty : '.' ∉ property.toList ∧ ':' ∉ property.toList) (later : List FieldList) :
    ∃ name c, target = "#/components/schemas/" ++ name ∧
      Table.get? name ((cs.addList l).addLists later) = some c ∧
      property ∈ Table.keys c.properties := by
  have hslot : l.slotOf part = (l.kind.componentName object.field, property) := by
    rw [FieldList.slotOf, slotOf, hname, Schema.nestedName_part hcolon hproperty]
    rfl
  have hfiled : ((cs.addList l).property? (l.slotOf part)).isSome :=
    (isSome_property?_addList cs l _).mpr (Or.inl ⟨part, mem_filed hcounts hfirst, rfl⟩)
  have hlater := isSome_property?_addLists hfiled later
  rw [hslot] at hlater
  obtain ⟨c, hc, hmem⟩ := isSome_property?_iff.mp hlater
  exact ⟨l.kind.componentName object.field, c, Schema.eq_reference_of_ofField hreference, hc, hmem⟩

/-- The street in the address of an order. -/
def deliveryStreet : FieldDecl :=
  { field := "order.address.street", type := some "String" }

/-- The address of an order, which is an object. -/
def deliveryAddress : FieldDecl :=
  { field := "order.address", type := some "Object" }

/-- The fields of a request in which a part of an object is declared before the object, which is
itself a part of another one; the first field does not count. -/
def deliveryFields : FieldList where
  kind := .request
  fields := [{ field := "id", type := some "Object" }, deliveryStreet, deliveryAddress]
  endpoint := "PutDelivery"
  skip := ["id"]

/-- The address of the order points to the component that its street is filed in. -/
theorem reference_leads_to_parts_delivery :
    ∃ name c, "#/components/schemas/RequestOrder.address" = "#/components/schemas/" ++ name ∧
      Table.get? name ((addList [("RequestOrder", {})] deliveryFields).addLists
        [{ deliveryFields with skip := [] }]) = some c ∧
      "street" ∈ Table.keys c.properties := by
  have hreference : (Schema.ofField deliveryFields.kind deliveryAddress).reference =
      some "#/components/schemas/RequestOrder.address" := by decide +kernel
  have hcounts : deliveryFields.counted = [] ++ deliveryStreet :: [deliveryAddress] := by
    decide +kernel
  have hname : deliveryStreet.field = deliveryAddress.field ++ "." ++ "street" := by decide
  exact reference_leads_to_parts _ deliveryFields (by decide) hreference hcounts
    (fun _ => by decide +kernel) hname (by decide) _

/-- A first field that stands for the list as a whole is not filed, and the object that it is named
after has no component. -/
example : Table.get? "RequestAddress" (addList [] {
    kind := .request
    fields := [{ field := "address.home", type := some "Object" },
      { field := "address", type := some "Object" }]
    endpoint := "PostUser"
    skip := [] }) = none := by decide +kernel

end Components

end ApiGloss
