import StageThree.Filter.Basic
import StageThree.Json.Structure

/-!
Filters as generic values of their own: every node names its variant. The form keeps the tree as
it was built, so that it writes and reads every filter, well formed or not.
-/

namespace StageThree

namespace Operand

def toForm : Operand → Json
  | .null => .string "Null"
  | .scalar value => .object [("Scalar", value)]
  | .set values => .object [("Set", .array values)]

def ofForm? (form : Json) : Option Operand :=
  if Json.variantName? form = some "Null" then some .null
  else match Json.variant? form with
    | some ("Scalar", value) => some (.scalar value)
    | some ("Set", .array values) => some (.set values)
    | _ => none

end Operand

namespace Comparison

def toForm (c : Comparison) : Json :=
  .object [("attribute", .string c.attr), ("op", .string c.op.name),
    ("operand", c.operand.toForm)]

def ofForm? (form : Json) : Option Comparison := do
  match ← Json.slots? ["attribute", "op", "operand"] form with
  | [some attr, some op, some operand] =>
    let op ← (← Json.variantName? op) |> CompareOp.ofName?
    return ⟨← attr.asString?, op, ← Operand.ofForm? operand⟩
  | _ => none

end Comparison

namespace Filter

mutual

def toForm : Filter → Json
  | .all children => .object [("And", .array (toForms children))]
  | .any children => .object [("Or", .array (toForms children))]
  | .compare c => .object [("Compare", c.toForm)]

def toForms : List Filter → List Json
  | [] => []
  | child :: rest => toForm child :: toForms rest

end

mutual

def ofForm? : Json → Option Filter
  | .object [("And", .array items)] => (ofForms? items).map .all
  | .object [("Or", .array items)] => (ofForms? items).map .any
  | .object [("Compare", form)] => (Comparison.ofForm? form).map .compare
  | _ => none

def ofForms? : List Json → Option (List Filter)
  | [] => some []
  | item :: rest => do return (← ofForm? item) :: (← ofForms? rest)

end

end Filter

end StageThree
