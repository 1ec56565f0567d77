import StageThree.Json.Structure

/-!
Models: the name of the primary key and the declared types of attributes, and the registry in
which queries look their model up.
-/

namespace StageThree

inductive AttributeType where
  | string
  | number
  | boolean
  /-- A structured value, which may travel as JSON text. -/
  | json
  /-- The primary key of another record. -/
  | ref
  deriving DecidableEq, Inhabited

namespace AttributeType

def name : AttributeType → String
  | .string => "string"
  | .number => "number"
  | .boolean => "boolean"
  | .json => "json"
  | .ref => "ref"

/-- The type of a name; `identifier` is another name of `ref`. -/
def ofName? (name : String) : Option AttributeType :=
  match name with
  | "string" => some .string
  | "number" => some .number
  | "boolean" => some .boolean
  | "json" => some .json
  | "ref" => some .ref
  | "identifier" => some .ref
  | _ => none

def isStructured (type : AttributeType) : Bool := type = .json

def isIdentifier (type : AttributeType) : Bool := type = .ref

def ofJson? (value : Json) : Option AttributeType :=
  (Json.variantName? value).bind ofName?

end AttributeType

structure ModelSchema where
  primaryKey : String
  attributes : Fields AttributeType
  deriving DecidableEq

namespace ModelSchema

def empty : ModelSchema := ⟨"id", []⟩

instance : Inhabited ModelSchema := ⟨empty⟩

def declare (schema : ModelSchema) (attr : String) (type : AttributeType) : ModelSchema :=
  { schema with attributes := Fields.insert attr type schema.attributes }

def attributeType? (schema : ModelSchema) (attr : String) : Option AttributeType :=
  Fields.get? attr schema.attributes

def isPrimaryKey (schema : ModelSchema) (attr : String) : Bool :=
  schema.primaryKey = attr

/-- Whether operands on an attribute are identifiers: on the primary key and on references. -/
def holdsIdentifier (schema : ModelSchema) (attr : String) : Bool :=
  schema.isPrimaryKey attr || schema.attributeType? attr = some .ref

def sortedAttributes (schema : ModelSchema) : Fields AttributeType :=
  Fields.sorted schema.attributes

def attributesOfJson? (value : Json) : Option (Fields AttributeType) := do
  let fields ← value.asObject?
  fields.mapM fun (name, type) => return (name, ← AttributeType.ofJson? type)

def ofJson? (value : Json) : Option ModelSchema := do
  match ← Json.slots? ["primaryKey", "attributes"] value with
  | [key, attributes] =>
    let key ← slot? key (some empty.primaryKey) Json.asString?
    let attributes ← slot? attributes (some []) attributesOfJson?
    return ⟨key, attributes⟩
  | _ => none

def toJson (schema : ModelSchema) : Json :=
  .object [("primaryKey", .string schema.primaryKey),
    ("attributes", .object (schema.sortedAttributes.map fun (name, type) =>
      (name, .string type.name)))]

end ModelSchema

structure ModelRegistry where
  models : Fields ModelSchema
  deriving DecidableEq, Inhabited

namespace ModelRegistry

def empty : ModelRegistry := ⟨[]⟩

/-- Adds a model, in place of one with the same identity. -/
def register (registry : ModelRegistry) (identity : String) (schema : ModelSchema) :
    ModelRegistry :=
  ⟨Fields.insert identity schema registry.models⟩

def get? (registry : ModelRegistry) (identity : String) : Option ModelSchema :=
  Fields.get? identity registry.models

def sorted (registry : ModelRegistry) : Fields ModelSchema := Fields.sorted registry.models

def identities (registry : ModelRegistry) : List String := Fields.keys registry.sorted

def size (registry : ModelRegistry) : Nat := registry.models.length

def ofJson? (value : Json) : Option ModelRegistry := do
  let fields ← value.asObject?
  let models ← fields.mapM fun (identity, schema) => return (identity, ← ModelSchema.ofJson? schema)
  return ⟨models⟩

end ModelRegistry

end StageThree
