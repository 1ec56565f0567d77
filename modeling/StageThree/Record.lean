import StageThree.Coercion
import StageThree.Schema

/-!
Records on their way to the store and back. A record is written with its primary key in front,
under the name that the store gives to keys; a null key is left to the store. What the schema
declares of an attribute decides how its value is converted. A document is read field by field.
-/

namespace StageThree.Record

variable (schema : ModelSchema) (options : TranslateOptions)

/-- The value of an attribute other than the primary key, as it is stored. -/
def nativeValue (attr : String) (value : Json) : Except CoercionError Native :=
  match schema.attributeType? attr with
  | some .json => Coercion.structuredUnder options.coercion attr value
  | some .ref => Coercion.identifierUnder options.coercion attr value
  | _ => Coercion.nativeUnder options.coercion attr value

/-- The document that begins with the primary key, if the record has one. -/
def keyDocument (record : Record) : Except CoercionError Document :=
  match Fields.get? schema.primaryKey record with
  | none | some .null => .ok []
  | some id => do
    let key ← Coercion.identifierUnder options.coercion schema.primaryKey id
    return [(options.nativeKey, key)]

def addAttributes (document : Document) : List (String × Json) → Except CoercionError Document
  | [] => .ok document
  | (attr, value) :: rest => do
    let converted ← nativeValue schema options attr value
    addAttributes (Fields.insert attr converted document) rest

def write (record : Record) : Except CoercionError Document := do
  let document ← keyDocument schema options record
  addAttributes schema options document (Fields.swapErase schema.primaryKey record)

def attributeOf (field : String) : String :=
  if field = options.nativeKey then schema.primaryKey else field

def read (document : Document) : Record :=
  Fields.ofList (document.map fun (field, value) =>
    (attributeOf schema options field, Coercion.generic value))

end StageThree.Record
