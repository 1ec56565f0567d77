import StageThree.Json.Structure
import StageThree.Text.Blank

/-!
The settings that change how generic values land in the store.
-/

namespace StageThree

inductive CoercionPolicy where
  /-- The value is kept in a form that can be stored. -/
  | permissive
  /-- The write fails. -/
  | strict
  deriving DecidableEq, Inhabited

namespace CoercionPolicy

def name : CoercionPolicy → String
  | .permissive => "permissive"
  | .strict => "strict"

def ofName? (name : String) : Option CoercionPolicy :=
  if name = "permissive" then some .permissive
  else if name = "strict" then some .strict
  else none

/-- A policy as people write it: blanks around it and ASCII case do not matter. The error is what
was left of the text. -/
def parse (text : String) : Except String CoercionPolicy :=
  let word := Text.lowerAscii (Text.trim text)
  match ofName? word with
  | some policy => .ok policy
  | none => .error word

def unknownMessage (word : String) : String :=
  "unknown coercion policy `" ++ word ++ "` (expected permissive or strict)"

def read? {α : Type} (reader : Reader α) (value : α) : Option CoercionPolicy :=
  (reader.variant? value).bind ofName?

end CoercionPolicy

structure TranslateOptions where
  nativeKey : String
  coercion : CoercionPolicy
  likeIgnoresCase : Bool
  deriving DecidableEq

namespace TranslateOptions

def default : TranslateOptions := ⟨"_id", .permissive, true⟩

instance : Inhabited TranslateOptions := ⟨default⟩

/-- Settings that are absent have their default. -/
def read? {α : Type} (reader : Reader α) (value : α) : Option TranslateOptions := do
  match ← reader.slots? ["native_key", "coercion", "like_case_insensitive"] value with
  | [key, coercion, like] =>
    let key ← slot? key (some default.nativeKey) reader.text?
    let coercion ← slot? coercion (some default.coercion) (CoercionPolicy.read? reader)
    let like ← slot? like (some default.likeIgnoresCase) reader.flag?
    return ⟨key, coercion, like⟩
  | _ => none

def toJson (options : TranslateOptions) : Json :=
  .object [("native_key", .string options.nativeKey),
    ("coercion", .string options.coercion.name),
    ("like_case_insensitive", .bool options.likeIgnoresCase)]

end TranslateOptions

end StageThree
