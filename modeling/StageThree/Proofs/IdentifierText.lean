import StageThree.Proofs.Conversion
import StageThree.Text.Blank

/-!
The text of an identifier. An identifier is written in lower case, so that text which was read as
one comes back in lower case, and any other text as it was.
-/

namespace StageThree

namespace ObjectId

/-- A hexadecimal digit is written as its lower case. -/
theorem digitChar_of_digit? {c : Char} {d : Fin 16} (h : digit? c = some d) :
    digitChar d = c.toLower := by
  unfold digit? at h
  split at h
  case h_23 => cases h
  all_goals
    obtain rfl := Option.some.inj h
    decide

theorem map_digitChar_of_mapM_digit? {cs : List Char} {digits : List (Fin 16)}
    (h : cs.mapM digit? = some digits) : digits.map digitChar = cs.map Char.toLower := by
  induction cs generalizing digits with
  | nil =>
      obtain rfl : [] = digits := by simpa using h
      rfl
  | cons c rest ih =>
      simp only [List.mapM_cons, Option.bind_eq_bind, Option.bind_eq_some_iff, Option.pure_def,
        Option.some.injEq] at h
      obtain ⟨d, hd, ds, hds, rfl⟩ := h
      rw [List.map_cons, List.map_cons, digitChar_of_digit? hd, ih hds]

theorem toHex_of_ofHex? {text : String} {id : ObjectId} (h : ofHex? text = some id) :
    id.toHex = Text.lowerAscii text := by
  unfold ofHex? at h
  split at h
  · next digits hdigits =>
    split at h
    · obtain rfl := Option.some.inj h
      rw [toHex, Text.lowerAscii, map_digitChar_of_mapM_digit? hdigits]
    · cases h
  · cases h

end ObjectId

/-- The form in which an identifier is returned: 24 hexadecimal digits in lower case. A value of
another shape is returned as it is. -/
def Json.asIdentifier : Json → Json
  | .string text => .string (if ObjectId.hasShape text then Text.lowerAscii text else text)
  | value => value

theorem Json.asIdentifier_of_ofHex? {text : String} {id : ObjectId}
    (h : ObjectId.ofHex? text = some id) :
    (Json.string text).asIdentifier = .string id.toHex := by
  have hshape : ObjectId.hasShape text = true := by
    rw [← ObjectId.ofHex?_isSome, h]
    rfl
  rw [asIdentifier, if_pos hshape, ObjectId.toHex_of_ofHex? h]

theorem Json.somewhere_isBig_asIdentifier (value : Json) :
    value.asIdentifier.somewhere isBig = value.somewhere isBig := by
  cases value <;> rfl

namespace Coercion

/-- Where an identifier is expected a value is returned as identifiers are. -/
theorem generic_identifier (value : Native) :
    generic (identifier value) = (generic value).asIdentifier := by
  cases value with
  | string text =>
      show _ = (Json.string text).asIdentifier
      cases hid : ObjectId.ofHex? text with
      | some id =>
          rw [identifier_string, hid, Json.asIdentifier_of_ofHex? hid]
          rfl
      | none =>
          have hshape : ObjectId.hasShape text = false := by
            rw [← ObjectId.ofHex?_isSome, hid]
            rfl
          rw [identifier_string, hid, Json.asIdentifier, hshape]
          rfl
  | objectId id => exact (Json.asIdentifier_of_ofHex? (ObjectId.ofHex?_toHex id)).symm
  | double x =>
      simp only [identifier, generic, Native.relaxed, Native.relaxedDouble]
      split <;> rfl
  | dateTime millis =>
      simp only [identifier, generic, Native.relaxed, Native.relaxedDate]
      split <;> rfl
  | _ => rfl

/-- The form in which an identifier is returned is that of the same identifier. -/
theorem identifier_storable_asIdentifier (value : Json) :
    identifier (storable value.asIdentifier) = identifier (storable value) := by
  cases value with
  | string text =>
      cases hid : ObjectId.ofHex? text with
      | some id =>
          rw [Json.asIdentifier_of_ofHex? hid]
          show identifier (.string id.toHex) = identifier (.string text)
          rw [identifier_string, ObjectId.ofHex?_toHex, identifier_string, hid]
          rfl
      | none =>
          have hshape : ObjectId.hasShape text = false := by
            rw [← ObjectId.ofHex?_isSome, hid]
            rfl
          rw [Json.asIdentifier, hshape]
          rfl
  | _ => rfl

end Coercion

end StageThree
