import StageThree.Coercion
import StageThree.Proofs.EqualityClause
import StageThree.Proofs.Equality

/-!
Scalars on both sides of the store. A scalar that converts is equal to itself once it is stored,
and the generic form of a stored value, if it is a scalar, converts back to a value that is equal
to the stored one.
-/

namespace StageThree

namespace Native

theorem equal_self_of_order? {value : Native} {order : Ordering}
    (h : value.order? value = some order) : value.equal value = true := by
  have hswap := order?_swap value value
  rw [h, Option.map_some, Option.some.injEq] at hswap
  have heq : order = .eq := by
    cases order with
    | eq => rfl
    | lt | gt => cases hswap
  rw [equal, h, heq]
  rfl

theorem equal_self_double {x : Double} (h : x.isFinite = true) :
    (double x).equal (double x) = true := by
  have hnan := Double.isNaN_of_isFinite h
  exact equal_self_of_order? (Double.order?_eq_some hnan hnan)

theorem equal_self_string (text : String) : (string text).equal (string text) = true :=
  equal_self_of_order? rfl

theorem equal_self_objectId (id : ObjectId) : (objectId id).equal (objectId id) = true :=
  equal_self_of_order? rfl

theorem equal_int32_int64 (n : Int32) : (int32 n).equal (int64 (.ofInt n.toInt)) = true := by
  have hle := n.le_toInt
  have hlt := n.toInt_lt
  have hvalue : (Int64.ofInt n.toInt).toInt = n.toInt :=
    Int64.toInt_ofInt_of_le (by omega) (by omega)
  have horder : (int32 n).order? (int64 (.ofInt n.toInt)) = some .eq := by
    show some (compare n.toInt (Int64.ofInt n.toInt).toInt) = some .eq
    rw [hvalue, Std.ReflOrd.compare_self]
  rw [equal, horder]
  rfl

end Native

namespace Coercion

variable {value : Json} {plain : Native}

/-- An identifier is equal to itself if the text that it was read from is. -/
theorem equal_self_identifier (h : plain.equal plain = true) :
    (identifier plain).equal (identifier plain) = true := by
  cases plain with
  | string text =>
      rw [identifier_string]
      cases ObjectId.ofHex? text with
      | some id => exact Native.equal_self_objectId id
      | none => exact Native.equal_self_string text
  | _ => exact h

/-- A scalar converts, unless it is an integer beyond the signed range. -/
theorem exists_ofGeneric? (hvalue : value.isScalar = true ∨ value = .null)
    (hrange : ∀ n above, value ≠ .number (.big n above)) :
    ∃ plain, Native.ofGeneric? value = some plain ∧ plain.equal plain = true := by
  cases value with
  | null => exact ⟨.null, rfl, rfl⟩
  | bool b => exact ⟨.bool b, rfl, Native.equal_self_of_order? rfl⟩
  | string text => exact ⟨.string text, rfl, Native.equal_self_string text⟩
  | number n =>
      cases n with
      | int n => exact ⟨.int64 n, rfl, Native.equal_self_of_order? rfl⟩
      | big n above => exact absurd rfl (hrange n above)
      | double x finite => exact ⟨.double x, rfl, Native.equal_self_double finite⟩
  | array | object => simp [Json.isScalar] at hvalue

theorem isScalar_relaxedDate (millis : Int64) :
    (Native.relaxedDate millis).isScalar = false := by
  unfold Native.relaxedDate
  dsimp only
  split <;> rfl

/-- A stored value that no identifier hides in is read back from its generic form. -/
theorem exists_ofGeneric?_generic {stored : Native} (hidentifier : identifier stored = stored)
    (hscalar : (generic stored).isScalar = true) :
    ∃ plain, Native.ofGeneric? (generic stored) = some plain ∧
      stored.equal (identifier plain) = true := by
  cases stored with
  | objectId id =>
      refine ⟨.string id.toHex, rfl, ?_⟩
      rw [identifier_string, ObjectId.ofHex?_toHex]
      exact Native.equal_self_objectId id
  | string text =>
      refine ⟨.string text, rfl, ?_⟩
      rw [hidentifier]
      exact Native.equal_self_string text
  | bool b => exact ⟨.bool b, rfl, Native.equal_self_of_order? rfl⟩
  | int32 n => exact ⟨.int64 (.ofInt n.toInt), rfl, Native.equal_int32_int64 n⟩
  | int64 n => exact ⟨.int64 n, rfl, Native.equal_self_of_order? rfl⟩
  | double x =>
      simp only [generic, Native.relaxed, Native.relaxedDouble] at hscalar ⊢
      split at hscalar
      · next h =>
        rw [dif_pos h]
        exact ⟨.double x, rfl, Native.equal_self_double h⟩
      · cases hscalar
  | dateTime millis =>
      rw [generic, Native.relaxed, isScalar_relaxedDate] at hscalar
      · cases hscalar
      all_goals simp
  -- the other kinds are written as arrays and objects, or as null
  | _ => cases hscalar

end Coercion

end StageThree
