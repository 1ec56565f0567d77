import StageThree.Proofs.FilterMeaning
import StageThree.Proofs.IdentifierText
import StageThree.Proofs.KeyLookup

/-!
The spellings of an identifier. Texts of 24 hexadecimal digits are the same identifier when they
differ in case alone, and any other text is only itself. An identifier is spelled in lower case
when it leaves the store, and is the same identifier when it comes back; so a filter may be asked
with identifiers as the store spells them.
-/

namespace StageThree

/-! ### Texts that spell an identifier -/

namespace ObjectId

/-- A hexadecimal digit in ASCII, of either case. -/
def IsDigit (c : Char) : Prop :=
  ('0' ≤ c ∧ c ≤ '9') ∨ ('a' ≤ c ∧ c ≤ 'f') ∨ ('A' ≤ c ∧ c ≤ 'F')

instance (c : Char) : Decidable (IsDigit c) := inferInstanceAs (Decidable (_ ∨ _))

/-- Whether a text is 24 hexadecimal digits and nothing else. -/
def Spells (text : String) : Prop :=
  text.toList.length = 24 ∧ ∀ c ∈ text.toList, IsDigit c

instance (text : String) : Decidable (Spells text) := inferInstanceAs (Decidable (_ ∧ _))

variable {c : Char} {text other : String}

theorem toNat_lt_of_isDigit (h : IsDigit c) : c.toNat < 128 := by
  simp only [IsDigit, Char.le_def, UInt32.le_iff_toNat_le] at h
  show c.val.toNat < 128
  rcases h with ⟨-, h⟩ | ⟨-, h⟩ | ⟨-, h⟩
  all_goals exact Nat.lt_of_le_of_lt h (by decide)

theorem isSome_digit?_iff : (digit? c).isSome ↔ IsDigit c := by
  constructor
  · intro h
    unfold digit? at h
    split at h
    case h_23 => cases h
    all_goals decide
  · intro h
    have htable : ∀ n < 128, IsDigit (Char.ofNat n) → (digit? (Char.ofNat n)).isSome := by decide
    have hdigit := htable c.toNat (toNat_lt_of_isDigit h)
    rw [Char.ofNat_toNat] at hdigit
    exact hdigit h

/-- The test of the shape accepts exactly what is read. -/
theorem hasShape_iff : hasShape text = true ↔ Spells text := by
  simp [hasShape, Spells, isSome_digit?_iff]

theorem exists_ofHex?_iff : (∃ id, ofHex? text = some id) ↔ Spells text := by
  rw [← hasShape_iff, ← ofHex?_isSome, Option.isSome_iff_exists]

theorem ofHex?_eq_none_iff : ofHex? text = none ↔ ¬Spells text := by
  rw [← exists_ofHex?_iff, Option.eq_none_iff_forall_ne_some, not_exists]

/-- Texts are read as one identifier if they differ in case alone. -/
theorem eq_iff_lowerAscii {id found : ObjectId} (h : ofHex? text = some id)
    (hother : ofHex? other = some found) :
    id = found ↔ Text.lowerAscii text = Text.lowerAscii other := by
  rw [← toHex_of_ofHex? h, ← toHex_of_ofHex? hother]
  refine ⟨congrArg toHex, fun hhex => ?_⟩
  rw [← Option.some_inj, ← ofHex?_toHex id, hhex, ofHex?_toHex]

end ObjectId

namespace Coercion

open ObjectId (Spells)

variable {text other : String}

theorem identifier_of_spells (h : Spells text) :
    ∃ id, identifier (.string text) = .objectId id ∧
      generic (.objectId id) = .string (Text.lowerAscii text) := by
  obtain ⟨id, hid⟩ := ObjectId.exists_ofHex?_iff.mpr h
  refine ⟨id, by rw [identifier_string, hid]; rfl, ?_⟩
  rw [generic, ObjectId.toHex_of_ofHex? hid]

theorem identifier_of_not_spells (h : ¬Spells text) :
    identifier (.string text) = .string text := by
  rw [identifier_string, ObjectId.ofHex?_eq_none_iff.mpr h]
  rfl

/-- A text has a spelling in which it comes back, and that spelling stands for the same value. -/
theorem exists_spelling (text : String) :
    ∃ spelled, generic (identifier (.string text)) = .string spelled ∧
      identifier (.string spelled) = identifier (.string text) := by
  by_cases h : Spells text
  · obtain ⟨id, hid⟩ := ObjectId.exists_ofHex?_iff.mpr h
    rw [identifier_string, hid]
    refine ⟨id.toHex, rfl, ?_⟩
    rw [identifier_string, ObjectId.ofHex?_toHex]
    rfl
  · rw [identifier_of_not_spells h]
    exact ⟨text, rfl, identifier_of_not_spells h⟩

/-- What texts stand for is equal in the store only if it is one value. -/
theorem equal_identifier_iff :
    (identifier (.string text)).equal (identifier (.string other)) = true ↔
      identifier (.string text) = identifier (.string other) := by
  have hkind (text : String) : (identifier (.string text)).isTarget = true := by
    rw [identifier_string]
    cases ObjectId.ofHex? text <;> rfl
  constructor
  · intro h
    rw [Native.equal_iff_order? (hkind other)] at h
    rw [identifier_string, identifier_string] at h ⊢
    revert h
    cases ObjectId.ofHex? text with
    | some id =>
        cases ObjectId.ofHex? other with
        | some found =>
            intro h
            exact congrArg Native.objectId (Std.LawfulEqOrd.eq_of_compare (Option.some.inj h))
        | none =>
            intro h
            cases h
    | none =>
        cases ObjectId.ofHex? other with
        | some found =>
            intro h
            cases h
        | none =>
            intro h
            exact congrArg Native.string (Std.LawfulEqOrd.eq_of_compare (Option.some.inj h))
  · intro h
    rw [h]
    exact equal_self_identifier (Native.equal_self_string other)

theorem identifier_eq_iff :
    identifier (.string text) = identifier (.string other) ↔
      text = other ∨
        Spells text ∧ Spells other ∧ Text.lowerAscii text = Text.lowerAscii other := by
  by_cases h : Spells text
  · by_cases hother : Spells other
    · obtain ⟨id, hid⟩ := ObjectId.exists_ofHex?_iff.mpr h
      obtain ⟨found, hfound⟩ := ObjectId.exists_ofHex?_iff.mpr hother
      rw [identifier_string, identifier_string, hid, hfound, Option.map_some, Option.map_some,
        Option.getD_some, Option.getD_some, Native.objectId.injEq,
        ObjectId.eq_iff_lowerAscii hid hfound]
      constructor
      · exact fun hlower => .inr ⟨h, hother, hlower⟩
      · rintro (rfl | ⟨-, -, hlower⟩)
        · rfl
        · exact hlower
    · obtain ⟨id, hid, -⟩ := identifier_of_spells h
      rw [hid, identifier_of_not_spells hother]
      refine iff_of_false (by simp) ?_
      rintro (rfl | ⟨-, hspells, -⟩)
      · exact hother h
      · exact hother hspells
  · rw [identifier_of_not_spells h]
    by_cases hother : Spells other
    · obtain ⟨id, hid, -⟩ := identifier_of_spells hother
      rw [hid]
      refine iff_of_false (by simp) ?_
      rintro (rfl | ⟨hspells, -⟩)
      · exact h hother
      · exact h hspells
    · rw [identifier_of_not_spells hother, Native.string.injEq]
      simp [h]

end Coercion

/-! ### Filters that are spelled in another way -/

namespace Filter

/-- Whether an operand is kept, or is a text in whose place the generic form of its native value
stands. -/
inductive RespellsValue (schema : ModelSchema) (attr : String) : Json → Json → Prop
  | kept (value : Json) : RespellsValue schema attr value value
  | respelled {text : String} {target : Native}
      (h : nativeOperand schema attr (.string text) = .ok target) :
      RespellsValue schema attr (.string text) (Coercion.generic target)

inductive RespellsOperand (schema : ModelSchema) (attr : String) : Operand → Operand → Prop
  | null : RespellsOperand schema attr .null .null
  | scalar {value other : Json} (h : RespellsValue schema attr value other) :
      RespellsOperand schema attr (.scalar value) (.scalar other)
  | set {values others : List Json}
      (h : List.Forall₂ (RespellsValue schema attr) values others) :
      RespellsOperand schema attr (.set values) (.set others)

/-- Whether filters differ at most in texts that are compared with identifiers. A pattern is no
such text. -/
inductive Respells (schema : ModelSchema) : Filter → Filter → Prop
  | all {children others : List Filter} (h : List.Forall₂ (Respells schema) children others) :
      Respells schema (.all children) (.all others)
  | any {children others : List Filter} (h : List.Forall₂ (Respells schema) children others) :
      Respells schema (.any children) (.any others)
  | kept (c : Comparison) : Respells schema (.compare c) (.compare c)
  | respelled {attr : String} {op : CompareOp} {operand other : Operand} (hop : op ≠ .like)
      (hattr : attr = schema.primaryKey ∨ schema.attributeType? attr = some .ref)
      (h : RespellsOperand schema attr operand other) :
      Respells schema (.compare ⟨attr, op, operand⟩) (.compare ⟨attr, op, other⟩)

variable {schema : ModelSchema} {options : TranslateOptions} {attr : String} {op : CompareOp}
  {value replaced : Json} {values others : List Json} {operand other : Operand}
  {target : Native} {filter : Filter} {children replacements : List Filter}

section

variable (hattr : attr = schema.primaryKey ∨ schema.attributeType? attr = some .ref)
include hattr

theorem nativeOperand_string (text : String) :
    nativeOperand schema attr (.string text) = .ok (Coercion.identifier (.string text)) := by
  rw [nativeOperand_eq_ok_iff]
  exact ⟨.string text, rfl, (if_pos hattr).symm⟩

theorem exists_string_of_respelled {text : String}
    (h : nativeOperand schema attr (.string text) = .ok target) :
    ∃ spelled, Coercion.generic target = .string spelled ∧
      nativeOperand schema attr (.string spelled) = .ok target := by
  rw [nativeOperand_string hattr] at h
  obtain rfl := Except.ok.inj h
  obtain ⟨spelled, hspelled, hsame⟩ := Coercion.exists_spelling text
  exact ⟨spelled, hspelled, by rw [nativeOperand_string hattr, hsame]⟩

theorem nativeOperand_of_respells (h : RespellsValue schema attr value replaced) :
    nativeOperand schema attr replaced = nativeOperand schema attr value := by
  cases h with
  | kept => rfl
  | respelled h =>
      obtain ⟨spelled, hspelled, hsame⟩ := exists_string_of_respelled hattr h
      rw [hspelled, hsame, h]

theorem nativeOperands_of_respells
    (h : List.Forall₂ (RespellsValue schema attr) values others) :
    nativeOperands schema attr others = nativeOperands schema attr values := by
  induction h with
  | nil => rfl
  | cons hvalue _ ih =>
      rw [nativeOperands, nativeOperands, nativeOperand_of_respells hattr hvalue, ih]

theorem nativeTarget_of_respells (h : RespellsOperand schema attr operand other) :
    nativeTarget schema attr other = nativeTarget schema attr operand := by
  cases h with
  | null => rfl
  | scalar h => exact nativeOperand_of_respells hattr h
  | set h => rw [nativeTarget, nativeTarget, nativeOperands_of_respells hattr h]

theorem check_of_respells (hop : op ≠ .like) (h : RespellsOperand schema attr operand other) :
    Comparison.check ⟨attr, op, other⟩ = Comparison.check ⟨attr, op, operand⟩ := by
  cases h with
  | null => rfl
  | set h => cases op <;> rfl
  | scalar h =>
      cases h with
      | kept => rfl
      | respelled h =>
          obtain ⟨spelled, hspelled, -⟩ := exists_string_of_respelled hattr h
          rw [hspelled]
          cases op with
          | like => exact absurd rfl hop
          | _ => rfl

theorem nativeComparison_of_respells (hop : op ≠ .like)
    (h : RespellsOperand schema attr operand other) :
    nativeComparison schema options ⟨attr, op, other⟩ =
      nativeComparison schema options ⟨attr, op, operand⟩ := by
  have hcondition : nativeCondition schema options ⟨attr, op, other⟩ =
      nativeCondition schema options ⟨attr, op, operand⟩ := by
    rw [nativeCondition_eq_map hop, nativeCondition_eq_map hop, nativeTarget_of_respells hattr h]
  rw [nativeComparison, nativeComparison, check_of_respells hattr hop h, hcondition]

end

theorem toNatives_of_respells
    (hchildren : ∀ child ∈ children, ∀ {replaced}, Respells schema child replaced →
      toNative schema options replaced = toNative schema options child)
    (h : List.Forall₂ (Respells schema) children replacements) :
    toNatives schema options replacements = toNatives schema options children := by
  induction h with
  | nil => rfl
  | cons hchild _ ih =>
      rw [List.forall_mem_cons] at hchildren
      rw [toNatives, toNatives, hchildren.1 hchild, ih hchildren.2]

theorem ne_nil_of_respells (h : List.Forall₂ (Respells schema) children replacements)
    (hne : children ≠ []) : replacements ≠ [] := by
  rintro rfl
  cases h
  exact hne rfl

/-- Filters that differ in the spelling of identifiers alone are translated alike. -/
theorem toNative_of_respells {replacement : Filter} (h : Respells schema filter replacement) :
    toNative schema options replacement = toNative schema options filter := by
  induction filter using Filter.induction generalizing replacement with
  | all children ih =>
      cases h with
      | all h =>
          by_cases hne : children = []
          · subst hne
            cases h
            rfl
          · rw [toNative_all hne, toNative_all (ne_nil_of_respells h hne),
              toNatives_of_respells ih h]
  | any children ih =>
      cases h with
      | any h =>
          by_cases hne : children = []
          · subst hne
            cases h
            rfl
          · rw [toNative_any hne, toNative_any (ne_nil_of_respells h hne),
              toNatives_of_respells ih h]
  | compare c =>
      cases h with
      | kept => rfl
      | respelled hop hattr h => exact nativeComparison_of_respells hattr hop h

end Filter

namespace Coercion

open ObjectId (Spells)

/-- A text of 24 hexadecimal digits is an identifier, which comes back in lower case, and any
other text stays as it is. What comes back stands for the same value, so that nothing changes when
this is repeated. Two texts stand for one value if they are equal, or are both identifiers and
equal but for case. A filter is translated alike when texts in it that are compared with
identifiers are replaced by what comes back for them. -/
theorem identifier_text_survives :
    (∀ text, Spells text → ∃ id, identifier (.string text) = .objectId id ∧
      generic (.objectId id) = .string (Text.lowerAscii text)) ∧
    (∀ text, ¬Spells text → identifier (.string text) = .string text) ∧
    (∀ text, ∃ spelled, generic (identifier (.string text)) = .string spelled ∧
      identifier (.string spelled) = identifier (.string text) ∧
      generic (identifier (.string spelled)) = .string spelled) ∧
    (∀ text other,
      ((identifier (.string text)).equal (identifier (.string other)) = true ↔
        identifier (.string text) = identifier (.string other)) ∧
      (identifier (.string text) = identifier (.string other) ↔ text = other ∨
        Spells text ∧ Spells other ∧ Text.lowerAscii text = Text.lowerAscii other)) ∧
    ∀ schema options filter replacement, Filter.Respells schema filter replacement →
      Filter.toNative schema options replacement = Filter.toNative schema options filter := by
  refine ⟨fun _ => identifier_of_spells, fun _ => identifier_of_not_spells, fun text => ?_,
    fun _ _ => ⟨equal_identifier_iff, identifier_eq_iff⟩, fun _ _ _ _ => Filter.toNative_of_respells⟩
  obtain ⟨spelled, hspelled, hsame⟩ := exists_spelling text
  exact ⟨spelled, hspelled, hsame, by rw [hsame, hspelled]⟩

/-- An identifier in capitals and in lower case, with a name that is none beside it. -/
theorem identifier_text_survives_pet :
    let capitals := "507F1F77BCF86CD799439011"
    let lower := "507f1f77bcf86cd799439011"
    identifier (.string capitals) = identifier (.string lower) ∧
      identifier (.string "rex") = .string "rex" ∧
      ∃ native, Filter.toNative .empty .default
          (.any [Filter.isIn "id" [.string capitals, .string "rex"]]) = .ok native ∧
        Filter.toNative .empty .default
          (.any [Filter.isIn "id" [.string lower, .string "rex"]]) = .ok native := by
  intro capitals lower
  have hcapitals : Spells capitals := ObjectId.hasShape_iff.mp (by decide)
  have hlower : Spells lower := ObjectId.hasShape_iff.mp (by decide)
  have hcase : Text.lowerAscii capitals = lower := by decide
  obtain ⟨hspells, hother, -, hequal, htranslated⟩ := identifier_text_survives
  have hsame := (hequal capitals lower).2.mpr (.inr ⟨hcapitals, hlower, hcase.trans (by decide)⟩)
  refine ⟨hsame, hother "rex" (by decide), _, rfl, ?_⟩
  refine htranslated .empty .default (.any [Filter.isIn "id" [.string capitals, .string "rex"]]) _
    (.any (.cons (.respelled (by decide) (.inl rfl) (.set ?_)) .nil))
  have hback : generic (identifier (.string capitals)) = .string lower := by
    obtain ⟨id, hid, hgeneric⟩ := hspells capitals hcapitals
    rw [hid, hgeneric, hcase]
  rw [← hback]
  exact .cons (.respelled rfl) (.cons (.kept (.string "rex")) .nil)

end Coercion

end StageThree
