import StageThree.Coercion
import StageThree.Proofs.Recursion

/-!
Generic values on their way to the native side and back. A value converts unless it holds an
integer beyond the signed range, and with those integers as text it always does. What was
converted comes back as it was, unless an object in it was extended JSON.
-/

namespace StageThree

/-! ### Values inside values -/

namespace Json

mutual

def somewhere (test : Json → Bool) : Json → Bool
  | .array items => test (.array items) || somewhereItems test items
  | .object fields => test (.object fields) || somewhereFields test fields
  | value => test value

def somewhereItems (test : Json → Bool) : List Json → Bool
  | [] => false
  | item :: rest => somewhere test item || somewhereItems test rest

def somewhereFields (test : Json → Bool) : List (String × Json) → Bool
  | [] => false
  | (_, value) :: rest => somewhere test value || somewhereFields test rest

end

variable {test : Json → Bool}

@[simp] theorem somewhere_array (items : List Json) :
    (array items).somewhere test = (test (.array items) || items.any (somewhere test)) := by
  have hitems (items : List Json) : somewhereItems test items = items.any (somewhere test) := by
    induction items with
    | nil => rfl
    | cons item rest ih => rw [somewhereItems, List.any_cons, ih]
  rw [somewhere, hitems]

@[simp] theorem somewhere_object (fields : List (String × Json)) :
    (object fields).somewhere test =
      (test (.object fields) || fields.any fun field => field.2.somewhere test) := by
  have hfields (fields : List (String × Json)) :
      somewhereFields test fields = fields.any fun field => field.2.somewhere test := by
    induction fields with
    | nil => rfl
    | cons field rest ih => rw [somewhereFields, List.any_cons, ih]
  rw [somewhere, hfields]

theorem somewhere_array_eq_false_iff {items : List Json} :
    (array items).somewhere test = false ↔
      test (.array items) = false ∧ ∀ item ∈ items, item.somewhere test = false := by
  simp

theorem somewhere_object_eq_false_iff {fields : List (String × Json)} :
    (object fields).somewhere test = false ↔
      test (.object fields) = false ∧ ∀ field ∈ fields, field.2.somewhere test = false := by
  simp

def isBig : Json → Bool
  | .number (.big _ _) => true
  | _ => false

/-- The names of extended JSON, one list for each form. -/
def extendedForms : List (List String) :=
  [["$oid"], ["$symbol"], ["$numberInt"], ["$numberLong"], ["$numberDouble"], ["$numberDecimal"],
    ["$binary"], ["$code"], ["$code", "$scope"], ["$timestamp"], ["$regularExpression"],
    ["$dbPointer"], ["$date"], ["$minKey"], ["$maxKey"], ["$undefined"]]

/-- Whether a value is an object with the names of an extended JSON form, in any order. -/
def isExtended : Json → Bool
  | .object fields => extendedForms.any fun form => (Fields.keys fields).isPerm form
  | _ => false

end Json

/-! ### Towards the store -/

namespace Native

open Json (isBig isExtended)

variable {value : Json} {converted : Native}

theorem readItems?_isSome (reading : IntegerReading) (items : List Json) :
    (readItems? reading items).isSome = items.all fun item => (read? reading item).isSome := by
  induction items with
  | nil => rfl
  | cons item rest ih =>
      rw [List.all_cons, ← ih, readItems?]
      cases read? reading item <;> cases readItems? reading rest <;> rfl

theorem readFields?_isSome (reading : IntegerReading) (fields : List (String × Json)) :
    (readFields? reading fields).isSome =
      fields.all fun field => (read? reading field.2).isSome := by
  induction fields with
  | nil => rfl
  | cons field rest ih =>
      obtain ⟨name, value⟩ := field
      rw [List.all_cons, ← ih, readFields?]
      cases read? reading value <;> cases readFields? reading rest <;> rfl

/-- Only an integer above the signed range keeps a value from converting. -/
theorem ofGeneric?_isSome_iff : (ofGeneric? value).isSome ↔ value.somewhere isBig = false := by
  induction value using Json.induction with
  | null | bool | string => exact iff_of_true rfl rfl
  | number n =>
      cases n with
      | big => exact iff_of_false nofun nofun
      | int | double => exact iff_of_true rfl rfl
  | array items ih =>
      show ((readItems? .wide items).map array).isSome ↔ _
      rw [Option.isSome_map, readItems?_isSome, Json.somewhere_array]
      simpa [isBig, ofGeneric?] using forall₂_congr ih
  | object fields ih =>
      show ((readFields? .wide fields).map (ofFields .wide)).isSome ↔ _
      rw [Option.isSome_map, readFields?_isSome, Json.somewhere_object]
      simpa [isBig, ofGeneric?] using
        forall₂_congr fun name value => forall_congr' (ih (name, value))

/-- A field stands for a value of another type only under the names of extended JSON. -/
theorem typed?_eq_none {reading : IntegerReading} {name : String} {value : Native}
    (h : [name] ∉ Json.extendedForms) : typed? reading name value = none := by
  unfold typed?
  split
  case h_16 => rfl
  all_goals exact absurd (by decide) h

theorem ofFields_eq_document {reading : IntegerReading} {fields : Document}
    (h : ∀ form ∈ Json.extendedForms, ¬(Fields.keys fields).Perm form) :
    ofFields reading fields = .document fields := by
  unfold ofFields
  split
  · next name value =>
    rw [typed?_eq_none fun hmem => h [name] hmem (.refl _)]
    rfl
  · exact absurd (.refl _) (h ["$code", "$scope"] (by decide))
  · exact absurd (.swap "$code" "$scope" []) (h ["$code", "$scope"] (by decide))
  · rfl

def isUndecoded : Native → Bool
  | .null | .string _ | .array _ => true
  | _ => false

theorem isUndecoded_of_bind {α : Type} {x : Option α} {f : α → Option Native}
    (h : ∀ a found, f a = some found → found.isUndecoded = false) (found : Native)
    (hfound : x.bind f = some found) : found.isUndecoded = false := by
  obtain ⟨a, -, hfound⟩ := Option.bind_eq_some_iff.mp hfound
  exact h a found hfound

theorem isUndecoded_of_typed? (reading : IntegerReading) (name : String) (value : Native) :
    ∀ found, typed? reading name value = some found → found.isUndecoded = false := by
  simp only [typed?, int32?, int64?, double?, binary?, timestamp?, regex?, ofPattern, pointer?,
    date?, Option.bind_eq_bind, Option.pure_def, Option.map_eq_bind]
  repeat' first | refine isUndecoded_of_bind fun _ => ?_ | split
  all_goals
    intro found hfound
    cases hfound
  all_goals rfl

theorem isUndecoded_ofFields (reading : IntegerReading) (fields : Document) :
    (ofFields reading fields).isUndecoded = false := by
  unfold ofFields
  split
  · next name value =>
    cases htyped : typed? reading name value with
    | none => rfl
    | some found => exact isUndecoded_of_typed? reading name value found htyped
  all_goals rfl

theorem isUndecoded_of_object {fields : List (String × Json)}
    (h : ofGeneric? (.object fields) = some converted) : converted.isUndecoded = false := by
  simp only [ofGeneric?, read?, Option.map_eq_some_iff] at h
  obtain ⟨fields, -, rfl⟩ := h
  exact isUndecoded_ofFields _ fields

/-- Only text becomes text. -/
theorem eq_string_of_ofGeneric? {text : String} (h : ofGeneric? value = some (.string text)) :
    value = .string text := by
  cases value with
  | null | bool => cases h
  | number n => cases n <;> cases h
  | string =>
      cases h
      rfl
  | array =>
      simp only [ofGeneric?, read?, Option.map_eq_some_iff] at h
      obtain ⟨_, -, heq⟩ := h
      cases heq
  | object => cases isUndecoded_of_object h

/-- Only null becomes null, and only arrays become arrays. -/
theorem null_or_array_of_ofGeneric? (h : ofGeneric? value = some converted) :
    (converted = .null ↔ value = .null) ∧
      ((∃ items, converted = .array items) ↔ ∃ items, value = .array items) := by
  cases value with
  | null | bool | string =>
      obtain rfl := Option.some.inj h
      simp
  | number n =>
      cases n with
      | big => cases h
      | int | double =>
          obtain rfl := Option.some.inj h
          exact ⟨iff_of_false nofun nofun, iff_of_false nofun nofun⟩
  | array =>
      simp only [ofGeneric?, read?, Option.map_eq_some_iff] at h
      obtain ⟨items, -, rfl⟩ := h
      simp
  | object =>
      have hkind := isUndecoded_of_object h
      constructor
      · exact iff_of_false (by rintro rfl; cases hkind) nofun
      · exact iff_of_false (by rintro ⟨items, rfl⟩; cases hkind) nofun

end Native

/-! ### Large integers as text -/

namespace Coercion

open Json (isBig isExtended)

@[simp] theorem bigAsText_array (items : List Json) :
    bigAsText (.array items) = .array (items.map bigAsText) := by
  have hitems (items : List Json) : bigAsTextItems items = items.map bigAsText := by
    induction items with
    | nil => rfl
    | cons item rest ih => rw [bigAsTextItems, List.map_cons, ih]
  rw [bigAsText, hitems]

@[simp] theorem bigAsText_object (fields : List (String × Json)) :
    bigAsText (.object fields) =
      .object (fields.map fun field => (field.1, bigAsText field.2)) := by
  have hfields (fields : List (String × Json)) :
      bigAsTextFields fields = fields.map fun field => (field.1, bigAsText field.2) := by
    induction fields with
    | nil => rfl
    | cons field rest ih => rw [bigAsTextFields, List.map_cons, ih]
  rw [bigAsText, hfields]

/-- Where there is no large integer nothing changes. -/
theorem bigAsText_eq_self {value : Json} (h : value.somewhere isBig = false) :
    bigAsText value = value := by
  induction value using Json.induction with
  | null | bool | string => rfl
  | number n =>
      cases n with
      | big => cases h
      | int | double => rfl
  | array items ih =>
      rw [Json.somewhere_array_eq_false_iff] at h
      rw [bigAsText_array, List.map_congr_left fun item hmem => ih item hmem (h.2 item hmem),
        List.map_id']
  | object fields ih =>
      rw [Json.somewhere_object_eq_false_iff] at h
      have hfields : ∀ field ∈ fields, (field.1, bigAsText field.2) = field := by
        intro field hmem
        rw [ih field hmem (h.2 field hmem)]
      rw [bigAsText_object, List.map_congr_left hfields, List.map_id']

theorem somewhere_isBig_bigAsText (value : Json) : (bigAsText value).somewhere isBig = false := by
  induction value using Json.induction with
  | null | bool | string => rfl
  | number n => cases n <;> rfl
  | array items ih => simpa [isBig] using ih
  | object fields ih => simpa [isBig] using fun name value => ih (name, value)

theorem somewhere_isExtended_bigAsText {value : Json} (h : value.somewhere isExtended = false) :
    (bigAsText value).somewhere isExtended = false := by
  induction value using Json.induction with
  | null | bool | string => exact h
  | number n => cases n <;> exact h
  | array items ih =>
      rw [Json.somewhere_array_eq_false_iff] at h
      rw [bigAsText_array, Json.somewhere_array_eq_false_iff, List.forall_mem_map]
      exact ⟨rfl, fun item hmem => ih item hmem (h.2 item hmem)⟩
  | object fields ih =>
      rw [Json.somewhere_object_eq_false_iff] at h
      rw [bigAsText_object, Json.somewhere_object_eq_false_iff, List.forall_mem_map]
      refine ⟨?_, fun field hmem => ih field hmem (h.2 field hmem)⟩
      simpa [isExtended, Fields.keys, Function.comp_def] using h.1

/-- With its large integers as text every value converts, so that the whole text of a value is
never what is stored of it. -/
theorem ofGeneric?_bigAsText (value : Json) :
    Native.ofGeneric? (bigAsText value) = some (storable value) := by
  have hsome := Native.ofGeneric?_isSome_iff.mpr (somewhere_isBig_bigAsText value)
  obtain ⟨converted, hconverted⟩ := Option.isSome_iff_exists.mp hsome
  rw [storable, hconverted, Option.getD_some]

/-- What is stored of a value is stored of it again when its large integers are text. -/
theorem storable_bigAsText (value : Json) : storable (bigAsText value) = storable value := by
  have hagain := ofGeneric?_bigAsText (bigAsText value)
  rw [bigAsText_eq_self (somewhere_isBig_bigAsText value), ofGeneric?_bigAsText] at hagain
  exact (Option.some.inj hagain).symm

end Coercion

/-! ### Back -/

namespace Coercion

open Json (isBig isExtended)

variable {value : Json} {converted : Native}

theorem genericItems_of_readItems? {items : List Json} {natives : List Native}
    (hitems : ∀ item ∈ items, ∀ converted, Native.ofGeneric? item = some converted →
      generic converted = item) (h : Native.readItems? .wide items = some natives) :
    genericItems natives = items := by
  induction items generalizing natives with
  | nil =>
      cases h
      rfl
  | cons item rest ih =>
      rw [List.forall_mem_cons] at hitems
      simp only [Native.readItems?, Option.bind_eq_bind, Option.bind_eq_some_iff,
        Option.pure_def, Option.some.injEq] at h
      obtain ⟨first, hfirst, others, hothers, rfl⟩ := h
      rw [genericItems, hitems.1 first hfirst, ih hitems.2 hothers]

theorem genericFields_of_readFields? {fields : List (String × Json)} {natives : Document}
    (hfields : ∀ field ∈ fields, ∀ converted, Native.ofGeneric? field.2 = some converted →
      generic converted = field.2) (h : Native.readFields? .wide fields = some natives) :
    genericFields natives = fields := by
  induction fields generalizing natives with
  | nil =>
      cases h
      rfl
  | cons field rest ih =>
      obtain ⟨name, value⟩ := field
      rw [List.forall_mem_cons] at hfields
      simp only [Native.readFields?, Option.bind_eq_bind, Option.bind_eq_some_iff,
        Option.pure_def, Option.some.injEq] at h
      obtain ⟨first, hfirst, others, hothers, rfl⟩ := h
      rw [genericFields, hfields.1 first hfirst, ih hfields.2 hothers]

theorem keys_of_readFields? {fields : List (String × Json)} {natives : Document}
    (h : Native.readFields? .wide fields = some natives) :
    Fields.keys natives = Fields.keys fields := by
  induction fields generalizing natives with
  | nil =>
      cases h
      rfl
  | cons field rest ih =>
      obtain ⟨name, value⟩ := field
      simp only [Native.readFields?, Option.bind_eq_bind, Option.bind_eq_some_iff,
        Option.pure_def, Option.some.injEq] at h
      obtain ⟨first, -, others, hothers, rfl⟩ := h
      exact congrArg (name :: ·) (ih hothers)

/-- Without extended JSON a converted value comes back as it was. -/
theorem generic_of_ofGeneric? (hplain : value.somewhere isExtended = false)
    (h : Native.ofGeneric? value = some converted) : generic converted = value := by
  induction value using Json.induction generalizing converted with
  | null | bool | string =>
      cases h
      rfl
  | number n =>
      cases n with
      | int =>
          cases h
          rfl
      | big => cases h
      | double x finite =>
          cases h
          exact dif_pos finite
  | array items ih =>
      rw [Json.somewhere_array_eq_false_iff] at hplain
      simp only [Native.ofGeneric?, Native.read?, Option.map_eq_some_iff] at h
      obtain ⟨natives, hnatives, rfl⟩ := h
      have hitems := genericItems_of_readItems?
        (fun item hmem native => ih item hmem (hplain.2 item hmem)) hnatives
      rw [generic, hitems]
  | object fields ih =>
      rw [Json.somewhere_object_eq_false_iff] at hplain
      simp only [Native.ofGeneric?, Native.read?, Option.map_eq_some_iff] at h
      obtain ⟨natives, hnatives, rfl⟩ := h
      -- conversion keeps the names, and only the names make an object extended JSON
      have hforms : ∀ form ∈ Json.extendedForms, ¬(Fields.keys natives).Perm form := by
        intro form hform
        rw [keys_of_readFields? hnatives, ← List.isPerm_iff]
        simpa [isExtended] using (List.any_eq_false.mp hplain.1) form hform
      have hfields := genericFields_of_readFields?
        (fun field hmem native => ih field hmem (hplain.2 field hmem)) hnatives
      rw [Native.ofFields_eq_document hforms, generic, hfields]

end Coercion

end StageThree
