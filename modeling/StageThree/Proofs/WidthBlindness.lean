import StageThree.Proofs.EqualityClause
import StageThree.Proofs.FilterMeaning
import StageThree.Proofs.Groups
import StageThree.Proofs.NumberWidths

/-!
What the widths of a document's integers mean to a filter. Every test looks through them but one:
an array or a document, compared as a whole with one that tells widths apart.
-/

namespace StageThree

open Native

/-! ### Values at paths -/

namespace Path

variable {f : Native → Native} {value : Native}

theorem get?_onScalars (f : Native → Native) (name : String) (document : Document) :
    Fields.get? name (document.map fun field => (field.1, field.2.onScalars f)) =
      (Fields.get? name document).map (onScalars f) :=
  Fields.get?_map_rename (onScalars f) fun key _ => (Iff.rfl : id key = name ↔ key = name)

theorem asDocument?_onScalars (hf : ∀ value, (f value).isNested = value.isNested)
    (value : Native) : (value.onScalars f).asDocument? =
      value.asDocument?.map fun fields => fields.map fun field => (field.1, field.2.onScalars f) := by
  have hscalar {value : Native} (h : value.isNested = false) : value.asDocument? = none := by
    cases value with
    | array | document | scopedCode => cases h
    | _ => rfl
  cases h : value.isNested with
  | false => rw [onScalars_of_scalar f h, hscalar h, hscalar ((hf value).trans h), Option.map_none]
  | true =>
      cases value with
      | document fields => rw [onScalars_document, asDocument?, asDocument?, Option.map_some]
      | array | scopedCode => rfl
      | _ => cases h

theorem follow_cons_cons (document : Document) (name second : String) (rest : List String) :
    follow document (name :: second :: rest) =
      ((Fields.get? name document).bind asDocument?).bind (follow · (second :: rest)) := by
  rw [follow]
  · cases Fields.get? name document with
    | none => rfl
    | some value => cases value <;> rfl
  · exact List.cons_ne_nil _ _

theorem follow_onScalars (hf : ∀ value, (f value).isNested = value.isNested)
    (document : Document) (names : List String) :
    follow (document.map fun field => (field.1, field.2.onScalars f)) names =
      (follow document names).map (onScalars f) := by
  induction names generalizing document with
  | nil => rfl
  | cons name rest ih =>
      cases rest with
      | nil => exact get?_onScalars f name document
      | cons second rest =>
          rw [follow_cons_cons, follow_cons_cons, get?_onScalars, Option.bind_map]
          cases Fields.get? name document with
          | none => rfl
          | some value =>
              rw [Option.bind_some, Option.bind_some, Function.comp, asDocument?_onScalars hf]
              cases value.asDocument? with
              | none => rfl
              | some inner => exact ih inner

/-- The value at a path is that of the document, with its scalars replaced. -/
theorem lookup_onScalars (hf : ∀ value, (f value).isNested = value.isNested)
    (document : Document) (path : String) :
    lookup (document.map fun field => (field.1, field.2.onScalars f)) path =
      (lookup document path).map (onScalars f) :=
  follow_onScalars hf document (segments path)

theorem lookup_widened {document other : Document}
    (h : (Native.document document).SameButWidths (.document other)) (path : String) :
    (lookup document path).map widened = (lookup other path).map widened := by
  rw [SameButWidths, widened, widened, onScalars_document, onScalars_document,
    Native.document.injEq] at h
  calc (lookup document path).map widened
    _ = lookup (document.map fun field => (field.1, field.2.onScalars wide)) path :=
      (lookup_onScalars isNested_wide document path).symm
    _ = lookup (other.map fun field => (field.1, field.2.onScalars wide)) path := by rw [h]
    _ = (lookup other path).map widened := lookup_onScalars isNested_wide other path

theorem exists_exchanged {document : Document} {path : String}
    (h : lookup document path = some value) :
    ∃ other, (Native.document document).SameButWidths (.document other) ∧
      lookup other path = some value.exchanged := by
  refine ⟨document.map fun field => (field.1, field.2.exchanged), ?_, ?_⟩
  · have hsame := sameButWidths_exchanged (.document document)
    rwa [exchanged, onScalars_document] at hsame
  · refine (lookup_onScalars isNested_inOtherWidth document path).trans ?_
    rw [h]
    rfl

def nest (value : Native) : List String → Document
  | [] => []
  | [name] => [(name, value)]
  | name :: rest => [(name, .document (nest value rest))]

theorem follow_nest {names : List String} (h : names ≠ []) :
    follow (nest value names) names = some value := by
  induction names with
  | nil => cases h rfl
  | cons name rest ih =>
      cases rest with
      | nil => simp [nest, follow, Fields.get?_cons]
      | cons second rest =>
          rw [follow_cons_cons, nest, Fields.get?_cons, if_pos rfl]
          · exact ih (List.cons_ne_nil _ _)
          · exact List.cons_ne_nil _ _

theorem wellFormed_nest (h : value.WellFormed) (names : List String) :
    (Native.document (nest value names)).WellFormed := by
  induction names with
  | nil => simp [nest, WellFormed, WellFormedFields, Fields.WellFormed, Fields.keys]
  | cons name rest ih =>
      cases rest with
      | nil => simpa [nest, WellFormed, WellFormedFields, Fields.WellFormed, Fields.keys] using h
      | cons second rest =>
          simpa [nest, WellFormed, WellFormedFields, Fields.WellFormed, Fields.keys] using ih

theorem splitDots_ne_nil (cs : List Char) : splitDots cs ≠ [] := by
  cases cs with
  | nil => exact List.cons_ne_nil _ _
  | cons c rest =>
      rw [splitDots]
      split
      · exact List.cons_ne_nil _ _
      · split <;> exact List.cons_ne_nil _ _

/-- Some document has a given value at a given path. -/
theorem exists_lookup (h : value.WellFormed) (path : String) :
    ∃ document, (Native.document document).WellFormed ∧ lookup document path = some value := by
  refine ⟨nest value (segments path), wellFormed_nest h _, follow_nest ?_⟩
  exact mt List.map_eq_nil_iff.mp (splitDots_ne_nil path.toList)

end Path

/-! ### Conditions -/

namespace Condition

variable {found : Option Native} {target : Native} {condition : Condition}

def compared : Condition → List Native
  | eq target | ne target => [target]
  | isIn targets | notIn targets => targets
  | _ => []

theorem seen_widened_iff {value : Native} :
    Seen (found.map widened) value ↔ ∃ seen, Seen found seen ∧ seen.widened = value := by
  constructor
  · rintro (h | ⟨items, h, hvalue⟩)
    · obtain ⟨seen, rfl, rfl⟩ := Option.map_eq_some_iff.mp h
      exact ⟨seen, .inl rfl, rfl⟩
    · obtain ⟨whole, rfl, hwhole⟩ := Option.map_eq_some_iff.mp h
      obtain ⟨others, rfl, rfl⟩ := (onScalars_eq_array_iff isNested_wide).mp hwhole
      obtain ⟨seen, hseen, rfl⟩ := List.mem_map.mp hvalue
      exact ⟨seen, .inr ⟨others, rfl, hseen⟩, rfl⟩
  · rintro ⟨seen, rfl | ⟨items, rfl, hseen⟩, rfl⟩
    · exact .inl rfl
    · exact .inr ⟨_, congrArg some (onScalars_array wide items), List.mem_map_of_mem hseen⟩

theorem exists_seen_widened_iff {test : Native → Prop} :
    (∃ value, Seen (found.map widened) value ∧ test value) ↔
      ∃ value, Seen found value ∧ test value.widened := by
  simp only [seen_widened_iff]
  constructor
  · rintro ⟨_, ⟨value, hseen, rfl⟩, htest⟩
    exact ⟨value, hseen, htest⟩
  · rintro ⟨value, hseen, htest⟩
    exact ⟨_, ⟨value, hseen, rfl⟩, htest⟩

theorem equals_widened (hfound : ∀ value, found = some value → value.WellFormed)
    (h : found.any isNested = true → ¬target.TellsWidths) :
    equals target (found.map widened) = equals target found := by
  rw [Bool.eq_iff_iff, equals_iff, equals_iff, Equals, Equals, Option.map_eq_none_iff,
    exists_seen_widened_iff]
  refine or_congr_right (exists_congr fun value => and_congr_right fun hseen => ?_)
  rw [equal_widened]
  · rcases hseen with rfl | ⟨items, rfl, hvalue⟩
    · exact hfound value rfl
    · exact wellFormedItems_iff.mp (hfound _ rfl) value hvalue
  · rcases hseen with rfl | ⟨items, rfl, -⟩
    · exact h
    · exact fun _ => h rfl

theorem any_equals_widened {targets : List Native}
    (hfound : ∀ value, found = some value → value.WellFormed)
    (h : found.any isNested = true → ∀ target ∈ targets, ¬target.TellsWidths) :
    (targets.any fun target => equals target (found.map widened)) =
      targets.any fun target => equals target found := by
  rw [Bool.eq_iff_iff, List.any_eq_true, List.any_eq_true]
  refine exists_congr fun target => and_congr_right fun htarget => ?_
  rw [equals_widened hfound fun hnested => h hnested target htarget]

theorem anyElement_widened {test : Native → Bool} (harray : ∀ items, test (.array items) = false)
    (htest : ∀ value, test value.widened = test value) :
    anyElement test (found.map widened) = anyElement test found := by
  rw [Bool.eq_iff_iff, anyElement_iff harray, anyElement_iff harray, exists_seen_widened_iff]
  simp only [htest]

/-- A condition looks through widths, but for those in an array or a document that it compares
with one that tells them apart. -/
theorem holds_widened (hfound : ∀ value, found = some value → value.WellFormed)
    (h : found.any isNested = true → ∀ target ∈ condition.compared, ¬target.TellsWidths) :
    condition.holds (found.map widened) = condition.holds found := by
  cases condition with
  | eq target => exact equals_widened hfound fun hnested => h hnested target (.head _)
  | ne target =>
      exact congrArg not (equals_widened hfound fun hnested => h hnested target (.head _))
  | isIn targets => exact any_equals_widened hfound h
  | notIn targets => exact congrArg not (any_equals_widened hfound h)
  | lt target | lte target | gt target | gte target =>
      refine anyElement_widened (fun items => ?_) fun value => ?_
      · rw [order?_array]
        rfl
      · rw [order?_widened]
  | isPresent present => rw [holds, holds, Option.isSome_map]
  | isMatch regex =>
      refine anyElement_widened (fun items => rfl) fun value => ?_
      have htext : value.widened.asString? = value.asString? := by cases value <;> rfl
      rw [htext]

theorem equals_self (hwell : target.WellFormed) (hnan : target.holdsNaN = false) :
    equals target (some target) = true :=
  equals_iff.mpr (.inr ⟨target, .inl rfl, equal_self hwell hnan⟩)

theorem not_equals_exchanged (hwell : target.WellFormed) (htells : target.TellsWidths) :
    equals target (some target.exchanged) = false := by
  rw [equals_eq_false_iff]
  rintro (⟨h, -⟩ | ⟨value, h | ⟨items, h, hvalue⟩, hequal⟩)
  · cases h
  · rw [← Option.some.inj h, htells.not_equal_exchanged hwell] at hequal
    cases hequal
  · rw [htells.not_equal_of_mem (Option.some.inj h) hvalue] at hequal
    cases hequal

theorem any_isNested_widened (found : Option Native) :
    (found.map widened).any isNested = found.any isNested := by
  cases found with
  | none => rfl
  | some value => exact isNested_onScalars isNested_wide value

theorem holds_of_widened {other : Option Native} (hsame : found.map widened = other.map widened)
    (hfound : ∀ value, found = some value → value.WellFormed)
    (hother : ∀ value, other = some value → value.WellFormed)
    (h : found.any isNested = true → ∀ target ∈ condition.compared, ¬target.TellsWidths) :
    condition.holds found = condition.holds other := by
  have hnested : other.any isNested = found.any isNested := by
    rw [← any_isNested_widened, ← hsame, any_isNested_widened]
  calc condition.holds found
    _ = condition.holds (found.map widened) := (holds_widened hfound h).symm
    _ = condition.holds (other.map widened) := by rw [hsame]
    _ = condition.holds other := holds_widened hother (hnested ▸ h)

end Condition

/-! ### Predicates -/

namespace Predicate

variable {predicate : Predicate} {document other : Document} {target : Native}

/-- Whether a condition is part of a predicate, on the value at a path. -/
inductive Poses : Predicate → String → Condition → Prop
  | all {children : List Predicate} {child : Predicate} {path : String} {condition : Condition}
      (hchild : child ∈ children) (h : Poses child path condition) :
      Poses (.all children) path condition
  | any {children : List Predicate} {child : Predicate} {path : String} {condition : Condition}
      (hchild : child ∈ children) (h : Poses child path condition) :
      Poses (.any children) path condition
  | field {path : String} {conditions : List Condition} {condition : Condition}
      (h : condition ∈ conditions) : Poses (.field path conditions) path condition

/-- Whether documents have one value between them wherever a predicate compares an array or a
document with one that tells widths apart. -/
def SharesWholes (predicate : Predicate) (document other : Document) : Prop :=
  ∀ path condition, predicate.Poses path condition →
    (∃ target ∈ condition.compared, target.TellsWidths) →
    (Path.lookup document path).any isNested = true →
    Path.lookup document path = Path.lookup other path

/-- A predicate sees of a document what its conditions see. -/
theorem holds_congr (h : ∀ path condition, predicate.Poses path condition →
    condition.holds (Path.lookup document path) = condition.holds (Path.lookup other path)) :
    predicate.holds document = predicate.holds other := by
  induction predicate using Predicate.induction with
  | all children ih =>
      rw [holds, holds, holdAll_eq_all, holdAll_eq_all, Bool.eq_iff_iff, List.all_eq_true,
        List.all_eq_true]
      refine forall₂_congr fun child hchild => ?_
      rw [ih child hchild fun path condition hposes => h path condition (.all hchild hposes)]
  | any children ih =>
      rw [holds, holds, holdAny_eq_any, holdAny_eq_any, Bool.eq_iff_iff, List.any_eq_true,
        List.any_eq_true]
      refine exists_congr fun child => and_congr_right fun hchild => ?_
      rw [ih child hchild fun path condition hposes => h path condition (.any hchild hposes)]
  | field path conditions =>
      rw [holds, holds, Bool.eq_iff_iff, List.all_eq_true, List.all_eq_true]
      refine forall₂_congr fun condition hcondition => ?_
      rw [h path condition (.field hcondition)]

/-- Documents that differ at most in widths are matched alike if they share the arrays and
documents that are compared as wholes. -/
theorem holds_of_sameButWidths (hwell : (Native.document document).WellFormed)
    (hsame : (Native.document document).SameButWidths (.document other))
    (hshares : predicate.SharesWholes document other) :
    predicate.holds document = predicate.holds other := by
  have hother : (Native.document other).WellFormed := wellFormed_of_sameButWidths hsame hwell
  apply holds_congr
  intro path condition hposes
  by_cases hshared : (∃ target ∈ condition.compared, target.TellsWidths) ∧
      (Path.lookup document path).any isNested = true
  · rw [hshares path condition hposes hshared.1 hshared.2]
  · apply Condition.holds_of_widened (Path.lookup_widened hsame path)
    · exact fun _ hvalue => Path.wellFormed_follow hwell hvalue
    · exact fun _ hvalue => Path.wellFormed_follow hother hvalue
    · exact fun hnested target htarget htells => hshared ⟨⟨target, htarget, htells⟩, hnested⟩

/-- A value that tells widths apart does so at every path. -/
theorem exists_told_apart {path : String} (hpath : isOperator path = false)
    (hwell : target.WellFormed) (htells : target.TellsWidths) :
    ∃ predicate document other, compile (Filter.equality path target) = .ok predicate ∧
      (Native.document document).WellFormed ∧
      (Native.document document).SameButWidths (.document other) ∧
      predicate.holds document = true ∧ predicate.holds other = false := by
  obtain ⟨document, hdocument, hlookup⟩ := Path.exists_lookup hwell path
  obtain ⟨other, hsame, hother⟩ := Path.exists_exchanged hlookup
  refine ⟨_, document, other, compile_equality hpath, hdocument, hsame, ?_, ?_⟩
  · rw [holds_equality, hlookup, Condition.equals_self hwell htells.2.2]
  · rw [holds_equality, hother, Condition.not_equals_exchanged hwell htells]

/-- Matching looks through the widths of a document's integers wherever two documents share the
arrays and documents that are compared as wholes with one that tells widths apart; without that,
each such value has documents that it tells apart at each path. -/
theorem widths_count_in_wholes :
    (∀ (predicate : Predicate) (document other : Document),
      (Native.document document).WellFormed →
      (Native.document document).SameButWidths (.document other) →
      predicate.SharesWholes document other →
      predicate.holds document = predicate.holds other) ∧
    ∀ (path : String) (target : Native), isOperator path = false → target.WellFormed →
      target.TellsWidths →
      ∃ predicate document other, compile (Filter.equality path target) = .ok predicate ∧
        (Native.document document).WellFormed ∧
        (Native.document document).SameButWidths (.document other) ∧
        predicate.holds document = true ∧ predicate.holds other = false :=
  ⟨fun _ _ _ => holds_of_sameButWidths, fun _ _ => exists_told_apart⟩

/-- An age matches in either width. A tag is compared as a whole, so that it matches where its
number has the width that is asked for. -/
theorem widths_count_in_wholes_tag :
    let tag : Native := .document [("n", .int32 1)]
    let document : Document := [("age", .int32 4), ("tag", tag)]
    let other : Document := [("age", .int64 4), ("tag", tag)]
    (∃ predicate,
      compile [("age", .document [("$gte", .int64 4)]), ("tag", tag)] = .ok predicate ∧
      (Native.document document).SameButWidths (.document other) ∧
      predicate.SharesWholes document other ∧
      predicate.holds document = predicate.holds other) ∧
    tag.TellsWidths ∧
    ∃ predicate document other, compile (Filter.equality "tag" tag) = .ok predicate ∧
      (Native.document document).WellFormed ∧
      (Native.document document).SameButWidths (.document other) ∧
      predicate.holds document = true ∧ predicate.holds other = false := by
  intro tag document other
  obtain ⟨hblind, hsharp⟩ := widths_count_in_wholes
  have htag : tag.WellFormed := by
    simp [tag, WellFormed, WellFormedFields, Fields.WellFormed, Fields.keys]
  have hdocument : (Native.document document).WellFormed := by
    simp [document, htag, WellFormed, WellFormedFields, Fields.WellFormed, Fields.keys]
  have htells : (Native.document [("n", .int32 1)]).TellsWidths := by
    refine ⟨rfl, fun hexchanged => ?_, rfl⟩
    cases hexchanged
  have hshares : (Predicate.all [.field "age" [.gte (.int64 4)], .field "tag" [.eq tag]]).SharesWholes
      document other := by
    rintro path condition ⟨⟩ - hnested
    next hchild hposes =>
    obtain rfl | rfl : _ ∨ _ := by simpa using hchild
    · obtain ⟨⟩ := hposes
      cases hnested
    · obtain ⟨⟩ := hposes
      rfl
  exact ⟨⟨_, rfl, rfl, hshares, hblind _ document other hdocument rfl hshares⟩, htells,
    hsharp "tag" tag (by decide) htag htells⟩

/-- A number inside a document that is compared as a whole. -/
theorem width_changes_match :
    let narrow : Document := [("a", .document [("b", .int32 1)])]
    let broad : Document := [("a", .document [("b", .int64 1)])]
    ∃ predicate,
      compile [("a", .document [("$eq", .document [("b", .int32 1)])])] = .ok predicate ∧
      (Native.document narrow).WellFormed ∧
      (Native.document narrow).SameButWidths (.document broad) ∧
      predicate.holds narrow = true ∧ predicate.holds broad = false :=
  ⟨_, rfl, by simp [WellFormed, WellFormedFields, Fields.WellFormed, Fields.keys], rfl, rfl, rfl⟩

end Predicate

end StageThree
