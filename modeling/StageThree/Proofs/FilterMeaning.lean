import StageThree.Proofs.Compilation

/-!
What a filter says about a document, read off the filter itself: a conjunction asks for all of its
children, a disjunction for one of them, and a comparison tests the value at its attribute's place
against its operands, each converted on its own. `Filter.holds_compile_iff` says that the way
through the store's language comes to the same, for every filter that gets that far.
-/

namespace StageThree

/-! ### The direct reading -/

/-- A value that a test looks at: the one that was found or, if that is an array, its elements. -/
def Seen (found : Option Native) (value : Native) : Prop :=
  found = some value ∨ ∃ items, found = some (.array items) ∧ value ∈ items

/-- Equality with a target, to which nothing but null is equal if nothing was found. -/
def Equals (found : Option Native) (target : Native) : Prop :=
  (found = none ∧ target = .null) ∨ ∃ value, Seen found value ∧ value.equal target = true

def Compares (found : Option Native) (accepts : Ordering → Prop) (target : Native) : Prop :=
  ∃ value order, Seen found value ∧ value.order? target = some order ∧ accepts order

namespace Comparison

variable (schema : ModelSchema) (options : TranslateOptions)

/-- The native value of one operand. Identifiers are expected on the primary key and on
references only. -/
def Converts (attr : String) (value : Json) (target : Native) : Prop :=
  ∃ plain, Native.ofGeneric? value = some plain ∧
    target = if attr = schema.primaryKey ∨ schema.attributeType? attr = some .ref then
      Coercion.identifier plain else plain

def Target (c : Comparison) (target : Native) : Prop :=
  match c.operand with
  | .null => target = .null
  | .scalar value => Converts schema c.attr value target
  | .set values => ∃ value ∈ values, Converts schema c.attr value target

def HoldsOn (c : Comparison) (found : Option Native) : Prop :=
  match c.op with
  | .eq | .isIn => ∃ target, Target schema c target ∧ Equals found target
  | .ne | .notIn => ¬∃ target, Target schema c target ∧ Equals found target
  | .lt => ∃ target, Target schema c target ∧ Compares found (· = .lt) target
  | .lte => ∃ target, Target schema c target ∧ Compares found (· ≠ .gt) target
  | .gt => ∃ target, Target schema c target ∧ Compares found (· = .gt) target
  | .gte => ∃ target, Target schema c target ∧ Compares found (· ≠ .lt) target
  | .like => ∃ pattern text, c.operand = .scalar (.string pattern) ∧ Seen found (.string text) ∧
      (Like.regex options.likeIgnoresCase pattern).isMatch text = true
  | .isPresent => c.operand = .scalar (.bool found.isSome)

end Comparison

namespace Filter

variable (schema : ModelSchema) (options : TranslateOptions)

mutual

def Holds (document : Document) : Filter → Prop
  | .all children => HoldAll document children
  | .any children => HoldAny document children
  | .compare c =>
      c.HoldsOn schema options (Path.lookup document (nativeField schema options c.attr))

def HoldAll (document : Document) : List Filter → Prop
  | [] => True
  | child :: rest => Holds document child ∧ HoldAll document rest

def HoldAny (document : Document) : List Filter → Prop
  | [] => False
  | child :: rest => Holds document child ∨ HoldAny document rest

end

end Filter

/-! ### Tests on what was found -/

namespace Condition

variable {found : Option Native} {target : Native}

theorem order?_array (items : List Native) (target : Native) :
    (Native.array items).order? target = none := by
  cases target <;> rfl

theorem anyElement_iff {test : Native → Bool} (harray : ∀ items, test (.array items) = false) :
    anyElement test found = true ↔ ∃ value, Seen found value ∧ test value = true := by
  constructor
  · intro h
    unfold anyElement at h
    split at h
    · obtain ⟨item, hitem, htest⟩ := List.any_eq_true.mp h
      exact ⟨item, .inr ⟨_, rfl, hitem⟩, htest⟩
    · exact ⟨_, .inl rfl, h⟩
    · exact absurd h (by simp)
  · rintro ⟨value, rfl | ⟨items, rfl, hitem⟩, htest⟩
    · cases value with
      | array items => simp [harray] at htest
      | _ => exact htest
    · exact List.any_eq_true.mpr ⟨value, hitem, htest⟩

theorem equals_iff : equals target found = true ↔ Equals found target := by
  cases found with
  | none => cases target <;> simp [equals, Equals, Seen]
  | some value =>
      cases value with
      | array items =>
          simp only [equals, Equals, Seen, Bool.or_eq_true, List.any_eq_true]
          constructor
          · rintro (h | ⟨item, hitem, h⟩)
            · exact .inr ⟨_, .inl rfl, h⟩
            · exact .inr ⟨item, .inr ⟨_, rfl, hitem⟩, h⟩
          · rintro (⟨h, -⟩ | ⟨value, h | ⟨other, h, hitem⟩, heq⟩)
            · cases h
            · cases h
              exact .inl heq
            · cases h
              exact .inr ⟨value, hitem, heq⟩
      | _ => simp [equals, Equals, Seen]

theorem equals_eq_false_iff : equals target found = false ↔ ¬Equals found target := by
  rw [← equals_iff, Bool.not_eq_true]

theorem ordered_iff {accepts : Ordering → Bool} :
    ordered target accepts found = true ↔ Compares found (accepts · = true) target := by
  rw [ordered, anyElement_iff (by simp [order?_array])]
  simp only [Compares, Option.any_eq_true]
  constructor
  · rintro ⟨value, hseen, order, horder, haccepts⟩
    exact ⟨value, order, hseen, horder, haccepts⟩
  · rintro ⟨value, order, hseen, horder, haccepts⟩
    exact ⟨value, hseen, order, horder, haccepts⟩

theorem isMatch_iff {regex : Regex} :
    (isMatch regex).holds found = true ↔
      ∃ text, Seen found (.string text) ∧ regex.isMatch text = true := by
  rw [holds, anyElement_iff fun _ => rfl]
  constructor
  · rintro ⟨value, hseen, hmatch⟩
    cases value with
    | string text => exact ⟨text, hseen, hmatch⟩
    | _ => exact absurd hmatch (by simp [Native.asString?])
  · rintro ⟨text, hseen, hmatch⟩
    exact ⟨.string text, hseen, hmatch⟩

end Condition

/-! ### Tests on a document -/

namespace Predicate

theorem holdAll_eq_all (document : Document) (children : List Predicate) :
    holdAll document children = children.all (holds document) := by
  induction children with
  | nil => rfl
  | cons child rest ih => rw [holdAll, ih, List.all_cons]

theorem holdAny_eq_any (document : Document) (children : List Predicate) :
    holdAny document children = children.any (holds document) := by
  induction children with
  | nil => rfl
  | cons child rest ih => rw [holdAny, ih, List.any_cons]

end Predicate

/-! ### Comparisons -/

namespace Filter

variable {schema : ModelSchema} {options : TranslateOptions} {c : Comparison}

theorem native_eq_ok_iff {attr : String} {value : Json} {plain : Native} :
    Coercion.native attr value = .ok plain ↔ Native.ofGeneric? value = some plain := by
  unfold Coercion.native
  split <;> simp [*]

theorem holdsIdentifier_iff {attr : String} :
    schema.holdsIdentifier attr = true ↔
      attr = schema.primaryKey ∨ schema.attributeType? attr = some .ref := by
  simp only [ModelSchema.holdsIdentifier, ModelSchema.isPrimaryKey, Bool.or_eq_true,
    decide_eq_true_eq]
  rw [eq_comm]

theorem nativeOperand_eq_ok_iff {attr : String} {value : Json} {target : Native} :
    nativeOperand schema attr value = .ok target ↔
      Comparison.Converts schema attr value target := by
  unfold nativeOperand Comparison.Converts
  by_cases h : attr = schema.primaryKey ∨ schema.attributeType? attr = some .ref
  · rw [if_pos (holdsIdentifier_iff.mpr h), Coercion.nativeIdentifier, Except.map_eq_ok_iff]
    simp only [native_eq_ok_iff, if_pos h, @eq_comm _ target]
  · rw [if_neg (mt holdsIdentifier_iff.mp h), native_eq_ok_iff]
    simp [if_neg h]

theorem mem_nativeOperands_iff {attr : String} {values : List Json} {targets : List Native}
    (h : nativeOperands schema attr values = .ok targets) (target : Native) :
    target ∈ targets ↔ ∃ value ∈ values, Comparison.Converts schema attr value target := by
  induction values generalizing targets with
  | nil =>
      obtain rfl : [] = targets := by simpa [nativeOperands] using h
      simp
  | cons value values ih =>
      simp only [nativeOperands, Except.bind_eq_ok_iff, Except.pure_eq_ok_iff] at h
      obtain ⟨first, hfirst, rest, hrest, rfl⟩ := h
      have hunique : Comparison.Converts schema attr value target ↔ target = first := by
        rw [← nativeOperand_eq_ok_iff, hfirst]
        simp [eq_comm]
      simp [ih hrest, hunique]

theorem nativeCondition_one {condition : Document} (hop : c.op ≠ .like)
    (hset : c.op.takesSet = false) (hfits : c.fits = true)
    (h : nativeCondition schema options c = .ok condition) :
    ∃ target, condition = [(c.op.native, target)] ∧
      ∀ other, c.Target schema other ↔ other = target := by
  obtain ⟨attr, op, operand⟩ := c
  cases operand with
  | null =>
      have hcondition : [(op.native, Native.null)] = condition := by
        cases op <;> simpa [nativeCondition] using h
      exact ⟨.null, hcondition.symm, fun _ => Iff.rfl⟩
  | scalar value =>
      have hscalar : ∃ target, nativeOperand schema attr value = .ok target ∧
          [(op.native, target)] = condition := by
        cases op <;> simp_all [nativeCondition]
      obtain ⟨target, htarget, rfl⟩ := hscalar
      refine ⟨target, rfl, fun other => ?_⟩
      simp only [Comparison.Target]
      rw [← nativeOperand_eq_ok_iff, htarget]
      simp [eq_comm]
  | set values => cases op <;> simp_all [Comparison.fits, CompareOp.takesSet]

theorem nativeCondition_set {condition : Document} (hset : c.op.takesSet = true)
    (hfits : c.fits = true) (h : nativeCondition schema options c = .ok condition) :
    ∃ targets, condition = [(c.op.native, .array targets)] ∧
      ∀ other, c.Target schema other ↔ other ∈ targets := by
  obtain ⟨attr, op, operand⟩ := c
  cases operand with
  | null => cases op <;> simp_all [Comparison.fits, CompareOp.takesSet]
  | scalar value => cases op <;> simp_all [Comparison.fits, CompareOp.takesSet]
  | set values =>
      have hvalues : ∃ targets, nativeOperands schema attr values = .ok targets ∧
          [(op.native, .array targets)] = condition := by
        cases op <;> simp_all [nativeCondition, CompareOp.takesSet]
      obtain ⟨targets, htargets, rfl⟩ := hvalues
      exact ⟨targets, rfl, fun other => (mem_nativeOperands_iff htargets other).symm⟩

theorem target_of_isPresent {target : Native} {attr : String} {present : Bool}
    (h : Comparison.Target schema ⟨attr, .isPresent, .scalar (.bool present)⟩ target) :
    target = .bool present := by
  obtain ⟨plain, hplain, rfl⟩ := h
  obtain rfl : .bool present = plain := by
    simpa [Native.ofGeneric?, Native.read?] using hplain
  split <;> rfl

/-- A translated comparison is a single condition with the same meaning. -/
theorem ofValue_nativeCondition {condition : Document} (path : String) (hfits : c.fits = true)
    (h : nativeCondition schema options c = .ok condition) :
    ∃ posed, Condition.ofValue path (.document condition) = .ok [posed] ∧
      ∀ found, posed.holds found = true ↔ c.HoldsOn schema options found := by
  obtain ⟨attr, op, operand⟩ := c
  cases op with
  | like =>
      obtain ⟨pattern, rfl⟩ := eq_string_of_fits hfits
      obtain rfl : likeCondition options pattern = condition := by
        simpa [nativeCondition] using h
      refine ⟨_, Condition.ofValue_likeCondition path options pattern, fun found => ?_⟩
      simp [Condition.isMatch_iff, Comparison.HoldsOn]
  | isPresent =>
      obtain ⟨present, rfl⟩ := eq_bool_of_fits hfits
      obtain ⟨target, rfl, htarget⟩ := nativeCondition_one (by simp) rfl hfits h
      obtain rfl := target_of_isPresent ((htarget target).mpr rfl)
      refine ⟨_, Condition.ofValue_native path rfl, fun found => ?_⟩
      simp only [Condition.holds, Condition.truth, Comparison.HoldsOn, beq_iff_eq,
        Operand.scalar.injEq, Json.bool.injEq]
      exact eq_comm
  | isIn | notIn =>
      obtain ⟨targets, rfl, htargets⟩ := nativeCondition_set rfl hfits h
      refine ⟨_, Condition.ofValue_native path rfl, fun found => ?_⟩
      simp [Condition.holds, Condition.equals_iff, Comparison.HoldsOn, htargets]
  | eq | ne | lt | lte | gt | gte =>
      obtain ⟨target, rfl, htarget⟩ := nativeCondition_one (by simp) rfl hfits h
      refine ⟨_, Condition.ofValue_native path rfl, fun found => ?_⟩
      simp [Condition.holds, Condition.equals_iff, Condition.equals_eq_false_iff,
        Condition.ordered_iff, Comparison.HoldsOn, htarget]

/-! ### Filters -/

/-- Each branch of a translated combinator compiles to the predicate of one child. -/
theorem forall₂_branches {children : List Filter} {natives : List Native} {depth : Nat}
    {combinator : String} {predicates : List Predicate}
    (hnatives : toNatives schema options children = .ok natives)
    (hbranches : Predicate.branches depth combinator natives = .ok predicates) :
    List.Forall₂ (fun child predicate => ∃ native inner,
      toNative schema options child = .ok native ∧
        Predicate.clauses depth native = .ok inner ∧ .all inner = predicate)
      children predicates := by
  rw [toNatives_eq_ok_iff] at hnatives
  induction hnatives generalizing predicates with
  | nil =>
      obtain rfl : [] = predicates := by simpa [Predicate.branches] using hbranches
      exact .nil
  | cons hfirst _ ih =>
      obtain ⟨native, hnative, rfl⟩ := hfirst
      simp only [Predicate.branches, Except.bind_eq_ok_iff, Except.pure_eq_ok_iff] at hbranches
      obtain ⟨predicate, hpredicate, rest, hrest, rfl⟩ := hbranches
      obtain ⟨-, inner, hinner, heq⟩ := Predicate.branch_document_eq_ok_iff.mp hpredicate
      exact .cons ⟨native, inner, hnative, hinner, heq⟩ (ih hrest)

theorem holds_iff_of_forall₂ {document : Document} {children : List Filter}
    {predicates : List Predicate}
    (h : List.Forall₂ (fun child predicate =>
      predicate.holds document = true ↔ Holds schema options document child) children predicates) :
    (Predicate.holdAll document predicates = true ↔ HoldAll schema options document children) ∧
      (Predicate.holdAny document predicates = true ↔
        HoldAny schema options document children) := by
  induction h with
  | nil => simp [Predicate.holdAll, HoldAll, Predicate.holdAny, HoldAny]
  | cons hfirst _ ih =>
      simp [Predicate.holdAll, HoldAll, Predicate.holdAny, HoldAny, hfirst, ih]

theorem holds_iff_of_branches {document : Document} {children : List Filter}
    {natives : List Native} {depth : Nat} {combinator : String} {predicates : List Predicate}
    (hchild : ∀ child ∈ children, ∀ {native depth predicates},
      toNative schema options child = .ok native →
      Predicate.clauses depth native = .ok predicates →
      (Predicate.holdAll document predicates = true ↔ Holds schema options document child))
    (hnatives : toNatives schema options children = .ok natives)
    (hbranches : Predicate.branches depth combinator natives = .ok predicates) :
    (Predicate.holdAll document predicates = true ↔ HoldAll schema options document children) ∧
      (Predicate.holdAny document predicates = true ↔
        HoldAny schema options document children) := by
  apply holds_iff_of_forall₂
  refine ((List.forall₂_and_left _ _).mpr
    ⟨hchild, forall₂_branches hnatives hbranches⟩).imp fun child predicate h => ?_
  obtain ⟨hchild, native, inner, hnative, hclauses, rfl⟩ := h
  rw [Predicate.holds]
  exact hchild hnative hclauses

/-- The clauses of a translated filter hold together exactly when the filter does, however deep
they stand. -/
theorem holdAll_clauses_iff (document : Document) {filter : Filter} {native : Document}
    {depth : Nat} {predicates : List Predicate}
    (hnative : toNative schema options filter = .ok native)
    (hclauses : Predicate.clauses depth native = .ok predicates) :
    Predicate.holdAll document predicates = true ↔ Holds schema options document filter := by
  -- a child stands one level deeper than its combinator, so the depth has to vary
  induction filter using Filter.induction generalizing native depth predicates with
  | all children ih =>
      by_cases hne : children = []
      · subst hne
        obtain rfl : [] = native := by simpa [toNative] using hnative
        obtain rfl : [] = predicates := by simpa [Predicate.clauses] using hclauses
        simp [Predicate.holdAll, Holds, HoldAll]
      · rw [toNative_all hne, Except.map_eq_ok_iff] at hnative
        obtain ⟨natives, hnatives, rfl⟩ := hnative
        rw [Predicate.clauses_and (toNatives_ne_nil hne hnatives), Except.map_eq_ok_iff] at hclauses
        obtain ⟨inner, hinner, rfl⟩ := hclauses
        have hbranches := (holds_iff_of_branches ih hnatives hinner).1
        simpa [Predicate.holdAll, Predicate.holds, Holds] using hbranches
  | any children ih =>
      by_cases hne : children = []
      · subst hne
        obtain rfl : matchNothing options = native := by simpa [toNative] using hnative
        -- the clause that stands for it is a condition on the key, which therefore names a path
        have hkey := Predicate.isOperator_eq_false_of_clauses hclauses
        rw [matchNothing, Predicate.clauses_path _ hkey, Condition.ofValue_noKeys] at hclauses
        obtain rfl : [.field options.nativeKey [.isIn []]] = predicates := by
          simpa [Except.map] using hclauses
        simp [Predicate.holdAll, Predicate.holds, Condition.holds, Holds, HoldAny]
      · rw [toNative_any hne, Except.map_eq_ok_iff] at hnative
        obtain ⟨natives, hnatives, rfl⟩ := hnative
        rw [Predicate.clauses_or (toNatives_ne_nil hne hnatives), Except.map_eq_ok_iff] at hclauses
        obtain ⟨inner, hinner, rfl⟩ := hclauses
        have hbranches := (holds_iff_of_branches ih hnatives hinner).2
        simpa [Predicate.holdAll, Predicate.holds, Holds] using hbranches
  | compare c =>
      simp only [toNative] at hnative
      obtain ⟨hfits, condition, hcondition, rfl⟩ := nativeComparison_eq_ok_iff.mp hnative
      have hkey := Predicate.isOperator_eq_false_of_clauses hclauses
      obtain ⟨posed, hposed, hmeaning⟩ :=
        ofValue_nativeCondition (nativeField schema options c.attr) hfits hcondition
      rw [Predicate.clauses_path _ hkey, hposed] at hclauses
      obtain rfl : [.field (nativeField schema options c.attr) [posed]] = predicates := by
        simpa [Except.map] using hclauses
      simpa [Predicate.holdAll, Predicate.holds, Holds] using hmeaning _

/-- The predicate that a filter is translated and compiled to holds of the documents that the
filter holds of. -/
theorem holds_compile_iff (document : Document) {filter : Filter} {native : Document}
    {predicate : Predicate} (hnative : toNative schema options filter = .ok native)
    (hcompile : Predicate.compile native = .ok predicate) :
    predicate.holds document = true ↔ Holds schema options document filter := by
  obtain ⟨predicates, hclauses, rfl⟩ := Predicate.compile_eq_ok_iff.mp hcompile
  simp only [Predicate.holds]
  exact holdAll_clauses_iff document hnative hclauses

/-- A key in capital letters, an element of an array and an absent attribute, with a disjunction
that no document satisfies beside the one that counts. -/
theorem holds_compile_iff_pet :
    ∃ native predicate,
      toNative .empty .default
        (.all [isIn "id" [.string "507F1F77BCF86CD799439011", .null],
          .any [.any [], of .eq "tags" (.string "loud")], of .eq "owner" .null]) = .ok native ∧
      Predicate.compile native = .ok predicate ∧
      predicate.holds [("_id", .objectId (.ofNat 0x507f1f77bcf86cd799439011)),
        ("tags", .array [.string "good", .string "loud"])] = true ∧
      Holds .empty .default [("_id", .objectId (.ofNat 0x507f1f77bcf86cd799439011)),
          ("tags", .array [.string "good", .string "loud"])]
        (.all [isIn "id" [.string "507F1F77BCF86CD799439011", .null],
          .any [.any [], of .eq "tags" (.string "loud")], of .eq "owner" .null]) :=
  ⟨_, _, rfl, rfl, rfl, (holds_compile_iff _ rfl rfl).mp rfl⟩

end Filter

end StageThree
