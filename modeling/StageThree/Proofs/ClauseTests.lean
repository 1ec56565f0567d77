import StageThree.Proofs.EqualityClause
import StageThree.Proofs.Faults

/-!
Clauses as tests of documents. A clause that makes one comparison, with the bare value or with one
modifier, is a condition on what a document has at the attribute's place, and a query finds the
documents that pass.
-/

namespace StageThree

theorem Json.somewhere_of_isScalar {value : Json} (test : Json → Bool)
    (h : value.isScalar = true ∨ value = .null) : value.somewhere test = test value := by
  cases value <;> simp_all [isScalar, somewhere]

namespace Filter

/-- Whether a clause is read, translated and compiled to a predicate that holds of the documents
that pass a test. -/
def Tests (schema : ModelSchema) (options : TranslateOptions) (clause : Json)
    (test : Document → Bool) : Prop :=
  ∃ native predicate, whereToNative schema options clause = .ok native ∧
    Predicate.compile native = .ok predicate ∧ ∀ document, predicate.holds document = test document

theorem Tests.eq_holds {schema : ModelSchema} {options : TranslateOptions} {clause : Json}
    {test : Document → Bool} {native : Document} {predicate : Predicate}
    (h : Tests schema options clause test)
    (hnative : whereToNative schema options clause = .ok native)
    (hcompile : Predicate.compile native = .ok predicate) (document : Document) :
    test document = predicate.holds document := by
  obtain ⟨native', predicate', hnative', hcompile', htest⟩ := h
  obtain rfl : native = native' := Except.ok.inj (hnative.symm.trans hnative')
  obtain rfl : predicate = predicate' := Except.ok.inj (hcompile.symm.trans hcompile')
  exact (htest document).symm

def modified (attr modifier : String) (operand : Json) : Json :=
  .object [(attr, .object [(modifier, operand)])]

variable {schema : ModelSchema} {options : TranslateOptions} {attr modifier path : String}
  {c : Comparison} {op : CompareOp} {target : Native} {clause value : Json}

theorem ofWhere_modified (hcombinator : attr ≠ "and" ∧ attr ≠ "or")
    (hop : CompareOp.ofModifier? modifier = some op) (operand : Json) :
    ofWhere (modified attr modifier operand) = .ok (.of op attr operand) := by
  have hentry : entry 0 attr (.object [(modifier, operand)]) = .ok (.of op attr operand) := by
    simp [entry, hcombinator, constraint, modifiers, hop, conjunction, Except.map, bind,
      Except.bind, pure, Except.pure]
  rw [modified, ofWhere, entries, hentry]
  rfl

/-- A clause that makes one comparison tests what a document has at the attribute's place. -/
theorem tests_of_compare (posed : Condition) (hclause : ofWhere clause = .ok (.compare c))
    (hfits : c.fits = true) (hop : c.op ≠ .like)
    (hfield : isOperator (nativeField schema options c.attr) = false)
    (htarget : nativeTarget schema c.attr c.operand = .ok target)
    (hposed : c.op.condition? target = some posed) :
    Tests schema options clause fun document =>
      posed.holds (Path.lookup document (nativeField schema options c.attr)) := by
  have hcompile := compile_single c.op hfield hposed
  refine ⟨_, _, ?_, hcompile, fun document => ?_⟩
  · rw [whereToNative_compare schema options hclause hfits hop, htarget]
    rfl
  · simp [Predicate.holds, Predicate.holdAll]

theorem tests_modified {operand : Json} (posed : Condition)
    (hcombinator : attr ≠ "and" ∧ attr ≠ "or")
    (hfield : isOperator (nativeField schema options attr) = false)
    (hop : CompareOp.ofModifier? modifier = some op) (hlike : op ≠ .like)
    (hfits : Comparison.fits ⟨attr, op, .ofJson operand⟩ = true)
    (htarget : nativeTarget schema attr (.ofJson operand) = .ok target)
    (hposed : op.condition? target = some posed) :
    Tests schema options (modified attr modifier operand) fun document =>
      posed.holds (Path.lookup document (nativeField schema options attr)) :=
  tests_of_compare (c := ⟨attr, op, .ofJson operand⟩) posed
    (ofWhere_modified hcombinator hop operand) hfits hlike hfield htarget hposed

theorem tests_equality (hcombinator : attr ≠ "and" ∧ attr ≠ "or")
    (hvalue : value.isScalar = true ∨ value = .null)
    (hfield : isOperator (nativeField schema options attr) = false)
    (htarget : nativeOperand schema attr value = .ok target) :
    Tests schema options (.object [(attr, value)]) fun document =>
      Condition.equals target (Path.lookup document (nativeField schema options attr)) := by
  rw [← nativeTarget_ofJson hvalue] at htarget
  exact tests_of_compare (c := ⟨attr, .eq, .ofJson value⟩) (.eq target)
    (ofWhere_equality hcombinator hvalue) (fits_equality attr (.inl rfl) hvalue) (by simp) hfield
    htarget rfl

end Filter

def Query.asking (query : Query) (clause : Json) : Query := { query with clause := clause }

namespace Adapter

variable {supply : Nat → ObjectId} {models : ModelRegistry} {options : TranslateOptions}
  {state : Supplied} {query : Query} {schema : ModelSchema}

theorem select_of_tests {test : Document → Bool} (hmodel : models.get? query.model = some schema)
    (htests : Filter.Tests schema options query.clause test) :
    select ⟨.store supply, models, options⟩ state query =
      .ok ((state.store.documents query.model).filter test) := by
  obtain ⟨native, predicate, hnative, hcompile, htest⟩ := htests
  refine (select_eq_ok_iff hmodel).mpr ⟨native, hnative, ?_⟩
  rw [Store.find, hcompile, Except.ok_bind, funext htest]
  rfl

theorem find_of_tests {test : Document → Bool} (hmodel : models.get? query.model = some schema)
    (htests : Filter.Tests schema options query.clause test) :
    find ⟨.store supply, models, options⟩ state query =
      .ok (((state.store.documents query.model).filter test).map
        (Record.read schema options)) := by
  rw [find_eq_map_select hmodel, select_of_tests hmodel htests]
  rfl

/-- A query fails as the translation of its clause does. -/
theorem find_of_error {cause : TranslateError} (hmodel : models.get? query.model = some schema)
    (h : Filter.whereToNative schema options query.clause = .error cause) :
    find ⟨.store supply, models, options⟩ state query = .error (.translate cause) := by
  simp only [find, resolve_of_get? hmodel, Query.planFilter, h, Except.ok_bind, Except.error_bind]

end Adapter

end StageThree
