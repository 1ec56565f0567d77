import StageThree.Proofs.Compilation
import StageThree.Proofs.Selection

/-!
The clause that asks for one value of one attribute. From the clause to the answer it is a single
test: the documents that are found are those whose field equals the native value.
-/

namespace StageThree

/-- Whether a value is text, a number or a truth value. -/
def Json.isScalar : Json → Bool
  | .bool _ | .number _ | .string _ => true
  | _ => false

/-! ### Undotted paths -/

namespace Path

theorem splitDots_of_not_mem {cs : List Char} (h : '.' ∉ cs) : splitDots cs = [cs] := by
  induction cs with
  | nil => rfl
  | cons c rest ih =>
      rw [List.mem_cons, not_or] at h
      rw [splitDots, if_neg (Ne.symm h.1), ih h.2]

/-- A name without dots leads to the field of that name. -/
theorem lookup_of_not_mem {path : String} (h : '.' ∉ path.toList) (document : Document) :
    lookup document path = Fields.get? path document := by
  rw [lookup, segments, splitDots_of_not_mem h, List.map_cons, String.ofList_toList]
  rfl

end Path

/-! ### The native filter -/

namespace Filter

variable {schema : ModelSchema} {options : TranslateOptions} {attr path : String} {value : Json}
  {target : Native} {op : CompareOp}

def equality (path : String) (target : Native) : Document :=
  [(path, .document [(CompareOp.eq.native, target)])]

theorem fits_equality (attr : String) (hop : op = .eq ∨ op = .ne)
    (hvalue : value.isScalar = true ∨ value = .null) :
    Comparison.fits ⟨attr, op, .ofJson value⟩ = true := by
  rcases hop with rfl | rfl <;>
    cases value <;> simp_all [Comparison.fits, Operand.ofJson, Json.isScalar]

theorem nativeTarget_ofJson (hvalue : value.isScalar = true ∨ value = .null) :
    nativeTarget schema attr (.ofJson value) = nativeOperand schema attr value := by
  cases value with
  | null =>
      unfold nativeOperand
      split <;> rfl
  | bool | number | string => rfl
  | array | object => simp [Json.isScalar] at hvalue

theorem ofWhere_equality (hcombinator : attr ≠ "and" ∧ attr ≠ "or")
    (hvalue : value.isScalar = true ∨ value = .null) :
    ofWhere (.object [(attr, value)]) = .ok (.of .eq attr value) := by
  have hentry : entry 0 attr value = .ok (.of .eq attr value) := by
    cases value <;> simp_all [entry, constraint, Json.isScalar]
  rw [ofWhere, entries, hentry]
  rfl

theorem toNative_equality (hvalue : value.isScalar = true ∨ value = .null)
    (htarget : nativeOperand schema attr value = .ok target) :
    toNative schema options (.of .eq attr value) =
      .ok (equality (nativeField schema options attr) target) := by
  rw [← nativeTarget_ofJson hvalue] at htarget
  rw [Filter.of, toNative_compare (fits_equality attr (.inl rfl) hvalue) (by simp), htarget]
  rfl

theorem whereToNative_equality (hcombinator : attr ≠ "and" ∧ attr ≠ "or")
    (hvalue : value.isScalar = true ∨ value = .null)
    (htarget : nativeOperand schema attr value = .ok target) :
    whereToNative schema options (.object [(attr, value)]) =
      .ok (equality (nativeField schema options attr) target) := by
  rw [whereToNative, ofWhere_equality hcombinator hvalue]
  exact toNative_equality hvalue htarget

theorem ne_combinators_of_ofWhere {filter : Filter} (hvalue : value.isScalar = true)
    (h : ofWhere (.object [(attr, value)]) = .ok filter) : attr ≠ "and" ∧ attr ≠ "or" := by
  by_contra hcombinator
  have hentry : entry 0 attr value = .error (.branchesKind attr value.kind) := by
    rw [← not_or, not_not] at hcombinator
    cases value <;> simp_all [entry, Json.isScalar]
  rw [ofWhere, entries, hentry] at h
  cases h

/-- A clause that asks for one value is only translated if the value converts. -/
theorem of_whereToNative {native : Document} (hvalue : value.isScalar = true)
    (h : whereToNative schema options (.object [(attr, value)]) = .ok native) :
    (attr ≠ "and" ∧ attr ≠ "or") ∧ ∃ target, nativeOperand schema attr value = .ok target ∧
      native = equality (nativeField schema options attr) target := by
  obtain ⟨filter, hfilter, -⟩ := whereToNative_eq_ok_iff.mp h
  have hcombinator := ne_combinators_of_ofWhere hvalue hfilter
  have hclause := ofWhere_equality hcombinator (.inl hvalue)
  rw [whereToNative_compare (c := ⟨attr, .eq, .ofJson value⟩) schema options hclause
    (fits_equality attr (.inl rfl) (.inl hvalue)) (by simp), nativeTarget_ofJson (.inl hvalue)] at h
  refine ⟨hcombinator, ?_⟩
  cases htarget : nativeOperand schema attr value with
  | ok target =>
      rw [htarget] at h
      exact ⟨target, rfl, (Except.ok.inj h).symm⟩
  | error cause =>
      rw [htarget] at h
      cases h

end Filter

/-! ### The answer -/

theorem Predicate.compile_equality {path : String} {target : Native}
    (h : isOperator path = false) :
    compile (Filter.equality path target) = .ok (.all [.field path [.eq target]]) :=
  Filter.compile_single .eq h rfl

theorem Predicate.holds_equality (document : Document) (path : String) (target : Native) :
    (all [.field path [.eq target]]).holds document =
      Condition.equals target (Path.lookup document path) := by
  simp [holds, holdAll, Condition.holds]

theorem Store.find_equality {path : String} (h : isOperator path = false) (store : Store)
    (collection : String) (target : Native) :
    store.find collection (Filter.equality path target) =
      .ok ((store.documents collection).filter fun document =>
        Condition.equals target (Path.lookup document path)) := by
  rw [Store.find, Predicate.compile_equality h]
  simp [Predicate.holds_equality, bind, Except.bind, pure, Except.pure]

namespace Adapter

variable {schema : ModelSchema} {options : TranslateOptions} {models : ModelRegistry}

/-- A query for one value of one attribute finds the documents whose field equals it. -/
theorem find_equality {supply : Nat → ObjectId} {query : Query} {attr : String} {value : Json}
    {target : Native} (state : Supplied) (hmodel : models.get? query.model = some schema)
    (hclause : query.clause = .object [(attr, value)])
    (hcombinator : attr ≠ "and" ∧ attr ≠ "or") (hvalue : value.isScalar = true ∨ value = .null)
    (hfield : isOperator (Filter.nativeField schema options attr) = false)
    (htarget : Filter.nativeOperand schema attr value = .ok target) :
    Adapter.find ⟨.store supply, models, options⟩ state query =
      .ok (((state.store.documents query.model).filter fun document =>
        Condition.equals target
          (Path.lookup document (Filter.nativeField schema options attr))).map
        (Record.read schema options)) := by
  have hnative : Filter.whereToNative schema options query.clause =
      .ok (Filter.equality (Filter.nativeField schema options attr) target) := by
    rw [hclause]
    exact Filter.whereToNative_equality hcombinator hvalue htarget
  have hfound := Store.find_equality hfield state.store query.model target
  rw [find_eq_map_select hmodel, (select_eq_ok_iff hmodel).mpr ⟨_, hnative, hfound⟩]
  rfl

end Adapter

end StageThree
