import StageThree.Store.Basic
import StageThree.Proofs.FilterMeaning
import StageThree.Proofs.Nesting

/-!
Which clauses the store runs once they are translated. The store counts the combinators of a
native filter and stops at `Rejection.maxDepth`, and that is the one reason it has to reject what
the translator made of a clause without operators for attributes. The last level that the reader
of clauses admits may be too deep for the store.
-/

namespace StageThree

/-- An outcome that is good if the nesting is within the store's bound, and that blames the
nesting otherwise. -/
def Bounded {α : Type} (nesting : Nat) (outcome : Except Rejection α) : Prop :=
  if nesting ≤ Rejection.maxDepth then ∃ result, outcome = .ok result
  else outcome = .error .filterTooDeep

namespace Bounded

variable {α β : Type} {m n : Nat} {outcome : Except Rejection α}

theorem map {f : α → β} (h : Bounded n outcome) : Bounded n (outcome.map f) := by
  unfold Bounded at *
  by_cases hn : n ≤ Rejection.maxDepth
  · rw [if_pos hn] at *
    obtain ⟨result, rfl⟩ := h
    exact ⟨f result, rfl⟩
  · rw [if_neg hn] at *
    rw [h]
    rfl

theorem ok (result : α) (h : n ≤ Rejection.maxDepth) : Bounded n (.ok result) := by
  rw [Bounded, if_pos h]
  exact ⟨result, rfl⟩

theorem cons {outcomes : Except Rejection (List α)} (h : Bounded m outcome)
    (hrest : Bounded n outcomes) :
    Bounded (max m n) (do return (← outcome) :: (← outcomes)) := by
  unfold Bounded at *
  by_cases hm : m ≤ Rejection.maxDepth
  · rw [if_pos hm] at h
    obtain ⟨result, rfl⟩ := h
    split at hrest
    · obtain ⟨results, rfl⟩ := hrest
      rw [if_pos (by omega)]
      exact ⟨result :: results, rfl⟩
    · rw [if_neg (by omega), hrest]
      rfl
  · rw [if_neg hm] at h
    rw [if_neg (by omega), h]
    rfl

end Bounded

namespace Filter

variable {schema : ModelSchema} {options : TranslateOptions}

theorem bounded_branch {fields : Document} {depth n : Nat} (combinator : String)
    (hdepth : depth ≤ n)
    (h : depth ≤ Rejection.maxDepth → Bounded n (Predicate.clauses depth fields)) :
    Bounded n (Predicate.branch depth combinator (.document fields)) := by
  unfold Predicate.branch
  split
  · rw [Bounded, if_neg (by omega)]
  · exact (h (by omega)).map

theorem bounded_branches {children : List Filter} {natives : List Native} {depth : Nat}
    (combinator : String) (hdepth : depth ≤ Rejection.maxDepth)
    (hchild : ∀ child ∈ children, ∀ native, toNative schema options child = .ok native →
      depth + 1 ≤ Rejection.maxDepth →
      Bounded (depth + 1 + child.nesting) (Predicate.clauses (depth + 1) native))
    (hnatives : toNatives schema options children = .ok natives) :
    Bounded (depth + nestingOf children) (Predicate.branches (depth + 1) combinator natives) := by
  rw [toNatives_eq_ok_iff] at hnatives
  induction hnatives with
  | nil => exact .ok [] hdepth
  | @cons child _ children natives hfirst _ ih =>
      obtain ⟨native, hnative, rfl⟩ := hfirst
      -- the deepest branch decides, though the compiler stops at the first that is too deep
      have hbranch := bounded_branch combinator (Nat.le_add_right (depth + 1) child.nesting)
        (hchild child (List.mem_cons_self ..) native hnative)
      have hrest := ih fun child h => hchild child (.tail _ h)
      have hnesting : depth + nestingOf (child :: children) =
          max (depth + 1 + child.nesting) (depth + nestingOf children) := by
        simp only [nestingOf]
        omega
      rw [hnesting]
      exact hbranch.cons hrest

/-- The nesting alone decides what becomes of a translated filter, however deep it stands. -/
theorem bounded_clauses {filter : Filter} {native : Document} {depth : Nat}
    (hkey : isOperator options.nativeKey = false)
    (hattrs : ∀ c ∈ filter.leaves, isOperator c.attr = false)
    (hdepth : depth ≤ Rejection.maxDepth)
    (hnative : toNative schema options filter = .ok native) :
    Bounded (depth + filter.nesting) (Predicate.clauses depth native) := by
  have hleaf {children : List Filter} (h : ∀ c ∈ leavesOf children, isOperator c.attr = false)
      (child) (hchild : child ∈ children) (c) (hc : c ∈ child.leaves) :
      isOperator c.attr = false :=
    h c (mem_leavesOf_iff.mpr ⟨child, hchild, hc⟩)
  induction filter using Filter.induction generalizing native depth with
  | all children ih =>
      by_cases hne : children = []
      · subst hne
        obtain rfl : [] = native := by simpa [toNative] using hnative
        exact .ok [] hdepth
      · rw [toNative_all hne, Except.map_eq_ok_iff] at hnative
        obtain ⟨natives, hnatives, rfl⟩ := hnative
        rw [Predicate.clauses_and (toNatives_ne_nil hne hnatives)]
        refine (bounded_branches "$and" hdepth (fun child hchild native h hdepth => ?_)
          hnatives).map
        exact ih child hchild (hleaf hattrs child hchild) hdepth h
  | any children ih =>
      by_cases hne : children = []
      · subst hne
        obtain rfl : matchNothing options = native := by simpa [toNative] using hnative
        rw [matchNothing, Predicate.clauses_path _ hkey, Condition.ofValue_noKeys]
        exact .ok _ hdepth
      · rw [toNative_any hne, Except.map_eq_ok_iff] at hnative
        obtain ⟨natives, hnatives, rfl⟩ := hnative
        rw [Predicate.clauses_or (toNatives_ne_nil hne hnatives)]
        refine (bounded_branches "$or" hdepth (fun child hchild native h hdepth => ?_)
          hnatives).map
        exact ih child hchild (hleaf hattrs child hchild) hdepth h
  | compare c =>
      simp only [toNative] at hnative
      obtain ⟨hfits, condition, hcondition, rfl⟩ := nativeComparison_eq_ok_iff.mp hnative
      have hfield : isOperator (nativeField schema options c.attr) = false :=
        isOperator_nativeField hkey (.inl (hattrs c (List.mem_singleton_self c)))
      -- whatever the operator, what the translator emits for it poses a condition
      obtain ⟨posed, hposed, -⟩ :=
        ofValue_nativeCondition (nativeField schema options c.attr) hfits hcondition
      rw [Predicate.clauses_path _ hfield, hposed]
      exact .ok _ hdepth

theorem bounded_compile {filter : Filter} {native : Document}
    (hkey : isOperator options.nativeKey = false)
    (hattrs : ∀ c ∈ filter.leaves, isOperator c.attr = false)
    (hnative : toNative schema options filter = .ok native) :
    Bounded filter.nesting (Predicate.compile native) := by
  have h := bounded_clauses hkey hattrs (Nat.zero_le _) hnative
  rw [Nat.zero_add] at h
  exact h.map

end Filter

/-! ### Clauses -/

/-- The store answers the filter in every state, and a pipeline may begin with it. -/
def Runnable (native : Document) : Prop :=
  ∃ predicate, Predicate.compile native = .ok predicate ∧
    (∀ (store : Store) collection, store.find collection native =
      .ok ((store.documents collection).filter fun document => predicate.holds document)) ∧
    Stage.compile [("$match", .document native)] = .ok (.pick predicate)

/-- The store rejects the filter in every state for its nesting, in a pipeline as well. -/
def RejectedAsTooDeep (native : Document) : Prop :=
  Predicate.compile native = .error .filterTooDeep ∧
    (∀ (store : Store) collection, store.find collection native = .error .filterTooDeep) ∧
    Stage.compile [("$match", .document native)] = .error .filterTooDeep

theorem runnable_of_compile {native : Document} {predicate : Predicate}
    (h : Predicate.compile native = .ok predicate) : Runnable native :=
  ⟨predicate, h, fun store collection => by rw [Store.find, h]; rfl, by rw [Stage.compile, h]; rfl⟩

theorem rejectedAsTooDeep_of_compile {native : Document}
    (h : Predicate.compile native = .error .filterTooDeep) : RejectedAsTooDeep native :=
  ⟨h, fun store collection => by rw [Store.find, h]; rfl, by rw [Stage.compile, h]; rfl⟩

namespace Filter

variable {schema : ModelSchema} {options : TranslateOptions}

/-- A translated clause is run or is rejected for its nesting, and it is run if it leaves out the
last level that the reader admits. -/
theorem runnable_of_whereToNative {clause : Json} {native : Document}
    (hkey : isOperator options.nativeKey = false)
    (hattrs : ∀ attr ∈ Clause.attributes clause, isOperator attr = false)
    (hnative : whereToNative schema options clause = .ok native) :
    Clause.depth clause ≤ FilterError.maxDepth ∧
      (Clause.depth clause < FilterError.maxDepth → Runnable native) ∧
      ∃ filter, ofWhere clause = .ok filter ∧
        if filter.nesting ≤ Rejection.maxDepth then Runnable native
        else RejectedAsTooDeep native := by
  obtain ⟨filter, hfilter, hnative⟩ := whereToNative_eq_ok_iff.mp hnative
  obtain ⟨hdepth, hread⟩ := branchRead_of_ofWhere hfilter
  have hbounded : Bounded filter.nesting (Predicate.compile native) :=
    bounded_compile hkey (fun c hc => hattrs c.attr (hread.attr_mem c hc)) hnative
  have hrun (h : filter.nesting ≤ Rejection.maxDepth) : Runnable native := by
    rw [Bounded, if_pos h] at hbounded
    obtain ⟨predicate, hpredicate⟩ := hbounded
    exact runnable_of_compile hpredicate
  refine ⟨by omega, fun hless => hrun ?_, filter, hfilter, ?_⟩
  · calc
      filter.nesting ≤ 2 * Clause.depth clause + 2 := hread.nesting_le
      _ ≤ 2 * FilterError.maxDepth := by omega
      _ = Rejection.maxDepth := rfl
  · split
    · next h => exact hrun h
    · next h =>
      rw [Bounded, if_neg h] at hbounded
      exact rejectedAsTooDeep_of_compile hbounded

end Filter

/-- A clause with `n` arrays inside each other, each of them beside another entry. -/
def Clause.nested : Nat → Json
  | 0 => .object [("a", .int 1), ("b", .int 1)]
  | n + 1 => .object [("a", .int 1), ("and", .array [nested n])]

namespace Filter

set_option maxRecDepth 4000 in
/-- As deep as a clause may be to be run whatever it holds. -/
theorem runnable_nested :
    isOperator TranslateOptions.default.nativeKey = false ∧
      (∀ attr ∈ Clause.attributes (Clause.nested 31), isOperator attr = false) ∧
      Clause.depth (Clause.nested 31) = 31 ∧
      ∃ native, whereToNative .empty .default (Clause.nested 31) = .ok native ∧
        Runnable native := by
  have hkey : isOperator TranslateOptions.default.nativeKey = false := by decide
  have hattrs : ∀ attr ∈ Clause.attributes (Clause.nested 31), isOperator attr = false := by
    decide +kernel
  have hdepth : Clause.depth (Clause.nested 31) = 31 := by rfl
  refine ⟨hkey, hattrs, hdepth, _, rfl, ?_⟩
  exact (@runnable_of_whereToNative .empty .default _ _ hkey hattrs rfl).2.1 (by decide)

set_option maxRecDepth 4000 in
/-- One array more is still read, and translated to a filter that the store rejects. -/
theorem not_runnable_nested :
    isOperator TranslateOptions.default.nativeKey = false ∧
      (∀ attr ∈ Clause.attributes (Clause.nested 32), isOperator attr = false) ∧
      ∃ native, whereToNative .empty .default (Clause.nested 32) = .ok native ∧
        Predicate.compile native = .error .filterTooDeep := by
  refine ⟨by decide, by decide +kernel, _, rfl, ?_⟩
  rfl

end Filter

end StageThree
