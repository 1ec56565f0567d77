import StageThree.Filter.Where
import StageThree.Proofs.Recursion

/-!
How deep a filter nests that was read from a clause. The reader counts the arrays of `and` and `or`
and stops at `FilterError.maxDepth`. An object with several entries is a conjunction as well, and
so is an attribute with several modifiers, which makes up to two levels of the filter for each one
that the reader counts.
-/

namespace StageThree

/-! ### Depth of a clause -/

namespace Clause

mutual

/-- How deep the arrays of `and` and `or` in a clause nest. -/
def depth : Json → Nat
  | .object fields => depthOfEntries fields
  | _ => 0

def depthOfEntries : List (String × Json) → Nat
  | [] => 0
  | (key, value) :: rest => max (depthOfEntry key value) (depthOfEntries rest)

def depthOfEntry (key : String) : Json → Nat
  | .array items => if key = "and" ∨ key = "or" then depthOfBranches items else 0
  | _ => 0

def depthOfBranches : List Json → Nat
  | [] => 0
  | item :: rest => max (depth item + 1) (depthOfBranches rest)

end

mutual

/-- The attributes that a clause constrains. -/
def attributes : Json → List String
  | .object fields => attributesOfEntries fields
  | _ => []

def attributesOfEntries : List (String × Json) → List String
  | [] => []
  | (key, value) :: rest => attributesOfEntry key value ++ attributesOfEntries rest

def attributesOfEntry (key : String) : Json → List String
  | .array items => if key = "and" ∨ key = "or" then attributesOfBranches items else [key]
  | _ => [key]

def attributesOfBranches : List Json → List String
  | [] => []
  | item :: rest => attributes item ++ attributesOfBranches rest

end

end Clause

namespace Filter

/-! ### Nesting of a filter -/

mutual

/-- How deep the combinators of a filter's native form nest. Combinators without children have
none in it. -/
def nesting : Filter → Nat
  | .all children => nestingOf children
  | .any children => nestingOf children
  | .compare _ => 0

def nestingOf : List Filter → Nat
  | [] => 0
  | child :: rest => max (nesting child + 1) (nestingOf rest)

end

theorem nestingOf_le_iff {children : List Filter} {bound : Nat} :
    nestingOf children ≤ bound ↔ ∀ child ∈ children, child.nesting + 1 ≤ bound := by
  induction children with
  | nil => simp [nestingOf]
  | cons child rest ih => simp only [nestingOf, Nat.max_le, ih, List.forall_mem_cons]

theorem mem_leavesOf_iff {children : List Filter} {c : Comparison} :
    c ∈ leavesOf children ↔ ∃ child ∈ children, c ∈ child.leaves := by
  induction children with
  | nil => simp [leavesOf]
  | cons child rest ih => simp [leavesOf, ih]

/-! ### Reading -/

/-- What is known of a filter that was read from a part of a clause. -/
structure ReadFrom (attributes : List String) (bound : Nat) (filter : Filter) : Prop where
  nesting_le : filter.nesting ≤ bound
  attr_mem : ∀ c ∈ filter.leaves, c.attr ∈ attributes

namespace ReadFrom

variable {attributes attributes' : List String} {bound bound' : Nat} {filter : Filter}
  {filters : List Filter}

theorem mono (h : ReadFrom attributes bound filter) (hattributes : attributes ⊆ attributes')
    (hbound : bound ≤ bound') : ReadFrom attributes' bound' filter :=
  ⟨Nat.le_trans h.nesting_le hbound, fun c hc => hattributes (h.attr_mem c hc)⟩

theorem of (op : CompareOp) (attr : String) (value : Json) :
    ReadFrom [attr] 0 (.of op attr value) :=
  ⟨Nat.le_refl 0, by simp [Filter.of, leaves]⟩

theorem all (h : ∀ filter ∈ filters, ReadFrom attributes bound filter) :
    ReadFrom attributes (bound + 1) (.all filters) := by
  refine ⟨nestingOf_le_iff.mpr fun filter hfilter => ?_, fun c hc => ?_⟩
  · exact Nat.succ_le_succ (h filter hfilter).nesting_le
  · obtain ⟨filter, hfilter, hc⟩ := mem_leavesOf_iff.mp hc
    exact (h filter hfilter).attr_mem c hc

theorem any (h : ∀ filter ∈ filters, ReadFrom attributes bound filter) :
    ReadFrom attributes (bound + 1) (.any filters) :=
  ⟨(all h).nesting_le, (all h).attr_mem⟩

theorem conjunction (h : ∀ filter ∈ filters, ReadFrom attributes bound filter) :
    ReadFrom attributes (bound + 1) (Filter.conjunction filters) := by
  unfold Filter.conjunction
  split
  · exact (h _ (List.mem_singleton_self _)).mono (List.Subset.refl _) (Nat.le_succ _)
  · exact all h

end ReadFrom

variable {depth : Nat} {key attr combinator : String} {filter : Filter} {filters : List Filter}

theorem readFrom_of_modifiers {fields : List (String × Json)}
    (h : modifiers attr fields = .ok filters) : ∀ filter ∈ filters, ReadFrom [attr] 0 filter := by
  induction fields generalizing filters with
  | nil =>
      obtain rfl : [] = filters := by simpa [modifiers] using h
      simp
  | cons field rest ih =>
      obtain ⟨modifier, operand⟩ := field
      simp only [modifiers] at h
      split at h
      · cases h
      · simp only [Except.bind_eq_ok_iff, Except.pure_eq_ok_iff] at h
        obtain ⟨tail, htail, rfl⟩ := h
        exact List.forall_mem_cons.mpr ⟨.of _ attr operand, ih htail⟩

theorem readFrom_of_constraint {value : Json} (h : constraint attr value = .ok filter) :
    ReadFrom [attr] 1 filter := by
  unfold constraint at h
  split at h
  · cases h
  · obtain ⟨filters, hfilters, rfl⟩ := Except.map_eq_ok_iff.mp h
    exact .conjunction (readFrom_of_modifiers hfilters)
  · cases h
    exact (ReadFrom.of .eq attr value).mono (List.Subset.refl _) (Nat.zero_le _)

/-- What is known after one entry of an object was read that is `depth` combinators deep. -/
def EntryRead (depth : Nat) (key : String) (value : Json) (filter : Filter) : Prop :=
  depth + Clause.depthOfEntry key value ≤ FilterError.maxDepth ∧
    ReadFrom (Clause.attributesOfEntry key value) (2 * Clause.depthOfEntry key value + 1) filter

/-- What is known after a branch was read that is `depth` combinators deep. -/
def BranchRead (depth : Nat) (value : Json) (filter : Filter) : Prop :=
  depth + Clause.depth value ≤ FilterError.maxDepth ∧
    ReadFrom (Clause.attributes value) (2 * Clause.depth value + 2) filter

theorem readFrom_of_entries {fields : List (String × Json)} (hdepth : depth ≤ FilterError.maxDepth)
    (hentry : ∀ field ∈ fields, ∀ filter, entry depth field.1 field.2 = .ok filter →
      EntryRead depth field.1 field.2 filter)
    (h : entries depth fields = .ok filters) :
    depth + Clause.depthOfEntries fields ≤ FilterError.maxDepth ∧
      ∀ filter ∈ filters, ReadFrom (Clause.attributesOfEntries fields)
        (2 * Clause.depthOfEntries fields + 1) filter := by
  induction fields generalizing filters with
  | nil =>
      obtain rfl : [] = filters := by simpa [entries] using h
      simpa [Clause.depthOfEntries] using hdepth
  | cons field rest ih =>
      obtain ⟨key, value⟩ := field
      simp only [entries, Except.bind_eq_ok_iff, Except.pure_eq_ok_iff] at h
      obtain ⟨first, hfirst, tail, htail, rfl⟩ := h
      obtain ⟨hkey, hread⟩ : EntryRead depth key value first :=
        hentry _ (List.mem_cons_self ..) first hfirst
      obtain ⟨hrest, hreads⟩ := ih (fun field hfield => hentry field (.tail _ hfield)) htail
      simp only [Clause.depthOfEntries, Clause.attributesOfEntries]
      refine ⟨by omega, List.forall_mem_cons.mpr ⟨?_, fun filter hfilter => ?_⟩⟩
      · exact hread.mono (List.subset_append_left _ _) (by omega)
      · exact (hreads filter hfilter).mono (List.subset_append_right _ _) (by omega)

theorem readFrom_of_branches {items : List Json} (hdepth : depth ≤ FilterError.maxDepth)
    (hbranch : ∀ item ∈ items, ∀ filter, branch (depth + 1) combinator item = .ok filter →
      BranchRead (depth + 1) item filter)
    (h : branches (depth + 1) combinator items = .ok filters) :
    depth + Clause.depthOfBranches items ≤ FilterError.maxDepth ∧
      ∀ filter ∈ filters, ReadFrom (Clause.attributesOfBranches items)
        (2 * Clause.depthOfBranches items) filter := by
  induction items generalizing filters with
  | nil =>
      obtain rfl : [] = filters := by simpa [branches] using h
      simpa [Clause.depthOfBranches] using hdepth
  | cons item rest ih =>
      simp only [branches, Except.bind_eq_ok_iff, Except.pure_eq_ok_iff] at h
      obtain ⟨first, hfirst, tail, htail, rfl⟩ := h
      obtain ⟨hitem, hread⟩ := hbranch _ (List.mem_cons_self ..) first hfirst
      obtain ⟨hrest, hreads⟩ := ih (fun item hitem => hbranch item (.tail _ hitem)) htail
      simp only [Clause.depthOfBranches, Clause.attributesOfBranches]
      refine ⟨by omega, List.forall_mem_cons.mpr ⟨?_, fun filter hfilter => ?_⟩⟩
      · exact hread.mono (List.subset_append_left _ _) (by omega)
      · exact (hreads filter hfilter).mono (List.subset_append_right _ _) (by omega)

theorem entryRead_of_constraint {value : Json} (hdepth : depth ≤ FilterError.maxDepth)
    (hcount : Clause.depthOfEntry key value = 0)
    (hattr : Clause.attributesOfEntry key value = [key])
    (h : constraint key value = .ok filter) : EntryRead depth key value filter := by
  rw [EntryRead, hcount, hattr]
  exact ⟨hdepth, readFrom_of_constraint h⟩

theorem branchRead_of_entries {fields : List (String × Json)}
    (hdepth : depth ≤ FilterError.maxDepth)
    (hentry : ∀ field ∈ fields, ∀ filter, entry depth field.1 field.2 = .ok filter →
      EntryRead depth field.1 field.2 filter)
    (h : (entries depth fields).map conjunction = .ok filter) :
    BranchRead depth (.object fields) filter := by
  obtain ⟨filters, hfilters, rfl⟩ := Except.map_eq_ok_iff.mp h
  obtain ⟨hfields, hread⟩ := readFrom_of_entries hdepth hentry hfilters
  simp only [BranchRead, Clause.depth, Clause.attributes]
  exact ⟨hfields, .conjunction hread⟩

/-- Wherever a value stands, as the branch of a combinator or in the entry of an object, its depth
counts from there and bounds the nesting. -/
theorem read_of_ok (value : Json) :
    (∀ depth combinator filter, branch depth combinator value = .ok filter →
      BranchRead depth value filter) ∧
    ∀ depth key filter, depth ≤ FilterError.maxDepth → entry depth key value = .ok filter →
      EntryRead depth key value filter := by
  induction value using Json.induction with
  | object fields ih =>
      refine ⟨fun depth combinator filter h => ?_, fun depth key filter hdepth h => ?_⟩
      · simp only [branch] at h
        split at h
        · cases h
        · next hdepth =>
          have hdepth := Nat.le_of_not_lt hdepth
          refine branchRead_of_entries hdepth (fun field hfield filter => ?_) h
          exact (ih field hfield).2 depth field.1 filter hdepth
      · simp only [entry] at h
        split at h
        · cases h
        · exact entryRead_of_constraint hdepth rfl rfl h
  | array items ih =>
      -- an array is no branch itself, but under a combinator its items are
      refine ⟨fun depth combinator filter h => by simp [branch] at h,
        fun depth key filter hdepth h => ?_⟩
      have hitems {filters} := @readFrom_of_branches depth key filters items hdepth
        fun item hitem => (ih item hitem).1 (depth + 1) key
      simp only [entry] at h
      simp only [EntryRead, Clause.depthOfEntry, Clause.attributesOfEntry]
      split at h
      · next hkey =>
        obtain ⟨filters, hfilters, rfl⟩ := Except.map_eq_ok_iff.mp h
        obtain ⟨hbound, hread⟩ := hitems hfilters
        rw [if_pos (.inl hkey), if_pos (.inl hkey)]
        exact ⟨hbound, .all hread⟩
      · split at h
        · next hkey =>
          obtain ⟨filters, hfilters, rfl⟩ := Except.map_eq_ok_iff.mp h
          obtain ⟨hbound, hread⟩ := hitems hfilters
          rw [if_pos (.inr hkey), if_pos (.inr hkey)]
          exact ⟨hbound, .any hread⟩
        · next hand hor =>
          rw [if_neg (not_or.mpr ⟨hand, hor⟩), if_neg (not_or.mpr ⟨hand, hor⟩)]
          exact ⟨hdepth, readFrom_of_constraint h⟩
  | null | bool | number | string =>
      refine ⟨fun depth combinator filter h => by simp [branch] at h,
        fun depth key filter hdepth h => ?_⟩
      simp only [entry] at h
      split at h
      · cases h
      · exact entryRead_of_constraint hdepth rfl rfl h

/-- A clause that is read nests at most `FilterError.maxDepth` deep, and its filter at most twice
as deep and two levels more. -/
theorem branchRead_of_ofWhere {clause : Json} (h : ofWhere clause = .ok filter) :
    BranchRead 0 clause filter := by
  unfold ofWhere at h
  split at h
  · cases h
    exact ⟨Nat.zero_le _, Nat.zero_le _, by simp [unconstrained, leaves, leavesOf]⟩
  · refine branchRead_of_entries (Nat.zero_le _) (fun field _ filter => ?_) h
    exact (read_of_ok field.2).2 0 field.1 filter (Nat.zero_le _)
  · cases h

end Filter

end StageThree
