import Mathlib.Data.List.Forall2
import StageThree.Proofs.FilterMeaning

/-!
Which clauses are read, and what their filters say. The grammar of clauses is stated apart from the
reader: an object is a clause if each of its entries is a combinator over clauses or a constraint on
an attribute. The reader accepts just these (`Filter.exists_read_iff`), and its filter has the
constraints of the clause, in their order, under combinators that mean what the clause says
(`Filter.Says`).
-/

namespace List

variable {α β : Type} {related : α → β → Prop} {as : List α}

theorem exists_forall₂_iff : (∃ bs, Forall₂ related as bs) ↔ ∀ a ∈ as, ∃ b, related a b := by
  induction as with
  | nil => simp
  | cons a as ih =>
      simp only [forall₂_cons_left_iff, forall_mem_cons, ← ih]
      constructor
      · rintro ⟨_, b, bs, hb, hbs, rfl⟩
        exact ⟨⟨b, hb⟩, bs, hbs⟩
      · rintro ⟨⟨b, hb⟩, bs, hbs⟩
        exact ⟨b :: bs, b, bs, hb, hbs, rfl⟩

end List

namespace StageThree

/-! ### The grammar -/

namespace Clause

/-- The modifiers, with the operators that they stand for. -/
def modifiers : List (String × CompareOp) :=
  [("<", .lt), ("<=", .lte), (">", .gt), (">=", .gte), ("!=", .ne), ("like", .like),
    ("in", .isIn), ("nin", .notIn), ("exists", .isPresent)]

/-- Whether a value can stand under an attribute: any value but an object, or an object of
modifiers, of which there has to be one. -/
def IsConstraint : Json → Prop
  | .object fields => fields ≠ [] ∧ ∀ field ∈ fields, field.1 ∈ modifiers.map (·.1)
  | _ => True

mutual

/-- Whether a value is a clause below so many combinators. -/
inductive IsClause : Nat → Json → Prop where
  | object {depth : Nat} {fields : List (String × Json)} (hdepth : depth ≤ 32)
      (hentries : ∀ field ∈ fields, IsEntry depth field.1 field.2) :
      IsClause depth (.object fields)

/-- Whether a key and a value are an entry of a clause below so many combinators. -/
inductive IsEntry : Nat → String → Json → Prop where
  | combinator {depth : Nat} {key : String} {items : List Json} (hkey : key = "and" ∨ key = "or")
      (hitems : ∀ item ∈ items, IsClause (depth + 1) item) : IsEntry depth key (.array items)
  | constraint {depth : Nat} {key : String} {value : Json} (hand : key ≠ "and")
      (hor : key ≠ "or") (hvalue : IsConstraint value) : IsEntry depth key value

end

/-! ### Constraints and meaning -/

/-- The constraints under an attribute: one for each modifier, or one for the bare value. -/
def constraintsOn (attr : String) : Json → List Comparison
  | .object fields => fields.map fun (modifier, operand) =>
    ⟨attr, (modifiers.lookup modifier).getD .eq, .ofJson operand⟩
  | value => [⟨attr, .eq, .ofJson value⟩]

mutual

def constraints : Json → List Comparison
  | .object fields => constraintsOfEntries fields
  | _ => []

def constraintsOfEntries : List (String × Json) → List Comparison
  | [] => []
  | (key, value) :: rest => constraintsOfEntry key value ++ constraintsOfEntries rest

def constraintsOfEntry (key : String) : Json → List Comparison
  | .array items =>
    if key = "and" ∨ key = "or" then constraintsOfBranches items
    else constraintsOn key (.array items)
  | value => constraintsOn key value

def constraintsOfBranches : List Json → List Comparison
  | [] => []
  | item :: rest => constraints item ++ constraintsOfBranches rest

end

mutual

/-- Whether a clause holds, by which constraints do: all entries of an object together, all
branches of `and`, one branch of `or`. -/
def Holds (truth : Comparison → Prop) : Json → Prop
  | .object fields => HoldEntries truth fields
  | _ => True

def HoldEntries (truth : Comparison → Prop) : List (String × Json) → Prop
  | [] => True
  | (key, value) :: rest => HoldsEntry truth key value ∧ HoldEntries truth rest

def HoldsEntry (truth : Comparison → Prop) (key : String) : Json → Prop
  | .array items =>
    if key = "and" then HoldAll truth items
    else if key = "or" then HoldAny truth items
    else ∀ c ∈ constraintsOn key (.array items), truth c
  | value => ∀ c ∈ constraintsOn key value, truth c

def HoldAll (truth : Comparison → Prop) : List Json → Prop
  | [] => True
  | item :: rest => Holds truth item ∧ HoldAll truth rest

def HoldAny (truth : Comparison → Prop) : List Json → Prop
  | [] => False
  | item :: rest => Holds truth item ∨ HoldAny truth rest

end

end Clause

namespace CompareOp

theorem ofModifier?_eq_some_iff {modifier : String} {op : CompareOp} :
    ofModifier? modifier = some op ↔ (modifier, op) ∈ Clause.modifiers := by
  constructor
  · intro h
    have hop := List.find?_some h
    simp only [Bool.and_eq_true, decide_eq_true_eq] at hop
    obtain ⟨hne, rfl⟩ := hop
    cases op <;> simp_all [Clause.modifiers, CompareOp.modifier]
  · have hall : ∀ entry ∈ Clause.modifiers, ofModifier? entry.1 = some entry.2 := by decide
    exact hall (modifier, op)

theorem exists_ofModifier?_iff {modifier : String} :
    (∃ op, ofModifier? modifier = some op) ↔ modifier ∈ Clause.modifiers.map (·.1) := by
  simp only [ofModifier?_eq_some_iff, List.mem_map, Prod.exists, exists_and_right, exists_eq_right]

theorem lookup_modifiers {modifier : String} {op : CompareOp} (h : ofModifier? modifier = some op) :
    Clause.modifiers.lookup modifier = some op := by
  have hall : ∀ entry ∈ Clause.modifiers, Clause.modifiers.lookup entry.1 = some entry.2 := by
    decide
  exact hall (modifier, op) (ofModifier?_eq_some_iff.mp h)

end CompareOp

namespace Filter

mutual

/-- Whether a filter is met, by which comparisons hold. -/
def Meets (truth : Comparison → Prop) : Filter → Prop
  | .all children => MeetsAll truth children
  | .any children => MeetsAny truth children
  | .compare c => truth c

def MeetsAll (truth : Comparison → Prop) : List Filter → Prop
  | [] => True
  | child :: rest => Meets truth child ∧ MeetsAll truth rest

def MeetsAny (truth : Comparison → Prop) : List Filter → Prop
  | [] => False
  | child :: rest => Meets truth child ∨ MeetsAny truth rest

end

variable {depth : Nat} {key attr combinator modifier : String} {filter : Filter}
  {filters : List Filter} {fields : List (String × Json)} {items : List Json} {value : Json}

/-! ### The reader's steps -/

theorem modifiers_eq_ok_iff :
    modifiers attr fields = .ok filters ↔ List.Forall₂ (fun field filter =>
      ∃ op, CompareOp.ofModifier? field.1 = some op ∧ .of op attr field.2 = filter)
      fields filters := by
  induction fields generalizing filters with
  | nil => simp [modifiers, eq_comm]
  | cons field rest ih =>
      obtain ⟨modifier, operand⟩ := field
      simp only [modifiers, List.forall₂_cons_left_iff]
      cases CompareOp.ofModifier? modifier with
      | none => simp
      | some op => simp [ih, @eq_comm _ filters]

theorem entries_eq_ok_iff :
    entries depth fields = .ok filters ↔
      List.Forall₂ (fun field filter => entry depth field.1 field.2 = .ok filter)
        fields filters := by
  induction fields generalizing filters with
  | nil => simp [entries, eq_comm]
  | cons field rest ih => simp [entries, List.forall₂_cons_left_iff, ih, @eq_comm _ filters]

theorem branches_eq_ok_iff :
    branches depth combinator items = .ok filters ↔
      List.Forall₂ (fun item filter => branch depth combinator item = .ok filter)
        items filters := by
  induction items generalizing filters with
  | nil => simp [branches, eq_comm]
  | cons item rest ih => simp [branches, List.forall₂_cons_left_iff, ih, @eq_comm _ filters]

/-! ### Acceptance -/

theorem exists_constraint_iff :
    (∃ filter, constraint attr value = .ok filter) ↔ Clause.IsConstraint value := by
  cases value with
  | object fields =>
      cases fields with
      | nil => simp [constraint, Clause.IsConstraint]
      | cons field rest =>
          rw [constraint, Except.exists_map_eq_ok_iff]
          · simp only [modifiers_eq_ok_iff, List.exists_forall₂_iff, exists_comm (α := Filter),
              exists_and_left, exists_eq', and_true, CompareOp.exists_ofModifier?_iff,
              Clause.IsConstraint, ne_eq, reduceCtorEq, not_false_eq_true, true_and]
          · simp
  | null | bool | number | string | array => simp [constraint, Clause.IsConstraint]

theorem entry_of_ne (depth : Nat) (hand : key ≠ "and") (hor : key ≠ "or") (value : Json) :
    entry depth key value = constraint key value := by
  cases value <;> simp [entry, hand, hor]

theorem entry_of_not_array (depth : Nat) (hkey : key = "and" ∨ key = "or")
    (hvalue : ∀ items, value ≠ .array items) :
    entry depth key value = .error (.branchesKind key value.kind) := by
  cases value <;> simp_all [entry]

theorem exists_entry_iff_of_not_array (hvalue : ∀ items, value ≠ .array items) :
    (∃ filter, entry depth key value = .ok filter) ↔ Clause.IsEntry depth key value := by
  by_cases hkey : key = "and" ∨ key = "or"
  · rw [entry_of_not_array depth hkey hvalue]
    refine ⟨fun ⟨_, h⟩ => (nomatch h), fun h => ?_⟩
    cases h with
    | combinator => exact absurd rfl (hvalue _)
    | constraint hand hor => exact absurd hkey (not_or.mpr ⟨hand, hor⟩)
  · obtain ⟨hand, hor⟩ := not_or.mp hkey
    rw [entry_of_ne depth hand hor, exists_constraint_iff]
    refine ⟨.constraint hand hor, fun h => ?_⟩
    cases h with
    | combinator => exact absurd rfl (hvalue _)
    | constraint _ _ hvalue => exact hvalue

theorem exists_entry_array_iff
    (hitems : ∀ item ∈ items, (∃ filter, branch (depth + 1) key item = .ok filter) ↔
      Clause.IsClause (depth + 1) item) :
    (∃ filter, entry depth key (.array items) = .ok filter) ↔
      Clause.IsEntry depth key (.array items) := by
  have hbranches : (∃ filters, branches (depth + 1) key items = .ok filters) ↔
      ∀ item ∈ items, Clause.IsClause (depth + 1) item := by
    simp only [branches_eq_ok_iff, List.exists_forall₂_iff]
    exact forall₂_congr hitems
  by_cases hkey : key = "and" ∨ key = "or"
  · have hentry : (∃ filter, entry depth key (.array items) = .ok filter) ↔
        ∃ filters, branches (depth + 1) key items = .ok filters := by
      rcases hkey with rfl | rfl <;> simp [entry]
    rw [hentry, hbranches]
    refine ⟨.combinator hkey, fun h => ?_⟩
    cases h with
    | combinator _ hitems => exact hitems
    | constraint hand hor => exact absurd hkey (not_or.mpr ⟨hand, hor⟩)
  · obtain ⟨hand, hor⟩ := not_or.mp hkey
    rw [entry_of_ne depth hand hor]
    exact ⟨fun _ => .constraint hand hor trivial, fun _ => exists_constraint_iff.mpr trivial⟩

theorem exists_entries_iff (hdepth : depth ≤ 32)
    (hentries : ∀ field ∈ fields, (∃ filter, entry depth field.1 field.2 = .ok filter) ↔
      Clause.IsEntry depth field.1 field.2) :
    (∃ filter, (entries depth fields).map conjunction = .ok filter) ↔
      Clause.IsClause depth (.object fields) := by
  simp only [Except.exists_map_eq_ok_iff, entries_eq_ok_iff, List.exists_forall₂_iff]
  rw [forall₂_congr hentries]
  refine ⟨.object hdepth, fun h => ?_⟩
  cases h with
  | object _ hentries => exact hentries

/-- Wherever a value stands, it is accepted if it is of the grammar there. -/
theorem exists_read_iff (value : Json) :
    (∀ depth combinator, (∃ filter, branch depth combinator value = .ok filter) ↔
      Clause.IsClause depth value) ∧
    ∀ depth key, (∃ filter, entry depth key value = .ok filter) ↔
      Clause.IsEntry depth key value := by
  induction value using Json.induction with
  | object fields ih =>
      refine ⟨fun depth combinator => ?_, fun _ _ => exists_entry_iff_of_not_array (by simp)⟩
      rw [branch]
      split
      · next hdeep =>
        refine ⟨fun ⟨_, h⟩ => (nomatch h), fun h => ?_⟩
        cases h with
        | object hdepth => exact absurd hdeep (Nat.not_lt.mpr hdepth)
      · next hdepth =>
        refine exists_entries_iff (Nat.not_lt.mp hdepth) fun field hfield => ?_
        exact (ih field hfield).2 depth field.1
  | array items ih =>
      -- an array is no branch, but below a combinator its items are, one deeper
      refine ⟨fun depth combinator => ⟨fun ⟨_, h⟩ => (nomatch h), nofun⟩, fun depth key => ?_⟩
      exact exists_entry_array_iff fun item hitem => (ih item hitem).1 (depth + 1) key
  | null | bool | number | string =>
      exact ⟨fun _ _ => ⟨fun ⟨_, h⟩ => (nomatch h), nofun⟩,
        fun _ _ => exists_entry_iff_of_not_array (by simp)⟩

/-! ### Meaning -/

/-- What a filter says: which comparisons it makes, and how they decide whether it is met. -/
structure Says (filter : Filter) (comparisons : List Comparison)
    (meaning : (Comparison → Prop) → Prop) : Prop where
  leaves_eq : filter.leaves = comparisons
  meets_iff : ∀ truth, filter.Meets truth ↔ meaning truth

variable {comparisons : List Comparison} {meaning : (Comparison → Prop) → Prop}

theorem Says.conjunction (h : Says (.all filters) comparisons meaning) :
    Says (conjunction filters) comparisons meaning := by
  unfold Filter.conjunction
  split
  · -- a conjunction of one child says what the child says
    next filter =>
    obtain ⟨hleaves, hmeets⟩ := h
    exact ⟨by simpa [leaves, leavesOf] using hleaves,
      fun truth => by simpa [Meets, MeetsAll] using hmeets truth⟩
  · exact h

theorem says_compares (comparisons : List Comparison) :
    Says (.all (comparisons.map .compare)) comparisons fun truth => ∀ c ∈ comparisons, truth c := by
  induction comparisons with
  | nil => exact ⟨rfl, by simp [Meets, MeetsAll]⟩
  | cons c rest ih =>
      obtain ⟨hleaves, hmeets⟩ := ih
      simp only [leaves, Meets] at hleaves hmeets
      exact ⟨by simp [leaves, leavesOf, hleaves], by simp [Meets, MeetsAll, hmeets]⟩

theorem modifiers_eq_map (h : modifiers attr fields = .ok filters) :
    filters = (Clause.constraintsOn attr (.object fields)).map .compare := by
  rw [modifiers_eq_ok_iff] at h
  induction h with
  | nil => rfl
  | cons hfirst _ ih =>
      obtain ⟨op, hop, rfl⟩ := hfirst
      rw [ih]
      simp [Clause.constraintsOn, CompareOp.lookup_modifiers hop, Filter.of]

theorem says_constraint (h : constraint attr value = .ok filter) :
    Says filter (Clause.constraintsOn attr value)
      fun truth => ∀ c ∈ Clause.constraintsOn attr value, truth c := by
  unfold constraint at h
  split at h
  · cases h
  · obtain ⟨filters, hfilters, rfl⟩ := Except.map_eq_ok_iff.mp h
    obtain rfl := modifiers_eq_map hfilters
    exact (says_compares _).conjunction
  · next hobject =>
    cases h
    have hsingle : Clause.constraintsOn attr value = [⟨attr, .eq, .ofJson value⟩] := by
      cases value <;> simp_all [Clause.constraintsOn]
    rw [hsingle]
    exact (says_compares [_]).conjunction

theorem says_entries
    (hentry : ∀ field ∈ fields, ∀ filter, entry depth field.1 field.2 = .ok filter →
      Says filter (Clause.constraintsOfEntry field.1 field.2)
        (Clause.HoldsEntry · field.1 field.2))
    (h : entries depth fields = .ok filters) :
    Says (.all filters) (Clause.constraintsOfEntries fields)
      (Clause.HoldEntries · fields) := by
  rw [entries_eq_ok_iff] at h
  induction h with
  | nil => exact ⟨rfl, fun _ => .rfl⟩
  | @cons field filter rest filters hfirst _ ih =>
      obtain ⟨hleaves, hmeets⟩ := hentry field (List.mem_cons_self ..) filter hfirst
      obtain ⟨hrest, hall⟩ := ih fun field hfield => hentry field (.tail _ hfield)
      simp only [leaves, Meets] at hrest hall
      exact ⟨by simp [leaves, leavesOf, Clause.constraintsOfEntries, hleaves, hrest],
        fun truth => by simp [Meets, MeetsAll, Clause.HoldEntries, hmeets, hall]⟩

theorem says_branches
    (hbranch : ∀ item ∈ items, ∀ filter, branch depth combinator item = .ok filter →
      Says filter (Clause.constraints item) (Clause.Holds · item))
    (h : branches depth combinator items = .ok filters) :
    Says (.all filters) (Clause.constraintsOfBranches items) (Clause.HoldAll · items) ∧
      Says (.any filters) (Clause.constraintsOfBranches items) (Clause.HoldAny · items) := by
  rw [branches_eq_ok_iff] at h
  induction h with
  | nil => exact ⟨⟨rfl, fun _ => .rfl⟩, ⟨rfl, fun _ => .rfl⟩⟩
  | @cons item filter rest filters hfirst _ ih =>
      obtain ⟨hleaves, hmeets⟩ := hbranch item (List.mem_cons_self ..) filter hfirst
      obtain ⟨⟨hrest, hall⟩, -, hany⟩ := ih fun item hitem => hbranch item (.tail _ hitem)
      simp only [leaves, Meets] at hrest hall hany
      have hlist : leavesOf (filter :: filters) = Clause.constraintsOfBranches (item :: rest) := by
        simp [leavesOf, Clause.constraintsOfBranches, hleaves, hrest]
      exact ⟨⟨hlist, fun truth => by simp [Meets, MeetsAll, Clause.HoldAll, hmeets, hall]⟩,
        ⟨hlist, fun truth => by simp [Meets, MeetsAny, Clause.HoldAny, hmeets, hany]⟩⟩

theorem says_entry_of_constraint (hand : key ≠ "and") (hor : key ≠ "or")
    (h : entry depth key value = .ok filter) :
    Says filter (Clause.constraintsOfEntry key value) (Clause.HoldsEntry · key value) := by
  rw [entry_of_ne depth hand hor] at h
  have hsays := says_constraint h
  cases value <;> simpa [Clause.constraintsOfEntry, Clause.HoldsEntry, hand, hor] using hsays

theorem says_entry_array
    (hbranch : ∀ item ∈ items, ∀ filter, branch (depth + 1) key item = .ok filter →
      Says filter (Clause.constraints item) (Clause.Holds · item))
    (h : entry depth key (.array items) = .ok filter) :
    Says filter (Clause.constraintsOfEntry key (.array items))
      (Clause.HoldsEntry · key (.array items)) := by
  by_cases hkey : key = "and" ∨ key = "or"
  · simp only [Clause.constraintsOfEntry, if_pos hkey, Clause.HoldsEntry]
    rcases hkey with rfl | rfl
    · obtain ⟨filters, hfilters, rfl⟩ := Except.map_eq_ok_iff.mp h
      exact (says_branches hbranch hfilters).1
    · obtain ⟨filters, hfilters, rfl⟩ := Except.map_eq_ok_iff.mp h
      exact (says_branches hbranch hfilters).2
  · obtain ⟨hand, hor⟩ := not_or.mp hkey
    exact says_entry_of_constraint hand hor h

theorem says_entry_of_not_array (hvalue : ∀ items, value ≠ .array items)
    (h : entry depth key value = .ok filter) :
    Says filter (Clause.constraintsOfEntry key value) (Clause.HoldsEntry · key value) := by
  by_cases hkey : key = "and" ∨ key = "or"
  · rw [entry_of_not_array depth hkey hvalue] at h
    cases h
  · obtain ⟨hand, hor⟩ := not_or.mp hkey
    exact says_entry_of_constraint hand hor h

/-- Wherever a value stands, the filter that is read from it says what the value says there. -/
theorem says_of_ok (value : Json) :
    (∀ depth combinator filter, branch depth combinator value = .ok filter →
      Says filter (Clause.constraints value) (Clause.Holds · value)) ∧
    ∀ depth key filter, entry depth key value = .ok filter →
      Says filter (Clause.constraintsOfEntry key value) (Clause.HoldsEntry · key value) := by
  induction value using Json.induction with
  | object fields ih =>
      refine ⟨fun depth combinator filter h => ?_, fun depth key filter =>
        says_entry_of_not_array (by simp)⟩
      rw [branch] at h
      split at h
      · cases h
      · obtain ⟨filters, hfilters, rfl⟩ := Except.map_eq_ok_iff.mp h
        exact (says_entries (fun field hfield => (ih field hfield).2 depth field.1)
          hfilters).conjunction
  | array items ih =>
      refine ⟨fun depth combinator filter h => (nomatch h), fun depth key filter => ?_⟩
      exact says_entry_array fun item hitem => (ih item hitem).1 (depth + 1) key
  | null | bool | number | string =>
      exact ⟨fun depth combinator filter h => (nomatch h),
        fun depth key filter => says_entry_of_not_array (by simp)⟩

/-! ### Clauses -/

/-- A clause is read as a branch outside of all combinators. -/
theorem ofWhere_object (fields : List (String × Json)) (combinator : String) :
    ofWhere (.object fields) = branch 0 combinator (.object fields) := by
  simp [ofWhere, branch]

theorem says_ofWhere {clause : Json} (h : ofWhere clause = .ok filter) :
    Says filter (Clause.constraints clause) (Clause.Holds · clause) := by
  cases clause with
  | null =>
      cases h
      exact ⟨rfl, fun _ => .rfl⟩
  | object fields =>
      rw [ofWhere_object fields "and"] at h
      exact (says_of_ok _).1 0 "and" filter h
  | bool | number | string | array => cases h

/-- Whether a filter holds of a document, by which of its comparisons do. -/
theorem holds_iff_meets (schema : ModelSchema) (options : TranslateOptions) (document : Document)
    (filter : Filter) :
    Holds schema options document filter ↔ filter.Meets fun c =>
      c.HoldsOn schema options (Path.lookup document (nativeField schema options c.attr)) := by
  induction filter using Filter.induction with
  | all children ih =>
      simp only [Holds, Meets]
      induction children with
      | nil => simp [HoldAll, MeetsAll]
      | cons child rest ihrest =>
          rw [List.forall_mem_cons] at ih
          simp only [HoldAll, MeetsAll, ih.1, ihrest ih.2]
  | any children ih =>
      simp only [Holds, Meets]
      induction children with
      | nil => simp [HoldAny, MeetsAny]
      | cons child rest ihrest =>
          rw [List.forall_mem_cons] at ih
          simp only [HoldAny, MeetsAny, ih.1, ihrest ih.2]
  | compare c => rfl

/-- The filter of a clause holds of a document if the clause does, constraint by constraint. -/
theorem holds_ofWhere_iff {clause : Json} (schema : ModelSchema) (options : TranslateOptions)
    (document : Document) (h : ofWhere clause = .ok filter) :
    Holds schema options document filter ↔
      Clause.Holds (fun c => c.HoldsOn schema options
        (Path.lookup document (nativeField schema options c.attr))) clause := by
  rw [holds_iff_meets, (says_ofWhere h).meets_iff]

/-- A value is accepted as a clause if it is null or of the grammar. The comparisons of the filter
are then the constraints of the clause, each once and in order, and the filter is met if the
clause holds, whichever comparisons are true. -/
theorem ofWhere_reads (clause : Json) :
    ((∃ filter, ofWhere clause = .ok filter) ↔ clause = .null ∨ Clause.IsClause 0 clause) ∧
      ∀ filter, ofWhere clause = .ok filter →
        filter.leaves = Clause.constraints clause ∧
          ∀ truth, filter.Meets truth ↔ Clause.Holds truth clause := by
  refine ⟨?_, fun filter h => ⟨(says_ofWhere h).leaves_eq, (says_ofWhere h).meets_iff⟩⟩
  cases clause with
  | null => simp [ofWhere]
  | object fields =>
      rw [ofWhere_object fields "and", (exists_read_iff _).1]
      simp
  | bool | number | string | array =>
      refine ⟨fun ⟨_, h⟩ => (nomatch h), ?_⟩
      rintro (h | h) <;> cases h

theorem ofWhere_reads_dogs :
    let clause : Json := .object
      [("species", .string "dog"), ("age", .object [(">=", .number (.int 2)), ("!=", .null)]),
        ("or", .array [.object [("name", .array [.string "rex"])],
          .object [("and", .array []), ("owner", .object [("exists", .bool true)])]])]
    let species : Comparison := ⟨"species", .eq, .scalar (.string "dog")⟩
    let grown : Comparison := ⟨"age", .gte, .scalar (.number (.int 2))⟩
    let known : Comparison := ⟨"age", .ne, .null⟩
    let named : Comparison := ⟨"name", .eq, .set [.string "rex"]⟩
    let owned : Comparison := ⟨"owner", .isPresent, .scalar (.bool true)⟩
    Clause.IsClause 0 clause ∧ ∃ filter, ofWhere clause = .ok filter ∧
      filter.leaves = [species, grown, known, named, owned] ∧
      ∀ truth, filter.Meets truth ↔
        truth species ∧ (truth grown ∧ truth known) ∧ (truth named ∨ truth owned) := by
  intro clause species grown known named owned
  obtain ⟨haccepts, hreads⟩ := ofWhere_reads clause
  have hclause : Clause.IsClause 0 clause := (haccepts.mp ⟨_, rfl⟩).resolve_left nofun
  obtain ⟨filter, hfilter⟩ := haccepts.mpr (.inr hclause)
  obtain ⟨hleaves, hmeets⟩ := hreads filter hfilter
  refine ⟨hclause, filter, hfilter, hleaves, fun truth => (hmeets truth).trans ?_⟩
  simp [clause, species, grown, known, named, owned, Clause.Holds, Clause.HoldEntries,
    Clause.HoldsEntry, Clause.HoldAll, Clause.HoldAny, Clause.constraintsOn, Clause.modifiers,
    List.lookup_cons, Operand.ofJson]

end Filter

end StageThree
