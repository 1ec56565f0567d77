import StageThree.Adapter
import StageThree.Proofs.Recursion

/-!
What a query selects: the documents behind the records that it finds.
-/

namespace StageThree.Adapter

def select {σ : Type} (adapter : Adapter σ) (state : σ) (query : Query) :
    Except QueryError (List Document) := do
  let schema ← query.resolve adapter.models
  let filter ← query.planFilter schema adapter.options
  relayed (adapter.executor.find state query.model filter)

variable {supply : Nat → ObjectId} {models : ModelRegistry} {options : TranslateOptions}
  {state : Supplied} {query : Query} {schema : ModelSchema}

theorem resolve_of_get? (hmodel : models.get? query.model = some schema) :
    query.resolve models = .ok schema := by
  rw [Query.resolve, hmodel]

theorem find_eq_map_select (hmodel : models.get? query.model = some schema) :
    find ⟨.store supply, models, options⟩ state query =
      (select ⟨.store supply, models, options⟩ state query).map
        (·.map (Record.read schema options)) := by
  simp only [find, select, resolve_of_get? hmodel, Executor.store, Except.ok_bind]
  cases query.planFilter schema options with
  | error cause => rfl
  | ok filter =>
      simp only [Except.ok_bind]
      cases state.store.find query.model filter <;> rfl

/-- The selection is the answer of the store to the translated clause. -/
theorem select_eq_ok_iff {documents : List Document}
    (hmodel : models.get? query.model = some schema) :
    select ⟨.store supply, models, options⟩ state query = .ok documents ↔
      ∃ filter, Filter.whereToNative schema options query.clause = .ok filter ∧
        state.store.find query.model filter = .ok documents := by
  simp only [select, resolve_of_get? hmodel, Query.planFilter, Executor.store, Except.ok_bind]
  cases Filter.whereToNative schema options query.clause with
  | error cause => simp [Except.error_bind]
  | ok filter =>
      simp only [Except.ok_bind, Except.ok.injEq, exists_eq_left']
      cases state.store.find query.model filter <;> simp [relayed, Executor.rejecting]

theorem select_of_whereToNative {filter : Document} (hmodel : models.get? query.model = some schema)
    (hfilter : Filter.whereToNative schema options query.clause = .ok filter) :
    select ⟨.store supply, models, options⟩ state query =
      relayed (Executor.rejecting (state.store.find query.model filter)) := by
  simp only [select, resolve_of_get? hmodel, Query.planFilter, hfilter, Executor.store,
    Except.ok_bind]

theorem length_le_of_select {documents : List Document}
    (hmodel : models.get? query.model = some schema)
    (h : select ⟨.store supply, models, options⟩ state query = .ok documents) :
    documents.length ≤ (state.store.documents query.model).length := by
  obtain ⟨filter, -, hfound⟩ := (select_eq_ok_iff hmodel).mp h
  simp only [Store.find, Except.bind_eq_ok_iff, Except.pure_eq_ok_iff] at hfound
  obtain ⟨predicate, -, rfl⟩ := hfound
  exact List.length_filter_le _ _

/-- A clause without constraints selects everything. -/
theorem select_all (hmodel : models.get? query.model = some schema)
    (hclause : query.clause = .null ∨ query.clause = .object []) :
    select ⟨.store supply, models, options⟩ state query =
      .ok (state.store.documents query.model) := by
  refine (select_eq_ok_iff hmodel).mpr ⟨[], ?_, ?_⟩
  · rcases hclause with hclause | hclause <;> (rw [hclause]; rfl)
  · rw [Store.find]
    exact congrArg Except.ok (List.filter_eq_self.mpr fun _ _ => rfl)

end StageThree.Adapter
