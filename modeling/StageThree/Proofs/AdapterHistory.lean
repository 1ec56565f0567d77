import StageThree.Proofs.Selection
import StageThree.Proofs.StoreHistory

/-!
What queries do to a store, one after the other. All but the creation of a record leave it as it
is, and a creation does one insertion: it fails and changes nothing, or it adds the document behind
the record that it returns.
-/

namespace StageThree.Adapter

variable {supply : Nat → ObjectId} {models : ModelRegistry} {options : TranslateOptions}
  {state : Supplied} {query : Query} {schema : ModelSchema} {model : String}

def after {σ : Type} (adapter : Adapter σ) (state : σ) (queries : List Query) : σ :=
  queries.foldl (fun state query => (adapter.run state query).1) state

/-! ### One query -/

theorem create_cases (supply : Nat → ObjectId) (models : ModelRegistry)
    (options : TranslateOptions) (state : Supplied) (query : Query) :
    (∃ cause, (create ⟨.store supply, models, options⟩ state query).2 = .error cause ∧
      (create ⟨.store supply, models, options⟩ state query).1.store = state.store) ∨
    ∃ schema document after stored, models.get? query.model = some schema ∧
      query.planRecord schema options = .ok document ∧
      state.store.insert query.model (supply state.count) document = .ok (after, stored) ∧
      create ⟨.store supply, models, options⟩ state query =
        (⟨after, state.count + 1⟩, .ok (Record.read schema options stored)) := by
  cases hmodel : models.get? query.model with
  | none =>
      have hresolve : query.resolve models = .error (.unknownModel query.model) := by
        rw [Query.resolve, hmodel]
      simp [create, hresolve]
  | some schema =>
      simp only [create, resolve_of_get? hmodel]
      cases hrecord : query.planRecord schema options with
      | error cause => exact .inl ⟨cause, rfl, rfl⟩
      | ok document =>
          simp only [Executor.store]
          obtain ⟨cause, -, heq⟩ | ⟨after, stored, hinsert, heq⟩ :=
            Supplied.insert_cases supply state query.model document
          · rw [heq]
            exact .inl ⟨_, rfl, rfl⟩
          · rw [heq]
            exact .inr ⟨schema, document, after, stored, rfl, hrecord, hinsert, rfl⟩

/-- What holds of a store holds after a query if it does when the query inserts a document. -/
theorem store_run_induction {motive : Store → Prop} (h : motive state.store)
    (insert : ∀ document after stored,
      state.store.insert query.model (supply state.count) document = .ok (after, stored) →
        motive after) :
    motive (run ⟨.store supply, models, options⟩ state query).1.store := by
  unfold run
  cases query.method with
  | find | reduce => exact h
  | create =>
      obtain ⟨cause, -, hstore⟩ | ⟨schema, document, after, stored, -, -, hinsert, heq⟩ :=
        create_cases supply models options state query
      · simpa only [hstore] using h
      · simpa only [heq] using insert document after stored hinsert

def created? (model : String) (query : Query) : Except QueryError QueryOutput → Option Record
  | .ok (.record record) =>
    if query.method = .create ∧ query.model = model then some record else none
  | _ => none

theorem created?_of_ne_create (h : query.method ≠ .create) (model : String)
    (answer : Except QueryError QueryOutput) : created? model query answer = none := by
  unfold created?
  split <;> simp [h]

/-- A query adds the record that it created to those of the model, at their end. -/
theorem map_read_documents_run (hmodel : models.get? model = some schema) :
    ((run ⟨.store supply, models, options⟩ state query).1.store.documents model).map
        (Record.read schema options) =
      (state.store.documents model).map (Record.read schema options) ++
        (created? model query (run ⟨.store supply, models, options⟩ state query).2).toList := by
  unfold run
  cases hmethod : query.method with
  | find | reduce =>
      rw [created?_of_ne_create (by simp [hmethod]), Option.toList_none, List.append_nil]
  | create =>
      obtain ⟨cause, hanswer, hstore⟩ | ⟨found, document, after, stored, hfound, -, hinsert, heq⟩ :=
        create_cases supply models options state query
      · simp only [hanswer, hstore, Except.map, created?, Option.toList_none, List.append_nil]
      · obtain ⟨-, -, rfl⟩ := Store.insert_eq_ok_iff.mp hinsert
        simp only [heq, Except.map, created?, hmethod, true_and]
        rw [Store.documents_insert]
        by_cases hsame : query.model = model
        · subst hsame
          obtain rfl : found = schema := Option.some.inj (hfound.symm.trans hmodel)
          simp
        · simp [hsame]

/-! ### Queries one after the other -/

theorem store_after_induction {motive : Store → Prop} {queries : List Query}
    (h : motive state.store)
    (insert : ∀ store collection fresh document after stored, motive store →
      store.insert collection fresh document = .ok (after, stored) → motive after) :
    motive (after ⟨.store supply, models, options⟩ state queries).store := by
  induction queries generalizing state with
  | nil => exact h
  | cons query rest ih =>
      exact ih (store_run_induction h fun document after stored =>
        insert state.store query.model _ document after stored h)

/-- A store that was empty keeps its keys in front and distinct. -/
theorem keyed_after (key : String) (queries : List Query) :
    (after ⟨.store supply, models, options⟩ ⟨.empty key, 0⟩ queries).store.key = key ∧
      (after ⟨.store supply, models, options⟩ ⟨.empty key, 0⟩ queries).store.Keyed := by
  constructor
  · apply store_after_induction (motive := fun store => store.key = key) rfl
    intro store collection fresh document after stored hkey hinsert
    obtain ⟨-, -, rfl⟩ := Store.insert_eq_ok_iff.mp hinsert
    exact hkey
  · exact store_after_induction (Store.keyed_empty key) fun _ _ _ _ _ _ => Store.keyed_insert

end StageThree.Adapter
