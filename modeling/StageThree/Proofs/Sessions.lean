import Mathlib.Logic.Function.Basic
import Mathlib.Logic.Relation
import StageThree.Proofs.AdapterHistory

/-!
Clients that share a store. A call is planned without the store, makes one access to it, and reads
the answer without it again; between these the other clients go on. So a session is a sequence of
steps, each of one client, in which only the accesses touch the store. The log lists the calls in
the order in which their answers were settled: by the access, or by an error on the way to it.

What the log says was created is what the store holds, at every moment and in this order. And the
log is what the clients were told, up to the answers that are still on the way back.
-/

namespace StageThree

/-! ### The steps of a call -/

/-- The one access to the store that a request makes. An inserted document is its only row. -/
def NativeRequest.access {σ : Type} (executor : Executor σ) (state : σ) (request : NativeRequest) :
    σ × Except StoreError (List Document) :=
  match request.request with
  | .find filter => (state, executor.find state request.collection filter)
  | .aggregate plan => (state, executor.aggregate state request.collection plan.stages)
  | .insert document =>
    let (state, stored) := executor.insert state request.collection document
    (state, stored.map ([·]))

namespace Adapter

variable {σ : Type}

def reduced (value : Native) : Reduction → Json
  | .count => .number ((Number.ofNat? (countOf value)).getD (.int 0))
  | _ => Coercion.generic value

def output (schema : ModelSchema) (options : TranslateOptions) (rows : List Document) :
    Method → QueryOutput
  | .find => .records (rows.map (Record.read schema options))
  | .create => .record (Record.read schema options (rows.head?.getD []))
  | .reduce kind => .value (reduced (kind.ofRows rows) kind)

def answer (adapter : Adapter σ) (query : Query) (rows : Except StoreError (List Document)) :
    Except QueryError QueryOutput := do
  let schema ← query.resolve adapter.models
  return output schema adapter.options (← relayed rows) query.method

theorem reduceGeneric_eq_map_reduced (adapter : Adapter σ) (state : σ) (query : Query)
    (kind : Reduction) :
    adapter.reduceGeneric state query kind =
      (adapter.reduce state query kind).map (reduced · kind) := by
  cases kind with
  | count =>
      rw [reduceGeneric, count]
      cases adapter.reduce state query .count <;> rfl
  | sum | avg | min | max => rfl

/-- Running a query is planning it, one access to the store, and reading the answer. -/
theorem run_eq (adapter : Adapter σ) (state : σ) (query : Query) :
    adapter.run state query =
      match query.plan adapter.options adapter.models with
      | .error cause => (state, .error cause)
      | .ok request =>
        ((request.access adapter.executor state).1,
          adapter.answer query (request.access adapter.executor state).2) := by
  unfold run Query.plan Query.planRequest answer
  cases hresolve : query.resolve adapter.models with
  | error cause =>
      cases query.method with
      | find => simp only [find, hresolve, Except.error_bind, Except.map]
      | create => simp only [create, hresolve, Except.error_bind, Except.map]
      | reduce kind =>
          simp only [reduceGeneric_eq_map_reduced, reduce, hresolve, Except.error_bind, Except.map]
  | ok schema =>
      cases query.method with
      | find =>
          simp only [find, hresolve, Except.ok_bind]
          cases query.planFilter schema adapter.options with
          | error cause => rfl
          | ok filter =>
              simp only [Except.ok_bind, Except.map, NativeRequest.access, pure, Except.pure]
              cases adapter.executor.find state query.model filter <;> rfl
      | create =>
          simp only [create, hresolve, Except.ok_bind]
          cases query.planRecord schema adapter.options with
          | error cause => rfl
          | ok document =>
              simp only [Except.ok_bind, Except.map, NativeRequest.access, pure, Except.pure]
              cases (adapter.executor.insert state query.model document).2 <;> rfl
      | reduce kind =>
          simp only [reduceGeneric_eq_map_reduced, reduce, hresolve, Except.ok_bind]
          cases query.planReduction schema adapter.options kind with
          | error cause => rfl
          | ok plan =>
              simp only [Except.ok_bind, Except.map, NativeRequest.access, pure, Except.pure]
              cases adapter.executor.aggregate state query.model plan.stages <;> rfl

end Adapter

/-! ### Sessions -/

structure Exchange (κ : Type) where
  client : κ
  query : Query
  answer : Except QueryError QueryOutput

inductive Phase {σ : Type} (adapter : Adapter σ) where
  | idle
  | asking (query : Query) (request : NativeRequest)
      (planned : query.plan adapter.options adapter.models = .ok request)
  | answered (query : Query) (rows : Except StoreError (List Document))

structure Session {σ : Type} (adapter : Adapter σ) (κ : Type) where
  state : σ
  phase : κ → Phase adapter
  received : κ → List (Exchange κ)
  /-- The calls of all clients, in the order in which their answers were settled. -/
  log : List (Exchange κ)

/-- What a client has not been told yet. -/
def Phase.underway {σ κ : Type} {adapter : Adapter σ} (client : κ) :
    Phase adapter → List (Exchange κ)
  | .idle | .asking _ _ _ => []
  | .answered query rows => [⟨client, query, adapter.answer query rows⟩]

namespace Session

variable {σ κ : Type} {adapter : Adapter σ}

def start (state : σ) : Session adapter κ := ⟨state, fun _ => .idle, fun _ => [], []⟩

def created (session : Session adapter κ) (model : String) : List Record :=
  session.log.filterMap fun exchange => Adapter.created? model exchange.query exchange.answer

def settle (session : Session adapter κ) (exchange : Exchange κ) : Session adapter κ :=
  { session with log := session.log ++ [exchange] }

section Clients

variable [DecidableEq κ]

def setPhase (session : Session adapter κ) (client : κ) (phase : Phase adapter) :
    Session adapter κ :=
  { session with phase := Function.update session.phase client phase }

def tell (session : Session adapter κ) (client : κ) (exchange : Exchange κ) : Session adapter κ :=
  { session with
    phase := Function.update session.phase client .idle
    received := Function.update session.received client (session.received client ++ [exchange]) }

def logOf (session : Session adapter κ) (client : κ) : List (Exchange κ) :=
  session.log.filter (·.client = client)

inductive Step (client : κ) : Session adapter κ → Session adapter κ → Prop
  /-- The query cannot be planned. -/
  | refuse {session : Session adapter κ} {query : Query} {cause : QueryError}
      (hidle : session.phase client = .idle)
      (hplan : query.plan adapter.options adapter.models = .error cause) :
      Step client session
        ((session.settle ⟨client, query, .error cause⟩).tell client ⟨client, query, .error cause⟩)
  | ask {session : Session adapter κ} {query : Query} {request : NativeRequest}
      (hidle : session.phase client = .idle)
      (hplan : query.plan adapter.options adapter.models = .ok request) :
      Step client session (session.setPhase client (.asking query request hplan))
  /-- The request gets lost before it reaches the store. -/
  | lose {session : Session adapter κ} {query : Query} {request : NativeRequest}
      {hplan : query.plan adapter.options adapter.models = .ok request} (cause : StoreError)
      (hasking : session.phase client = .asking query request hplan) :
      Step client session
        ((session.settle ⟨client, query, .error (.store cause)⟩).tell client
          ⟨client, query, .error (.store cause)⟩)
  | access {session : Session adapter κ} {query : Query} {request : NativeRequest}
      {hplan : query.plan adapter.options adapter.models = .ok request}
      {after : σ} {rows : Except StoreError (List Document)}
      (hasking : session.phase client = .asking query request hplan)
      (haccess : request.access adapter.executor session.state = (after, rows)) :
      Step client session
        (({ session with state := after }.settle
          ⟨client, query, adapter.answer query rows⟩).setPhase client (.answered query rows))
  | receive {session : Session adapter κ} {query : Query}
      {rows : Except StoreError (List Document)}
      (hanswered : session.phase client = .answered query rows) :
      Step client session (session.tell client ⟨client, query, adapter.answer query rows⟩)

/-- Any finite interleaving of the clients' steps. -/
def Reaches : Session adapter κ → Session adapter κ → Prop :=
  Relation.ReflTransGen fun before after => ∃ client, Step client before after

/-! ### What the clients are told -/

variable {before after : Session adapter κ} {client other : κ}

/-- A step of one client is nothing to the others. -/
theorem step_frame (step : Step client before after) (hother : other ≠ client) :
    after.phase other = before.phase other ∧ after.received other = before.received other ∧
      after.logOf other = before.logOf other := by
  cases step <;> simp [setPhase, tell, settle, logOf, hother, Ne.symm hother]

/-- A client's part of the log is what it was told, and what it is about to be told. -/
def Told (session : Session adapter κ) : Prop :=
  ∀ client, session.logOf client =
    session.received client ++ (session.phase client).underway client

theorem told_step (h : before.Told) (step : Step client before after) : after.Told := by
  intro other
  by_cases hother : other = client
  · subst hother
    have hclient : before.logOf other =
        before.received other ++ (before.phase other).underway other := h other
    cases step with
    | refuse hidle hplan =>
        rw [hidle] at hclient
        simpa [logOf, settle, tell, Phase.underway] using hclient
    | ask hidle hplan =>
        rw [hidle] at hclient
        simpa [logOf, setPhase, Phase.underway] using hclient
    | lose cause hasking =>
        rw [hasking] at hclient
        simpa [logOf, settle, tell, Phase.underway] using hclient
    | access hasking haccess =>
        rw [hasking] at hclient
        simpa [logOf, settle, setPhase, Phase.underway] using hclient
    | receive hanswered =>
        rw [hanswered] at hclient
        simpa [logOf, tell, Phase.underway] using hclient
  · obtain ⟨hphase, hreceived, hlog⟩ := step_frame step hother
    rw [hphase, hreceived, hlog]
    exact h other

theorem told_of_reaches {state : σ} {session : Session adapter κ}
    (h : Reaches (start state) session) : session.Told := by
  unfold Reaches at h
  induction h with
  | refl => exact fun _ => rfl
  | tail _ step ih =>
      obtain ⟨client, step⟩ := step
      exact told_step ih step

end Clients

/-! ### What the store holds -/

theorem created_settle (session : Session adapter κ) (exchange : Exchange κ) (model : String) :
    (session.settle exchange).created model =
      session.created model ++ (Adapter.created? model exchange.query exchange.answer).toList := by
  simp only [created, settle, List.filterMap_append]
  cases hcreated : Adapter.created? model exchange.query exchange.answer <;> simp [hcreated]

variable {supply : Nat → ObjectId} {models : ModelRegistry} {options : TranslateOptions}

/-- The documents of each model stand for the records that were created in it. -/
def Recorded (session : Session ⟨.store supply, models, options⟩ κ) : Prop :=
  ∀ model schema, models.get? model = some schema →
    (session.state.store.documents model).map (Record.read schema options) = session.created model

variable [DecidableEq κ] {session before after : Session ⟨.store supply, models, options⟩ κ}
  {client : κ}

theorem recorded_step (h : before.Recorded) (step : Step client before after) :
    after.Recorded := by
  intro model schema hmodel
  have hbefore := h model schema hmodel
  cases step with
  | ask | receive => exact hbefore
  | refuse | lose =>
      -- an error creates nothing
      refine hbefore.trans ?_
      exact ((created_settle before _ model).trans (List.append_nil _)).symm
  | @access query request hplan state rows hasking haccess =>
      have hrun : Adapter.run ⟨.store supply, models, options⟩ before.state query =
          (state, Adapter.answer ⟨.store supply, models, options⟩ query rows) := by
        rw [Adapter.run_eq, hplan]
        simp only [haccess]
      have hdocuments := @Adapter.map_read_documents_run supply models options before.state query
        schema model hmodel
      rw [hrun, hbefore] at hdocuments
      exact hdocuments.trans (created_settle { before with state := state }
        ⟨client, query, Adapter.answer ⟨.store supply, models, options⟩ query rows⟩ model).symm

theorem recorded_of_reaches {key : String} (h : Reaches (start ⟨.empty key, 0⟩) session) :
    session.Recorded := by
  unfold Reaches at h
  induction h with
  | refl => exact fun _ _ _ => rfl
  | tail _ step ih =>
      obtain ⟨client, step⟩ := step
      exact recorded_step ih step

/-- Whatever the clients of a store that was empty did, in whatever order, and whatever failed: a
query without constraints finds the records that were created in its model, each once, in the order
in which they were stored; and the answers behind them are those that the clients were told, or are
about to be told. -/
theorem finds_exactly_created {key : String} {query : Query} {schema : ModelSchema}
    (hreaches : Reaches (start ⟨.empty key, 0⟩) session)
    (hmodel : models.get? query.model = some schema)
    (hclause : query.clause = .null ∨ query.clause = .object []) :
    Adapter.find ⟨.store supply, models, options⟩ session.state query =
        .ok (session.created query.model) ∧
      ∀ client, session.logOf client =
        session.received client ++ (session.phase client).underway client := by
  refine ⟨?_, told_of_reaches hreaches⟩
  rw [Adapter.find_eq_map_select hmodel, Adapter.select_all hmodel hclause, Except.map,
    recorded_of_reaches hreaches query.model schema hmodel]

/-- Two clients create a record under the same key at once. The first to reach the store succeeds
and counts the records; the other fails. -/
theorem finds_exactly_created_pets :
    let adapter : Adapter Supplied := ⟨.store .ofNat, .register .empty "pet" .empty, .default⟩
    let record : Record := [("id", .number (.int 1))]
    ∃ session : Session adapter Bool, Reaches (start ⟨.empty "_id", 0⟩) session ∧
      session.log.map (·.client) = [false, true, false] ∧
      (session.received true).map (·.answer.isOk) = [false] ∧
      adapter.find session.state (.of .find "pet") = .ok [record] ∧
      session.logOf false = session.received false ++ (session.phase false).underway false := by
  intro adapter record
  let pet : Query := { Query.of .create "pet" with record? := some record }
  have both : Reaches (start ⟨.empty "_id", 0⟩ : Session adapter Bool) _ :=
    .tail (.tail .refl ⟨true, @Step.ask _ _ adapter _ true _ pet _ rfl rfl⟩)
      ⟨false, @Step.ask _ _ adapter _ false _ pet _ rfl rfl⟩
  have stored : Reaches _ _ :=
    .tail (.tail both ⟨false, .access rfl rfl⟩) ⟨true, .access rfl rfl⟩
  have told : Reaches _ _ :=
    .tail (.tail stored ⟨false, .receive rfl⟩) ⟨true, .receive rfl⟩
  let count : Query := .of (.reduce .count) "pet"
  have counted : Reaches _ _ :=
    .tail (.tail told ⟨false, @Step.ask _ _ adapter _ false _ count _ rfl rfl⟩)
      ⟨false, .access rfl rfl⟩
  obtain ⟨hfind, htold⟩ :=
    @finds_exactly_created _ _ _ _ _ _ _ (.of .find "pet") .empty counted rfl (.inl rfl)
  exact ⟨_, counted, rfl, rfl, hfind, htold false⟩

end Session

end StageThree
