import Mathlib.Algebra.Group.Nat.Defs
import StageThree.Proofs.Sessions

/-!
What planning shows is what running does. A command holds all that its request says, so that it can
be submitted in place of the request (`Executor.submit?_toCommand`). What comes of it is what comes
of the query, for one query as for a list of them (`Adapter.after_eq_replay`).
-/

namespace StageThree

/-! ### Submitting a command -/

namespace Executor

variable {σ : Type} (executor : Executor σ) (state : σ)

/-- What comes of a command, if it is one. An inserted document is its only row. -/
def submit? : Document → Option (σ × Except StoreError (List Document))
  | [("find", .string collection), ("filter", .document filter)] =>
    some (state, executor.find state collection filter)
  | [("aggregate", .string collection), ("pipeline", .array stages)] =>
    (stages.mapM Native.asDocument?).map fun stages =>
      (state, executor.aggregate state collection stages)
  | [("insert", .string collection), ("documents", .array [.document document])] =>
    let (state, stored) := executor.insert state collection document
    some (state, stored.map ([·]))
  | _ => none

def replay (commands : List Document) : σ :=
  commands.foldl (fun state command => ((executor.submit? state command).map (·.1)).getD state)
    state

theorem mapM_asDocument? (documents : List Document) :
    (documents.map Native.document).mapM Native.asDocument? = some documents := by
  induction documents with
  | nil => rfl
  | cons document rest ih => simp [Native.asDocument?, ih]

/-- A command asks for the access that its request makes. -/
theorem submit?_toCommand (request : NativeRequest) :
    executor.submit? state request.toCommand = some (request.access executor state) := by
  obtain ⟨collection, request⟩ := request
  cases request with
  | find filter => rfl
  | aggregate plan =>
      simp only [NativeRequest.toCommand, Request.name, Request.argument, submit?,
        mapM_asDocument?, Option.map_some, NativeRequest.access]
  | insert document => rfl

end Executor

/-! ### Reading the answer back -/

theorem Double.wholeUpTo_le (limit : Nat) (x : Double) : x.wholeUpTo limit ≤ limit := by
  unfold wholeUpTo
  split
  · exact Nat.zero_le limit
  · split
    · exact Nat.le_refl limit
    · split <;> exact Nat.min_le_left ..

theorem Number.exists_ofNat? {n : Nat} (h : n < 2 ^ 64) : ∃ number, ofNat? n = some number := by
  unfold ofNat?
  split
  · exact ⟨_, rfl⟩
  · next hlarge =>
    have hvalue : (UInt64.ofNat n).toNat = n := UInt64.toNat_ofNat_of_lt' h
    rw [dif_pos ⟨h, by omega⟩]
    exact ⟨_, rfl⟩

namespace Adapter

variable {σ : Type}

/-- What the caller of a method gets when the store has answered: the documents as records, the
stored document as a record, the count as a natural number, the value of a reduction as a generic
one, or the store's error. -/
inductive Answers (schema : ModelSchema) (options : TranslateOptions) :
    Method → Except StoreError (List Document) → Except QueryError QueryOutput → Prop
  | failed {method : Method} {cause : StoreError} :
      Answers schema options method (.error cause) (.error (.store cause))
  | found {rows : List Document} :
      Answers schema options .find (.ok rows)
        (.ok (.records (rows.map (Record.read schema options))))
  | stored {document : Document} :
      Answers schema options .create (.ok [document])
        (.ok (.record (Record.read schema options document)))
  | counted {rows : List Document} {number : Number}
      (hnumber : Number.ofNat? (countOf (Reduction.count.ofRows rows)) = some number) :
      Answers schema options (.reduce .count) (.ok rows) (.ok (.value (.number number)))
  | reduced {rows : List Document} {kind : Reduction} (hkind : kind ≠ .count) :
      Answers schema options (.reduce kind) (.ok rows)
        (.ok (.value (Coercion.generic (kind.ofRows rows))))

theorem countOf_lt (value : Native) : countOf value < 2 ^ 64 := by
  cases value with
  | int32 n =>
      have hn := n.toInt_lt
      simp only [countOf]
      omega
  | int64 n =>
      have hn := n.toInt_lt
      simp only [countOf]
      omega
  | double x => exact Nat.lt_succ_of_le (x.wholeUpTo_le _)
  | _ => exact Nat.two_pow_pos 64

theorem Answers.unique {schema : ModelSchema} {options : TranslateOptions} {method : Method}
    {rows : Except StoreError (List Document)} {first second : Except QueryError QueryOutput}
    (hfirst : Answers schema options method rows first)
    (hsecond : Answers schema options method rows second) : first = second := by
  cases hfirst with
  | failed | found | stored => cases hsecond; rfl
  | counted hnumber =>
      cases hsecond with
      | counted hother => rw [Option.some.inj (hnumber.symm.trans hother)]
      | reduced hkind => exact absurd rfl hkind
  | reduced hkind =>
      cases hsecond with
      | counted => exact absurd rfl hkind
      | reduced => rfl

theorem answers_output (schema : ModelSchema) (options : TranslateOptions) {method : Method}
    {rows : List Document} (hrows : method = .create → ∃ document, rows = [document]) :
    Answers schema options method (.ok rows) (.ok (output schema options rows method)) := by
  cases method with
  | find => exact .found
  | create =>
      obtain ⟨document, rfl⟩ := hrows rfl
      exact .stored
  | reduce kind =>
      cases kind with
      | count =>
          obtain ⟨number, hnumber⟩ :=
            Number.exists_ofNat? (countOf_lt (Reduction.count.ofRows rows))
          simp only [output, Adapter.reduced, hnumber, Option.getD_some]
          exact .counted hnumber
      | sum | avg | min | max => exact .reduced nofun

/-! ### Running a query -/

theorem plan_eq_ok {models : ModelRegistry} {options : TranslateOptions} {query : Query}
    {request : NativeRequest} (h : query.plan options models = .ok request) :
    ∃ schema, models.get? query.model = some schema ∧ request.collection = query.model ∧
      query.planRequest schema options = .ok request.request := by
  simp only [Query.plan, Except.bind_eq_ok_iff, Except.pure_eq_ok_iff] at h
  obtain ⟨schema, hschema, planned, hplanned, rfl⟩ := h
  refine ⟨schema, ?_, rfl, hplanned⟩
  unfold Query.resolve at hschema
  split at hschema
  · next hmodel =>
    cases hschema
    exact hmodel
  · cases hschema

theorem exists_insert_of_plan {models : ModelRegistry} {options : TranslateOptions} {query : Query}
    {request : NativeRequest} (h : query.plan options models = .ok request)
    (hmethod : query.method = .create) : ∃ document, request.request = .insert document := by
  obtain ⟨schema, -, -, hrequest⟩ := plan_eq_ok h
  rw [Query.planRequest, hmethod] at hrequest
  obtain ⟨document, -, heq⟩ := Except.map_eq_ok_iff.mp hrequest
  exact ⟨document, heq.symm⟩

theorem answers_access (adapter : Adapter σ) (state : σ) {query : Query} {request : NativeRequest}
    {schema : ModelSchema} (hmodel : adapter.models.get? query.model = some schema)
    (hplan : query.plan adapter.options adapter.models = .ok request) :
    Answers schema adapter.options query.method (request.access adapter.executor state).2
      (adapter.answer query (request.access adapter.executor state).2) := by
  simp only [answer, Query.resolve, hmodel, Except.ok_bind]
  cases hrows : (request.access adapter.executor state).2 with
  | error cause => exact .failed
  | ok rows =>
      refine answers_output schema adapter.options fun hmethod => ?_
      obtain ⟨document, hinsert⟩ := exists_insert_of_plan hplan hmethod
      simp only [NativeRequest.access, hinsert] at hrows
      obtain ⟨stored, -, rfl⟩ := Except.map_eq_ok_iff.mp hrows
      exact ⟨stored, rfl⟩

/-- A query that cannot be planned fails for the reason that planning gives, and leaves the state
alone. Any other query ends in the state in which its command ends when that is submitted, and is
answered by what the command's answer means. -/
theorem run_submits (adapter : Adapter σ) (state : σ) (query : Query) :
    (∀ cause, query.plan adapter.options adapter.models = .error cause →
      adapter.run state query = (state, .error cause)) ∧
    ∀ request, query.plan adapter.options adapter.models = .ok request →
      ∃ schema rows, adapter.models.get? query.model = some schema ∧
        request.collection = query.model ∧
        adapter.executor.submit? state request.toCommand =
          some ((adapter.run state query).1, rows) ∧
        ∀ answer, (adapter.run state query).2 = answer ↔
          Answers schema adapter.options query.method rows answer := by
  refine ⟨fun cause hplan => ?_, fun request hplan => ?_⟩
  · rw [run_eq, hplan]
  · obtain ⟨schema, hmodel, hcollection, -⟩ := plan_eq_ok hplan
    have hanswers := answers_access adapter state hmodel hplan
    rw [run_eq, hplan]
    refine ⟨schema, _, hmodel, hcollection, adapter.executor.submit?_toCommand state request,
      fun answer => ⟨?_, hanswers.unique⟩⟩
    rintro rfl
    exact hanswers

theorem run_submits_pets :
    let adapter : Adapter Supplied := ⟨.store .ofNat, .register .empty "pet" .empty, .default⟩
    let start : Supplied := ⟨.empty "_id", 0⟩
    let record : Record := [("id", .string "rex")]
    let pet : Query := { Query.of .create "pet" with record? := some record }
    let command : Document :=
      [("insert", .string "pet"), ("documents", .array [.document [("_id", .string "rex")]])]
    adapter.run start (.of .find "cat") = (start, .error (.unknownModel "cat")) ∧
      (pet.plan adapter.options adapter.models).map (·.toCommand) = .ok command ∧
      ∃ document, adapter.executor.submit? start command =
          some ((adapter.run start pet).1, .ok [document]) ∧
        (adapter.run start pet).2 = .ok (.record record) := by
  intro adapter start record pet command
  obtain ⟨hrefused, -⟩ := run_submits adapter start (.of .find "cat")
  obtain ⟨-, hplanned⟩ := run_submits adapter start pet
  obtain ⟨schema, rows, hmodel, -, hsubmit, hanswer⟩ := hplanned _ rfl
  obtain rfl : .empty = schema := Option.some.inj hmodel
  obtain rfl : .ok [[("_id", .string "rex")]] = rows := congrArg Prod.snd (Option.some.inj hsubmit)
  exact ⟨hrefused _ rfl, rfl, _, hsubmit, (hanswer _).mpr .stored⟩

/-! ### Running queries one after the other -/

def command? (adapter : Adapter σ) (query : Query) : Option Document :=
  (query.plan adapter.options adapter.models).toOption.map NativeRequest.toCommand

/-- Queries leave what the commands leave that were planned for them. -/
theorem after_eq_replay (adapter : Adapter σ) (state : σ) (queries : List Query) :
    adapter.after state queries =
      adapter.executor.replay state (queries.filterMap adapter.command?) := by
  unfold after Executor.replay
  induction queries generalizing state with
  | nil => rfl
  | cons query rest ih =>
      rw [List.foldl_cons, ih, run_eq]
      cases hplan : query.plan adapter.options adapter.models with
      | error cause => simp [command?, hplan, Except.toOption]
      | ok request =>
          simp [command?, hplan, Except.toOption, Executor.submit?_toCommand]

end Adapter

end StageThree
