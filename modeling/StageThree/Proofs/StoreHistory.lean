import StageThree.Executor
import StageThree.Proofs.Equality

/-!
What a store looks like after any number of calls. Every document begins with the key, no two
documents of a collection have equal keys, and a call that is not a successful insertion leaves
everything as it was.
-/

namespace StageThree

namespace Store

inductive Call where
  | seed (collection : String) (documents : List Document)
  | insert (collection : String) (document : Document)
  | find (collection : String) (filter : Document)
  | aggregate (collection : String) (stages : List Document)

inductive Answer where
  | seeded
  | inserted (result : Except StoreError Document)
  | rows (result : Except StoreError (List Document))

namespace Call

variable (supply : Nat → ObjectId)

def run (state : Supplied) : Call → Supplied × Answer
  | seed collection documents => (state.insertAll supply collection documents, .seeded)
  | insert collection document =>
    let (after, result) := (Executor.store supply).insert state collection document
    (after, .inserted result)
  | find collection filter => (state, .rows ((Executor.store supply).find state collection filter))
  | aggregate collection stages =>
    (state, .rows ((Executor.store supply).aggregate state collection stages))

def runAll (state : Supplied) (calls : List Call) : Supplied :=
  calls.foldl (fun state call => (call.run supply state).1) state

def offered : Call → List Document
  | seed _ documents => documents
  | insert _ document => [document]
  | _ => []

end Call

/-! ### The invariant -/

/-- Every document begins with its key, and no key is equal to an earlier one. -/
structure Keyed (store : Store) : Prop where
  key_first : ∀ collection, ∀ document ∈ store.documents collection,
    ∃ id rest, document = (store.key, id) :: rest
  distinct : ∀ collection, (store.documents collection).Pairwise fun earlier later =>
    (store.keyOf earlier).equal (store.keyOf later) = false

/-- No two keys of a collection are equal, on whichever side each stands. -/
def KeysApart (store : Store) : Prop :=
  ∀ collection, (store.documents collection).Pairwise fun earlier later =>
    (store.keyOf earlier).equal (store.keyOf later) = false ∧
      (store.keyOf later).equal (store.keyOf earlier) = false

def WellFormed (store : Store) : Prop :=
  ∀ collection, ∀ document ∈ store.documents collection, (Native.document document).WellFormed

def Taken (store : Store) (collection : String) (id : Native) : Prop :=
  ∃ held rest, (store.key, held) :: rest ∈ store.documents collection ∧ held.equal id = true

/-- What inserting a document under a key does to a collection, and what the answer is. -/
structure Inserts (before after : Store) (collection : String) (document : Document) (id : Native)
    (answer : Except StoreError Document) : Prop where
  error_iff : (∃ cause, answer = .error cause) ↔ before.Taken collection id
  of_error : ∀ cause, answer = .error cause →
    cause = .rejected (.duplicateKey collection before.key id) ∧ after = before
  of_ok : ∀ stored, answer = .ok stored →
    stored = (before.key, id) :: document.eraseP (·.1 = before.key) ∧
      after.documents collection = before.documents collection ++ [stored] ∧
      ∀ other, other ≠ collection → after.documents other = before.documents other

variable {store : Store} {collection : String} {document : Document} {fresh : ObjectId}

def idFor (store : Store) (fresh : ObjectId) (document : Document) : Native :=
  (Fields.get? store.key document).getD (.objectId fresh)

theorem keyed_empty (key : String) : Keyed (empty key) :=
  ⟨fun _ _ h => absurd h List.not_mem_nil, fun _ => .nil⟩

theorem wellFormed_empty (key : String) : WellFormed (empty key) :=
  fun _ _ h => absurd h List.not_mem_nil

/-! ### One insertion -/

theorem keyOf_cons (id : Native) (rest : Document) :
    store.keyOf ((store.key, id) :: rest) = id := by
  rw [keyOf, Fields.get?_cons, if_pos rfl]
  rfl

theorem holdsKey_iff (h : Keyed store) {id : Native} :
    store.holdsKey collection id = true ↔ store.Taken collection id := by
  rw [holdsKey, List.any_eq_true]
  constructor
  · rintro ⟨document, hmem, hequal⟩
    obtain ⟨held, rest, rfl⟩ := h.key_first collection document hmem
    rw [Fields.get?_cons, if_pos rfl] at hequal
    exact ⟨held, rest, hmem, hequal⟩
  · rintro ⟨held, rest, hmem, hequal⟩
    refine ⟨_, hmem, ?_⟩
    rw [Fields.get?_cons, if_pos rfl]
    exact hequal

theorem documents_insert (store : Store) (collection other : String) (documents : List Document) :
    Store.documents
        { store with collections := Fields.insert collection documents store.collections } other =
      if collection = other then documents else store.documents other := by
  unfold Store.documents
  split
  · next h =>
    subst h
    rw [Fields.get?_insert_self]
    rfl
  · next h => rw [Fields.get?_insert_of_ne h]

theorem insert_eq_error_iff {cause : Rejection} :
    store.insert collection fresh document = .error cause ↔
      store.holdsKey collection (store.idFor fresh document) = true ∧
        cause = .duplicateKey collection store.key (store.idFor fresh document) := by
  simp only [Store.insert, keyFirst, keyOf_cons, idFor]
  split
  · next h =>
    simp only [h, Except.error.injEq, true_and]
    exact eq_comm
  · next h => simp [h]

theorem insert_eq_ok_iff {after : Store} {stored : Document} :
    store.insert collection fresh document = .ok (after, stored) ↔
      store.holdsKey collection (store.idFor fresh document) = false ∧
        stored = (store.key, store.idFor fresh document) :: Fields.erase store.key document ∧
        after = { store with
          collections := Fields.insert collection (store.documents collection ++ [stored])
            store.collections } := by
  simp only [Store.insert, keyFirst, keyOf_cons, idFor]
  split
  · next h => simp [h]
  · next h =>
    simp only [h, Except.ok.injEq, Prod.mk.injEq, true_and]
    constructor
    · rintro ⟨rfl, rfl⟩
      exact ⟨rfl, rfl⟩
    · rintro ⟨rfl, rfl⟩
      exact ⟨rfl, rfl⟩

theorem keyed_insert {after : Store} {stored : Document} (h : Keyed store)
    (hinsert : store.insert collection fresh document = .ok (after, stored)) : Keyed after := by
  obtain ⟨hfree, hstored, rfl⟩ := insert_eq_ok_iff.mp hinsert
  constructor
  · intro other found hfound
    rw [documents_insert] at hfound
    split at hfound
    · rcases List.mem_append.mp hfound with hold | hnew
      · exact h.key_first collection found hold
      · rw [List.mem_singleton.mp hnew]
        exact ⟨_, _, hstored⟩
    · exact h.key_first other found hfound
  · intro other
    rw [documents_insert]
    split
    · refine List.pairwise_append.mpr ⟨h.distinct collection, List.pairwise_singleton _ _, ?_⟩
      intro earlier hearlier later hlater
      -- the only new pairs end in the new document, whose key was looked for
      obtain ⟨held, rest, rfl⟩ := h.key_first collection earlier hearlier
      rw [List.mem_singleton.mp hlater, hstored]
      show (store.keyOf _).equal (store.keyOf _) = false
      rw [keyOf_cons, keyOf_cons, ← Bool.not_eq_true]
      intro hequal
      have htaken : store.holdsKey collection (store.idFor fresh document) = true :=
        (holdsKey_iff h).mpr ⟨held, rest, hearlier, hequal⟩
      exact Bool.false_ne_true (hfree.symm.trans htaken)
    · exact h.distinct other

theorem wellFormed_keyFirst (key : String) (fresh : ObjectId)
    (h : (Native.document document).WellFormed) :
    (Native.document (keyFirst key fresh document)).WellFormed := by
  obtain ⟨hnames, hvalues⟩ := h
  rw [Native.wellFormedFields_iff] at hvalues
  refine ⟨Fields.wellFormed_cons.mpr ⟨Fields.not_mem_keys_erase hnames,
    Fields.keys_nodup_erase key hnames⟩, Native.wellFormedFields_iff.mpr ?_⟩
  refine List.forall_mem_cons.mpr ⟨?_, fun field hfield => ?_⟩
  · cases hid : Fields.get? key document with
    | none => trivial
    | some id => exact hvalues _ (Fields.mem_of_get? hid)
  · exact hvalues field ((Fields.erase_sublist key document).subset hfield)

theorem wellFormed_insert {after : Store} {stored : Document} (h : WellFormed store)
    (hdocument : (Native.document document).WellFormed)
    (hinsert : store.insert collection fresh document = .ok (after, stored)) :
    WellFormed after := by
  obtain ⟨-, hstored, rfl⟩ := insert_eq_ok_iff.mp hinsert
  intro other found hfound
  rw [documents_insert] at hfound
  split at hfound
  · rcases List.mem_append.mp hfound with hold | hnew
    · exact h collection found hold
    · rw [List.mem_singleton.mp hnew, hstored]
      exact wellFormed_keyFirst store.key fresh hdocument
  · exact h other found hfound

theorem keysApart (h : Keyed store) (hwell : WellFormed store) : KeysApart store := by
  intro collection
  have hkey (document) (hmem : document ∈ store.documents collection) :
      (store.keyOf document).WellFormed := by
    obtain ⟨id, rest, rfl⟩ := h.key_first collection document hmem
    rw [keyOf_cons]
    exact Native.wellFormedFields_iff.mp (hwell collection _ hmem).2 _ (List.mem_cons_self ..)
  refine (h.distinct collection).imp_of_mem fun hearlier hlater hequal => ⟨hequal, ?_⟩
  rw [Native.equal_comm (hkey _ hlater) (hkey _ hearlier)]
  exact hequal

end Store

namespace Supplied

open Store

variable {supply : Nat → ObjectId} {state : Supplied} {collection : String} {document : Document}

/-- An insertion keeps the store, or goes through in it. -/
theorem insert_cases (supply : Nat → ObjectId) (state : Supplied) (collection : String)
    (document : Document) :
    (∃ cause, state.store.insert collection (supply state.count) document = .error cause ∧
      state.insert supply collection document =
        (⟨state.store, state.count + 1⟩, .error (.rejected cause))) ∨
    ∃ after stored,
      state.store.insert collection (supply state.count) document = .ok (after, stored) ∧
        state.insert supply collection document = (⟨after, state.count + 1⟩, .ok stored) := by
  rw [Supplied.insert]
  cases state.store.insert collection (supply state.count) document with
  | error cause => exact .inl ⟨cause, rfl, rfl⟩
  | ok result => exact .inr ⟨result.1, result.2, rfl, rfl⟩

theorem inserts (h : state.store.Keyed) :
    Inserts state.store (state.insert supply collection document).1.store collection document
      (state.store.idFor (supply state.count) document)
      (state.insert supply collection document).2 := by
  obtain ⟨cause, hinsert, heq⟩ | ⟨after, stored, hinsert, heq⟩ :=
    insert_cases supply state collection document
  · obtain ⟨htaken, rfl⟩ := insert_eq_error_iff.mp hinsert
    rw [heq]
    refine ⟨⟨fun _ => (holdsKey_iff h).mp htaken, fun _ => ⟨_, rfl⟩⟩, ?_, ?_⟩
    · rintro cause ⟨⟩
      exact ⟨rfl, rfl⟩
    · rintro stored ⟨⟩
  · obtain ⟨hfree, hstored, rfl⟩ := insert_eq_ok_iff.mp hinsert
    rw [heq]
    refine ⟨⟨?_, fun htaken => ?_⟩, ?_, ?_⟩
    · rintro ⟨cause, ⟨⟩⟩
    · rw [(holdsKey_iff h).mpr htaken] at hfree
      cases hfree
    · rintro cause ⟨⟩
    · rintro stored ⟨⟩
      refine ⟨?_, ?_, fun other hother => ?_⟩
      · rw [hstored, Fields.erase_eq_eraseP]
      · rw [documents_insert, if_pos rfl]
      · rw [documents_insert, if_neg (Ne.symm hother)]

/-- What holds of a store holds after an insertion if it does when the insertion goes through. -/
theorem store_insert_induction {motive : Store → Prop} (h : motive state.store)
    (hok : ∀ after stored,
      state.store.insert collection (supply state.count) document = .ok (after, stored) →
        motive after) :
    motive (state.insert supply collection document).1.store := by
  obtain ⟨cause, -, heq⟩ | ⟨after, stored, hinsert, heq⟩ :=
    insert_cases supply state collection document
  · rw [heq]
    exact h
  · rw [heq]
    exact hok after stored hinsert

theorem key_insert : (state.insert supply collection document).1.store.key = state.store.key := by
  apply store_insert_induction (motive := fun store => store.key = state.store.key) rfl
  intro after stored hinsert
  obtain ⟨-, -, rfl⟩ := insert_eq_ok_iff.mp hinsert
  rfl

theorem keyed_insert (h : state.store.Keyed) :
    (state.insert supply collection document).1.store.Keyed :=
  store_insert_induction h fun _ _ hinsert => Store.keyed_insert h hinsert

theorem wellFormed_insert (hdocument : (Native.document document).WellFormed)
    (h : state.store.WellFormed) :
    (state.insert supply collection document).1.store.WellFormed :=
  store_insert_induction h fun _ _ hinsert => Store.wellFormed_insert h hdocument hinsert

theorem documents_insert_of_ne {other : String} (h : other ≠ collection) :
    (state.insert supply collection document).1.store.documents other =
      state.store.documents other := by
  apply store_insert_induction
    (motive := fun store => store.documents other = state.store.documents other) rfl
  intro after stored hinsert
  obtain ⟨-, -, rfl⟩ := insert_eq_ok_iff.mp hinsert
  rw [Store.documents_insert, if_neg (Ne.symm h)]

/-- What every insertion of a document with a property preserves, all of them together do. -/
theorem insertAll_induction {motive : Supplied → Prop} {p : Document → Prop}
    {documents : List Document} (hdocuments : ∀ document ∈ documents, p document)
    (insert : ∀ state document, p document → motive state →
      motive (state.insert supply collection document).1)
    (h : motive state) : motive (state.insertAll supply collection documents) := by
  induction documents generalizing state with
  | nil => exact h
  | cons document rest ih =>
      simp only [List.forall_mem_cons] at hdocuments
      exact ih hdocuments.2 (insert state document hdocuments.1 h)

end Supplied

/-! ### Runs -/

namespace Store

namespace Call

variable {supply : Nat → ObjectId} {state : Supplied}

theorem runAll_induction {motive : Supplied → Prop} {p : Document → Prop} {calls : List Call}
    (hcalls : ∀ call ∈ calls, ∀ document ∈ call.offered, p document)
    (insert : ∀ state collection document, p document → motive state →
      motive (Supplied.insert supply state collection document).1)
    (h : motive state) : motive (runAll supply state calls) := by
  induction calls generalizing state with
  | nil => exact h
  | cons call rest ih =>
      simp only [List.forall_mem_cons] at hcalls
      refine ih hcalls.2 ?_
      cases call with
      | seed collection documents =>
          exact Supplied.insertAll_induction hcalls.1
            (fun state document => insert state collection document) h
      | insert collection document =>
          exact insert state collection document (hcalls.1 document (List.mem_singleton_self _)) h
      | find | aggregate => exact h

def history (key : String) (supply : Nat → ObjectId) (calls : List Call) : Supplied :=
  runAll supply ⟨empty key, 0⟩ calls

/-- What a call does. A seed inserts its documents one by one, whatever becomes of each. -/
def Effect (supply : Nat → ObjectId) (before : Supplied) (call : Call) : Prop :=
  let (after, answer) := call.run supply before
  match call with
  | seed collection documents =>
    after = runAll supply before (documents.map (.insert collection)) ∧
      ∀ other, other ≠ collection → after.store.documents other = before.store.documents other
  | insert collection document => ∃ result, answer = .inserted result ∧
      Inserts before.store after.store collection document
        (before.store.idFor (supply before.count) document) result
  | find _ _ | aggregate _ _ => after = before

theorem effect (h : state.store.Keyed) (call : Call) : call.Effect supply state := by
  cases call with
  | seed collection documents =>
      refine ⟨?_, fun other hother => ?_⟩
      · rw [runAll, List.foldl_map]
        rfl
      · refine Supplied.insertAll_induction
          (motive := fun after => after.store.documents other = state.store.documents other)
          (p := fun _ => True) (fun _ _ => trivial) (fun after document _ hafter => ?_) rfl
        rw [Supplied.documents_insert_of_ne hother, hafter]
  | insert collection document => exact ⟨_, rfl, Supplied.inserts h⟩
  | find | aggregate => rfl

/-- However a store came about, its keys are in front and distinct, and the next call does no more
than it should. -/
theorem history_keyed (key : String) (supply : Nat → ObjectId) (calls : List Call) :
    (history key supply calls).store.key = key ∧
      (history key supply calls).store.Keyed ∧
      ((∀ call ∈ calls, ∀ document ∈ call.offered, (Native.document document).WellFormed) →
        (history key supply calls).store.KeysApart) ∧
      ∀ call : Call, call.Effect supply (history key supply calls) := by
  have hany : ∀ call ∈ calls, ∀ document ∈ call.offered, True := fun _ _ _ _ => trivial
  have hkey : (history key supply calls).store.key = key :=
    runAll_induction (motive := fun state => state.store.key = key) hany
      (fun state collection document _ h => Supplied.key_insert.trans h) rfl
  have hkeyed : (history key supply calls).store.Keyed :=
    runAll_induction (motive := fun state => state.store.Keyed) hany
      (fun state collection document _ h => Supplied.keyed_insert h) (keyed_empty key)
  refine ⟨hkey, hkeyed, fun hcalls => keysApart hkeyed ?_, effect hkeyed⟩
  exact runAll_induction (motive := fun state => state.store.WellFormed) hcalls
    (fun state collection document h hstate => Supplied.wellFormed_insert h hstate)
    (wellFormed_empty key)

-- the double of the second document is equal to the integer of the first
example : (history "_id" (fun _ => default)
    [.seed "pet" [[("name", .string "Rex"), ("_id", .int32 1)], [("_id", .double (.ofNat 1))]],
      .insert "pet" [("name", .string "Tom")]]).store.documents "pet" =
    [[("_id", .int32 1), ("name", .string "Rex")],
      [("_id", .objectId default), ("name", .string "Tom")]] := by
  rfl

end Call

end Store

end StageThree
