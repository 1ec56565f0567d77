import StageThree.Store.Basic

/-!
What runs native requests. Reading leaves the state alone, by type; inserting may change it. The
store is one executor, over a state that also counts the identifiers it has handed out; executors
that give one answer to everything are others.
-/

namespace StageThree

structure Executor (σ : Type) where
  find : σ → String → Document → Except StoreError (List Document)
  aggregate : σ → String → List Document → Except StoreError (List Document)
  /-- Inserts a document and returns it as it is stored. -/
  insert : σ → String → Document → σ × Except StoreError Document

structure Supplied where
  store : Store
  count : Nat

namespace Supplied

def insert (supply : Nat → ObjectId) (state : Supplied) (collection : String)
    (document : Document) : Supplied × Except StoreError Document :=
  match state.store.insert collection (supply state.count) document with
  | .ok (store, stored) => (⟨store, state.count + 1⟩, .ok stored)
  | .error cause => ({ state with count := state.count + 1 }, .error (.rejected cause))

/-- Inserts documents one after the other, passing over those whose key is taken. -/
def insertAll (supply : Nat → ObjectId) (state : Supplied) (collection : String)
    (documents : List Document) : Supplied :=
  documents.foldl (fun state document => (state.insert supply collection document).1) state

end Supplied

namespace Executor

def rejecting {α : Type} : Except Rejection α → Except StoreError α
  | .ok value => .ok value
  | .error cause => .error (.rejected cause)

def store (supply : Nat → ObjectId) : Executor Supplied where
  find state collection filter := rejecting (state.store.find collection filter)
  aggregate state collection stages := rejecting (state.store.aggregate collection stages)
  insert state collection document := state.insert supply collection document

/-- Answers everything with the same rows, and an insertion with the first of them. -/
def constant {σ : Type} (rows : List Document) : Executor σ where
  find _ _ _ := .ok rows
  aggregate _ _ _ := .ok rows
  insert state _ _ := (state, .ok (rows.head?.getD []))

def failing {σ : Type} (error : StoreError) : Executor σ where
  find _ _ _ := .error error
  aggregate _ _ _ := .error error
  insert state _ _ := (state, .error error)

end Executor

end StageThree
