import StageThree.Store.Pipeline

/-!
The store: collections of documents in order of insertion. Each document begins with the key field,
and no two documents of a collection have equal keys. Only an insertion changes the store, and only
if it succeeds; a document without a key gets the identifier that the caller supplies.
-/

namespace StageThree

structure Store where
  key : String
  collections : Fields (List Document)

namespace Store

def empty (key : String) : Store := ⟨key, []⟩

instance : Inhabited Store := ⟨empty "_id"⟩

def documents (store : Store) (collection : String) : List Document :=
  (Fields.get? collection store.collections).getD []

def size (store : Store) (collection : String) : Nat := (store.documents collection).length

/-- The document with its key in front; `fresh` stands in for a missing key. -/
def keyFirst (key : String) (fresh : ObjectId) (document : Document) : Document :=
  (key, (Fields.get? key document).getD (.objectId fresh)) :: Fields.erase key document

def keyOf (store : Store) (document : Document) : Native :=
  (Fields.get? store.key document).getD .null

def holdsKey (store : Store) (collection : String) (id : Native) : Bool :=
  (store.documents collection).any fun document =>
    match Fields.get? store.key document with
    | some existing => existing.equal id
    | none => false

/-- Adds a document at the end of a collection, and returns it as it is stored. -/
def insert (store : Store) (collection : String) (fresh : ObjectId) (document : Document) :
    Except Rejection (Store × Document) :=
  let stored := keyFirst store.key fresh document
  let id := store.keyOf stored
  if store.holdsKey collection id then .error (.duplicateKey collection store.key id)
  else
    .ok ({ store with
      collections := Fields.insert collection (store.documents collection ++ [stored])
        store.collections }, stored)

def find (store : Store) (collection : String) (filter : Document) :
    Except Rejection (List Document) := do
  let predicate ← Predicate.compile filter
  return (store.documents collection).filter fun document => predicate.holds document

def aggregate (store : Store) (collection : String) (stages : List Document) :
    Except Rejection (List Document) := do
  let pipeline ← Pipeline.compile stages
  return pipeline.run (store.documents collection)

end Store

end StageThree
