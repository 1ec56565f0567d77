import StageThree.Toml.Basic

/-!
Tables while they are put together. Where a table came from decides what may still be added: a
header defines a table once, a dotted key adds only to tables that dotted keys made, and a value,
once given, is complete.
-/

namespace StageThree.Toml

inductive Origin where
  /-- On the way to the table of a header. -/
  | implied
  /-- On the way to the value of a dotted key. -/
  | dotted
  | defined
  deriving DecidableEq

inductive Tree where
  | value (value : Toml)
  | table (origin : Origin) (entries : List (String × Tree))
  /-- An array of tables, of which the last is still open. -/
  | tables (last : List (String × Tree)) (before : List (List (String × Tree)))

namespace Tree

/-- Changes the table at the end of a path; tables that are missing on the way are made. -/
def change? (way : Origin) (act? : Tree → Option Tree) : List String → Tree → Option Tree
  | [], tree => act? tree
  | name :: path, table origin entries =>
    let put (child : Tree) := table origin (Fields.insert name child entries)
    match Fields.get? name entries with
    | none => (change? way act? path (table way [])).map put
    | some (table childOrigin children) =>
      if way = .dotted ∧ childOrigin = .defined then none
      else (change? way act? path (table childOrigin children)).map put
    | some (tables last before) =>
      if way = .dotted then none
      else
        match change? way act? path (table .defined last) with
        | some (table _ last) => some (put (tables last before))
        | _ => none
    | some (value _) => none
  | _, _ => none

def assign? (path : List String) (name : String) (given : Toml) : Tree → Option Tree :=
  change? .dotted (fun
    | table origin entries =>
      if (origin = .dotted) ≠ (path ≠ []) || Fields.contains name entries then none
      else some (table origin (Fields.insert name (value given) entries))
    | _ => none) path

def define? (path : List String) (name : String) : Tree → Option Tree :=
  change? .implied (fun
    | table origin entries =>
      match Fields.get? name entries with
      | none => some (table origin (Fields.insert name (table .defined []) entries))
      | some (table .implied children) =>
        some (table origin (Fields.insert name (table .defined children) entries))
      | _ => none
    | _ => none) path

def append? (path : List String) (name : String) : Tree → Option Tree :=
  change? .implied (fun
    | table origin entries =>
      match Fields.get? name entries with
      | none => some (table origin (Fields.insert name (tables [] []) entries))
      | some (tables last before) =>
        some (table origin (Fields.insert name (tables [] (last :: before)) entries))
      | _ => none
    | _ => none) path

mutual

def toToml : Tree → Toml
  | value given => given
  | table _ entries => .table (entriesToToml entries)
  | tables last before => .array (tablesToToml before [.table (entriesToToml last)])

def entriesToToml : List (String × Tree) → List (String × Toml)
  | [] => []
  | (name, tree) :: rest => (name, toToml tree) :: entriesToToml rest

def tablesToToml : List (List (String × Tree)) → List Toml → List Toml
  | [], after => after
  | entries :: before, after => tablesToToml before (.table (entriesToToml entries) :: after)

end

end Tree

end StageThree.Toml
