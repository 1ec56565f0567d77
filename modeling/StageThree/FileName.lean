/-!
The name of a file at the end of its path, and the extension of the name. Parts of a path that are
empty or a single dot say nothing; a path that ends by going up has no file name.
-/

namespace StageThree.FileName

def ofPath? (path : String) : Option String :=
  match ((path.splitOn "/").filter fun part => part ≠ "" && part ≠ ".").getLast? with
  | some name => if name = ".." then none else some name
  | none => none

/-- What follows the last dot, unless the name begins with that dot. -/
def extension? (name : String) : Option String :=
  match (name.splitOn ".").reverse with
  | ending :: before :: rest => if before = "" && rest.isEmpty then none else some ending
  | _ => none

end StageThree.FileName
