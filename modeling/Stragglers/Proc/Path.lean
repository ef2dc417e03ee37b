/-!
# Paths as text

Joining a name to a path, and the last part of a path.
-/

namespace Stragglers.Path

/-- The path with a name behind it; a slash divides them unless the path is empty or ends in one. -/
def join (path name : String) : String :=
  match path.toList.getLast? with
  | none => name
  | some '/' => path ++ name
  | some _ => path ++ "/" ++ name

/-- The path with names behind it. -/
def joinAll (path : String) (names : List String) : String :=
  names.foldl join path

/-- The parts between the slashes, without the empty ones and those that stay in place. -/
def parts (path : String) : List (List Char) :=
  (path.toList.splitOn '/').filter fun part => part != [] && part != ['.']

/-- The name at the end of a path; none if there is none, or if the path ends in a step up. -/
def lastName? (path : String) : Option (List Char) :=
  (parts path).getLast?.filter (· != ['.', '.'])

end Stragglers.Path
