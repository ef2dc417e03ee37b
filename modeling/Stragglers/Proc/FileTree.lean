import Stragglers.Failure

/-!
# File trees

The files below a directory, and how they are read: a path that does not lead to a file, or to a file that holds no text,
fails in the way the system does.
-/

namespace Stragglers

/-- A file with its bytes, or a directory with what lies in it under each name. -/
inductive FileTree where
  | file (content : ByteArray)
  | directory (children : List (String × FileTree))

namespace FileTree

/-- A directory with nothing in it. -/
def empty : FileTree :=
  .directory []

/-- What lies at the end of a path. -/
def at? : FileTree → List String → Except ReadFailure FileTree
  | t, [] => .ok t
  | .file _, _ :: _ => .error .notDirectory
  | .directory children, name :: path =>
    match children.lookup name with
    | some t => t.at? path
    | none => .error .missing

/-- The text of the file at the end of a path. -/
def readText (t : FileTree) (path : List String) : Except ReadFailure String :=
  match t.at? path with
  | .error e => .error e
  | .ok (.directory _) => .error .isDirectory
  | .ok (.file content) =>
    match String.fromUTF8? content with
    | some s => .ok s
    | none => .error .notText

/-- What lies in the directory at the end of a path. -/
def list (t : FileTree) (path : List String) : Except ReadFailure (List (String × FileTree)) :=
  match t.at? path with
  | .error e => .error e
  | .ok (.file _) => .error .notDirectory
  | .ok (.directory children) => .ok children

/-- The children with what lies under one name replaced, or taken away. -/
def replaceChild (name : String) (new : Option FileTree) : List (String × FileTree) → List (String × FileTree)
  | [] => (new.map (name, ·)).toList
  | (n, t) :: children =>
    if n = name then (new.map (name, ·)).toList ++ children else (n, t) :: replaceChild name new children

/-- The tree with something put at the end of a path; the directories on the way are made as they are needed. -/
def put (new : FileTree) : FileTree → List String → FileTree
  | _, [] => new
  | .file content, _ :: _ => .file content
  | .directory children, name :: path =>
    .directory (replaceChild name (some (put new ((children.lookup name).getD empty) path)) children)

/-- The tree with a directory at the end of a path; one that is there stays as it is. -/
def makeDirectory (t : FileTree) (path : List String) : FileTree :=
  match t.at? path with
  | .ok (.directory _) => t
  | _ => put empty t path

/-- The tree without what lies at the end of a path. -/
def remove : FileTree → List String → FileTree
  | t, [] => t
  | .file content, _ :: _ => .file content
  | .directory children, [name] => .directory (replaceChild name none children)
  | .directory children, name :: path =>
    match children.lookup name with
    | some t => .directory (replaceChild name (some (t.remove path)) children)
    | none => .directory children

end FileTree

end Stragglers
