import RuleLexer.Files.Path
import RuleLexer.Files.System

/-!
# Trees of files

A tree lists the files below a directory, and directories that may have no files. Paths are resolved
name by name: a name leads on only from a directory, `.` and the empty name stay where they are, and
`..` leads to the directory above. Above the tree there are directories, of whose other contents
nothing is known, so that nothing is found in them.
-/

namespace RuleLexer

/-- The files below a directory. -/
structure FileTree where
  files : List (List String × Contents)
  /-- The names of paths of further directories. -/
  directories : List (List String)

namespace FileTree

def empty : FileTree := ⟨[], []⟩

/-- Adds a file, or a directory if the path ends in a slash. -/
def add (tree : FileTree) (path : String) (contents : Contents) : FileTree :=
  let names := (Path.names path).filter fun name => name != "" && name != "."
  if path.toList.getLast? == some '/' then { tree with directories := names :: tree.directories }
  else { tree with files := (names, contents) :: tree.files }

/-- What is at a place of the tree. -/
def entryAt (tree : FileTree) (names : List String) : FileEntry :=
  match tree.files.lookup names with
  | some contents => .file contents
  | none =>
    if names.isEmpty || tree.files.any (names.isPrefixOf ·.1) ||
        tree.directories.any (names.isPrefixOf ·) then .directory
    else .absent

/-- A place that a path may lead to. -/
inductive Place
  | inside (names : List String)
  /-- So many directories above the tree. -/
  | above (levels : Nat)

/-- The place that a name leads to. -/
def step? (tree : FileTree) (place : Place) (name : String) : Option Place :=
  match place with
  | .inside names =>
    match tree.entryAt names with
    | .directory =>
      if name = "" ∨ name = "." then some (.inside names)
      else if name = ".." then
        if names.isEmpty then some (.above 1) else some (.inside names.dropLast)
      else some (.inside (names ++ [name]))
    | _ => none
  | .above levels =>
    if name = "" ∨ name = "." then some (.above levels)
    else if name = ".." then some (.above (levels + 1))
    else none

/-- What a path leads to. -/
def entry (tree : FileTree) (path : String) : FileEntry :=
  if path.isEmpty then .absent
  else if Path.isAbsolute path then if path.toList.all (· == '/') then .directory else .absent
  else
    match (Path.names path).foldlM tree.step? (.inside []) with
    | some (.inside names) => tree.entryAt names
    | some (.above _) => .directory
    | none => .absent

def toFileSystem (tree : FileTree) : FileSystem :=
  ⟨tree.entry⟩

end FileTree

end RuleLexer
