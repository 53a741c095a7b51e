/-!
# Paths

A path is a sequence of names with slashes between them; it is absolute if it begins with a slash.
-/

namespace RuleLexer.Path

/-- Whether a path begins at the root of all files. -/
def isAbsolute (path : String) : Bool :=
  path.toList.head? == some '/'

/-- The path of a file in a directory. An absolute path stands for itself, and the empty directory
is the current one. -/
def join (directory file : String) : String :=
  if isAbsolute file || directory.isEmpty then file
  else if directory.toList.getLast? == some '/' then directory ++ file
  else directory ++ "/" ++ file

/-- The names of a path, given the characters of the current name in reverse. -/
def splitNames (current : List Char) : List Char → List String
  | [] => [String.ofList current.reverse]
  | char :: rest =>
    if char = '/' then String.ofList current.reverse :: splitNames [] rest
    else splitNames (char :: current) rest

/-- The names of a path, the empty ones included. -/
def names (path : String) : List String :=
  splitNames [] path.toList

end RuleLexer.Path
