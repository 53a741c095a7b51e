import RuleLexer.Source.File

/-!
# Source maps

A source map holds the files of a run. Files are numbered from zero in the order in which they are
added.
-/

namespace RuleLexer

/-- The files of a run, in the order in which they were added. -/
structure SourceMap where
  files : Array SourceFile := #[]
  deriving DecidableEq, Repr, Inhabited

namespace SourceMap

def empty : SourceMap := {}

/-- Adds a file; also its identifier, which is the number of files before it. -/
def add (map : SourceMap) (name content : String) : SourceMap × FileId :=
  let id : FileId := ⟨map.files.size⟩
  (⟨map.files.push (.ofText id name content)⟩, id)

def get (map : SourceMap) (id : FileId) : Except SourceError SourceFile :=
  match map.files[id.index]? with
  | some file => .ok file
  | none => .error (.fileNotFound id)

/-- The file that was added is found by its identifier. -/
theorem get_add (map : SourceMap) (name content : String) :
    (map.add name content).1.get (map.add name content).2 =
      .ok (.ofText (map.add name content).2 name content) := by
  simp [get, add]

/-- Adding a file leaves the other ones where they are. -/
theorem get_add_of_get {map : SourceMap} {id : FileId} {file : SourceFile} (name content : String)
    (found : map.get id = .ok file) : (map.add name content).1.get id = .ok file := by
  rw [get] at found
  split at found
  · rename_i present
    have inside := (Array.getElem?_eq_some_iff.mp present).1
    rw [get, add, Array.getElem?_push_lt inside, ← Array.getElem?_eq_getElem inside, present]
    exact found
  · cases found

def count (map : SourceMap) : Nat :=
  map.files.size

end SourceMap

end RuleLexer
