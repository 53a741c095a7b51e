/-!
# File systems

A file system says what a path leads to, at one moment: to nothing, to a directory, to a file, or to
something else, such as a pipe or a device. Reading a file gives all of its bytes, or fails, as it
does without the permission to read or on a device that does not answer. Files are read as a whole,
as text. A path that cannot be followed to its end leads to nothing.

Paths are texts. A path that is not the UTF-8 form of a text is left out.
-/

namespace RuleLexer

/-- Why the operating system does not give the bytes of something that is there. -/
structure SystemFault where
  /-- The description for people. -/
  description : String
  deriving DecidableEq, Repr

/-- What reading something to its end gives. -/
inductive Contents
  | bytes (content : ByteArray)
  | failing (cause : SystemFault)
  deriving Inhabited

instance : Coe ByteArray Contents := ⟨.bytes⟩

/-- What a path leads to. -/
inductive FileEntry
  | absent
  | directory
  | file (contents : Contents)
  /-- Neither a file nor a directory, but something that can be asked for bytes. -/
  | other (contents : Contents)
  deriving Inhabited

/-- A file system at one moment. -/
structure FileSystem where
  entry : String → FileEntry

/-- Why something cannot be read as text. -/
inductive ReadFault
  | notFound
  | isDirectory
  /-- Its bytes cannot be had. -/
  | system (cause : SystemFault)
  /-- Its bytes are not the UTF-8 form of a text. -/
  | invalidText
  deriving DecidableEq, Repr

namespace ReadFault

def message : ReadFault → String
  | notFound => "No such file or directory (os error 2)"
  | isDirectory => "Is a directory (os error 21)"
  | system cause => cause.description
  | invalidText => "stream did not contain valid UTF-8"

end ReadFault

/-- The text with these bytes. -/
def decodeText (content : ByteArray) : Except ReadFault String :=
  match String.fromUTF8? content with
  | some text => .ok text
  | none => .error .invalidText

namespace Contents

def readText : Contents → Except ReadFault String
  | .bytes content => decodeText content
  | .failing cause => .error (.system cause)

end Contents

namespace FileSystem

/-- The file system in which some paths lead to given entries, and all others to nothing. -/
def ofList (entries : List (String × FileEntry)) : FileSystem :=
  ⟨fun path => (entries.lookup path).getD .absent⟩

/-- Whether a path leads to anything. -/
def exists? (files : FileSystem) (path : String) : Bool :=
  match files.entry path with
  | .absent => false
  | _ => true

/-- Whether a path leads to a file, which may be one that cannot be read. -/
def isFile (files : FileSystem) (path : String) : Bool :=
  match files.entry path with
  | .file _ => true
  | _ => false

/-- Reads what a path leads to as text. -/
def readText (files : FileSystem) (path : String) : Except ReadFault String :=
  match files.entry path with
  | .absent => .error .notFound
  | .directory => .error .isDirectory
  | .file contents => contents.readText
  | .other contents => contents.readText

end FileSystem

end RuleLexer
