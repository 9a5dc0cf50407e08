import Chip8.Error

/-!
# A directory and the paths into it

What comes of opening a path where only one directory is known.  A path that is too long is
refused at once.  Any other is followed name by name; `.` and an empty name stay where they
are, `..` leads out of what is known, and a name that is not known is not found.  A file has
no names below it.
-/

namespace Chip8

/-- What comes of opening a path and reading it to its end. -/
inductive Opened where
  /-- It cannot be opened. -/
  | refused (reason : FileError)
  /-- It can be opened and not read. -/
  | unreadable (reason : FileError)
  | bytes (content : List UInt8)
deriving DecidableEq, Inhabited

/-- A directory of files. -/
structure Directory where
  files : List (String × List UInt8)

namespace Directory

/-- Where the names read so far lead to. -/
inductive Place where
  /-- The directory. -/
  | inside
  /-- A directory above it. -/
  | outside
  | file (content : List UInt8)

def maxNameBytes : Nat := 255

def maxPathBytes : Nat := 4095

/-- The refusal of a name or a path that is too long. -/
def tooLong : FileError := .other 36 "InvalidFilename" "File name too long"

def follow (d : Directory) (name : String) : Place → Except FileError Place
  | .file _ => .error .notADirectory
  | p =>
    if name = "" ∨ name = "." then .ok p
    else if name = ".." then .ok .outside
    else if maxNameBytes < name.utf8ByteSize then .error tooLong
    else match p with
      | .inside =>
        match d.files.lookup name with
        | some content => .ok (.file content)
        | none => .error .notFound
      | _ => .error .notFound

def walk (d : Directory) : List String → Place → Except FileError Place
  | [], p => .ok p
  | name :: rest, p => do d.walk rest (← d.follow name p)

def openPath (d : Directory) (path : String) : Opened :=
  if path = "" then .refused .notFound
  else if maxPathBytes < path.utf8ByteSize then .refused tooLong
  else
    let start := if path.startsWith "/" then Place.outside else Place.inside
    match d.walk (path.splitOn "/") start with
    | .error e => .refused e
    | .ok (.file content) => .bytes content
    | .ok _ => .unreadable .isADirectory

end Directory

end Chip8
