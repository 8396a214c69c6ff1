/-!
# Folders

A folder that holds at most one file, as far as reading by name goes: a name leads to that file, to
a folder on the way, or nowhere. Names are limited in length and hold no null character.
-/

namespace ConnectorProfiles

/-- Why a file cannot be read. -/
inductive FileFault where
  | notFound
  | isFolder
  | nameTooLong
  | nullInName
  | notUtf8
  deriving DecidableEq, Repr

/-- The wording of a fault. -/
def FileFault.message : FileFault → String
  | .notFound => "No such file or directory (os error 2)"
  | .isFolder => "Is a directory (os error 21)"
  | .nameTooLong => "File name too long (os error 36)"
  | .nullInName => "file name contained an unexpected NUL byte"
  | .notUtf8 => "stream did not contain valid UTF-8"

/-- A folder with at most one file in it or below it. -/
structure Folder where
  file : Option (String × List UInt8)

namespace Folder

/-- The most bytes of a whole name. -/
def maxName : Nat := 4095

/-- The most bytes of a name between slashes. -/
def maxPart : Nat := 255

/-- Where a name leads that is not the name of a file. -/
def follow : List String → FileFault
  | [] => .isFolder
  | part :: rest =>
    if part = "" ∨ part = "." ∨ part = ".." then follow rest
    else if maxPart < part.utf8ByteSize then .nameTooLong
    else .notFound

/-- The bytes of the file of a name. -/
def read (folder : Folder) (name : String) : Except FileFault (List UInt8) :=
  if '\x00' ∈ name.toList then .error .nullInName
  else if name = "" then .error .notFound
  else if maxName < name.utf8ByteSize then .error .nameTooLong
  else
    match folder.file with
    | some (path, bytes) =>
      if path = name then .ok bytes else .error (follow (name.splitOn "/"))
    | none => .error (follow (name.splitOn "/"))

end Folder

end ConnectorProfiles
