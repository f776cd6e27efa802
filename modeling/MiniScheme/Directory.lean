import MiniScheme.Error

/- A working directory of regular files, and what opening a path in it gives. A
   path is followed component by component: an empty component and `.` stay, `..`
   leaves for a directory of which nothing is known, and nothing can be found
   below a file. -/
namespace MiniScheme

/-- The files of a directory with their bytes. -/
structure Directory where
  files : List (String × ByteArray)

namespace Directory

/-- Where following a path has led. -/
inductive Place where
  | inside
  | outside
  | file (content : ByteArray)

/-- The longest file name, in bytes. -/
def nameLimit : Nat := 255

/-- The longest path, in bytes. -/
def pathLimit : Nat := 4095

/-- Follows the components of a path. -/
def follow (d : Directory) : Place → List String → Except LoadFailure ByteArray
  | .file content, [] => .ok content
  | .file _, _ :: _ => .error .notDirectory
  | _, [] => .error .isDirectory
  | place, name :: rest =>
    if name = "" || name = "." then d.follow place rest
    else if name = ".." then d.follow .outside rest
    else if nameLimit < name.utf8ByteSize then .error .nameTooLong
    else
      match place with
      | .inside =>
        match d.files.lookup name with
        | some content => d.follow (.file content) rest
        | none => .error .noSuchFile
      | _ => .error .noSuchFile

def bytes (d : Directory) (path : String) : Except LoadFailure ByteArray :=
  if path.toList.contains '\x00' then .error .nameWithNul
  else if path = "" then .error .noSuchFile
  else if pathLimit < path.utf8ByteSize then .error .nameTooLong
  else d.follow (if path.startsWith "/" then .outside else .inside) (path.splitOn "/")

def read (d : Directory) (path : String) : Except LoadFailure String :=
  match d.bytes path with
  | .error e => .error e
  | .ok content =>
    match String.fromUTF8? content with
    | some text => .ok text
    | none => .error .notUtf8

end Directory

end MiniScheme
