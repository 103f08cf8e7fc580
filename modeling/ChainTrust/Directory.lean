import ChainTrust.Error
import ChainTrust.Bytes

namespace ChainTrust

/-- Contents of files by their paths. -/
abbrev Directory := List (List String × Bytes)

namespace Directory

inductive Place where
  | inside (path : List String)
  | outside
  | file (content : Bytes)

def maxNameLength : Nat := 255

/-- What a name stands for in a directory inside. -/
def enter (d : Directory) (path : List String) (name : String) : Except FileFault Place :=
  if maxNameLength < name.utf8ByteSize then .error .invalidName
  else
    let path := path ++ [name]
    match d.lookup path with
    | some content => .ok (.file content)
    | none => if d.any (path.isPrefixOf ·.1) then .ok (.inside path) else .error .notFound

def step (d : Directory) (place : Place) (name : String) : Except FileFault Place :=
  match place, name with
  | .file _, _ => .error .notADirectory
  | place, "" => .ok place
  | place, "." => .ok place
  | .inside [], ".." => .ok .outside
  | .inside path, ".." => .ok (.inside path.dropLast)
  | .outside, ".." => .ok .outside
  | .outside, _ => .error .notFound
  | .inside path, name => d.enter path name

/-- The content of a file, by a name that may have directories before it. -/
def read (d : Directory) (name : String) : Except FileFault Bytes := do
  if name.toList.contains '\x00' then .error .invalidInput
  else
    let start := if name.toList.head? = some '/' then Place.outside else .inside []
    match ← (name.splitOn "/").foldlM d.step start with
    | .file content => .ok content
    | _ => .error .isADirectory

end Directory
end ChainTrust
