import ReplicaRouter.CommandLine.Run
/-
A directory kept in memory, on which commands can be run without a disk.
-/
namespace ReplicaRouter.CommandLine

/-- The names and contents of the files in a directory. -/
abbrev Directory := List (String × String)

namespace Directory

/-- The system's message about a file, or a directory, that does not exist. -/
def missing : String := "No such file or directory (os error 2)"

/-- The system's message about a directory where a file is meant. -/
def isDirectory : String := "Is a directory (os error 21)"

/-- The system's message about a file where a directory is meant. -/
def notDirectory : String := "Not a directory (os error 20)"

/-- The steps of a path, without those that stay where they are. -/
def steps (path : String) : List String :=
  (path.splitOn "/").filter fun step => step != "" && step != "."

/-- Why a path leads to no file in the directory, whatever files there are, or the name that the
file has. The directory holds no others, and none beside it is known. -/
def name? (d : Directory) (path : String) : Except String String :=
  match steps path with
  | [] => .error (if path.isEmpty then missing else isDirectory)
  | [".."] => .error isDirectory
  | [name] => if path.startsWith "/" then .error missing else .ok name
  | first :: _ => .error (if (d.lookup first).isSome then notDirectory else missing)

/-- The files of the directory. -/
def files : Files (StateM Directory) where
  read path := do
    let d ← get
    return do
      match d.lookup (← d.name? path) with
      | none => throw missing
      | some text => if path.endsWith "/" then throw notDirectory else return text.toUTF8
  write path text := do
    match (← get).name? path with
    | .error e => return .error e
    | .ok name =>
      if path.endsWith "/" then return .error isDirectory
      else
        modify fun d => (name, text) :: d.filter fun entry => entry.1 != name
        return .ok ()

end Directory

end ReplicaRouter.CommandLine
