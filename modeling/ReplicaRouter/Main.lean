import ReplicaRouter.CommandLine.Run
/-
The program: runs a command line on the files of the disk, prints its report and answers its exit
code.
-/
namespace ReplicaRouter.CommandLine

/-- The system's number and message for a failed access to a file, where there are any. -/
def systemError? : IO.Error → Option (UInt32 × String)
  | .noFileOrDirectory _ code details => some (code, details)
  | .permissionDenied _ code details => some (code, details)
  | .inappropriateType _ code details => some (code, details)
  | .invalidArgument _ code details => some (code, details)
  | .resourceExhausted _ code details => some (code, details)
  | .resourceBusy code details => some (code, details)
  | .hardwareFault code details => some (code, details)
  | .otherError code details => some (code, details)
  | _ => none

/-- The message for a failed access to a file. -/
def accessMessage (e : IO.Error) : String :=
  match systemError? e with
  | some (code, details) => s!"{details} (os error {code})"
  | none => toString e

def disk : Files IO where
  read path := do
    match ← (do (← IO.FS.Handle.mk path .read).readBinToEnd : IO ByteArray).toBaseIO with
    | .ok bytes => return .ok bytes
    | .error e => return .error (accessMessage e)
  write path text := do
    match ← (IO.FS.writeFile path text).toBaseIO with
    | .ok () => return .ok ()
    | .error e => return .error (accessMessage e)

end ReplicaRouter.CommandLine

def main (words : List String) : IO UInt32 := do
  let report ← ReplicaRouter.CommandLine.run ReplicaRouter.CommandLine.disk "x86_64" words
  report.out.forM IO.println
  report.err.forM IO.eprintln
  return report.code.toUInt32
