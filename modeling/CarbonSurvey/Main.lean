import CarbonSurvey.CommandLine.Folder

/-! # The program

Reads the files that the command line names, and prints what comes of it.
-/

namespace CarbonSurvey.CommandLine

/-- The bytes of a file, or why it cannot be read. -/
def fetch (path : String) : IO (Except String ByteArray) := do
  try
    return .ok (← IO.FS.readBinFile path)
  catch
    | .noFileOrDirectory .. => return .error noSuchFile
    | .permissionDenied .. => return .error "Permission denied (os error 13)"
    | .inappropriateType .. => return .error isAFolder
    | problem => return .error (toString problem)

/-- Carries out a script step by step, and gives the code it ends with. -/
def Script.perform : Script Unit → IO UInt32
  | .done () => return 0
  | .exit code => return code.toUInt32
  | .read path next => do
    let content ← fetch path
    (next content).perform
  | .print text next => do
    IO.print text
    next.perform
  | .complain text next => do
    IO.eprint text
    next.perform

end CarbonSurvey.CommandLine

open CarbonSurvey.CommandLine

def main (arguments : List String) : IO UInt32 :=
  (script arguments).perform
