import EntityGraph.CommandLine.Run

/-!
# The program

Reads files and the environment, runs the command line, and prints what it leaves.
-/

namespace EntityGraph

/-- The number of an error of the operating system, which may be given as its negative. -/
def errorNumber (code : UInt32) : UInt32 :=
  min code (-code)

/-- The cause behind an error of the file system. -/
def FileError.ofIO (error : IO.Error) : FileError :=
  match error with
  | .noFileOrDirectory .. => .notFound
  | .permissionDenied .. => .permissionDenied
  | .inappropriateType _ code _ => if errorNumber code = 20 then .notADirectory else .isADirectory
  | .invalidArgument _ code details =>
    if errorNumber code = 36 then .nameTooLong else .other details
  | unknown => .other (toString unknown)

/-- Read a text file. -/
def readTextFile (path : String) : IO (Except FileError String) := do
  match FileError.ofPath? path with
  | some error => return .error error
  | none =>
    match ← (IO.FS.readBinFile path).toBaseIO with
    | .error error => return .error (.ofIO error)
    | .ok bytes =>
      return match String.fromUTF8? bytes with
        | some text => .ok text
        | none => .error .notText

end EntityGraph

/-- Run the program. -/
def main (arguments : List String) : IO UInt32 := do
  let environment? ← IO.getEnv EntityGraph.environmentName
  let outcome ← EntityGraph.runArguments EntityGraph.readTextFile environment? arguments
  IO.print outcome.output
  IO.eprint outcome.errors
  return outcome.code
