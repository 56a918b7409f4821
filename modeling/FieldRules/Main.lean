import FieldRules.Command

/-!
# The program

Reads the file that the arguments name, carries out the command and prints what
comes of it.
-/

namespace FieldRules

/-- Why a file could not be read. -/
def readFailure (path : String) : IO.Error → Command.Failure
  | .noFileOrDirectory .. => .inaccessible path Command.noSuchFile
  | e => .inaccessible path (toString e)

/-- Carries out what the arguments ask for. -/
def answer (request : Command.Request) : IO Command.Ending := do
  match request with
  | .eval rules value => return Command.eval rules value
  | .check json path =>
    try
      let bytes ← IO.FS.readBinFile path
      match String.fromUTF8? bytes with
      | some text => return Command.check json text
      | none => return .failed (.inaccessible path "stream did not contain valid UTF-8")
    catch e =>
      return .failed (readFailure path e)

end FieldRules

def main (args : List String) : IO UInt32 := do
  match FieldRules.Command.parse args with
  | none =>
    IO.eprintln FieldRules.Command.usage
    return 2
  | some request =>
    let ending ← FieldRules.answer request
    IO.print ending.output
    match ending.error with
    | some error => IO.eprintln error
    | none => pure ()
    return ending.code.toUInt32
