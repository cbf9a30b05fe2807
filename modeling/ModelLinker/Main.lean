import ModelLinker.CommandLine.Run

/-!
The program: it gathers the arguments, the files and the filter of events, and writes what the run
says.
-/

namespace ModelLinker.CommandLine

/-- The number and the reason of an error of the system. -/
def numbered? : IO.Error → Option (UInt32 × String)
  | .alreadyExists _ n reason | .interrupted _ n reason | .noFileOrDirectory _ n reason
  | .invalidArgument _ n reason | .permissionDenied _ n reason | .resourceExhausted _ n reason
  | .inappropriateType _ n reason | .noSuchThing _ n reason | .otherError n reason
  | .resourceBusy n reason | .resourceVanished n reason | .unsupportedOperation n reason
  | .hardwareFault n reason | .unsatisfiedConstraints n reason | .illegalOperation n reason
  | .protocolError n reason | .timeExpired n reason => some (n, reason)
  | .unexpectedEof | .userError _ => none

/-- The system words the commonest reasons like this. -/
def wordings : List (Nat × String) :=
  [(1, "Operation not permitted"), (5, "Input/output error"), (13, "Permission denied"),
    (40, "Too many levels of symbolic links")]

/-- Whether a path leads to anything. -/
def isFound (path : String) : IO Bool := do
  try
    discard (IO.FS.realPath path)
    return true
  catch _ => return false

/-- What a path leads to. -/
def contentAt (path : String) : IO FileContent := do
  if path.contains '\x00' then return .nulInName
  try
    return .bytes (← IO.FS.readBinFile path)
  catch e =>
    let (code, reason) := (numbered? e).getD (0, toString e)
    -- some numbers come with their sign changed
    let number := if code < 0x80000000 then code.toNat else (0 - code).toNat
    match number with
    | 2 => return .missing
    | 20 => return .notDirectory
    | 21 => return .directory
    | 36 => return .nameTooLong
    | _ => return .refused (← isFound path) ((wordings.lookup number).getD reason) number

/-- The paths that a request can read. -/
def pathsOf (args : List String) : List String :=
  match Request.ofArguments args with
  | .ok (.run i) => i.config.toList ++ [Settings.defaultFile] ++ i.command.files
  | _ => []

/-- How the program is called. -/
def usage : String := "Usage: schemalink [OPTIONS] <COMMAND>"

/-- Write one thing. -/
def write (logJson : Bool) : Emission → IO Unit
  | .output text => IO.print text
  | .problem line => IO.eprintln line
  | .event e => IO.eprintln (if logJson then e.record.compact else e.line)
  | .help => IO.println usage
  | .misuse _ => IO.eprintln usage

end ModelLinker.CommandLine

open ModelLinker CommandLine in
/-- Runs the command that the arguments name. -/
def main (args : List String) : IO UInt32 := do
  let files ← (pathsOf args).mapM fun path => return (path, ← contentAt path)
  let env : Environment :=
    { file := fun path => (files.lookup path).getD .missing
      logFilter := ← IO.getEnv "RUST_LOG" }
  let outcome := run env args
  outcome.emissions.forM (write outcome.logJson)
  return outcome.status.toUInt32
