/-!
The arguments of the command line. Flags for all commands may stand before and after the command;
those of the command itself and the files follow it. After two dashes everything is a file.
-/

namespace ModelLinker.CommandLine

/-- What is to be done. -/
inductive Command where
  | check (files : List String)
  | order (files : List String)
  | diff (old new : List String)
  | jsonSchema
deriving DecidableEq, Repr

def Command.name : Command → String
  | .check _ => "check"
  | .order _ => "order"
  | .diff _ _ => "diff"
  | .jsonSchema => "json-schema"

/-- The files that a command reads, in order. -/
def Command.files : Command → List String
  | .check files => files
  | .order files => files
  | .diff old new => old ++ new
  | .jsonSchema => []

/-- A command with the flags that hold for all commands. -/
structure Invocation where
  config : Option String
  logJson : Bool
  warningsAsErrors : Bool
  command : Command
deriving DecidableEq, Repr

/-- What the arguments ask for. -/
inductive Request where
  | run (i : Invocation)
  | help
  | version
deriving DecidableEq, Repr

/-- Why the arguments ask for nothing. -/
inductive UsageError where
  | noCommand
  | unknownCommand (name : String)
  | unknownFlag (flag : String)
  | unexpectedWord (word : String)
  | unexpectedValue (flag : String)
  | noValue (flag : String)
  | emptyValue (argument : String)
  | repeated (flag : String)
  | missing (argument : String)
deriving DecidableEq, Repr

/-! ### words and flags -/

/-- An argument as it is written. -/
inductive Token where
  | word (w : String)
  | dashes
  | long (name : String) (value : Option String)
  | short (letters : List Char)
deriving DecidableEq, Repr

/-- A flag starts with a dash; a long one starts with two, and its value may follow an equals
sign. A dash alone is a word. -/
def Token.ofString (arg : String) : Token :=
  match arg.toList with
  | ['-', '-'] => .dashes
  | '-' :: '-' :: cs =>
    let name := String.ofList (cs.takeWhile (· ≠ '='))
    match cs.dropWhile (· ≠ '=') with
    | [] => .long name none
    | _ :: value => .long name (some (String.ofList value))
  | '-' :: c :: cs => .short (c :: cs)
  | _ => .word arg

/-- The flags for all commands, as far as they were given in one place. -/
structure Shared where
  config : Option String
  logJson : Bool
  warningsAsErrors : Bool
deriving DecidableEq, Repr

namespace Shared

/-- No flags. -/
def none : Shared := ⟨.none, false, false⟩

/-- The flags before the command together with those after it, which count more. -/
def merge (before after : Shared) : Shared :=
  ⟨after.config.or before.config, before.logJson || after.logJson,
    before.warningsAsErrors || after.warningsAsErrors⟩

/-- A settings file. -/
def setConfig (s : Shared) (file : String) : Except UsageError Shared :=
  if s.config.isSome then .error (.repeated "--config")
  else if file.isEmpty then .error (.emptyValue "--config")
  else .ok { s with config := some file }

def setFlag (s : Shared) (name : String) (value : Option String) : Except UsageError Shared :=
  if name = "log-json" then
    if value.isSome then .error (.unexpectedValue "--log-json")
    else if s.logJson then .error (.repeated "--log-json")
    else .ok { s with logJson := true }
  else if name = "warnings-as-errors" then
    if value.isSome then .error (.unexpectedValue "--warnings-as-errors")
    else if s.warningsAsErrors then .error (.repeated "--warnings-as-errors")
    else .ok { s with warningsAsErrors := true }
  else .error (.unknownFlag ("--" ++ name))

end Shared

/-- The argument after a flag, if it can be the value of the flag. -/
def valueOf (flag arg : String) : Except UsageError String :=
  match Token.ofString arg with
  | .word w => .ok w
  | _ => .error (.noValue flag)

/-! ### the arguments of a command -/

/-- What a command was given so far. -/
structure Given where
  shared : Shared
  files : List String
  new : List String

/-- The places that a word can go to. -/
inductive Slot where
  | files
  | new
deriving DecidableEq, Repr

def Given.add (g : Given) (slot : Slot) (word : String) : Given :=
  match slot with
  | .files => { g with files := g.files ++ [word] }
  | .new => { g with new := g.new ++ [word] }

/-- The arguments after a command: help is asked for, or what the command is given. The flag
`takesNew` allows for `--new`. -/
def readGiven (takesNew : Bool) (g : Given) (slot : Slot) :
    List String → Except UsageError (Option Given)
  | [] => .ok (some g)
  | arg :: rest => match Token.ofString arg with
    | .word w => readGiven takesNew (g.add slot w) slot rest
    | .dashes => .ok (some { g with files := g.files ++ rest })
    | .short ('h' :: _) => .ok none
    | .short _ => .error (.unknownFlag arg)
    | .long "help" none => .ok none
    | .long "help" (some _) => .error (.unexpectedValue "--help")
    | .long "config" (some v) => do
      let shared ← g.shared.setConfig v
      readGiven takesNew { g with shared } .files rest
    | .long "config" none => match rest with
      | [] => .error (.noValue "--config")
      | next :: rest => do
        let shared ← g.shared.setConfig (← valueOf "--config" next)
        readGiven takesNew { g with shared } .files rest
    | .long "new" value =>
      if takesNew then match value, rest with
        | some v, rest => readGiven takesNew (g.add .new v) .files rest
        | none, [] => .error (.noValue "--new")
        | none, next :: rest => do
          let v ← valueOf "--new" next
          readGiven takesNew (g.add .new v) .new rest
      else .error (.unknownFlag "--new")
    | .long name value => do
      let shared ← g.shared.setFlag name value
      readGiven takesNew { g with shared } .files rest

/-- Files, of which there has to be one, each with a name. -/
def required (argument : String) (files : List String) : Except UsageError (List String) :=
  if files.isEmpty then .error (.missing argument)
  else if files.any (·.isEmpty) then .error (.emptyValue argument)
  else .ok files

def Given.command (g : Given) : String → Except UsageError Command
  | "check" => (required "FILE" g.files).map .check
  | "order" => (required "FILE" g.files).map .order
  | "diff" => do
    let old ← required "OLD" g.files
    let new ← required "NEW" g.new
    return .diff old new
  | "json-schema" => match g.files with
    | [] => .ok .jsonSchema
    | file :: _ => .error (.unexpectedWord file)
  | name => .error (.unknownCommand name)

/-! ### all arguments -/

def commandNames : List String := ["check", "order", "diff", "json-schema"]

/-- The arguments from the command on. -/
def readCommand (before : Shared) (name : String) (rest : List String) :
    Except UsageError Request :=
  if commandNames.contains name then do
    match ← readGiven (name == "diff") ⟨.none, [], []⟩ .files rest with
    | none => return .help
    | some g =>
      let command ← g.command name
      let shared := before.merge g.shared
      return .run ⟨shared.config, shared.logJson, shared.warningsAsErrors, command⟩
  else if name = "help" then
    match rest with
    | [] => .ok .help
    | [topic] =>
      if (commandNames ++ ["help"]).contains topic then .ok .help
      else .error (.unknownCommand topic)
    | _ :: topic :: _ => .error (.unknownCommand topic)
  else .error (.unknownCommand name)

/-- The arguments after some flags. -/
def readFrom (shared : Shared) : List String → Except UsageError Request
  | [] => .error .noCommand
  | arg :: rest => match Token.ofString arg with
    | .word w => readCommand shared w rest
    | .dashes => .error .noCommand
    | .short ('h' :: _) => .ok .help
    | .short ('V' :: _) => .ok .version
    | .short _ => .error (.unknownFlag arg)
    | .long "help" none => .ok .help
    | .long "version" none => .ok .version
    | .long "help" (some _) => .error (.unexpectedValue "--help")
    | .long "version" (some _) => .error (.unexpectedValue "--version")
    | .long "config" (some v) => do readFrom (← shared.setConfig v) rest
    | .long "config" none => match rest with
      | [] => .error (.noValue "--config")
      | next :: rest => do
        let v ← valueOf "--config" next
        readFrom (← shared.setConfig v) rest
    | .long name value => do readFrom (← shared.setFlag name value) rest

/-- What the arguments ask for. -/
def Request.ofArguments (args : List String) : Except UsageError Request :=
  readFrom .none args

end ModelLinker.CommandLine
