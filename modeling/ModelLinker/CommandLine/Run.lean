import ModelLinker.CommandLine.Arguments
import ModelLinker.Evolution
import ModelLinker.Json.Writer
import ModelLinker.Log.Filter
import ModelLinker.Schema.Writer
import ModelLinker.Settings.Reader

/-!
Running a command: reading the settings, linking the files, reporting what was found, and the exit
status. A run is a value: what it writes, in order, and how it ends. What files there are is given
from outside.
-/

namespace ModelLinker.CommandLine

open Log (Event Filter)

/-- What a run can see: files, and a filter of events that counts more than that of the settings. -/
structure Environment where
  file : String → FileContent
  logFilter : Option String

/-- Something that a run writes: a text on its output, a line about problems, or an event. How help
and misuse are worded is left to whatever writes them. -/
inductive Emission where
  | output (text : String)
  | problem (line : String)
  | event (e : Event)
  | help
  | misuse (e : UsageError)

/-- Why a run does not end well. -/
inductive Failure where
  | file (p : FileProblem)
  | settings (p : SettingsProblem)
  | logFilter
  | linking (found : Diagnostics)
  | incompatible (errors : Nat)
  | warnings (count : Nat)

def Failure.message : Failure → String
  | .file p => p.message
  | .settings p => "invalid settings: " ++ p.message
  | .logFilter => "logging error: invalid filter directive"
  | .linking found => failureMessage found
  | .incompatible errors => "schema change rejected with " ++ toString errors ++ " error(s)"
  | .warnings count => toString count ++ " warning(s) treated as errors"

/-- Work that writes and may fail; what was written before a failure stays. -/
abbrev Work (α : Type) := ExceptT Failure (StateM (List Emission)) α

namespace Work

/-- Write one thing. -/
def emit (e : Emission) : Work Unit := modify (· ++ [e])

def tell (filter : Filter) (e : Event) : Work Unit :=
  if filter.admits e then emit (.event e) else pure ()

/-- Write a line for every diagnostic. -/
def report (found : Diagnostics) : Work Unit := found.forM fun d => emit (.problem d.text)

/-- Stop at warnings, if they count as errors. -/
def enforce (asErrors : Bool) (found : Diagnostics) : Work Unit :=
  if asErrors && 0 < found.warningCount then throw (.warnings found.warningCount) else pure ()

end Work

/-! ### settings -/

def settingsIn (content : FileContent) : Except Failure Settings :=
  match content.text with
  | .error e => .error (.file (.file e))
  | .ok text => (Settings.read text).mapError .settings

/-- Whether a path leads to anything. -/
def isThere : FileContent → Bool
  | .directory | .bytes _ => true
  | .refused found _ _ => found
  | .missing | .notDirectory | .nameTooLong | .nulInName => false

/-- The settings of the named file, or of the default file if there is one. -/
def loadSettings (env : Environment) : Option String → Except Failure Settings
  | some path => settingsIn (env.file path)
  | none =>
    let content := env.file Settings.defaultFile
    if isThere content then settingsIn content else .ok .default

/-- The settings with the flags of the command line. -/
def settingsFor (env : Environment) (i : Invocation) : Except Failure Settings :=
  (loadSettings env i.config).map fun s =>
    { s with
      logJson := s.logJson || i.logJson
      warningsAsErrors := s.warningsAsErrors || i.warningsAsErrors }

/-- The filter of events: that of the environment, if there is one that can be read, else that of
the settings. -/
def filterFor (env : Environment) (settings : Settings) : Except Failure Filter :=
  match env.logFilter.bind Filter.read? with
  | some filter => .ok filter
  | none => match Filter.read? settings.logFilter with
    | some filter => .ok filter
    | none => .error .logFilter

/-! ### commands -/

/-- What is told about a document that was loaded. -/
def loadedEvents (path : String) : Loaded → List Event
  | .rejected violations => [.sourceRejected path violations.length]
  | .unreadable _ => []
  | .document d => [.sourceAdded path d.structs.length d.enums.length d.roles.length]

def addFile (env : Environment) (filter : Filter) (set : SourceSet) (path : String) :
    Work SourceSet := do
  Work.tell filter (.sourceLoading path)
  match (env.file path).document with
  | .error p => throw (.file p)
  | .ok j =>
    let loaded := Loaded.ofJson j
    (loadedEvents path loaded).forM (Work.tell filter)
    return set.addLoaded path loaded

/-- The linked model of some files. If it cannot be had, what was found is reported. -/
def linkFiles (env : Environment) (filter : Filter) (files : List String) : Work Linked := do
  let set ← files.foldlM (addFile env filter) .empty
  let (steps, result) := linkRun set.diagnostics set.model
  steps.forM fun step => Work.tell filter (.linking set.model.structs.size step)
  match result with
  | .ok linked => return linked
  | .error found =>
    Work.report found
    throw (.linking found)

def orderLine (s : Struct) : String := toString s.height ++ "\t" ++ s.name ++ "\n"

def runCommand (env : Environment) (settings : Settings) (filter : Filter) :
    Command → Work Unit
  | .check files => do
    let linked ← linkFiles env filter files
    Work.report linked.diagnostics
    Work.enforce settings.warningsAsErrors linked.diagnostics
    Work.tell filter (.checkFinished linked.model.structs.size)
  | .order files => do
    let linked ← linkFiles env filter files
    Work.report linked.diagnostics
    Work.enforce settings.warningsAsErrors linked.diagnostics
    linked.ordered.forM fun s => Work.emit (.output (orderLine s.2))
  | .diff oldFiles newFiles => do
    let old ← linkFiles env filter oldFiles
    let new ← linkFiles env filter newFiles
    let found := changes old new
    Work.tell filter (.diffComplete found)
    Work.report found
    if !Diagnostics.isOk found then throw (.incompatible found.errorCount)
    Work.enforce settings.warningsAsErrors found
  | .jsonSchema => Work.emit (.output (Schema.sourceJson.indented ++ "\n"))

/-- A command under some settings, with what is told before and after it. -/
def runWith (env : Environment) (settings : Settings) (command : Command) : Work Unit := do
  let filter ← filterFor env settings
  Work.tell filter (.runStarted command.name)
  runCommand env settings filter command
  Work.tell filter .runFinished

/-! ### runs -/

/-- What a run wrote, in order, whether events are written as records, and the exit status. -/
structure Outcome where
  status : Nat
  emissions : List Emission
  logJson : Bool

/-- The outcome of some work. A failure is written last. -/
def Work.outcome (work : Work Unit) (logJson : Bool) : Outcome :=
  match StateT.run (ExceptT.run work) [] with
  | (.ok (), emissions) => ⟨0, emissions, logJson⟩
  | (.error failure, emissions) =>
    ⟨1, emissions ++ [.problem ("error: " ++ failure.message)], logJson⟩

/-- The outcome of a command. -/
def runInvocation (env : Environment) (i : Invocation) : Outcome :=
  match settingsFor env i with
  | .error failure => ⟨1, [.problem ("error: " ++ failure.message)], false⟩
  | .ok settings => (runWith env settings i.command).outcome settings.logJson

/-- What the program calls itself. -/
def versionText : String := "schemalink 0.1.0\n"

/-- The outcome of a call with some arguments. -/
def run (env : Environment) (args : List String) : Outcome :=
  match Request.ofArguments args with
  | .error e => ⟨2, [.misuse e], false⟩
  | .ok .help => ⟨0, [.help], false⟩
  | .ok .version => ⟨0, [.output versionText], false⟩
  | .ok (.run i) => runInvocation env i

end ModelLinker.CommandLine
