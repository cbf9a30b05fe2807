import ModelLinker.Json.Writer
import ModelLinker.Linking

/-!
Events: what a run tells about itself while it works. Every event has a level, the part of the
program it comes from, and named values. The events of a linking run stand in a span of their own.
-/

namespace ModelLinker.Log

/-- How important an event is. -/
inductive Level where
  | error | warn | info | debug | trace
deriving DecidableEq, Repr

/-- The levels in order: the greater, the more there is to tell. -/
def Level.rank : Level → Nat
  | .error => 1
  | .warn => 2
  | .info => 3
  | .debug => 4
  | .trace => 5

def Level.name : Level → String
  | .error => "ERROR"
  | .warn => "WARN"
  | .info => "INFO"
  | .debug => "DEBUG"
  | .trace => "TRACE"

/-- An event. -/
inductive Event where
  | runStarted (command : String)
  | sourceLoading (path : String)
  | sourceRejected (source : String) (errors : Nat)
  | sourceAdded (source : String) (structs enums roles : Nat)
  | linking (structs : Nat) (step : LinkStep)
  | diffComplete (found : Diagnostics)
  | checkFinished (structs : Nat)
  | runFinished

/-! ### linking steps -/

/-- The number of errors as a value of an event. -/
def errorsValue (found : Diagnostics) : String × Json := ("errors", .nat found.errorCount)

/-- The number of warnings as a value of an event. -/
def warningsValue (found : Diagnostics) : String × Json := ("warnings", .nat found.warningCount)

def stepLevel : LinkStep → Level
  | .aborted _ => .warn
  | .failed _ | .completed _ _ => .info
  | _ => .debug

/-- The part of the linker that takes a step. -/
def stepPart : LinkStep → String
  | .resolved _ => "resolve"
  | .uniqueChecked _ => "unique"
  | .rolesLinked _ _ => "roles"
  | .recursionChecked _ => "topology"
  | .joinsAssigned _ => "aliases"
  | .searchesChecked _ => "search"
  | .flagsComputed _ => "flags"
  | .aborted _ | .failed _ | .completed _ _ => "linker"

def stepName : LinkStep → String
  | .resolved _ => "resolve_complete"
  | .uniqueChecked _ => "unique_checked"
  | .rolesLinked _ _ => "roles_complete"
  | .recursionChecked _ => "recursion_checked"
  | .joinsAssigned _ => "aliases_assigned"
  | .searchesChecked _ => "searches_checked"
  | .flagsComputed _ => "flags_computed"
  | .aborted _ => "link_aborted"
  | .failed _ => "link_failed"
  | .completed _ _ => "link_complete"

def stepValues : LinkStep → List (String × Json)
  | .resolved ds => [errorsValue ds, warningsValue ds]
  | .uniqueChecked ds => [errorsValue ds]
  | .rolesLinked n ds => [("roles", .nat n), errorsValue ds, warningsValue ds]
  | .recursionChecked ds => [errorsValue ds]
  | .joinsAssigned n => [("aliases", .nat n)]
  | .searchesChecked ds => [errorsValue ds, warningsValue ds]
  | .flagsComputed n => [("nullrefs", .nat n)]
  | .aborted ds => [errorsValue ds]
  | .failed ds => [errorsValue ds, warningsValue ds]
  | .completed t ds => [("structs", .nat t.nodes), ("edges", .nat t.edges), warningsValue ds]

/-! ### all events -/

/-- The target of the events of the command line. -/
def commandTarget : String := "schemalink"

/-- The target of the events of a part of the linker. -/
def linkerTarget (part : String) : String := "schemalink_core::" ++ part

namespace Event

def level : Event → Level
  | .runStarted _ | .checkFinished _ | .runFinished => .info
  | .sourceLoading _ | .sourceRejected _ _ | .sourceAdded _ _ _ _ => .debug
  | .diffComplete _ => .debug
  | .linking _ step => stepLevel step

/-- Where an event comes from. -/
def target : Event → String
  | .runStarted _ | .sourceLoading _ | .checkFinished _ | .runFinished => commandTarget
  | .sourceRejected _ _ | .sourceAdded _ _ _ _ => linkerTarget "source"
  | .diffComplete _ => linkerTarget "diff"
  | .linking _ step => linkerTarget (stepPart step)

def name : Event → String
  | .runStarted _ => "run_started"
  | .sourceLoading _ => "source_loading"
  | .sourceRejected _ _ => "source_rejected"
  | .sourceAdded _ _ _ _ => "source_added"
  | .diffComplete _ => "diff_complete"
  | .checkFinished _ => "check_finished"
  | .runFinished => "run_finished"
  | .linking _ step => stepName step

/-- The values of an event, without its name. -/
def values : Event → List (String × Json)
  | .runStarted command => [("command", .str command)]
  | .sourceLoading path => [("path", .str path)]
  | .sourceRejected source errors => [("source", .str source), ("errors", .nat errors)]
  | .sourceAdded source structs enums roles =>
    [("source", .str source), ("structs", .nat structs), ("enums", .nat enums),
      ("roles", .nat roles)]
  | .linking _ step => stepValues step
  | .diffComplete ds => [errorsValue ds, warningsValue ds]
  | .checkFinished structs => [("structs", .nat structs)]
  | .runFinished => [("status", .str "success")]

def fields (e : Event) : List (String × Json) := ("event", .str e.name) :: e.values

def record (e : Event) : Json :=
  .obj [("level", .str e.level.name), ("fields", .obj e.fields), ("target", .str e.target)]

def line (e : Event) : String :=
  e.level.name ++ " " ++ e.target ++ ":" ++
    String.join (e.fields.map fun f => " " ++ f.1 ++ "=" ++ f.2.compact)

end Event

/-! ### spans -/

/-- A stretch of work that events fall into: its name, where it comes from, and its one value. -/
structure Span where
  name : String
  target : String
  field : String
  value : Nat
deriving DecidableEq, Repr

def linkSpan (structs : Nat) : Span := ⟨"link", linkerTarget "linker", "structs", structs⟩

/-- The span that an event falls into. -/
def Event.span? : Event → Option Span
  | .linking structs _ => some (linkSpan structs)
  | _ => none

end ModelLinker.Log
