import ModelLinker.Decl.Writer
import ModelLinker.Diagnostic.Cause

/-!
Diagnostics: a cause with the position it is reported at, in the order in which the stages found
them.
-/

namespace ModelLinker

/-- A diagnostic. Only a comparison of two declarations has a second position; then the first is
that of the old declaration. -/
structure Diagnostic where
  cause : Cause
  pos : Option Pos
  related : Option Pos

/-- A cause at a position. -/
def Cause.at (cause : Cause) (pos : Pos) : Diagnostic := ⟨cause, some pos, none⟩

namespace Diagnostic

/-- How grave a diagnostic is. -/
def severity (d : Diagnostic) : Severity := d.cause.severity

/-- The stage that a diagnostic comes from. -/
def channel (d : Diagnostic) : Channel := d.cause.channel

/-- The wording of a diagnostic, without its positions. -/
def message (d : Diagnostic) : String := d.cause.message

/-- Errors and fatal errors; warnings never stand in the way. -/
def isError (d : Diagnostic) : Bool := d.severity != .warning

/-- Warnings. -/
def isWarning (d : Diagnostic) : Bool := d.severity == .warning

/-- Fatal errors. -/
def isFatal (d : Diagnostic) : Bool := d.severity == .fatal

/-- The line that a reader sees. -/
def text (d : Diagnostic) : String :=
  let place := match d.pos, d.related with
    | some old, some new => old.text ++ " -> " ++ new.text ++ ": "
    | some pos, none => pos.text ++ ": "
    | none, _ => ""
  place ++ Keyword.word d.severity ++ ": " ++ d.message

def members (d : Diagnostic) : List (String × Json) :=
  [("severity", Keyword.toJson d.severity), ("channel", Keyword.toJson d.channel),
    ("pos", .opt Pos.toJson d.pos), ("related", .opt Pos.toJson d.related),
    ("message", .str d.message)]

def toJson (d : Diagnostic) : Json := .obj d.members

end Diagnostic

/-- Diagnostics in the order in which they were found. -/
abbrev Diagnostics := List Diagnostic

namespace Diagnostics

def isOk (ds : Diagnostics) : Bool := !ds.any Diagnostic.isError

def hasFatal (ds : Diagnostics) : Bool := ds.any Diagnostic.isFatal

/-- The errors, in order. -/
def errors (ds : Diagnostics) : Diagnostics := ds.filter Diagnostic.isError

/-- The warnings, in order. -/
def warnings (ds : Diagnostics) : Diagnostics := ds.filter Diagnostic.isWarning

/-- How many errors there are. -/
def errorCount (ds : Diagnostics) : Nat := ds.countP Diagnostic.isError

/-- How many warnings there are. -/
def warningCount (ds : Diagnostics) : Nat := ds.countP Diagnostic.isWarning

/-- How many errors come from one stage. -/
def errorsIn (ds : Diagnostics) (c : Channel) : Nat :=
  ds.countP fun d => d.isError && d.channel == c

theorem isOk_iff_forall {ds : Diagnostics} : isOk ds = true ↔ ∀ d ∈ ds, d.isError = false := by
  simp [isOk]

@[simp] theorem isOk_nil : isOk [] = true := rfl

@[simp] theorem isOk_cons (d : Diagnostic) (ds : Diagnostics) :
    isOk (d :: ds) = (!d.isError && isOk ds) := by
  simp [isOk]

@[simp] theorem isOk_append (a b : Diagnostics) : isOk (a ++ b) = (isOk a && isOk b) := by
  simp [isOk]

@[simp] theorem isOk_flatMap {α : Type} (xs : List α) (f : α → Diagnostics) :
    isOk (xs.flatMap f) = true ↔ ∀ x ∈ xs, isOk (f x) = true := by
  simp only [isOk_iff_forall, List.mem_flatMap]
  grind

/-- What a cause comes to depends on its gravity alone. -/
@[simp] theorem isError_at (c : Cause) (pos : Pos) :
    (c.at pos).isError = (c.severity != .warning) := rfl

theorem hasFatal_append (a b : Diagnostics) :
    hasFatal (a ++ b) = (hasFatal a || hasFatal b) := by
  simp [hasFatal]

theorem warningCount_append (a b : Diagnostics) :
    warningCount (a ++ b) = warningCount a + warningCount b := by
  simp [warningCount]

/-- Diagnostics are in order if none of them counts as an error. -/
theorem isOk_iff (ds : Diagnostics) : isOk ds = true ↔ errorCount ds = 0 := by
  simp [isOk, errorCount, List.countP_eq_zero]

def toJson (ds : Diagnostics) : Json := .obj [("items", .list Diagnostic.toJson ds)]

end Diagnostics

end ModelLinker
