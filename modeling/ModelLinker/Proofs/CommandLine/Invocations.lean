import ModelLinker.Proofs.CommandLine.Exits
import ModelLinker.Proofs.Steps

/-!
# How invocations end

Settings and a filter of events are prepared before the command of an invocation runs. What both
come to determines the status of the run, and what it writes apart from events
(`runInvocation_spec`). A run that fails has status 1 and prints nothing (`output_of_failure`);
checking and ordering the same files differ in the output alone (`order_as_check`).
-/

namespace ModelLinker.CommandLine

open Log (Filter)
open Work

/-! ### outcomes -/

/-- The exit status of a result. -/
def statusOf : Except Failure Unit → Nat
  | .ok () => 0
  | .error _ => 1

/-- The last line of a run that fails. -/
def lastLine : Except Failure Unit → List Emission
  | .ok () => []
  | .error f => [.problem ("error: " ++ f.message)]

namespace Emission

/-- The text of an output. -/
def output? : Emission → Option String
  | .output text => some text
  | _ => none

/-- The line about a problem. -/
def problem? : Emission → Option String
  | .problem line => some line
  | _ => none

end Emission

/-- What a run prints on its output. -/
def Outcome.output (o : Outcome) : List String := o.emissions.filterMap Emission.output?

/-- The lines that a run writes about problems. -/
def Outcome.problems (o : Outcome) : List String := o.emissions.filterMap Emission.problem?

theorem outcome_of_says {w : Work Unit} {r : Except Failure Unit} {things : List Emission}
    (h : w.Says r things) (logJson : Bool) :
    (w.outcome logJson).status = statusOf r ∧
      said (w.outcome logJson).emissions = things ++ lastLine r := by
  obtain ⟨written, rfl, hrun⟩ := h
  unfold Work.outcome
  rw [hrun, List.nil_append]
  cases r with
  | ok u => exact ⟨rfl, (List.append_nil _).symm⟩
  | error f => exact ⟨rfl, said_append _ _⟩

/-! ### invocations -/

section Invocations

variable (env : Environment) (i : Invocation)

/-- The settings of an invocation, if its filter can be read. -/
def prepared : Except Failure Settings :=
  match settingsFor env i with
  | .error f => .error f
  | .ok s => (filterFor env s).map fun _ => s

/-- How an invocation ends. -/
def runResult : Except Failure Unit :=
  match prepared env i with
  | .error f => .error f
  | .ok s => commandResult env s.warningsAsErrors i.command

theorem says_lift {α : Type} (x : Except Failure α) : Says (liftM x : Work α) x [] := by
  cases x with
  | ok a => exact says_pure a
  | error f => exact says_throw f

theorem says_runWith {s : Settings} {filter : Filter} (h : filterFor env s = .ok filter) (c : Command) :
    Says (runWith env s c) (commandResult env s.warningsAsErrors c)
      (commandLines env c ++ (commandOutput env s.warningsAsErrors c).map .output) := by
  have hfilter := says_lift (filterFor env s)
  rw [h] at hfilter
  unfold runWith
  rw [h]
  refine hfilter.bind ?_
  refine (says_tell filter _).bind ?_
  have hcommand := says_runCommand env s filter c
  cases hresult : commandResult env s.warningsAsErrors c with
  | error f =>
    rw [hresult] at hcommand
    exact hcommand.bind_error
  | ok u =>
    rw [hresult] at hcommand
    have hend := hcommand.bind (k := fun _ => _) (says_tell filter .runFinished)
    rwa [List.append_nil] at hend

/-- What an invocation says before its last line. -/
def runSays : List Emission :=
  match prepared env i with
  | .error _ => []
  | .ok s => commandLines env i.command ++
    (commandOutput env s.warningsAsErrors i.command).map .output

theorem runInvocation_spec :
    (runInvocation env i).status = statusOf (runResult env i) ∧
      said (runInvocation env i).emissions = runSays env i ++ lastLine (runResult env i) := by
  unfold runInvocation runResult runSays prepared
  cases settingsFor env i with
  | error f => exact ⟨rfl, rfl⟩
  | ok s =>
    dsimp only
    cases hfilter : filterFor env s with
    | ok filter => exact outcome_of_says (says_runWith env hfilter i.command) s.logJson
    | error f =>
      have hfails : Says (runWith env s i.command) (.error f) [] := by
        have hlift := says_lift (filterFor env s)
        rw [hfilter] at hlift
        unfold runWith
        rw [hfilter]
        exact hlift.bind_error
      exact outcome_of_says hfails s.logJson

end Invocations

/-! ### the output -/

section Output

variable {env : Environment} {i : Invocation}

theorem filterMap_said {α : Type} {f : Emission → Option α} (h : ∀ e, e.isEvent = true → f e = none)
    (emissions : List Emission) : (said emissions).filterMap f = emissions.filterMap f := by
  rw [said, List.filterMap_filter]
  refine List.filterMap_congr fun e _ => ?_
  cases he : e.isEvent with
  | true => simp [h e he]
  | false => simp

theorem Outcome.output_eq (o : Outcome) : o.output = (said o.emissions).filterMap Emission.output? := by
  refine (filterMap_said (fun e he => ?_) _).symm
  cases e <;> first | rfl | cases he

theorem Outcome.problems_eq (o : Outcome) :
    o.problems = (said o.emissions).filterMap Emission.problem? := by
  refine (filterMap_said (fun e he => ?_) _).symm
  cases e <;> first | rfl | cases he

/-- A command reports nothing but diagnostics. -/
theorem exists_commandLines (env : Environment) (c : Command) :
    ∃ found, commandLines env c = lines found := by
  have hfails : ∀ f, ∃ found, failureLines f = lines found := fun f => by
    cases f <;> first | exact ⟨_, rfl⟩ | exact ⟨[], rfl⟩
  have hfiles : ∀ files, ∃ found, fileLines env files = lines found := fun files => by
    unfold fileLines
    split
    · exact ⟨_, rfl⟩
    · exact hfails _
  cases c with
  | check files => exact hfiles files
  | order files => exact hfiles files
  | diff old new =>
    simp only [commandLines, pairLines]
    split
    · exact hfails _
    · exact hfails _
    · exact ⟨_, rfl⟩
  | jsonSchema => exact ⟨[], rfl⟩

theorem filterMap_output_lines (found : Diagnostics) :
    (lines found).filterMap Emission.output? = [] := by
  simp [lines, List.filterMap_map, Emission.output?]

theorem filterMap_output_lastLine (r : Except Failure Unit) :
    (lastLine r).filterMap Emission.output? = [] := by
  cases r <;> rfl

/-- What is printed is the output of the command, if there are settings. -/
theorem output_runInvocation : (runInvocation env i).output =
    match prepared env i with
    | .error _ => []
    | .ok s => commandOutput env s.warningsAsErrors i.command := by
  rw [Outcome.output_eq, (runInvocation_spec env i).2, List.filterMap_append,
    filterMap_output_lastLine, List.append_nil, runSays]
  cases prepared env i with
  | error f => rfl
  | ok s =>
    obtain ⟨found, hlines⟩ := exists_commandLines env i.command
    dsimp only
    rw [hlines, List.filterMap_append, filterMap_output_lines, List.nil_append, List.filterMap_map]
    exact List.filterMap_some

/-- A command that fails prints nothing. -/
theorem commandOutput_of_error {asErrors : Bool} {c : Command} {f : Failure}
    (h : commandResult env asErrors c = .error f) : commandOutput env asErrors c = [] := by
  cases c with
  | order files =>
    rw [commandOutput, map_eq_error_iff.1 h]
  | jsonSchema => cases h
  | _ => rfl

theorem output_of_failure (h : (runInvocation env i).status ≠ 0) :
    (runInvocation env i).status = 1 ∧ (runInvocation env i).output = [] := by
  rw [(runInvocation_spec env i).1] at h ⊢
  rw [output_runInvocation]
  unfold runResult at h ⊢
  cases hprepared : prepared env i with
  | error f => exact ⟨rfl, rfl⟩
  | ok s =>
    simp only [hprepared] at h
    dsimp only
    cases hresult : commandResult env s.warningsAsErrors i.command with
    | ok u =>
      rw [hresult] at h
      exact absurd rfl h
    | error f => exact ⟨rfl, commandOutput_of_error hresult⟩

/-- Checking and ordering the same files differ in the output alone. -/
theorem order_as_check (files : List String) :
    (runInvocation env { i with command := .order files }).status =
        (runInvocation env { i with command := .check files }).status ∧
      (runInvocation env { i with command := .order files }).problems =
        (runInvocation env { i with command := .check files }).problems := by
  have hprepared : ∀ c, prepared env { i with command := c } = prepared env i := fun _ => rfl
  have hresult : runResult env { i with command := .order files } =
      runResult env { i with command := .check files } := by
    simp only [runResult, hprepared]
    rfl
  refine ⟨?_, ?_⟩
  · rw [(runInvocation_spec _ _).1, (runInvocation_spec _ _).1, hresult]
  · rw [Outcome.problems_eq, Outcome.problems_eq, (runInvocation_spec _ _).2,
      (runInvocation_spec _ _).2, hresult, List.filterMap_append, List.filterMap_append]
    congr 1
    simp only [runSays, hprepared]
    cases prepared env i with
    | error f => rfl
    | ok s =>
      have hnone : ∀ texts : List String,
          (texts.map Emission.output).filterMap Emission.problem? = [] := fun texts => by
        simp [List.filterMap_map, Emission.problem?]
      dsimp only
      rw [List.filterMap_append, List.filterMap_append, hnone, hnone]
      rfl

end Output

end ModelLinker.CommandLine
