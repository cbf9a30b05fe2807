import Mathlib.Data.List.Forall2
import ModelLinker.Proofs.CommandLine.Work

/-!
# How commands end

A command succeeds or fails as its files and the warnings about them say (`commandResult`). What it
writes on its output comes after everything that can fail (`says_runCommand`). Files link in a
command if they all hold JSON and the documents link (`filesLinked_eq_ok`).
-/

namespace ModelLinker

open List (Forall₂)

/-- The file has a text, and the text is that of a JSON value. -/
def FileContent.Holds (c : FileContent) (j : Json) : Prop :=
  ∃ data text, c = .bytes data ∧ String.fromUTF8? data = some text ∧ Json.read text = .ok j

theorem FileContent.document_eq_ok {c : FileContent} {j : Json} :
    c.document = .ok j ↔ c.Holds j := by
  cases c with
  | bytes data =>
    have hholds : (FileContent.bytes data).Holds j ↔
        ∃ text, String.fromUTF8? data = some text ∧ Json.read text = .ok j := by
      simp [Holds]
    rw [hholds, document, text]
    cases String.fromUTF8? data with
    | none => simp
    | some text =>
      cases hread : Json.read text <;> simp [hread]
  | _ => simp [document, text, Holds]

/-- Some documents, entered one after another. -/
def SourceSet.ofJsons (documents : List (String × Json)) : SourceSet :=
  documents.foldl (fun set x => set.addJson x.1 x.2) .empty

namespace CommandLine

open Log (Filter)
open Work

/-- Some files all hold JSON, and the documents link. -/
def LinkTo (env : Environment) (files : List String) (l : Linked) : Prop :=
  ∃ js, Forall₂ (fun path j => (env.file path).Holds j) files js ∧
    linkSources (.ofJsons (files.zip js)) = .ok l

section Files

variable {env : Environment} {files : List String}

theorem loadFiles_eq_ok {set set' : SourceSet} :
    loadFiles env set files = .ok set' ↔
      ∃ js, Forall₂ (fun path j => (env.file path).Holds j) files js ∧
        set' = (files.zip js).foldl (fun set x => set.addJson x.1 x.2) set := by
  induction files generalizing set with
  | nil => simp [loadFiles, pure, Except.pure, eq_comm]
  | cons path rest ih =>
    have hstep : loadFiles env set (path :: rest) = .ok set' ↔
        ∃ j, (env.file path).Holds j ∧ loadFiles env (set.addJson path j) rest = .ok set' := by
      simp only [loadFiles, List.foldlM_cons, SourceSet.addFile, ← FileContent.document_eq_ok]
      cases (env.file path).document with
      | error p => simp [Except.map, bind, Except.bind]
      | ok j => simp [Except.map, bind, Except.bind]
    rw [hstep]
    constructor
    · rintro ⟨j, hj, hrest⟩
      obtain ⟨js, hjs, rfl⟩ := ih.1 hrest
      exact ⟨j :: js, .cons hj hjs, rfl⟩
    · rintro ⟨js, hjs, rfl⟩
      cases hjs with
      | cons hj hjs => exact ⟨_, hj, ih.2 ⟨_, hjs, rfl⟩⟩

theorem filesLinked_eq_ok {l : Linked} : filesLinked env files = .ok l ↔ LinkTo env files l := by
  have hload : filesLinked env files = .ok l ↔
      ∃ set, loadFiles env .empty files = .ok set ∧ linkSources set = .ok l := by
    unfold filesLinked
    cases loadFiles env .empty files with
    | error p => simp
    | ok set => cases hlink : linkSources set <;> simp [Except.mapError, hlink]
  simp only [hload, loadFiles_eq_ok, LinkTo]
  constructor
  · rintro ⟨set, ⟨js, hjs, rfl⟩, hlink⟩
    exact ⟨js, hjs, hlink⟩
  · rintro ⟨js, hjs, hlink⟩
    exact ⟨_, ⟨js, hjs, rfl⟩, hlink⟩

end Files

/-! ### commands -/

section Commands

variable (env : Environment) (asErrors : Bool)

/-- The linked model of some files, if no warnings stand in the way. -/
def filesPassed (files : List String) : Except Failure Linked :=
  match filesLinked env files with
  | .error f => .error f
  | .ok l => (passed asErrors l.diagnostics).map fun _ => l

/-- What is found in a comparison stands in the way if there is an error. -/
def verdict (asErrors : Bool) (found : Diagnostics) : Except Failure Unit :=
  if found.isOk then passed asErrors found else .error (.incompatible found.errorCount)

/-- The outcome of a comparison. -/
def pairPassed (old new : List String) : Except Failure Unit :=
  match filesLinked env old, filesLinked env new with
  | .error f, _ => .error f
  | .ok _, .error f => .error f
  | .ok a, .ok b => verdict asErrors (changes a b)

/-- How a command ends. -/
def commandResult : Command → Except Failure Unit
  | .check files | .order files => (filesPassed env asErrors files).map fun _ => ()
  | .diff old new => pairPassed env asErrors old new
  | .jsonSchema => .ok ()

/-- What is reported about some files. -/
def fileLines (files : List String) : List Emission :=
  match filesLinked env files with
  | .ok l => lines l.diagnostics
  | .error f => failureLines f

/-- What is reported about a comparison. -/
def pairLines (old new : List String) : List Emission :=
  match filesLinked env old, filesLinked env new with
  | .error f, _ => failureLines f
  | .ok _, .error f => failureLines f
  | .ok a, .ok b => lines (changes a b)

/-- What a command reports. -/
def commandLines : Command → List Emission
  | .check files | .order files => fileLines env files
  | .diff old new => pairLines env old new
  | .jsonSchema => []

/-- What a command prints. -/
def commandOutput : Command → List String
  | .order files => match filesPassed env asErrors files with
    | .ok l => l.ordered.map fun s => orderLine s.2
    | .error _ => []
  | .jsonSchema => [Schema.sourceJson.indented ++ "\n"]
  | _ => []

/-- Linked files are reported and checked for warnings before anything else is done with them. -/
theorem says_checked (filter : Filter) (files : List String) {k : Linked → Work Unit}
    {out : Linked → List Emission} (hk : ∀ l, (k l).Says (.ok ()) (out l)) :
    Says (do
        let linked ← linkFiles env filter files
        report linked.diagnostics
        enforce asErrors linked.diagnostics
        k linked)
      ((filesPassed env asErrors files).map fun _ => ())
      (fileLines env files ++ match filesPassed env asErrors files with
        | .ok l => out l
        | .error _ => []) := by
  have hlink := says_linkFiles env filter files
  unfold filesPassed fileLines
  cases hfiles : filesLinked env files with
  | error f =>
    rw [hfiles] at hlink
    dsimp only
    rw [List.append_nil]
    exact hlink.bind_error
  | ok l =>
    rw [hfiles] at hlink
    refine hlink.bind ((says_report _).bind ?_)
    have henforce := says_enforce asErrors l.diagnostics
    dsimp only
    cases hpassed : passed asErrors l.diagnostics with
    | error f =>
      rw [hpassed] at henforce
      exact henforce.bind_error
    | ok u =>
      rw [hpassed] at henforce
      exact henforce.bind (hk l)

/-- The structures of a linked model are printed one after another. -/
theorem says_ordered (l : Linked) :
    Says (l.ordered.forM fun s => emit (.output (orderLine s.2))) (.ok ())
      ((l.ordered.map fun s => orderLine s.2).map .output) := by
  rw [List.map_map]
  exact says_forM_emit l.ordered fun _ _ => rfl

theorem says_verdict (found : Diagnostics) :
    Says (do
        if !found.isOk then throw (.incompatible found.errorCount)
        enforce asErrors found)
      (verdict asErrors found) [] := by
  unfold verdict
  cases found.isOk with
  | false => exact (says_throw (.incompatible found.errorCount)).bind_error
  | true => exact says_enforce asErrors found

theorem says_compared (settings : Settings) (filter : Filter) (old new : List String) :
    Says (runCommand env settings filter (.diff old new))
      (pairPassed env settings.warningsAsErrors old new) (pairLines env old new) := by
  have hold := says_linkFiles env filter old
  have hnew := says_linkFiles env filter new
  unfold pairPassed pairLines
  cases ha : filesLinked env old with
  | error f =>
    rw [ha] at hold
    exact hold.bind_error
  | ok a =>
    rw [ha] at hold
    refine hold.bind ?_
    cases hb : filesLinked env new with
    | error f =>
      rw [hb] at hnew
      exact hnew.bind_error
    | ok b =>
      rw [hb] at hnew
      refine hnew.bind ((says_tell filter _).bind ?_)
      have hboth := (says_report (changes a b)).bind (k := fun _ => _)
        (says_verdict settings.warningsAsErrors (changes a b))
      rwa [List.append_nil] at hboth

/-- A command reports what there is to report, and prints last. -/
theorem says_runCommand (settings : Settings) (filter : Filter) (c : Command) :
    Says (runCommand env settings filter c) (commandResult env settings.warningsAsErrors c)
      (commandLines env c ++ (commandOutput env settings.warningsAsErrors c).map .output) := by
  cases c with
  | check files =>
    have h := says_checked env settings.warningsAsErrors filter files fun l =>
      says_tell filter (.checkFinished l.model.structs.size)
    simp only [runCommand, commandResult, commandLines, commandOutput]
    convert h using 2
    split <;> rfl
  | order files =>
    have h := says_checked env settings.warningsAsErrors filter files says_ordered
    simp only [runCommand, commandResult, commandLines, commandOutput]
    convert h using 2
    split <;> rfl
  | diff old new =>
    have h := says_compared env settings filter old new
    simp only [commandResult, commandLines, commandOutput, List.map_nil, List.append_nil]
    exact h
  | jsonSchema =>
    simp only [runCommand, commandResult, commandLines, commandOutput]
    generalize Schema.sourceJson.indented ++ "\n" = text
    exact says_emit rfl

end Commands

end CommandLine

end ModelLinker
