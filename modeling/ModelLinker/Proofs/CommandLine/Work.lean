import ModelLinker.CommandLine.Run

/-!
# What work says

Work writes one thing after another, and keeps what it wrote if it fails. `Work.Says` gives the
result of some work and what it writes apart from events, whatever was written before it; there is
one rule for every way to put work together. By these rules the files of a command are linked as if
nothing was written at all (`says_linkFiles`).
-/

namespace ModelLinker.CommandLine

open Log (Event Filter)

/-! ### emissions -/

def Emission.isEvent : Emission → Bool
  | .event _ => true
  | _ => false

/-- What is written apart from events. -/
def said (emissions : List Emission) : List Emission := emissions.filter (!·.isEvent)

theorem said_append (a b : List Emission) : said (a ++ b) = said a ++ said b :=
  List.filter_append ..

/-- The lines about diagnostics. -/
def lines (found : Diagnostics) : List Emission := found.map fun d => .problem d.text

/-- The lines about a failure before it is named. -/
def failureLines : Failure → List Emission
  | .linking found => lines found
  | _ => []

namespace Work

variable {α β : Type}

/-- The work ends like this, and writes these things and perhaps events. -/
def Says (w : Work α) (result : Except Failure α) (things : List Emission) : Prop :=
  ∃ written, said written = things ∧ ∀ es, StateT.run (ExceptT.run w) es = (result, es ++ written)

/-! ### rules -/

theorem says_pure (a : α) : Says (pure a) (.ok a) [] :=
  ⟨[], rfl, fun es => by rw [List.append_nil]; rfl⟩

theorem says_throw (f : Failure) : Says (throw f : Work α) (.error f) [] :=
  ⟨[], rfl, fun es => by rw [List.append_nil]; rfl⟩

theorem says_emit {e : Emission} (h : e.isEvent = false) : Says (emit e) (.ok ()) [e] :=
  ⟨[e], List.filter_cons_of_pos (by simp [h]), fun _ => rfl⟩

/-- Work that succeeds is followed by what comes after it. -/
theorem Says.bind {w : Work α} {k : α → Work β} {a : α} {r : Except Failure β}
    {things more : List Emission} (hw : w.Says (.ok a) things) (hk : (k a).Says r more) :
    (w >>= k).Says r (things ++ more) := by
  obtain ⟨written, rfl, hrun⟩ := hw
  obtain ⟨later, rfl, hlater⟩ := hk
  refine ⟨written ++ later, said_append _ _, fun es => ?_⟩
  rw [ExceptT.run_bind, StateT.run_bind, hrun, ← List.append_assoc]
  exact hlater _

/-- Nothing comes after work that fails. -/
theorem Says.bind_error {w : Work α} {k : α → Work β} {f : Failure} {things : List Emission}
    (hw : w.Says (.error f) things) : (w >>= k).Says (.error f) things := by
  obtain ⟨written, rfl, hrun⟩ := hw
  refine ⟨written, rfl, fun es => ?_⟩
  rw [ExceptT.run_bind, StateT.run_bind, hrun]
  rfl

/-- Events do not count. -/
theorem says_tell (filter : Filter) (e : Event) : Says (tell filter e) (.ok ()) [] := by
  unfold tell
  split
  · exact ⟨[.event e], rfl, fun _ => rfl⟩
  · exact says_pure ()

theorem says_forM {γ : Type} {f : γ → Work Unit} {things : γ → List Emission} (xs : List γ)
    (h : ∀ x ∈ xs, (f x).Says (.ok ()) (things x)) : Says (xs.forM f) (.ok ()) (xs.flatMap things) := by
  induction xs with
  | nil => exact says_pure ()
  | cons x rest ih =>
    obtain ⟨hx, hrest⟩ := List.forall_mem_cons.1 h
    rw [List.flatMap_cons]
    exact hx.bind (ih hrest)

/-- One thing is written for each. -/
theorem says_forM_emit {γ : Type} {f : γ → Emission} (xs : List γ)
    (h : ∀ x ∈ xs, (f x).isEvent = false) :
    Says (xs.forM fun x => emit (f x)) (.ok ()) (xs.map f) := by
  have hsays := says_forM xs fun x hx => says_emit (h x hx)
  rwa [← List.map_eq_flatMap] at hsays

theorem says_forM_tell {γ : Type} (filter : Filter) (event : γ → Event) (xs : List γ) :
    Says (xs.forM fun x => tell filter (event x)) (.ok ()) [] := by
  have hsays := says_forM xs fun x _ => says_tell filter (event x)
  rwa [List.flatMap_eq_nil_iff.2 fun _ _ => rfl] at hsays

theorem says_report (found : Diagnostics) : Says (report found) (.ok ()) (lines found) :=
  says_forM_emit found fun _ _ => rfl

/-- Warnings stand in the way if they count as errors. -/
def passed (asErrors : Bool) (found : Diagnostics) : Except Failure Unit :=
  if asErrors && 0 < found.warningCount then .error (.warnings found.warningCount) else .ok ()

theorem says_enforce (asErrors : Bool) (found : Diagnostics) :
    Says (enforce asErrors found) (passed asErrors found) [] := by
  unfold enforce passed
  split
  · exact says_throw _
  · exact says_pure ()

end Work

open Work

/-! ### files -/

section Files

variable (env : Environment) (filter : Filter)

/-- The documents of some files after those of others, or why one of them cannot be had. -/
def loadFiles (set : SourceSet) (files : List String) : Except FileProblem SourceSet :=
  files.foldlM (fun set path => set.addFile path (env.file path)) set

/-- The linked model of some files, or why there is none. -/
def filesLinked (files : List String) : Except Failure Linked :=
  match loadFiles env .empty files with
  | .error p => .error (.file p)
  | .ok set => (linkSources set).mapError .linking

theorem says_addFile (set : SourceSet) (path : String) :
    Says (addFile env filter set path) ((set.addFile path (env.file path)).mapError .file) [] := by
  unfold addFile SourceSet.addFile
  refine (says_tell filter _).bind ?_
  cases (env.file path).document with
  | error p => exact says_throw _
  | ok j =>
    exact (says_forM_tell filter id (loadedEvents path (.ofJson j))).bind (says_pure _)

theorem says_loadFiles (files : List String) (set : SourceSet) :
    Says (files.foldlM (addFile env filter) set) ((loadFiles env set files).mapError .file) [] := by
  induction files generalizing set with
  | nil => exact says_pure set
  | cons path rest ih =>
    have hfirst := says_addFile env filter set path
    rw [List.foldlM_cons, loadFiles, List.foldlM_cons]
    cases hset : set.addFile path (env.file path) with
    | error p =>
      rw [hset] at hfirst
      exact hfirst.bind_error
    | ok set' =>
      rw [hset] at hfirst
      exact hfirst.bind (ih set')

/-- Files are linked as if nothing was written. What was found is reported if they do not link. -/
theorem says_linkFiles (files : List String) :
    Says (linkFiles env filter files) (filesLinked env files)
      (match filesLinked env files with
        | .ok _ => []
        | .error f => failureLines f) := by
  have hload := says_loadFiles env filter files .empty
  unfold linkFiles filesLinked
  cases hset : loadFiles env .empty files with
  | error p =>
    rw [hset] at hload
    exact hload.bind_error
  | ok set =>
    rw [hset] at hload
    refine hload.bind ?_
    simp only [linkSources, linkWith]
    generalize linkRun set.diagnostics set.model = run
    obtain ⟨steps, result⟩ := run
    refine (says_forM_tell filter _ steps).bind ?_
    cases result with
    | ok l => exact says_pure l
    | error found =>
      have hthrow : Says (report found >>= fun _ => throw (.linking found) : Work Linked)
          (.error (.linking found)) (lines found ++ []) :=
        (says_report found).bind (says_throw _)
      rwa [List.append_nil] at hthrow

end Files

end ModelLinker.CommandLine
