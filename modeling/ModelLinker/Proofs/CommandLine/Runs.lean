import ModelLinker.Proofs.CommandLine.Invocations
import ModelLinker.Proofs.Evolution.Outline
import ModelLinker.Proofs.Linked

/-!
# How calls end

A run succeeds in exactly the cases that its command names: its files load and link, a comparison
has no error, and no warning counts as an error (`status_of_files`, `status_of_pair`). The lines
that are printed in order are those of all structures, each after those it embeds
(`printsStructs_of_linkTo`). A run that is stricter about warnings succeeds less often
(`Stricter.status`). All this holds of a call by its arguments (`exits_of_run`).
-/

namespace ModelLinker.CommandLine

open List (Forall₂)
open Log (Filter)
open Work

/-! ### success -/

section Success

variable {env : Environment} {i : Invocation} {files : List String}

theorem passed_eq_ok {asErrors : Bool} {found : Diagnostics} :
    passed asErrors found = .ok () ↔ (asErrors = true → found.warningCount = 0) := by
  unfold passed
  cases asErrors with
  | false => simp
  | true =>
    cases found.warningCount with
    | zero => simp
    | succ n => simp

theorem filesPassed_eq_ok {asErrors : Bool} {l : Linked} :
    filesPassed env asErrors files = .ok l ↔
      LinkTo env files l ∧ (asErrors = true → l.diagnostics.warningCount = 0) := by
  rw [← filesLinked_eq_ok, ← passed_eq_ok, filesPassed]
  cases filesLinked env files with
  | error f => simp
  | ok l' =>
    simp only [Except.ok.injEq, map_eq_ok_iff]
    constructor
    · rintro ⟨u, hpassed, rfl⟩
      exact ⟨rfl, hpassed⟩
    · rintro ⟨rfl, hpassed⟩
      exact ⟨(), hpassed, rfl⟩

theorem verdict_eq_ok {asErrors : Bool} {found : Diagnostics} :
    verdict asErrors found = .ok () ↔
      found.isOk = true ∧ (asErrors = true → found.warningCount = 0) := by
  rw [← passed_eq_ok, verdict]
  cases found.isOk <;> simp

theorem pairPassed_eq_ok {asErrors : Bool} {old new : List String} :
    pairPassed env asErrors old new = .ok () ↔ ∃ a b, LinkTo env old a ∧ LinkTo env new b ∧
      Diagnostics.isOk (changes a b) = true ∧
        (asErrors = true → Diagnostics.warningCount (changes a b) = 0) := by
  simp only [← filesLinked_eq_ok, ← verdict_eq_ok, pairPassed]
  cases filesLinked env old with
  | error f => simp
  | ok a => cases filesLinked env new <;> simp

/-- If the settings load, the filter of events can be read. -/
def AcceptsFilter (env : Environment) (i : Invocation) : Prop :=
  ∀ s, settingsFor env i = .ok s → ∃ filter, filterFor env s = .ok filter

theorem settingsFor_eq_ok {s : Settings} : settingsFor env i = .ok s ↔
    ∃ s₀, loadSettings env i.config = .ok s₀ ∧
      s = { s₀ with
        logJson := s₀.logJson || i.logJson
        warningsAsErrors := s₀.warningsAsErrors || i.warningsAsErrors } := by
  rw [settingsFor, map_eq_ok_iff]
  exact exists_congr fun s₀ => and_congr_right fun _ => eq_comm

theorem prepared_eq_ok (h : AcceptsFilter env i) {s : Settings} :
    prepared env i = .ok s ↔ settingsFor env i = .ok s := by
  unfold prepared
  cases hs : settingsFor env i with
  | error f => simp
  | ok s' =>
    obtain ⟨filter, hfilter⟩ := h s' hs
    simp only [map_eq_ok_iff, hfilter, Except.ok.injEq, exists_eq_left']

theorem statusOf_eq_zero {r : Except Failure Unit} : statusOf r = 0 ↔ r = .ok () := by
  cases r <;> simp [statusOf]

theorem runResult_eq_ok : runResult env i = .ok () ↔
    ∃ s, prepared env i = .ok s ∧ commandResult env s.warningsAsErrors i.command = .ok () := by
  unfold runResult
  cases prepared env i <;> simp

/-- A run succeeds if there are settings, and the command succeeds under them. -/
theorem status_eq_zero (h : AcceptsFilter env i) : (runInvocation env i).status = 0 ↔
    ∃ s, loadSettings env i.config = .ok s ∧
      commandResult env (s.warningsAsErrors || i.warningsAsErrors) i.command = .ok () := by
  rw [(runInvocation_spec env i).1, statusOf_eq_zero, runResult_eq_ok]
  simp only [prepared_eq_ok h, settingsFor_eq_ok]
  constructor
  · rintro ⟨_, ⟨s, hs, rfl⟩, hc⟩
    exact ⟨s, hs, hc⟩
  · rintro ⟨s, hs, hc⟩
    exact ⟨_, ⟨s, hs, rfl⟩, hc⟩

theorem status_of_files (h : AcceptsFilter env i)
    (hc : i.command = .check files ∨ i.command = .order files) :
    (runInvocation env i).status = 0 ↔ ∃ s l, loadSettings env i.config = .ok s ∧
      LinkTo env files l ∧ ((s.warningsAsErrors || i.warningsAsErrors) = true →
        l.diagnostics.warningCount = 0) := by
  have hresult : ∀ asErrors, commandResult env asErrors i.command = .ok () ↔
      ∃ l, filesPassed env asErrors files = .ok l := by
    intro asErrors
    have hmap : commandResult env asErrors i.command =
        (filesPassed env asErrors files).map fun _ => () := by
      rcases hc with hc | hc <;> rw [hc] <;> rfl
    simp only [hmap, map_eq_ok_iff, and_true]
  simp only [status_eq_zero h, hresult, filesPassed_eq_ok, exists_and_left]

theorem status_of_pair (h : AcceptsFilter env i) {old new : List String}
    (hc : i.command = .diff old new) :
    (runInvocation env i).status = 0 ↔ ∃ s a b, loadSettings env i.config = .ok s ∧
      LinkTo env old a ∧ LinkTo env new b ∧ Diagnostics.isOk (changes a b) = true ∧
        ((s.warningsAsErrors || i.warningsAsErrors) = true →
          Diagnostics.warningCount (changes a b) = 0) := by
  have hresult : ∀ asErrors, commandResult env asErrors i.command =
      pairPassed env asErrors old new := fun asErrors => by
    rw [hc]
    rfl
  simp only [status_eq_zero h, hresult, pairPassed_eq_ok, exists_and_left]

end Success

/-! ### what is printed in order -/

/-- There is one line for every structure, with its height and its name, and structures come after
those they embed. -/
def PrintsStructs (m : Model) (output : List String) : Prop :=
  ∃ order : List StructId, order.Perm m.structIds ∧
    Forall₂ (fun id line => ∃ s, m.struct? id = some s ∧
      line = toString s.height ++ "\t" ++ s.name ++ "\n") order output ∧
    ∀ s e, m.Embeds s e → ∃ i j : Nat, i < j ∧ order[i]? = some e ∧ order[j]? = some s

section Order

variable {env : Environment} {i : Invocation} {files : List String}

theorem reached_ofJsons (documents : List (String × Json)) :
    (SourceSet.ofJsons documents).Reached := by
  have hall : ∀ (documents : List (String × Json)) {set : SourceSet}, set.Reached →
      (documents.foldl (fun set x => set.addJson x.1 x.2) set).Reached := by
    intro documents
    induction documents with
    | nil => exact fun h => h
    | cons x rest ih => exact fun h => ih (h.json x.1 x.2)
  exact hall documents .empty

/-- The lines of a linked model. -/
theorem printsStructs_of_linkTo {l : Linked} (h : LinkTo env files l) :
    PrintsStructs l.model (l.ordered.map fun s => orderLine s.2) := by
  obtain ⟨js, -, hlink⟩ := h
  have hordered := orderedBy_of_link hlink
  obtain ⟨-, -, howned⟩ := sound_of_linkSources (reached_ofJsons _) hlink
  refine ⟨l.topology.order, hordered.complete, ?_, fun s e he => ?_⟩
  · have hexists : ∀ id ∈ l.topology.order, ∃ s, l.model.struct? id = some s := by
      intro id hid
      have hlt := Model.mem_structIds.1 (hordered.complete.subset hid)
      exact ⟨_, Array.getElem?_eq_getElem hlt⟩
    unfold Linked.ordered
    generalize l.topology.order = order at hexists
    induction order with
    | nil => exact .nil
    | cons id rest ih =>
      obtain ⟨⟨s, hs⟩, hrest⟩ := List.forall_mem_cons.1 hexists
      rw [List.filterMap_cons_some (by rw [hs]; rfl), List.map_cons]
      exact .cons ⟨s, hs, rfl⟩ (ih hrest)
  · obtain ⟨i, j, hi, hj, hlt⟩ :=
      hordered.earlier he (Model.mem_structIds_of_embedded howned.ownersExist he)
    have hat : ∀ {id : StructId} {n : Nat}, l.topology.rank? id = some n →
        l.topology.order[n]? = some id := by
      intro id n h
      obtain ⟨hn, hid, -⟩ := List.findIdx?_eq_some_iff_getElem.1 h
      rw [List.getElem?_eq_getElem hn, of_decide_eq_true hid]
    exact ⟨i, j, hlt, hat hi, hat hj⟩

/-- A run that orders files, and succeeds, prints the structures they link to. -/
theorem printed_of_order (hc : i.command = .order files) (hok : (runInvocation env i).status = 0) :
    ∃ l, LinkTo env files l ∧ PrintsStructs l.model (runInvocation env i).output := by
  rw [(runInvocation_spec env i).1, statusOf_eq_zero, runResult_eq_ok] at hok
  obtain ⟨s, hprepared, hresult⟩ := hok
  rw [hc] at hresult
  obtain ⟨l, hpassed, -⟩ := map_eq_ok_iff.1 hresult
  obtain ⟨hlink, -⟩ := filesPassed_eq_ok.1 hpassed
  refine ⟨l, hlink, ?_⟩
  simp only [output_runInvocation, hprepared, hc, commandOutput, hpassed]
  exact printsStructs_of_linkTo hlink

end Order

/-! ### warnings as errors -/

/-- The second run is the first one, but that warnings count as errors. -/
structure Stricter (env env' : Environment) (i i' : Invocation) : Prop where
  command : i'.command = i.command
  logFilter : env'.logFilter = env.logFilter
  files : ∀ path ∈ i.command.files, env'.file path = env.file path
  settings : settingsFor env' i' =
    (settingsFor env i).map fun s => { s with warningsAsErrors := true }

section Stricter

variable {env env' : Environment} {i i' : Invocation}

theorem loadFiles_congr {files : List String} (h : ∀ path ∈ files, env'.file path = env.file path)
    (set : SourceSet) : loadFiles env' set files = loadFiles env set files := by
  induction files generalizing set with
  | nil => rfl
  | cons path rest ih =>
    obtain ⟨hpath, hrest⟩ := List.forall_mem_cons.1 h
    simp only [loadFiles, List.foldlM_cons, hpath]
    cases set.addFile path (env.file path) with
    | error p => rfl
    | ok set' => exact ih hrest set'

theorem filesLinked_congr {files : List String}
    (h : ∀ path ∈ files, env'.file path = env.file path) :
    filesLinked env' files = filesLinked env files := by
  rw [filesLinked, loadFiles_congr h, filesLinked]

theorem commandResult_congr {asErrors : Bool} {c : Command}
    (h : ∀ path ∈ c.files, env'.file path = env.file path) :
    commandResult env' asErrors c = commandResult env asErrors c := by
  have hfiles : ∀ files, (∀ path ∈ files, env'.file path = env.file path) →
      filesPassed env' asErrors files = filesPassed env asErrors files := fun files hsame => by
    rw [filesPassed, filesLinked_congr hsame, filesPassed]
  cases c with
  | check files => simp only [commandResult, hfiles files h]
  | order files => simp only [commandResult, hfiles files h]
  | diff old new =>
    obtain ⟨hold, hnew⟩ := List.forall_mem_append.1 h
    simp only [commandResult, pairPassed, filesLinked_congr hold, filesLinked_congr hnew]
  | jsonSchema => rfl

/-- A command that succeeds when warnings count as errors succeeds in any case. -/
theorem commandResult_of_true {asErrors : Bool} {c : Command}
    (h : commandResult env true c = .ok ()) : commandResult env asErrors c = .ok () := by
  have hfiles : ∀ files, (filesPassed env true files).map (fun _ => ()) = .ok () →
      (filesPassed env asErrors files).map (fun _ => ()) = .ok () := by
    intro files h
    obtain ⟨l, hpassed, -⟩ := map_eq_ok_iff.1 h
    obtain ⟨hlink, hnone⟩ := filesPassed_eq_ok.1 hpassed
    exact map_eq_ok_iff.2 ⟨l, filesPassed_eq_ok.2 ⟨hlink, fun _ => hnone rfl⟩, rfl⟩
  cases c with
  | check files => exact hfiles files h
  | order files => exact hfiles files h
  | diff old new =>
    obtain ⟨a, b, ha, hb, hok, hnone⟩ := pairPassed_eq_ok.1 h
    exact pairPassed_eq_ok.2 ⟨a, b, ha, hb, hok, fun _ => hnone rfl⟩
  | jsonSchema => rfl

theorem Stricter.prepared (h : Stricter env env' i i') : prepared env' i' =
    (prepared env i).map fun s => { s with warningsAsErrors := true } := by
  unfold CommandLine.prepared
  rw [h.settings]
  cases settingsFor env i with
  | error f => rfl
  | ok s =>
    have hfilter : filterFor env' { s with warningsAsErrors := true } = filterFor env s := by
      simp only [filterFor, h.logFilter]
    simp only [Except.map, hfilter]
    cases filterFor env s <;> rfl

/-- A run that succeeds although warnings count as errors succeeds without that. -/
theorem Stricter.status (h : Stricter env env' i i') (hok : (runInvocation env' i').status = 0) :
    (runInvocation env i).status = 0 := by
  rw [(runInvocation_spec _ _).1, statusOf_eq_zero, runResult_eq_ok] at hok ⊢
  obtain ⟨s', hprepared, hresult⟩ := hok
  rw [h.prepared] at hprepared
  obtain ⟨s, hs, rfl⟩ := map_eq_ok_iff.1 hprepared
  rw [h.command, commandResult_congr h.files] at hresult
  exact ⟨s, hs, commandResult_of_true hresult⟩

/-- The flag makes a run stricter. -/
theorem stricter_flag (env : Environment) (i : Invocation) :
    Stricter env env i { i with warningsAsErrors := true } where
  command := rfl
  logFilter := rfl
  files _ _ := rfl
  settings := by
    simp only [settingsFor]
    cases loadSettings env i.config <;> simp [Except.map]

/-- So do settings that say it. -/
theorem stricter_settings (hfilter : env'.logFilter = env.logFilter)
    (hfiles : ∀ path ∈ i.command.files, env'.file path = env.file path)
    (hsettings : loadSettings env' i.config =
      (loadSettings env i.config).map fun s => { s with warningsAsErrors := true }) :
    Stricter env env' i i where
  command := rfl
  logFilter := hfilter
  files := hfiles
  settings := by
    simp only [settingsFor, hsettings]
    cases loadSettings env i.config <;> simp [Except.map]

end Stricter

/-! ### calls -/

theorem run_of_request {env : Environment} {args : List String} {i : Invocation}
    (h : Request.ofArguments args = .ok (.run i)) : run env args = runInvocation env i := by
  rw [run, h]

/-- A call to check or to order files succeeds if the settings load, the files hold JSON that links,
and no warning counts as an error; a call to compare does if both sides link, and nothing found in
the comparison stands in the way. Any other call that could be read ends with status 1, and prints
nothing. Checking and ordering end alike and report alike. What is ordered is printed in full, each
structure after those it embeds. No call that fails succeeds once warnings count as errors, by a flag
or by the settings. -/
theorem exits_of_run :
    (∀ env args i, Request.ofArguments args = .ok (.run i) → AcceptsFilter env i →
      (∀ files, i.command = .check files ∨ i.command = .order files →
        ((run env args).status = 0 ↔ ∃ s l, loadSettings env i.config = .ok s ∧
          LinkTo env files l ∧ ((s.warningsAsErrors || i.warningsAsErrors) = true →
            l.diagnostics.warningCount = 0))) ∧
      ∀ old new, i.command = .diff old new →
        ((run env args).status = 0 ↔ ∃ s a b, loadSettings env i.config = .ok s ∧
          LinkTo env old a ∧ LinkTo env new b ∧ Diagnostics.isOk (changes a b) = true ∧
            ((s.warningsAsErrors || i.warningsAsErrors) = true →
              Diagnostics.warningCount (changes a b) = 0))) ∧
    (∀ env args i, Request.ofArguments args = .ok (.run i) → (run env args).status ≠ 0 →
      (run env args).status = 1 ∧ (run env args).output = []) ∧
    (∀ env args args' (i : Invocation) files,
      Request.ofArguments args = .ok (.run { i with command := .check files }) →
      Request.ofArguments args' = .ok (.run { i with command := .order files }) →
      (run env args').status = (run env args).status ∧
        (run env args').problems = (run env args).problems) ∧
    (∀ env args i files, Request.ofArguments args = .ok (.run i) → i.command = .order files →
      (run env args).status = 0 →
        ∃ l, LinkTo env files l ∧ PrintsStructs l.model (run env args).output) ∧
    (∀ env args args' (i : Invocation), Request.ofArguments args = .ok (.run i) →
      Request.ofArguments args' = .ok (.run { i with warningsAsErrors := true }) →
      (run env args').status = 0 → (run env args).status = 0) ∧
    ∀ env env' args i, Request.ofArguments args = .ok (.run i) → env'.logFilter = env.logFilter →
      (∀ path ∈ i.command.files, env'.file path = env.file path) →
      loadSettings env' i.config =
        (loadSettings env i.config).map (fun s => { s with warningsAsErrors := true }) →
      (run env' args).status = 0 → (run env args).status = 0 := by
  refine ⟨fun env args i hargs hfilter => ?_, fun env args i hargs hfails => ?_,
    fun env args args' i files hargs hargs' => ?_, fun env args i files hargs hc hok => ?_,
    fun env args args' i hargs hargs' hok => ?_, fun env env' args i hargs hfilter hfiles hs hok => ?_⟩
  · rw [run_of_request hargs]
    exact ⟨fun files hc => status_of_files hfilter hc, fun old new hc => status_of_pair hfilter hc⟩
  · rw [run_of_request hargs] at hfails ⊢
    exact output_of_failure hfails
  · rw [run_of_request hargs, run_of_request hargs']
    exact order_as_check files
  · rw [run_of_request hargs] at hok ⊢
    exact printed_of_order hc hok
  · rw [run_of_request hargs'] at hok
    rw [run_of_request hargs]
    exact (stricter_flag env i).status hok
  · rw [run_of_request hargs] at hok ⊢
    exact (stricter_settings hfilter hfiles hs).status hok

/-! ### a firm in a file -/

/-- A file with one structure, which has one field. -/
def firmText : String :=
  "\x7b\"structs\":[\x7b\"name\":\"firm\",\"fields\":[" ++
    "\x7b\"name\":\"id\",\"type\":\"int\",\"rowid\":true\x7d]\x7d]\x7d"

/-- The document in the file, with the members of objects in the order of their names. -/
def firmJson : Json :=
  .obj [("structs", .arr [.obj [
    ("fields", .arr [.obj [("name", .str "id"), ("rowid", .bool true), ("type", .str "int")]]),
    ("name", .str "firm")]])]

/-- A place with this file, and perhaps with settings. -/
def firmPlace (settings : Option String) : Environment where
  file path :=
    if path = "firm.json" then .bytes firmText.toByteArray
    else if path = Settings.defaultFile then
      match settings with
      | some text => .bytes text.toByteArray
      | none => .missing
    else .missing
  logFilter := none

theorem fromUTF8?_toByteArray (s : String) : String.fromUTF8? s.toByteArray = some s := by
  rw [String.fromUTF8?, dif_pos s.isValidUTF8]
  rfl

theorem firmPlace_holds (settings : Option String) :
    ((firmPlace settings).file "firm.json").Holds firmJson :=
  ⟨_, firmText, by simp only [firmPlace, if_true], fromUTF8?_toByteArray _, rfl⟩

/-- The document links, and there is nothing to warn of. -/
theorem firmSet_links : ∃ l, linkSources (.ofJsons [("firm.json", firmJson)]) = .ok l ∧
    l.diagnostics.warningCount = 0 := by
  have hfaultless : (SourceSet.ofJsons [("firm.json", firmJson)]).FaultlessBy (·.index) := by
    simp only [SourceSet.FaultlessBy, Model.bindingProblems, Model.marked, Model.topology,
      Model.joined, Model.bound, Model.resolved, Namespace.ofModel_eq_scan]
    decide +kernel
  obtain ⟨l, hl⟩ := hfaultless.links
  have hrecursion := recursionProblems_eq_nil (faultless_of_linkWith hl).2.recursion
  refine ⟨l, hl, ?_⟩
  rw [(linkWith_eq_ok_iff.1 hl).2.2]
  simp only [Diagnostics.warningCount_append, Model.problems, hrecursion]
  simp only [Model.bindingProblems, Model.marked, Model.topology, Model.joined, Model.bound,
    Model.resolved, Namespace.ofModel_eq_scan]
  decide +kernel

theorem firmPlace_settings (settings : Option String) :
    loadSettings (firmPlace settings) none = match settings with
      | some text => (Settings.read text).mapError .settings
      | none => .ok .default := by
  cases settings with
  | none => rfl
  | some text =>
    have hfile : (firmPlace (some text)).file Settings.defaultFile = .bytes text.toByteArray := by
      simp [firmPlace, Settings.defaultFile]
    simp only [loadSettings, hfile, isThere, settingsIn, FileContent.text, fromUTF8?_toByteArray,
      if_true]

theorem firmPlace_acceptsFilter {settings : Option String} {i : Invocation} {s : Settings}
    (h : loadSettings (firmPlace settings) i.config = .ok s) (hs : s.logFilter = "warn") :
    AcceptsFilter (firmPlace settings) i := by
  have hread : (Filter.read? "warn").isSome = true := by decide +kernel
  obtain ⟨filter, hfilter⟩ := Option.isSome_iff_exists.1 hread
  rintro t ht
  obtain ⟨s', hs', rfl⟩ := settingsFor_eq_ok.1 ht
  obtain rfl := Except.ok.inj (h.symm.trans hs')
  refine ⟨filter, ?_⟩
  have hnone : (firmPlace settings).logFilter = none := rfl
  simp only [filterFor, hnone, hs, hfilter, Option.bind_none]

theorem firmPlace_linkTo (settings : Option String) :
    ∃ l, LinkTo (firmPlace settings) ["firm.json"] l ∧ l.diagnostics.warningCount = 0 := by
  obtain ⟨l, hl, hnone⟩ := firmSet_links
  exact ⟨l, ⟨[firmJson], .cons (firmPlace_holds settings) .nil, hl⟩, hnone⟩

/-- Calls about the firm: its file links, also if warnings count as errors, and a file that is not
there does not. -/
theorem exits_of_firm :
    (run (firmPlace none) ["check", "firm.json"]).status = 0 ∧
    (∃ l, LinkTo (firmPlace none) ["firm.json"] l ∧
      PrintsStructs l.model (run (firmPlace none) ["order", "firm.json"]).output) ∧
    (run (firmPlace none) ["diff", "firm.json", "--new", "firm.json"]).status = 0 ∧
    (run (firmPlace none) ["order", "staff.json"]).status = 1 ∧
      (run (firmPlace none) ["order", "staff.json"]).output = [] := by
  obtain ⟨hsuccess, hfailure, halike, hprints, hflag, hsettings⟩ := exits_of_run
  have hstrict := firmPlace_settings (some "warnings_as_errors = true")
  have hplain := firmPlace_settings none
  have hloaded : loadSettings (firmPlace (some "warnings_as_errors = true")) none =
      .ok ⟨true, "warn", false⟩ := hstrict
  -- checking succeeds by the settings that make warnings errors, so also by those that do not
  have hcheck : (run (firmPlace none) ["check", "firm.json"]).status = 0 := by
    obtain ⟨l, hl, hnone⟩ := firmPlace_linkTo (some "warnings_as_errors = true")
    refine hsettings (firmPlace none) (firmPlace (some "warnings_as_errors = true"))
      ["check", "firm.json"] ⟨none, false, false, .check ["firm.json"]⟩ rfl rfl ?_ ?_ ?_
    · intro path hpath
      obtain rfl := List.mem_singleton.1 hpath
      rfl
    · rw [hloaded, hplain]
      rfl
    · exact ((hsuccess _ _ _ rfl (firmPlace_acceptsFilter hloaded rfl)).1 _ (.inl rfl)).2
        ⟨_, l, hloaded, hl, fun _ => hnone⟩
  have horder := (halike (firmPlace none) ["check", "firm.json"] ["order", "firm.json"]
    ⟨none, false, false, .check ["firm.json"]⟩ ["firm.json"] rfl rfl).1.trans hcheck
  have hdiff : (run (firmPlace none) ["diff", "firm.json", "--new", "firm.json"]).status = 0 := by
    obtain ⟨l, hl, -⟩ := firmPlace_linkTo none
    have hsilent : changes l l = [] := by
      obtain ⟨js, -, hlink⟩ := hl
      have hc := comparable_of_linkWith hlink
      exact changes_eq_nil hc hc (.refl _)
    refine hflag (firmPlace none) _ ["--warnings-as-errors", "diff", "firm.json", "--new", "firm.json"]
      ⟨none, false, false, .diff ["firm.json"] ["firm.json"]⟩ rfl rfl ?_
    refine ((hsuccess _ _ _ rfl (firmPlace_acceptsFilter hplain rfl)).2 _ _ rfl).2
      ⟨_, l, l, hplain, hl, hl, ?_, fun _ => ?_⟩
    · rw [hsilent]
      rfl
    · rw [hsilent]
      rfl
  have hmissing : (run (firmPlace none) ["order", "staff.json"]).status ≠ 0 := by
    intro hok
    obtain ⟨s, l, -, ⟨js, hjs, -⟩, -⟩ := ((hsuccess (firmPlace none) ["order", "staff.json"]
      ⟨none, false, false, .order ["staff.json"]⟩ rfl
      (firmPlace_acceptsFilter hplain rfl)).1 _ (.inr rfl)).1 hok
    cases hjs with
    | cons hj _ =>
      obtain ⟨data, text, hfile, -⟩ := hj
      simp [firmPlace, Settings.defaultFile] at hfile
  exact ⟨hcheck, hprints _ _ _ _ rfl rfl horder, hdiff, hfailure _ _ _ rfl hmissing⟩

end ModelLinker.CommandLine
