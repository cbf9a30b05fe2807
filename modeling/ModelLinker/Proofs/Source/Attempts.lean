import ModelLinker.Proofs.Linked
import ModelLinker.Proofs.Source.Stated

/-!
# Documents that are not accepted leave no trace

Documents are entered one after another, as declarations, as JSON or from files, and each of them
may fail to be read, violate the schema or be no declaration. In the end the model is that of the
accepted documents alone (`SourceSet.entered_of_accepted`), and the diagnostics are those that every
document leaves by itself, one after another.
-/

namespace ModelLinker

/-! ### attempts -/

/-- An attempt to enter a document: as declarations, as JSON, or from a file. -/
inductive Attempt where
  | document (name : String) (d : Decl.Document)
  | json (name : String) (j : Json)
  | file (name : String) (content : FileContent)

namespace Attempt

/-- The set with the document, or why there is no document to look at. -/
def run (set : SourceSet) : Attempt → Except FileProblem SourceSet
  | .document name d => .ok (set.addDocument name d)
  | .json name j => .ok (set.addJson name j)
  | .file name content => set.addFile name content

/-- What the next attempt finds. One that was given up leaves the set as it was. -/
def after (set : SourceSet) (a : Attempt) : SourceSet :=
  match a.run set with
  | .ok set' => set'
  | .error _ => set

/-- The document with its name, as far as it could be loaded. -/
def loaded? : Attempt → Option (String × Loaded)
  | .document name d => some (name, .document d)
  | .json name j => some (name, .ofJson j)
  | .file name content => content.document.toOption.map fun j => (name, .ofJson j)

/-- The document with its name, if it is accepted. -/
def accepted? (a : Attempt) : Option (String × Decl.Document) :=
  a.loaded?.bind fun (name, loaded) => loaded.document?.map fun d => (name, d)

end Attempt

/-- The set after some attempts, one after another. -/
def SourceSet.entered (attempts : List Attempt) : SourceSet := attempts.foldl Attempt.after .empty

/-! ### models without diagnostics -/

namespace Draft

variable {d d' : Draft} {file : String}

theorem model_addFields (h : d.model = d'.model) (parent : StructId) (decls : List Decl.Field) :
    (decls.foldl (addField file parent) d).model =
      (decls.foldl (addField file parent) d').model := by
  induction decls generalizing d d' with
  | nil => exact h
  | cons x rest ih =>
    refine ih ?_
    simp only [addField, h]

theorem model_addStructs (h : d.model = d'.model) (decls : List Decl.Struct) :
    (decls.foldl (addStruct file) d).model = (decls.foldl (addStruct file) d').model := by
  induction decls generalizing d d' with
  | nil => exact h
  | cons x rest ih =>
    refine ih ?_
    have hbody : (d.addBody file x).model = (d'.addBody file x).model := by
      simp only [addBody, h]
    simp only [addStruct_eq, h, model_addFields hbody]

/-- What was found wrong before has no part in what a document puts into a model. -/
theorem model_addDocument (h : d.model = d'.model) (doc : Decl.Document) :
    (d.addDocument file doc).model = (d'.addDocument file doc).model := by
  rw [addDocument_eq, addDocument_eq]
  refine model_addStructs ?_ doc.structs
  simp only [addValues, h]

/-- What was entered before has no part in what is found wrong with a document. -/
theorem diagnostics_addDocument (doc : Decl.Document) :
    (d.addDocument file doc).diagnostics = d.diagnostics ++ Source.documentProblems file doc := by
  obtain ⟨-, -, -, hd⟩ := @addStructs_others (d.addValues file doc) file doc.structs
  rw [addDocument_eq, hd, addValues, Source.documentProblems, List.append_assoc]

end Draft

/-! ### one attempt -/

namespace Loaded

/-- What a loaded document leaves among the diagnostics. -/
def found (name : String) (l : Loaded) : Diagnostics :=
  l.diagnostics name ++ (l.document?.map (Source.documentProblems name)).getD []

/-- JSON that is not accepted leaves an error, and nothing but errors. -/
theorem diagnostics_of_rejected {j : Json} (h : (ofJson j).document? = none) (name : String) :
    (ofJson j).diagnostics name ≠ [] ∧
      ∀ d ∈ (ofJson j).diagnostics name,
        d.severity = .error ∧ d.channel = .source ∧ d.pos = some (.ofFile name) := by
  unfold ofJson at h ⊢
  cases hcheck : Schema.check j with
  | cons v vs =>
    refine ⟨List.cons_ne_nil _ _, fun d hd => ?_⟩
    obtain ⟨w, -, rfl⟩ := List.mem_map.1 hd
    exact ⟨rfl, rfl, rfl⟩
  | nil =>
    cases hread : Decl.readDocument j with
    | ok d => simp [hcheck, hread, document?] at h
    | error e =>
      refine ⟨List.cons_ne_nil _ _, fun d hd => ?_⟩
      obtain rfl := List.mem_singleton.1 hd
      exact ⟨rfl, rfl, rfl⟩

end Loaded

namespace SourceSet

variable {set : SourceSet} {name : String} {l : Loaded}

theorem model_addLoaded :
    (set.addLoaded name l).model =
      ((l.document?.map (set.draft.addDocument name)).map Draft.model).getD set.model := by
  cases l with
  | document d =>
    change (Draft.addDocument name ⟨set.draft.model, set.draft.diagnostics ++ []⟩ d).model =
      (set.draft.addDocument name d).model
    refine Draft.model_addDocument ?_ d
    rfl
  | rejected vs => rfl
  | unreadable e => rfl

theorem documents_addLoaded :
    (set.addLoaded name l).documents = set.documents + l.document?.toList.length := by
  cases l <;> rfl

theorem diagnostics_addLoaded :
    (set.addLoaded name l).diagnostics = set.diagnostics ++ l.found name := by
  cases l with
  | document d =>
    refine (Draft.diagnostics_addDocument d).trans ?_
    simp [Loaded.found, Loaded.diagnostics, Loaded.document?, diagnostics]
  | rejected vs => simp [addLoaded, Loaded.found, Loaded.document?, diagnostics]
  | unreadable e => simp [addLoaded, Loaded.found, Loaded.document?, diagnostics]

/-- Whatever is not accepted leaves its diagnostics and nothing else. -/
theorem addLoaded_of_rejected (h : l.document? = none) :
    set.addLoaded name l =
      { set with draft := { set.draft with
          diagnostics := set.diagnostics ++ l.diagnostics name } } := by
  cases l with
  | document d => cases h
  | rejected vs => rfl
  | unreadable e => rfl

end SourceSet

namespace Attempt

variable {set : SourceSet} {a : Attempt}

theorem after_eq : a.after set = (a.loaded?.map fun x => set.addLoaded x.1 x.2).getD set := by
  cases a with
  | document name d => simp [after, run, loaded?, SourceSet.addLoaded, Loaded.diagnostics]
  | json name j => rfl
  | file name content =>
    simp only [after, run, SourceSet.addFile, loaded?]
    cases content.document <;> rfl

theorem model_after {docs : List (String × Decl.Document)}
    (h : set.model = (SourceSet.ofDocuments docs).model) :
    (a.after set).model = (SourceSet.ofDocuments (docs ++ a.accepted?.toList)).model := by
  rw [after_eq]
  cases hl : a.loaded? with
  | none => simpa [accepted?, hl] using h
  | some x =>
    obtain ⟨name, l⟩ := x
    simp only [Option.map_some, Option.getD_some, SourceSet.model_addLoaded, accepted?, hl,
      Option.bind_some]
    cases hd : l.document? with
    | none => simpa using h
    | some d =>
      simp only [Option.map_some, Option.getD_some, Option.toList_some, SourceSet.model,
        SourceSet.draft_ofDocuments_concat]
      exact Draft.model_addDocument h d

theorem documents_after :
    (a.after set).documents = set.documents + a.accepted?.toList.length := by
  rw [after_eq]
  cases hl : a.loaded? with
  | none => simp [accepted?, hl]
  | some x =>
    simp only [Option.map_some, Option.getD_some, SourceSet.documents_addLoaded, accepted?, hl,
      Option.bind_some]
    cases x.2.document? <;> rfl

/-- What an attempt leaves among the diagnostics does not depend on those before it. -/
theorem diagnostics_after :
    (a.after set).diagnostics = set.diagnostics ++ (a.after .empty).diagnostics := by
  rw [after_eq, after_eq]
  cases a.loaded? with
  | none => simp [SourceSet.diagnostics, SourceSet.empty]
  | some x =>
    simp only [Option.map_some, Option.getD_some, SourceSet.diagnostics_addLoaded]
    simp [SourceSet.diagnostics, SourceSet.empty]

/-- An attempt that was not given up, but whose document is not accepted, had JSON to look at. -/
theorem exists_json_of_rejected {set' : SourceSet} (hrun : a.run set = .ok set')
    (hnone : a.accepted? = none) :
    ∃ name j, a.loaded? = some (name, .ofJson j) ∧ (Loaded.ofJson j).document? = none := by
  cases a with
  | document name d => cases hnone
  | json name j =>
    exact ⟨name, j, rfl, by simpa [accepted?, loaded?] using hnone⟩
  | file name content =>
    simp only [run, SourceSet.addFile] at hrun
    cases hc : content.document with
    | error p =>
      rw [hc] at hrun
      cases hrun
    | ok j =>
      have hloaded : (Attempt.file name content).loaded? = some (name, .ofJson j) := by
        simp [loaded?, hc, Except.toOption]
      exact ⟨name, j, hloaded, by simpa [accepted?, hloaded] using hnone⟩

/-- It leaves an error, nothing but errors, and nothing else. -/
theorem after_of_rejected {set' : SourceSet} (hrun : a.run set = .ok set')
    (hnone : a.accepted? = none) :
    ∃ errors : Diagnostics, errors ≠ [] ∧ (∀ d ∈ errors, d.severity = .error) ∧
      ∀ set, a.after set = ⟨⟨set.model, set.diagnostics ++ errors⟩, set.documents⟩ := by
  obtain ⟨name, j, hloaded, hj⟩ := exists_json_of_rejected hrun hnone
  obtain ⟨hne, herrors⟩ := Loaded.diagnostics_of_rejected hj name
  refine ⟨_, hne, fun d hd => (herrors d hd).1, fun set => ?_⟩
  rw [after_eq, hloaded]
  exact SourceSet.addLoaded_of_rejected hj

end Attempt

/-! ### all attempts -/

namespace SourceSet

theorem entered_concat (attempts : List Attempt) (a : Attempt) :
    entered (attempts ++ [a]) = a.after (entered attempts) := by
  simp [entered]

theorem diagnostics_entered (attempts : List Attempt) :
    (entered attempts).diagnostics = attempts.flatMap fun a => (entered [a]).diagnostics := by
  induction attempts using List.reverseRecOn with
  | nil => rfl
  | append_singleton attempts a ih =>
    rw [entered_concat, Attempt.diagnostics_after, ih, List.flatMap_append]
    simp [entered]

theorem model_entered (attempts : List Attempt) :
    (entered attempts).model =
      (ofDocuments (attempts.filterMap Attempt.accepted?)).model := by
  induction attempts using List.reverseRecOn with
  | nil => rfl
  | append_singleton attempts a ih =>
    rw [entered_concat, Attempt.model_after ih, List.filterMap_append]
    cases h : a.accepted? <;> simp [h]

theorem documents_entered (attempts : List Attempt) :
    (entered attempts).documents = (attempts.filterMap Attempt.accepted?).length := by
  induction attempts using List.reverseRecOn with
  | nil => rfl
  | append_singleton attempts a ih =>
    rw [entered_concat, Attempt.documents_after, ih, List.filterMap_append]
    cases h : a.accepted? <;> simp [h]

/-- Documents do not link if some attempt among theirs leaves an error. -/
theorem exists_error_of_attempt {attempts : List Attempt} {a : Attempt} (ha : a ∈ attempts)
    (hbad : Diagnostics.isOk (entered [a]).diagnostics = false) :
    ∃ found, linkSources (entered attempts) = .error found := by
  cases hl : linkSources (entered attempts) with
  | error found => exact ⟨found, rfl⟩
  | ok l =>
    obtain ⟨hok, -⟩ := faultless_of_linkWith hl
    rw [diagnostics_entered, Diagnostics.isOk_flatMap] at hok
    rw [hok a ha] at hbad
    cases hbad

/-- After any attempts the model is that of the accepted documents alone, and the diagnostics are
those that every attempt leaves by itself. An attempt that is given up changes nothing. One whose
document is not accepted adds errors to the diagnostics, changes nothing else, and keeps the
documents from linking. -/
theorem entered_of_accepted (attempts : List Attempt) :
    (entered attempts).model = (ofDocuments (attempts.filterMap Attempt.accepted?)).model ∧
      (entered attempts).documents = (attempts.filterMap Attempt.accepted?).length ∧
      (entered attempts).diagnostics = attempts.flatMap (fun a => (entered [a]).diagnostics) ∧
      (∀ a p, a.run (entered attempts) = .error p →
        entered (attempts ++ [a]) = entered attempts) ∧
      ∀ a set, a.run (entered attempts) = .ok set → a.accepted? = none →
        ∃ errors : Diagnostics, errors ≠ [] ∧ (∀ d ∈ errors, d.severity = .error) ∧
          set = ⟨⟨(entered attempts).model, (entered attempts).diagnostics ++ errors⟩,
            (entered attempts).documents⟩ ∧
          ∀ later, ∃ found, linkSources (entered (attempts ++ a :: later)) = .error found := by
  refine ⟨model_entered attempts, documents_entered attempts, diagnostics_entered attempts, ?_, ?_⟩
  · intro a p hrun
    rw [entered_concat, Attempt.after, hrun]
  · intro a set hrun hnone
    obtain ⟨errors, hne, herrors, hafter⟩ := Attempt.after_of_rejected hrun hnone
    refine ⟨errors, hne, herrors, ?_, fun later => ?_⟩
    · rw [← hafter, Attempt.after, hrun]
    · refine exists_error_of_attempt (a := a) (by simp) ?_
      obtain ⟨d, hd⟩ := List.exists_mem_of_ne_nil errors hne
      rw [← Bool.not_eq_true]
      intro hok
      have hmem : d ∈ (entered [a]).diagnostics := by
        rw [show entered [a] = a.after .empty from rfl, hafter]
        exact List.mem_append_right _ hd
      have herror := Diagnostics.isOk_iff_forall.1 hok d hmem
      rw [Diagnostic.isError, herrors d hd] at herror
      cases herror

/-- Two documents that link together, and between them a file that is not there, JSON that violates
the schema, JSON that conforms to it and yet is no declaration, and an empty document. -/
def staffAttempts : List Attempt :=
  [.document "staff" staffDocument, .file "lost" .missing,
    .json "text" (.obj [("structs", .str "employee")]),
    .json "fraction" (.obj [("bitfields", .arr [.obj [("items", .arr [.obj [("name", .str "read"),
      ("value", .real ⟨false, 1, 0⟩)]]), ("name", .str "access")]])]),
    .json "nothing" (.obj []), .document "firm" firmDocument]

theorem entered_staffAttempts :
    (staffAttempts.filterMap Attempt.accepted?).map (·.1) = ["staff", "nothing", "firm"] ∧
      (entered staffAttempts).documents = 3 ∧
      (entered staffAttempts).model =
        (ofDocuments (staffAttempts.filterMap Attempt.accepted?)).model ∧
      entered (staffAttempts.take 2) = entered (staffAttempts.take 1) ∧
      ∃ found, linkSources (entered staffAttempts) = .error found := by
  have hnames : (staffAttempts.filterMap Attempt.accepted?).map (·.1) =
      ["staff", "nothing", "firm"] := by decide +kernel
  obtain ⟨hmodel, hdocuments, -⟩ := entered_of_accepted staffAttempts
  have hthree := congrArg List.length hnames
  rw [List.length_map, ← hdocuments] at hthree
  refine ⟨hnames, hthree, hmodel, ?_, ?_⟩
  · exact (entered_of_accepted (staffAttempts.take 1)).2.2.2.1 (.file "lost" .missing) _ rfl
  · obtain ⟨_, -, -, -, hfails⟩ := (entered_of_accepted (staffAttempts.take 2)).2.2.2.2
      (.json "text" (.obj [("structs", .str "employee")])) _ rfl rfl
    exact hfails (staffAttempts.drop 3)

end SourceSet

end ModelLinker
