import ModelLinker.Proofs.Linked

/-!
# Runs that start with diagnostics

What is found before a run is put in front of what the run finds itself, and no stage looks at it.
It can only end the run early: a fatal diagnostic does so before the structures are put in order. No
stage reports anything fatal on its own, so without one a run finds all that there is to find
(`linkWith_of_not_fatal`), with one it finds the first part of it (`linkWith_of_fatal`).
-/

namespace ModelLinker

open Diagnostics (isOk hasFatal errorCount)

/-- The diagnostics that a run carries, whether it succeeds or fails. -/
def carried : Except Diagnostics Linked → Diagnostics
  | .ok l => l.diagnostics
  | .error ds => ds

namespace Model

variable (m : Model)

/-- What a run finds before it could be ended by a fatal diagnostic. -/
def early : Diagnostics :=
  if m.structs.isEmpty then [⟨.resolve .noStructs, none, none⟩] else m.bindingProblems

/-- What a run finds after that. -/
def late : Diagnostics :=
  if m.structs.isEmpty then []
  else
    (orderStructs m.bound).found ++
      searchProblems (markUniqueSearches (orderStructs m.bound).model)

theorem within_early : Diagnostics.Within [.resolve, .unique, .roles] m.early := by
  unfold early
  split
  · simp [Cause.channel, Diagnostic.channel]
  · exact m.within_bindingProblems

variable {m}

/-- It is an error to have no structures, or such as cannot be put in order. -/
theorem not_isOk_found
    (h : m.structs.isEmpty = true ∨ isOk (recursionProblems m.bound) = false) :
    isOk (m.early ++ m.late) = false := by
  unfold early late
  cases hempty : m.structs.isEmpty with
  | true => simp [Diagnostic.isError, Diagnostic.severity, Cause.severity]
  | false =>
    have hrec : isOk (recursionProblems m.bound) = false := h.resolve_left (by simp [hempty])
    simp [orderStructs, hrec]

end Model

variable {seed : Diagnostics} {m : Model}

/-- A fatal diagnostic ends a run before structures are put in order. -/
theorem linkWith_of_fatal (h : hasFatal seed = true) :
    linkWith seed m = .error (seed ++ m.early) := by
  rw [linkWith, linkRun_eq, Model.early]
  cases m.structs.isEmpty with
  | true => simp
  | false => simp [abortLinking, bindModel_diagnostics, Diagnostics.hasFatal_append, h]

/-- Without a fatal diagnostic a run finds all that there is to find, and succeeds exactly if none
of all diagnostics is an error. -/
theorem linkWith_of_not_fatal (h : hasFatal seed = false) :
    linkWith seed m =
      if isOk (seed ++ (m.early ++ m.late)) then
        .ok ⟨m.linked, m.topology, seed ++ (m.early ++ m.late)⟩
      else .error (seed ++ (m.early ++ m.late)) := by
  have hbad : m.structs.isEmpty = true ∨ isOk (recursionProblems m.bound) = false →
      isOk (seed ++ (m.early ++ m.late)) = false := fun hm => by
    rw [Diagnostics.isOk_append, Model.not_isOk_found hm, Bool.and_false]
  cases hempty : m.structs.isEmpty with
  | true =>
    rw [hbad (.inl hempty)]
    simp [linkWith, linkRun_eq, Model.early, Model.late, hempty]
  | false =>
    have hfatal : hasFatal (seed ++ m.bindingProblems) = false := by
      simp [Diagnostics.hasFatal_append, h, m.within_bindingProblems.hasFatal]
    cases hrec : isOk (recursionProblems m.bound) with
    | true =>
      have hfound : m.early ++ m.late = m.problems := by
        simpa [Model.early, Model.late, hempty] using @problems_of_isOk [] m hrec
      rw [hfound]
      cases hok : isOk (seed ++ m.problems) with
      | true => exact linkWith_eq_ok_iff.2 ⟨hempty, hok, rfl⟩
      | false => exact linkWith_eq_error hempty hfatal hrec hok
    | false =>
      rw [hbad (.inr hrec)]
      simp [linkWith, linkRun_eq, Model.early, Model.late, hempty, bindModel_model,
        bindModel_diagnostics, hfatal, orderStructs_of_not_isOk hrec, finishLinking]

/-- What a run of its own carries. -/
theorem carried_link (m : Model) : carried (link m) = m.early ++ m.late := by
  rw [link, linkWith_of_not_fatal rfl]
  split <;> simp [carried]

theorem Diagnostics.isOk_of_hasFatal {ds : Diagnostics} (h : hasFatal ds = true) :
    isOk ds = false := by
  rw [← Bool.not_eq_true]
  intro hok
  rw [Diagnostics.hasFatal_of_isOk hok] at h
  cases h

/-- A run fails exactly if an error is among the diagnostics that it carries. -/
theorem linkWith_fails_iff :
    (∃ ds, linkWith seed m = .error ds) ↔ isOk (carried (linkWith seed m)) = false := by
  cases hfatal : hasFatal seed with
  | true => simp [linkWith_of_fatal hfatal, carried, Diagnostics.isOk_of_hasFatal hfatal]
  | false =>
    rw [linkWith_of_not_fatal hfatal]
    split
    · rename_i hok
      simp [carried, hok]
    · rename_i hbad
      simp only [Except.error.injEq, exists_eq', carried, true_iff]
      exact Bool.not_eq_true _ ▸ hbad

/-- A run succeeds exactly if there was no error before it and it succeeds on its own; then it gives
the same. -/
theorem linkWith_eq_ok_iff_link :
    ((∃ l, linkWith seed m = .ok l) ↔ isOk seed = true ∧ ∃ l, link m = .ok l) ∧
      ∀ l l', linkWith seed m = .ok l → link m = .ok l' →
        l.model = l'.model ∧ l.topology = l'.topology := by
  constructor
  · simp only [link, linkWith_eq_ok_iff, Diagnostics.isOk_append, Diagnostics.isOk_nil,
      Bool.and_eq_true, Bool.true_and, exists_and_left, exists_eq, and_true]
    tauto
  · intro l l' h h'
    obtain ⟨-, -, rfl⟩ := linkWith_eq_ok_iff.1 h
    obtain ⟨-, -, rfl⟩ := linkWith_eq_ok_iff.1 h'
    exact ⟨rfl, rfl⟩

/-- What is found before a run neither changes nor hides what the run finds, unless it is fatal:
then the run ends after its first stages. In any case a run fails exactly if it carries an error, so that
a failure always has one, and a linked model only warnings. -/
theorem linkWith_seeded (seed : Diagnostics) (m : Model) :
    (hasFatal seed = false → carried (linkWith seed m) = seed ++ carried (link m)) ∧
    (((∃ l, linkWith seed m = .ok l) ↔ isOk seed = true ∧ ∃ l, link m = .ok l) ∧
      ∀ l l', linkWith seed m = .ok l → link m = .ok l' →
        l.model = l'.model ∧ l.topology = l'.topology) ∧
    (hasFatal seed = true →
      ∃ found, linkWith seed m = .error (seed ++ found) ∧ found <+: carried (link m) ∧
        ∀ d ∈ found, d.channel ∉ [Channel.recursion, .aliases, .search]) ∧
    ((∃ ds, linkWith seed m = .error ds) ↔
      ∃ d ∈ carried (linkWith seed m), d.isError = true) ∧
    (∀ ds, linkWith seed m = .error ds → 0 < errorCount ds) ∧
    ∀ l, linkWith seed m = .ok l → ∀ d ∈ l.diagnostics, d.severity = .warning := by
  have herror : ∀ ds, isOk ds = false ↔ ∃ d ∈ ds, d.isError = true := fun ds => by simp [isOk]
  refine ⟨fun hfatal => ?_, linkWith_eq_ok_iff_link, fun hfatal => ?_, ?_, ?_, ?_⟩
  · rw [linkWith_of_not_fatal hfatal, carried_link]
    split <;> rfl
  · refine ⟨m.early, linkWith_of_fatal hfatal, carried_link m ▸ List.prefix_append _ _, ?_⟩
    intro d hd
    have hchannel := (m.within_early d hd).1
    revert hchannel
    cases d.channel <;> simp
  · rw [linkWith_fails_iff, herror]
  · intro ds h
    have hbad := linkWith_fails_iff.1 ⟨ds, h⟩
    rw [h, carried, ← Bool.not_eq_true, Diagnostics.isOk_iff] at hbad
    exact Nat.pos_of_ne_zero hbad
  · intro l h d hd
    obtain ⟨-, hok, rfl⟩ := linkWith_eq_ok_iff.1 h
    simpa [Diagnostic.isError] using Diagnostics.isOk_iff_forall.1 hok d hd

/-- A note that comes from outside. -/
def noted (severity : Severity) : Diagnostic := ⟨.note severity .source "noted before", none, none⟩

/-- Employees link after a warning as they do without it; after an error they are linked to the end
without success, and after a fatal error in part. -/
theorem linkWith_noted :
    (∃ l l', linkWith [noted .warning] staffSet.model = .ok l ∧ link staffSet.model = .ok l' ∧
      l.model = l'.model ∧ l.topology = l'.topology ∧
      l.diagnostics = noted .warning :: l'.diagnostics) ∧
    (∃ ds, linkWith [noted .error] staffSet.model = .error ds ∧
      ds = noted .error :: carried (link staffSet.model) ∧ 0 < errorCount ds) ∧
    ∃ found, linkWith [noted .fatal] staffSet.model = .error (noted .fatal :: found) ∧
      found <+: carried (link staffSet.model) := by
  obtain ⟨l', -, hl'⟩ := staffSet_links
  obtain ⟨hwarned, ⟨hsucceeds, hsame⟩, -⟩ := linkWith_seeded [noted .warning] staffSet.model
  obtain ⟨hfailed, -, -, hfails, hcount, -⟩ := linkWith_seeded [noted .error] staffSet.model
  obtain ⟨-, -, hended, -⟩ := linkWith_seeded [noted .fatal] staffSet.model
  refine ⟨?_, ?_, ?_⟩
  · have hcarried := hwarned rfl
    obtain ⟨l, hl⟩ := hsucceeds.2 ⟨rfl, l', hl'⟩
    obtain ⟨hmodel, htopology⟩ := hsame l l' hl hl'
    rw [hl, hl'] at hcarried
    exact ⟨l, l', hl, hl', hmodel, htopology, hcarried⟩
  · have hcarried := hfailed rfl
    obtain ⟨ds, hds⟩ := hfails.2 ⟨noted .error, hcarried ▸ List.mem_cons_self, rfl⟩
    rw [hds] at hcarried
    exact ⟨ds, hds, hcarried, hcount ds hds⟩
  · obtain ⟨found, hfound, hprefix, -⟩ := hended rfl
    exact ⟨found, hfound, hprefix⟩

end ModelLinker
