import ModelLinker.Proofs.Topology

/-!
# What holds of every linked model

A run that succeeds leaves a model in which every name is bound (`fullyBound_of_link`), every
reference comes from a valid foreign key (`referencesOk_of_link`), and the structures are in order
(`orderedBy_of_link`). Two small documents, each of which names parts of the other, show that there
are such runs.
-/

namespace ModelLinker

open Model

/-- There is a structure, no stage finds anything wrong, and the structures have ranks that get less
with every embedding. -/
def SourceSet.FaultlessBy (rank : StructId → Nat) (set : SourceSet) : Prop :=
  set.model.structs.isEmpty = false ∧ Diagnostics.isOk set.diagnostics = true ∧
    Diagnostics.isOk set.model.bindingProblems = true ∧
    (∀ s ∈ set.model.bound.structIds, ∀ e ∈ set.model.bound.embeds s, rank e.2 < rank s) ∧
    Diagnostics.isOk (assignJoins set.model.bound).2.2 = true ∧
    Diagnostics.isOk (searchProblems set.model.marked) = true

theorem SourceSet.FaultlessBy.links {rank : StructId → Nat} {set : SourceSet}
    (h : set.FaultlessBy rank) : ∃ l, linkSources set = .ok l := by
  obtain ⟨hstructs, hdocuments, hbinding, hrank, hjoins, hsearches⟩ := h
  refine ⟨⟨_, _, _⟩, linkWith_eq_ok_iff.2 ⟨hstructs, ?_, rfl⟩⟩
  simp [Model.problems, hdocuments, hbinding, isOk_recursionProblems_of_rank rank hrank, hjoins,
    hsearches]

/-- What linking makes of documents: all names are bound, all references come from foreign keys, and
fields still lie with their owners. -/
theorem sound_of_linkSources {set : SourceSet} (hset : set.Reached) {l : Linked}
    (h : linkSources set = .ok l) :
    l.model.FullyBound ∧ l.model.ReferencesOk ∧ l.model.Owned := by
  obtain ⟨hresolve, hroles⟩ := stagesOk_of_linkWith h
  have hread := keysReadable_of_linkSources hset h
  rw [(linked_of_linkWith h).1]
  exact ⟨linked_fullyBound hresolve hroles hread,
    linked_referencesOk hresolve hroles hread fun _ _ hf => hset.sound.unlinked hf,
    hset.sound.owned.congr asDeclared_linked⟩

/-! ### two documents that link -/

/-- A field of a source document without marks. -/
def Decl.Field.bare (name : String) (type : TypeName) (argument : Option String) : Decl.Field :=
  { name, type, argument, references := none, rowid := false, unique := false, nullable := false,
    noexport := false, default := none, validate := [], place := none, doc := none }

/-- The employees of a firm, with a role that may list them. -/
def staffDocument : Decl.Document where
  structs := [
    { name := "employee", place := none, doc := none
      fields := [
        { Decl.Field.bare "id" (.plain .int) none with rowid := true },
        { Decl.Field.bare "firm_id" (.plain .int) none with
          references := some ⟨"Firm.ID", .cascade, .cascade⟩ },
        .bare "firm" .struct (some "firm_id"),
        .bare "rank" .enum (some "rank"),
        .bare "access" .bitfield (some "access")]
      searches := [
        { kind := .list, name := none, params := [⟨"firm.name", .eq, none⟩]
          order := [⟨"id", .asc, none⟩], distinct := some "firm", aggregate := none, group := none
          limit := none, offset := none, roles := some ["clerk"], place := none, doc := none }]
      updates := [
        { name := none, fields := [⟨"rank", .set, none⟩], all := false
          constraints := [⟨"id", .eq, none⟩], roles := some ["clerk"], place := none
          doc := none }]
      deletes := []
      insert := some ⟨some ["default"], none⟩
      uniques := [⟨["firm_id", "rank"], none⟩] }]
  enums := []
  bitfields := []
  roles := [⟨"clerk", none, [⟨"junior", none, [], none, none⟩], none, none⟩]

/-- The firm, and the values that employees have. -/
def firmDocument : Decl.Document where
  structs := [
    { name := "firm", place := none, doc := none
      fields := [
        { Decl.Field.bare "id" (.plain .int) none with rowid := true },
        .bare "name" (.plain .text) none]
      searches := [], updates := [], deletes := [], insert := none, uniques := [] }]
  enums := [⟨"Rank", [⟨"low", none, none, none⟩, ⟨"high", none, none, none⟩], none, none⟩]
  bitfields := [⟨"Access", [⟨"read", 0, none, none⟩], none, none⟩]
  roles := []

/-- Both documents. -/
def staffSet : SourceSet := .ofDocuments [("staff", staffDocument), ("firm", firmDocument)]

theorem staffSet_reached : staffSet.Reached := SourceSet.reached_ofDocuments _

/-- An employee embeds a firm, and a firm embeds nothing. -/
theorem staffSet_recursion :
    Diagnostics.isOk (recursionProblems staffSet.model.bound) = true := by
  refine isOk_recursionProblems_of_rank (fun s => 1 - s.index) ?_
  simp only [Model.bound, Model.resolved, Namespace.ofModel_eq_scan]
  decide +kernel

theorem staffSet_problems : Diagnostics.isOk staffSet.model.problems = true := by
  simp only [Model.problems, Diagnostics.isOk_append, staffSet_recursion, Bool.true_and]
  simp only [Model.bindingProblems, Model.marked, Model.topology, Model.joined, Model.bound,
    Model.resolved, Namespace.ofModel_eq_scan]
  decide +kernel

theorem staffSet_links : ∃ l, linkSources staffSet = .ok l ∧ link staffSet.model = .ok l := by
  have hseed : staffSet.diagnostics = [] := rfl
  refine ⟨⟨_, _, _⟩, linkWith_eq_ok_iff.2 ⟨?_, ?_, rfl⟩, linkWith_eq_ok_iff.2 ⟨?_, ?_, rfl⟩⟩
  · decide +kernel
  · rw [hseed]
    exact staffSet_problems
  · decide +kernel
  · exact staffSet_problems

theorem staffSet_unlisted : ∀ s ∈ staffSet.model.structs, s.referencedBy = [] := by
  decide +kernel

/-! ### bound names -/

/-- Linking leaves no name unbound: neither in documents, nor in a model whose foreign keys could all
be read. -/
theorem fullyBound_of_link :
    (∀ set l, SourceSet.Reached set → linkSources set = .ok l →
      l.model.FullyBound ∧ l.model.DistinctsExist) ∧
    ∀ m l, m.KeysReadable → link m = .ok l →
      l.model.FullyBound ∧ (m.OwnersExist → l.model.DistinctsExist) := by
  have key : ∀ {seed : Diagnostics} {m : Model} {l : Linked}, m.KeysReadable →
      linkWith seed m = .ok l →
      l.model.FullyBound ∧ (m.OwnersExist → l.model.DistinctsExist) := by
    intro seed m l hread h
    obtain ⟨hresolve, hroles⟩ := stagesOk_of_linkWith h
    rw [(linked_of_linkWith h).1]
    have hb := linked_fullyBound hresolve hroles hread
    exact ⟨hb, fun hown => hb.distinctsExist (hown.congr asDeclared_linked)⟩
  refine ⟨?_, fun m l hread h => key hread h⟩
  intro set l hset h
  obtain ⟨hb, hdistincts⟩ := key (keysReadable_of_linkSources hset h) h
  exact ⟨hb, hdistincts hset.sound.owned.ownersExist⟩

theorem fullyBound_of_staffSet :
    (∃ l, linkSources staffSet = .ok l ∧ l.model.FullyBound ∧ l.model.DistinctsExist) ∧
      ∃ l, link staffSet.model = .ok l ∧ l.model.FullyBound ∧ l.model.DistinctsExist := by
  obtain ⟨l, hset, hm⟩ := staffSet_links
  have hread := keysReadable_of_linkSources staffSet_reached hset
  obtain ⟨hb, hd⟩ := fullyBound_of_link.2 staffSet.model l hread hm
  exact ⟨⟨l, hset, fullyBound_of_link.1 staffSet l staffSet_reached hset⟩, l, hm, hb,
    hd staffSet_reached.sound.owned.ownersExist⟩

/-! ### references -/

/-- The references of a linked model are those of its foreign keys, if there were none before. -/
theorem referencesOk_of_link :
    (∀ set l, SourceSet.Reached set → linkSources set = .ok l →
      l.model.ReferencesOk ∧ l.model.Owned) ∧
    ∀ m l, m.KeysReadable → m.Unlinked → link m = .ok l → l.model.ReferencesOk := by
  have key : ∀ {seed : Diagnostics} {m : Model} {l : Linked}, m.KeysReadable → m.Unlinked →
      linkWith seed m = .ok l → l.model.ReferencesOk := by
    intro seed m l hread hun h
    obtain ⟨hresolve, hroles⟩ := stagesOk_of_linkWith h
    rw [(linked_of_linkWith h).1]
    exact linked_referencesOk hresolve hroles hread hun
  refine ⟨?_, fun m l hread hun h => key hread hun h⟩
  intro set l hset h
  refine ⟨key (keysReadable_of_linkSources hset h) (fun _ _ hf => hset.sound.unlinked hf) h, ?_⟩
  rw [(linked_of_linkWith h).1]
  exact hset.sound.owned.congr asDeclared_linked

theorem referencesOk_of_staffSet :
    (∃ l, linkSources staffSet = .ok l ∧ l.model.ReferencesOk ∧ l.model.Owned) ∧
      ∃ l, link staffSet.model = .ok l ∧ l.model.ReferencesOk := by
  obtain ⟨l, hset, hm⟩ := staffSet_links
  have hread := keysReadable_of_linkSources staffSet_reached hset
  have hun : staffSet.model.Unlinked := fun _ _ hf => staffSet_reached.sound.unlinked hf
  exact ⟨⟨l, hset, referencesOk_of_link.1 staffSet l staffSet_reached hset⟩, l, hm,
    referencesOk_of_link.2 staffSet.model l hread hun hm⟩

/-! ### the order of structures -/

/-- Every run that succeeds, whatever was found before it, leaves a model that is ordered by its
topology. -/
theorem orderedBy_of_link {seed : Diagnostics} {m : Model} {l : Linked}
    (h : linkWith seed m = .ok l) : l.model.OrderedBy l.topology := by
  obtain ⟨-, hok, rfl⟩ := linkWith_eq_ok_iff.1 h
  simp only [Model.problems, Diagnostics.isOk_append, Bool.and_eq_true] at hok
  exact linked_orderedBy hok.2.1.2.1

theorem orderedBy_of_staffSet :
    ∃ l, linkSources staffSet = .ok l ∧ l.model.OrderedBy l.topology := by
  obtain ⟨l, hset, -⟩ := staffSet_links
  exact ⟨l, hset, orderedBy_of_link hset⟩

end ModelLinker
