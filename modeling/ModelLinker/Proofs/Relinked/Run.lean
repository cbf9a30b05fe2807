import ModelLinker.Proofs.Linked
import ModelLinker.Proofs.Relinked.Problems

/-!
# Linking a linked model

Linking a linked model succeeds, with the same topology and the same diagnostics, and every slot of
the model is written once more with what it holds, but for one (`relinked_of_link`): the lists of
the fields that refer to structures are not written anew but made longer, so that every field with a
foreign key is listed once more by every run (`relink_eq`). If the lists are emptied before, linking
again changes nothing at all (`link_unlisted`).
-/

namespace ModelLinker

open Diagnostics (isOk)

/-! ### lists of fields that refer -/

namespace Model

variable {m : Model} {id : StructId} {s : Struct}

theorem mem_referring {fid : FieldId} : fid ∈ m.referring id ↔
    ∃ f k, m.field? fid = some f ∧ f.foreign = some k ∧ k.targetStruct.target = some id := by
  obtain ⟨i⟩ := fid
  simp only [referring, List.mem_map, List.mem_filter, List.mem_zipIdx_iff_getElem?, field?,
    Option.any_eq_true, beq_iff_eq, Array.getElem?_toList]
  constructor
  · rintro ⟨⟨f, j⟩, ⟨hf, k, hk, ht⟩, hj⟩
    obtain rfl := FieldId.mk.inj hj
    exact ⟨f, k, hf, hk, ht⟩
  · rintro ⟨f, k, hf, hk, ht⟩
    exact ⟨(f, i), ⟨hf, k, hk, ht⟩, rfl⟩

theorem relist_eq_self {list : StructId → List FieldId → List FieldId}
    (h : ∀ {id s}, m.struct? id = some s → list id s.referencedBy = s.referencedBy) :
    m.relist list = m := by
  rw [relist, structs_mapIdx_eq_self fun {id s} hs => ?_]
  rw [h hs]

theorem relist_relist (list list' : StructId → List FieldId → List FieldId) :
    (m.relist list).relist list' = m.relist fun id ids => list' id (list id ids) := by
  simp only [relist, Array.mapIdx_mapIdx, Function.comp_def]

/-- Binding structure-typed fields leaves foreign keys alone. -/
theorem referring_linked (m : Model) (id : StructId) :
    m.linked.referring id = m.keyed.referring id := by
  simp only [referring, linked_fields, walkable, resolveStructFields, Array.toList_map,
    List.zipIdx_map, List.filter_map, List.map_map, Function.comp_def, Prod.map,
    resolveStruct_foreign]
  rfl

/-- The fields listed as referring to a structure: those listed before, and after them those whose
keys are bound to it, each once. -/
theorem referencedBy_linked (h : m.ResolveOk) (hs : m.linked.struct? id = some s) :
    ∃ s₀, m.struct? id = some s₀ ∧ s.referencedBy = s₀.referencedBy ++ m.linked.referring id := by
  have hsettled : Struct.Settled Struct.referencedBy :=
    ⟨fun _ _ => rfl, fun _ => rfl, fun _ _ => rfl, fun _ _ => rfl, fun _ _ => rfl⟩
  obtain ⟨y, hy, hview⟩ := struct?_walkable_of_linked hsettled (fun _ _ => rfl) hs
  have hlisted : (m.keyed.struct? id).map Struct.referencedBy =
      (m.struct? id).map fun s => s.referencedBy ++ m.keyed.referring id := by
    rw [keyed, ← validKeys_eq h.keys]
    simp only [resolveForeignKeys, struct?, Array.getElem?_mapIdx, Option.map_map]
    simp only [typed, resolveValueTypes, resolveRowids, Array.getElem?_mapIdx, Option.map_map]
    rfl
  have hy : m.keyed.struct? id = some y := hy
  rw [hy, Option.map_some, eq_comm, Option.map_eq_some_iff] at hlisted
  obtain ⟨s₀, hs₀, hlist⟩ := hlisted
  exact ⟨s₀, hs₀, by rw [← hview, referring_linked, hlist]; rfl⟩

/-! ### one run on a filled model -/

theorem Filled.link (h : m.Filled) (hempty : m.structs.isEmpty = false)
    (hok : isOk m.problems = true) :
    ModelLinker.link m = .ok ⟨m.refer m.referring, Topology.ofModel m, m.problems⟩ :=
  linkWith_eq_ok_iff.2 ⟨hempty, hok, by rw [h.linked, h.topology]; rfl⟩

/-- There are no foreign keys exactly if no structure of a filled model is referred to. -/
theorem Filled.refer_eq_self (h : m.Filled) :
    m.refer m.referring = m ↔ ∀ f ∈ m.fields, f.foreign = none := by
  constructor
  · intro hsame f hf
    obtain ⟨i, hi⟩ := Array.mem_iff_getElem?.1 hf
    have hi : m.field? ⟨i⟩ = some f := hi
    rw [Option.eq_none_iff_forall_not_mem]
    intro k hk
    obtain ⟨s, tid, t, hb⟩ := h.keys hi hk
    obtain ⟨x, hx, -⟩ := Namespace.struct?_some hb.struct
    have hlisted : ⟨i⟩ ∈ m.referring s := mem_referring.2 ⟨f, k, hi, hk, hb.targetStruct⟩
    -- the structure that the key is bound to would have a list that is its own extension
    have hx' := m.struct?_relist (fun id before => before ++ m.referring id) s
    rw [← refer, hsame, hx, Option.map_some, Option.some.injEq] at hx'
    have hnil := congrArg Struct.referencedBy hx'
    simp only [List.self_eq_append_right] at hnil
    rw [hnil] at hlisted
    cases hlisted
  · intro hnone
    refine relist_eq_self fun {id s} _ => ?_
    have hnil : m.referring id = [] := by
      rw [List.eq_nil_iff_forall_not_mem]
      intro fid hfid
      obtain ⟨f, k, hf, hk, -⟩ := mem_referring.1 hfid
      rw [hnone f (Array.mem_of_getElem? hf)] at hk
      cases hk
    rw [hnil, List.append_nil]

end Model

/-! ### a run on what a run has left -/

variable {m : Model} {l : Linked}

/-- A linked model is filled, and there is as much to report on it as before. -/
theorem filled_of_link (h : link m = .ok l) : l.model.Filled ∧ l.model.structs.isEmpty = false ∧
    l.topology = Topology.ofModel l.model ∧ l.diagnostics = l.model.remainingProblems ∧
      isOk l.diagnostics = true := by
  have hfaultless := (faultless_of_linkWith h).2
  obtain ⟨hempty, hok, rfl⟩ := linkWith_eq_ok_iff.1 h
  refine ⟨hfaultless.filled, ?_, (Model.ofModel_linked m).symm, ?_, hok⟩
  · simp only [Array.isEmpty, Model.size_structs_congr Model.asDeclared_linked] at hempty ⊢
    exact hempty
  · rw [List.nil_append, ← hfaultless.problems_linked, hfaultless.filled.problems]

/-- Whatever fields are listed in a linked model, linking it again adds those that refer. -/
theorem link_relist (h : link m = .ok l) (list : StructId → List FieldId → List FieldId) :
    link (l.model.relist list) =
      .ok { l with model := (l.model.relist list).refer l.model.referring } := by
  obtain ⟨hfilled, hempty, htopology, hproblems, hok⟩ := filled_of_link h
  have hagain := hfilled.relist list
  have hremaining : (l.model.relist list).problems = l.diagnostics := by
    rw [hagain.problems, Model.remainingProblems_relist, hproblems]
  have hsame : Topology.ofModel (l.model.relist list) = l.topology := by
    rw [htopology]
    exact Model.ofModel_congr (l.model.size_relist list) (l.model.sameFields_relist list).embeds
  rw [hagain.link ?_ (hremaining ▸ hok), hremaining, hsame]
  · rfl
  · simpa [Array.isEmpty, l.model.size_relist list] using hempty

theorem link_linked (h : link m = .ok l) :
    link l.model = .ok { l with model := l.model.refer l.model.referring } := by
  have hself : l.model.relist (fun _ ids => ids) = l.model := Model.relist_eq_self fun _ => rfl
  have := link_relist h fun _ ids => ids
  rwa [hself] at this

/-- With its lists emptied, a linked model links to itself. -/
theorem link_unlisted (h : link m = .ok l) (hnone : ∀ s ∈ m.structs, s.referencedBy = []) :
    link l.model.unlisted = .ok l := by
  have hresolve := Model.resolveOk_of_isOk (faultless_of_linkWith h).2.resolve
  rw [Model.unlisted, link_relist h, Model.refer, Model.relist_relist, Model.relist_eq_self]
  intro id s hs
  rw [(Model.linked_of_linkWith h).1] at hs ⊢
  obtain ⟨s₀, hs₀, hlist⟩ := Model.referencedBy_linked hresolve hs
  rw [hlist, hnone s₀ (Array.mem_of_getElem? hs₀)]

/-- Linking a linked model gives what it was, with the same topology and diagnostics, but lists every
field that refers to a structure once more; so it gives the very same exactly if there are no
foreign keys. It always would if the lists were emptied first. -/
theorem relinked_of_link (h : link m = .ok l) :
    link l.model = .ok { l with model := l.model.refer l.model.referring } ∧
      (link l.model = .ok l ↔ ∀ f ∈ l.model.fields, f.foreign = none) ∧
      ((∀ s ∈ m.structs, s.referencedBy = []) → link l.model.unlisted = .ok l) := by
  have hrun := link_linked h
  refine ⟨hrun, ?_, link_unlisted h⟩
  rw [hrun, ← (filled_of_link h).1.refer_eq_self, Except.ok.injEq]
  constructor
  · exact fun hsame => congrArg Linked.model hsame
  · intro hsame
    rw [hsame]

theorem relinked_of_staffSet :
    ∃ l, link staffSet.model = .ok l ∧
      link l.model = .ok { l with model := l.model.refer l.model.referring } ∧
      link l.model.unlisted = .ok l := by
  obtain ⟨l, -, hl⟩ := staffSet_links
  obtain ⟨hrun, -, hunlisted⟩ := relinked_of_link hl
  exact ⟨l, hl, hrun, hunlisted staffSet_unlisted⟩

/-- One field refers to the firm. Linked once it is listed once, and linked again it is listed
twice. -/
theorem staffSet_listed_twice :
    ∃ l l', link staffSet.model = .ok l ∧ link l.model = .ok l' ∧
      (l.model.struct? ⟨1⟩).map Struct.referencedBy = some [⟨1⟩] ∧
      (l'.model.struct? ⟨1⟩).map Struct.referencedBy = some [⟨1⟩, ⟨1⟩] := by
  obtain ⟨l, -, hl⟩ := staffSet_links
  have hmodel := (Model.linked_of_linkWith hl).1
  have hresolve := Model.resolveOk_of_isOk (faultless_of_linkWith hl).2.resolve
  have hreferring : l.model.referring ⟨1⟩ = [⟨1⟩] := by
    rw [hmodel, Model.referring_linked]
    simp only [Model.keyed, Model.typed, Namespace.ofModel_eq_scan]
    decide +kernel
  have hfirm : 1 < l.model.structs.size := by
    rw [hmodel, Model.size_structs_congr Model.asDeclared_linked]
    decide +kernel
  obtain ⟨x, hx⟩ : ∃ x, l.model.struct? ⟨1⟩ = some x := ⟨_, Array.getElem?_eq_getElem hfirm⟩
  have hlisted : x.referencedBy = [⟨1⟩] := by
    have hx : staffSet.model.linked.struct? ⟨1⟩ = some x := by rw [← hmodel, hx]
    obtain ⟨s₀, hs₀, hlist⟩ := Model.referencedBy_linked hresolve hx
    rw [hlist, staffSet_unlisted s₀ (Array.mem_of_getElem? hs₀), ← hmodel, hreferring,
      List.nil_append]
  refine ⟨l, _, hl, link_linked hl, ?_, ?_⟩
  · rw [hx, Option.map_some, hlisted]
  · rw [Model.refer, Model.struct?_relist, hx, Option.map_some, Option.map_some, hlisted,
      hreferring]
    rfl

/-! ### many runs -/

/-- A run, and after it so many more, each on what the last one has left. -/
def relink : Nat → Model → Except Diagnostics Linked
  | 0, m => link m
  | n + 1, m => (link m).bind fun l => relink n l.model

/-- Every run after the first lists the fields that refer once more, and does nothing else. -/
theorem relink_eq (h : link m = .ok l) (n : Nat) : relink n m =
    .ok { l with model := l.model.refer fun id =>
      (List.replicate n (l.model.referring id)).flatten } := by
  induction n generalizing m l with
  | zero =>
    have hself : l.model.refer (fun _ => []) = l.model :=
      Model.relist_eq_self fun _ => List.append_nil _
    simp [relink, h, hself]
  | succ n ih =>
    have hrun := ih (link_linked h)
    simp only [Model.refer, Model.relist_relist, List.append_assoc] at hrun
    simp only [relink, h, Except.bind, List.replicate_succ, List.flatten_cons, Model.refer]
    exact hrun

end ModelLinker
