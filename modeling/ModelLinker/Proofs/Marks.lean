import ModelLinker.Proofs.Topology

/-!
# The marks of structures

The marks are computed one structure after another, each after the structures it embeds. In the end
every mark says what it should about the model itself, whatever marks there were before
(`computeFlags_markedAt`): a part may be absent exactly if a chain of embeddings leads to a
structure with a nullable structure-typed field.
-/

namespace ModelLinker

open Relation

namespace Model

/-- The structure has a structure-typed field whose source field is nullable. -/
def HasNullable (m : Model) (s : StructId) : Prop :=
  ∃ e ∈ m.fieldsOf s, e.2.type.isStruct = true ∧
    ∃ r, e.2.reference = some r ∧ ∃ source, m.field? r.source = some source ∧
      source.flags.nullable = true

instance (m : Model) (s : StructId) : Decidable (m.HasNullable s) :=
  inferInstanceAs (Decidable (∃ e ∈ m.fieldsOf s, e.2.type.isStruct = true ∧
    ∃ r ∈ e.2.reference, ∃ source ∈ m.field? r.source, source.flags.nullable = true))

/-- A chain of embeddings leads to a structure-typed field whose source field is nullable. -/
def LeadsToNullable (m : Model) (s : StructId) : Prop :=
  ∃ t, ReflTransGen m.Embeds s t ∧ m.HasNullable t

/-- The marks of a structure say what holds of it. -/
structure MarkedAt (m : Model) (id : StructId) (s : Struct) : Prop where
  queue : s.flags.hasQueue = s.searches.any fun x => x.kind == .list
  iterator : s.flags.hasIterator = s.searches.any fun x => x.kind == .iterate
  blob : s.flags.hasBlob = (m.fieldsOf id).any fun e => e.2.type == .plain .blob
  nullrefs : s.flags.hasNullrefs = true ↔ m.LeadsToNullable id

variable {m : Model}

theorem leadsToNullable_iff {s : StructId} :
    m.LeadsToNullable s ↔ m.HasNullable s ∨ ∃ t, m.Embeds s t ∧ m.LeadsToNullable t := by
  constructor
  · rintro ⟨u, hsu, hu⟩
    rcases hsu.cases_head with rfl | ⟨t, hst, htu⟩
    · exact .inl hu
    · exact .inr ⟨t, hst, u, htu, hu⟩
  · rintro (hs | ⟨t, hst, u, htu, hu⟩)
    · exact ⟨s, .refl, hs⟩
    · exact ⟨u, .head hst htu, hu⟩

/-- There is nothing to be absent outside the model. -/
theorem mem_structIds_of_leadsToNullable {s : StructId} (h : m.LeadsToNullable s) :
    s ∈ m.structIds := by
  rcases leadsToNullable_iff.1 h with ⟨e, hmem, -⟩ | ⟨t, hst, -⟩
  · obtain ⟨st, hst, -⟩ := mem_fieldsOf.1 hmem
    exact mem_structIds.2 (struct?_eq_some.1 hst).1
  · exact mem_structIds_of_embeds hst

/-- What the mark of a structure is computed from: its own fields, and the marks of the structures
that it embeds. -/
theorem hasNullrefs_flagsOf {id : StructId} {s : Struct} :
    (m.flagsOf id s).hasNullrefs = true ↔
      m.HasNullable id ∨
        ∃ t, m.Embeds id t ∧ ∃ x, m.struct? t = some x ∧ x.flags.hasNullrefs = true := by
  simp only [flagsOf, isNullRef, List.any_eq_true, Bool.and_eq_true, Bool.or_eq_true,
    Option.any_eq_true]
  constructor
  · rintro ⟨e, hmem, hstruct, r, hr, ⟨source, hsource, hnull⟩ | ⟨x, hx, hnull⟩⟩
    · exact .inl ⟨e, hmem, hstruct, r, hr, source, hsource, hnull⟩
    · obtain ⟨t, ht, hx⟩ := Option.bind_eq_some_iff.1 hx
      exact .inr ⟨t, ⟨e.1, List.mem_filterMap.2 ⟨e, hmem, by simp [ht]⟩⟩, x, hx, hnull⟩
  · rintro (⟨e, hmem, hstruct, r, hr, source, hsource, hnull⟩ | ⟨t, ⟨fid, he⟩, x, hx, hnull⟩)
    · exact ⟨e, hmem, hstruct, r, hr, .inl ⟨source, hsource, hnull⟩⟩
    · obtain ⟨e, hmem, he⟩ := List.mem_filterMap.1 he
      obtain ⟨t', ht, heq⟩ := Option.map_eq_some_iff.1 he
      obtain ⟨-, rfl⟩ := Prod.mk.inj heq
      -- a field that embeds a structure is of such a type and has a reference
      have hfield := ht
      unfold embedded? at hfield
      split at hfield
      · rename_i hstruct
        obtain ⟨r, hr, -⟩ := Option.bind_eq_some_iff.1 hfield
        exact ⟨e, hmem, hstruct, r, hr, .inr ⟨x, Option.bind_eq_some_iff.2 ⟨t', ht, hx⟩, hnull⟩⟩
      · cases hfield

end Model

/-! ### one structure -/

section Step

variable {m : Model} {id : StructId}

theorem struct?_setFlags (x : StructId) :
    (setFlags m id).struct? x =
      (m.struct? x).map fun s => if x = id then { s with flags := m.flagsOf id s } else s := by
  unfold setFlags
  obtain ⟨i⟩ := id
  obtain ⟨j⟩ := x
  cases hs : m.struct? ⟨i⟩ with
  | none =>
    cases hx : m.struct? ⟨j⟩ with
    | none => rfl
    | some s =>
      have hne : j ≠ i := by
        rintro rfl
        rw [hs] at hx
        cases hx
      simp [hne]
  | some s =>
    simp only [Model.struct?, Model.modifyStruct, Array.getElem?_modify, StructId.mk.injEq] at hs ⊢
    by_cases h : i = j
    · subst h
      simp [hs]
    · simp [h, Ne.symm h]

theorem sameFields_setFlags (m : Model) (id : StructId) : Model.SameFields m (setFlags m id) where
  fields := setFlags_fields m id
  listed := Model.fieldsOf_congr (map_setFlags (fun _ _ => rfl) m id) (setFlags_fields m id)

theorem size_setFlags (m : Model) (id : StructId) :
    (setFlags m id).structs.size = m.structs.size := by
  have := congrArg Array.size (@map_setFlags Unit (fun _ => ()) (fun _ _ => rfl) m id)
  simpa using this

end Step

namespace Model

variable {m m' : Model}

theorem SameFields.arrows (h : SameFields m m') : m'.Embeds = m.Embeds := by
  funext s t
  simp only [Embeds, h.embeds]

theorem SameFields.hasNullable (h : SameFields m m') : m'.HasNullable = m.HasNullable := by
  funext s
  simp only [HasNullable, h.listed, field?, h.fields]

theorem SameFields.leadsToNullable (h : SameFields m m') :
    m'.LeadsToNullable = m.LeadsToNullable := by
  funext s
  simp only [LeadsToNullable, h.hasNullable, h.arrows]

theorem SameFields.markedAt (h : SameFields m m') {id : StructId} {s : Struct}
    (hs : m.MarkedAt id s) : m'.MarkedAt id s where
  queue := hs.queue
  iterator := hs.iterator
  blob := by rw [h.listed, hs.blob]
  nullrefs := by rw [h.leadsToNullable, hs.nullrefs]

/-- Marks that are right for the same fields and searches are the same. -/
theorem MarkedAt.flags_eq {id : StructId} {s s' : Struct} (hs : m.MarkedAt id s)
    (hs' : m.MarkedAt id s') (hsearches : s'.searches = s.searches) : s'.flags = s.flags := by
  have hnull : s'.flags.hasNullrefs = s.flags.hasNullrefs := by
    rw [Bool.eq_iff_iff, hs.nullrefs, hs'.nullrefs]
  have hqueue : s'.flags.hasQueue = s.flags.hasQueue := by
    rw [hs.queue, hs'.queue, hsearches]
  have hiterator : s'.flags.hasIterator = s.flags.hasIterator := by
    rw [hs.iterator, hs'.iterator, hsearches]
  have hblob : s'.flags.hasBlob = s.flags.hasBlob := by
    rw [hs.blob, hs'.blob]
  cases hf : s.flags
  cases hf' : s'.flags
  simp_all

/-- The structure gets its marks right if those that it embeds have them right. -/
theorem markedAt_flagsOf {id : StructId} {s : Struct}
    (h : ∀ t x, m.Embeds id t → m.struct? t = some x → m.MarkedAt t x) :
    m.MarkedAt id { s with flags := m.flagsOf id s } where
  queue := rfl
  iterator := rfl
  blob := rfl
  nullrefs := by
    rw [hasNullrefs_flagsOf, leadsToNullable_iff]
    refine or_congr_right (exists_congr fun t => and_congr_right fun hembeds => ?_)
    constructor
    · rintro ⟨x, hx, hnull⟩
      exact (h t x hembeds hx).nullrefs.1 hnull
    · intro hnull
      obtain ⟨hlt, hx⟩ : ∃ hlt : t.index < m.structs.size, m.struct? t = some m.structs[t.index] :=
        ⟨mem_structIds.1 (mem_structIds_of_leadsToNullable hnull), struct?_eq_some.2 ⟨_, rfl⟩⟩
      exact ⟨_, hx, (h t _ hembeds hx).nullrefs.2 hnull⟩

end Model

/-! ### all structures -/

/-- What a change of marks leaves alone. -/
theorem struct?_computeFlags (order : List StructId) {m : Model} {id : StructId} {s : Struct}
    (hs : m.struct? id = some s) :
    ∃ fs, (computeFlags order m).struct? id = some { s with flags := fs } := by
  unfold computeFlags
  induction order generalizing m s with
  | nil => exact ⟨s.flags, hs⟩
  | cons x rest ih =>
    have hstep := @struct?_setFlags m x id
    rw [hs, Option.map_some] at hstep
    split at hstep
    · exact @ih _ { s with flags := m.flagsOf x s } hstep
    · exact ih hstep

theorem sameFields_computeFlags (order : List StructId) (m : Model) :
    Model.SameFields m (computeFlags order m) where
  fields := computeFlags_fields order m
  listed := Model.fieldsOf_congr (map_computeFlags (fun _ _ => rfl) order m)
    (computeFlags_fields order m)

theorem size_computeFlags (order : List StructId) (m : Model) :
    (computeFlags order m).structs.size = m.structs.size := by
  have := congrArg Array.size (@map_computeFlags Unit (fun _ => ()) (fun _ _ => rfl) order m)
  simpa using this

/-- The rest of an order, once the structures before it have their marks right. -/
theorem markedAt_computeFlags_rest {before order : List StructId} {m : Model}
    (hall : ∀ id ∈ m.structIds, id ∈ before ∨ id ∈ order) (hself : ∀ id, ¬ m.Embeds id id)
    (hsorted : order.Pairwise fun a b => ¬ m.Embeds a b)
    (hdone : ∀ id ∈ before, ∀ s, m.struct? id = some s → m.MarkedAt id s) {id : StructId}
    {s : Struct} (hs : (computeFlags order m).struct? id = some s) :
    (computeFlags order m).MarkedAt id s := by
  induction order generalizing before m with
  | nil =>
    have hid : id ∈ m.structIds := Model.mem_structIds.2 (Model.struct?_eq_some.1 hs).1
    exact hdone id ((hall id hid).resolve_right List.not_mem_nil) s hs
  | cons x rest ih =>
    have hsame := sameFields_setFlags m x
    obtain ⟨hfirst, hrest⟩ := List.pairwise_cons.1 hsorted
    refine @ih (x :: before) (setFlags m x) ?_ (hsame.arrows ▸ hself) (hsame.arrows ▸ hrest) ?_ hs
    · intro id hid
      rw [Model.mem_structIds, size_setFlags, ← Model.mem_structIds] at hid
      rcases hall id hid with h | h
      · exact .inl (List.mem_cons_of_mem x h)
      · rcases List.mem_cons.1 h with rfl | h
        · exact .inl List.mem_cons_self
        · exact .inr h
    · intro id hid s hs
      rw [struct?_setFlags, Option.map_eq_some_iff] at hs
      obtain ⟨y, hy, rfl⟩ := hs
      refine hsame.markedAt ?_
      split
      · rename_i heq
        subst heq
        refine Model.markedAt_flagsOf fun t z ht hz => ?_
        have htid : t ∈ m.structIds := Model.mem_structIds.2 (Model.struct?_eq_some.1 hz).1
        rcases hall t htid with h | h
        · exact hdone t h z hz
        · rcases List.mem_cons.1 h with rfl | h
          · exact absurd ht (hself _)
          · exact absurd ht (hfirst t h)
      · rename_i hne
        exact hdone id ((List.mem_cons.1 hid).resolve_left hne) y hy

/-- If the order lists every structure, each after those it embeds, all marks come out right. -/
theorem computeFlags_markedAt {order : List StructId} {m : Model}
    (hall : ∀ id ∈ m.structIds, id ∈ order) (hself : ∀ id, ¬ m.Embeds id id)
    (hsorted : order.Pairwise fun a b => ¬ m.Embeds a b) {id : StructId} {s : Struct}
    (hs : (computeFlags order m).struct? id = some s) : (computeFlags order m).MarkedAt id s :=
  @markedAt_computeFlags_rest [] order m (fun id hid => .inr (hall id hid)) hself hsorted
    (fun _ hid => absurd hid List.not_mem_nil) id s hs

namespace Model

/-- Without recursion the marks are computed in an order that lists every structure after all that
it embeds. -/
theorem marked_sorted (m : Model) (h : Diagnostics.isOk (recursionProblems m.bound) = true) :
    (∀ id ∈ m.marked.structIds, id ∈ m.topology.order) ∧ (∀ id, ¬ m.marked.Embeds id id) ∧
      m.topology.order.Pairwise fun a b => ¬ m.marked.Embeds a b := by
  have hord := linked_orderedBy h
  have hsame : SameFields m.marked m.linked := sameFields_computeFlags _ _
  have hembeds := hsame.arrows
  have hsize : m.linked.structs.size = m.marked.structs.size := size_computeFlags _ _
  refine ⟨?_, ?_, ?_⟩
  · intro id hid
    rw [hord.complete.mem_iff, mem_structIds, hsize]
    exact mem_structIds.1 hid
  · intro id hself
    exact hord.acyclic id (.single (hembeds ▸ hself))
  · refine hord.sorted.imp fun {a b} hab hembed => ?_
    have := hord.lower (hembeds ▸ hembed : m.linked.Embeds a b)
    omega

/-- The marks of a linked model without recursion. -/
theorem linked_markedAt {m : Model} (h : Diagnostics.isOk (recursionProblems m.bound) = true)
    {id : StructId} {s : Struct} (hs : m.linked.struct? id = some s) : m.linked.MarkedAt id s := by
  obtain ⟨hall, hself, hsorted⟩ := m.marked_sorted h
  exact computeFlags_markedAt hall hself hsorted hs

end Model

end ModelLinker
