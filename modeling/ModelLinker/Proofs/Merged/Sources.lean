import ModelLinker.Proofs.Merged.Names
import ModelLinker.Proofs.Renumber.Sources

/-!
# Documents among others

What some documents declare is in the model of a longer list of documents as well, moved up by as
many parts of each kind as were declared before (`SourceSet.exists_within`); the reserved roles come
first in every model. So the model of two lists of documents, one after the other, is made up of
those of the two (`SourceSet.exists_merges`).
-/

namespace ModelLinker

/-! ### numbers moved up -/

/-- The first `k` numbers stay, and all others move up by `n`. -/
def moveUp (k n i : ℕ) : ℕ := if i < k then i else n + i

theorem moveUp_injective (k n : ℕ) : Function.Injective (moveUp k n) := by
  intro i j h
  unfold moveUp at h
  split at h <;> split at h <;> omega

@[simp] theorem moveUp_zero (n i : ℕ) : moveUp 0 n i = n + i := if_neg (Nat.not_lt_zero i)

theorem moveUp_of_lt {k n i : ℕ} (h : i < k) : moveUp k n i = i := if_pos h

/-- Items that are entered after others move up by as many as there are of these. -/
theorem getElem?_moveUp {α : Type} (first before items after : List α) {i : ℕ} {x : α}
    (h : (first ++ items)[i]? = some x) :
    (first ++ (before ++ items ++ after))[moveUp first.length before.length i]? = some x := by
  unfold moveUp
  split
  · rename_i hi
    rw [List.getElem?_append_left hi] at h ⊢
    exact h
  · rename_i hi
    rw [Nat.not_lt] at hi
    rw [List.getElem?_append_right hi] at h
    obtain ⟨hlt, -⟩ := List.getElem?_eq_some_iff.1 h
    rw [List.getElem?_append_right (by omega), List.append_assoc,
      List.getElem?_append_right (by omega), List.getElem?_append_left (by omega), ← h]
    congr 1
    omega

/-- A permutation of numbers that takes what some documents give to its place among what all
documents give. -/
theorem exists_moved {α ι : Type} {xs ys : Array α} (first : List α) {f : ι → List α}
    {pre docs post : List ι} (hx : xs.toList = first ++ docs.flatMap f)
    (hy : ys.toList = first ++ (pre ++ docs ++ post).flatMap f) :
    ∃ σ : Equiv.Perm ℕ, (∀ i < xs.size, σ i = moveUp first.length (pre.flatMap f).length i) ∧
      ∀ ⦃i x⦄, xs[i]? = some x → ys[σ i]? = some x := by
  obtain ⟨σ, hσ⟩ := Equiv.Perm.exists_extending_pair (fun i : Fin xs.size => (i : ℕ))
    (fun i => moveUp first.length (pre.flatMap f).length i) Fin.val_injective
    ((moveUp_injective _ _).comp Fin.val_injective)
  replace hσ : ∀ i < xs.size, σ i = moveUp first.length (pre.flatMap f).length i :=
    fun i hi => hσ ⟨i, hi⟩
  refine ⟨σ, hσ, fun i x hi => ?_⟩
  rw [hσ i (Array.getElem?_eq_some_iff.1 hi).1, ← Array.getElem?_toList, hy, List.flatMap_append,
    List.flatMap_append]
  rw [← Array.getElem?_toList, hx] at hi
  exact getElem?_moveUp first _ _ _ hi

/-- Two parts that have their first `k` items in common make up the whole, if those of the second part
are moved up by what is left of the first one. -/
theorem covers_moveUp {σ : Bool → Equiv.Perm ℕ} {size : Bool → ℕ} {k n : ℕ}
    (hfirst : ∀ i < size false, σ false i = moveUp k 0 i)
    (hsecond : ∀ i < size true, σ true i = moveUp k (size false - k) i)
    (hk : k ≤ size false) (hn : n + k = size false + size true) : Covers σ size n := by
  intro l hl
  by_cases hlt : l < size false
  · refine ⟨false, l, hlt, (hfirst l hlt).trans ?_⟩
    simp [moveUp]
  · refine ⟨true, l - (size false - k), by omega, ?_⟩
    rw [hsecond _ (by omega), moveUp, if_neg (by omega)]
    omega

/-- The parts of the second model are moved up by as many as the first one has, but for the reserved
roles, which are in both. -/
structure Renumbering.MovesUp (ρ : Renumbering) (p m : Model) : Prop where
  structs : ∀ i < m.structs.size, ρ.structs i = moveUp 0 p.structs.size i
  enums : ∀ i < m.enums.size, ρ.enums i = moveUp 0 p.enums.size i
  bitfields : ∀ i < m.bitfields.size, ρ.bitfields i = moveUp 0 p.bitfields.size i
  roles : ∀ i < m.roles.size, ρ.roles i = moveUp 3 (p.roles.size - 3) i

/-- If every structure comes from a part, then so does every field. -/
theorem Model.Owned.covers_fields {ι : Type} {ρ : ι → Renumbering} {m : ι → Model} {w : Model}
    (hw : w.Owned) (h : ∀ i, (m i).Within (ρ i) w)
    (hc : Covers (fun i => (ρ i).structs) (fun i => (m i).structs.size) w.structs.size) :
    Covers (fun i => (ρ i).fields) (fun i => (m i).fields.size) w.fields.size := by
  intro k hk
  obtain ⟨s', hs', hmem⟩ := @Model.Owned.owner _ hw ⟨k⟩ _ (Array.getElem?_eq_getElem hk)
  obtain ⟨i, j, s, -, hs, hlike⟩ := hc.some (fun i => (h i).structs) hs'
  have hfields : s'.fields = s.fields.map (ρ i).field := hlike.fields
  rw [hfields, List.mem_map] at hmem
  obtain ⟨id, hid, heq⟩ := hmem
  obtain ⟨f, hf, -⟩ := @Model.Owned.own _ (h i).owned ⟨j⟩ s hs id hid
  exact ⟨i, id.index, (Array.getElem?_eq_some_iff.1 hf).1, FieldId.mk.inj heq⟩

namespace SourceSet

/-- The documents' own roles come after the reserved ones. -/
theorem size_roles (docs : List (String × Decl.Document)) :
    (ofDocuments docs).model.roles.size =
      3 + (docs.flatMap fun x => (Source.roles x.1 none x.2.roles).1).length := by
  rw [← Array.length_toList, model, (holds_ofDocuments docs).roles, List.length_append]
  rfl

/-- The parts of some documents are in the model of all documents, after those of earlier ones. -/
theorem exists_within (pre docs post : List (String × Decl.Document)) :
    ∃ ρ : Renumbering, (ofDocuments docs).model.Within ρ (ofDocuments (pre ++ docs ++ post)).model ∧
      ρ.MovesUp (ofDocuments pre).model (ofDocuments docs).model := by
  have hp := holds_ofDocuments pre
  have hd := holds_ofDocuments docs
  have hw := holds_ofDocuments (pre ++ docs ++ post)
  -- structures are known by their declarations, which stand in the same order
  obtain ⟨σ, hσ, hstructs⟩ := @exists_moved _ _ (Draft.declared docs).toArray
    (Draft.declared (pre ++ docs ++ post)).toArray [] _ pre docs post rfl rfl
  obtain ⟨ε, hε, henums⟩ := exists_moved [] hd.enums hw.enums
  obtain ⟨β, hβ, hbitfields⟩ := exists_moved [] hd.bitfields hw.bitfields
  obtain ⟨κ, hκ, hroles⟩ := exists_moved Model.empty.roles.toList hd.roles hw.roles
  have hreserved : ∀ i < 3, κ i = i := fun i hi =>
    (hκ i (by rw [← model, size_roles]; omega)).trans (moveUp_of_lt hi)
  let base : Renumbering :=
    { structs := σ, fields := .refl ℕ, enums := ε, bitfields := β, roles := κ
      all := hreserved 0 (by decide), none := hreserved 1 (by decide)
      default := hreserved 2 (by decide) }
  have hforward : ∀ {i x}, (Draft.declared docs)[i]? = some x →
      (Draft.declared (pre ++ docs ++ post))[base.structs i]? = some x := fun {i x} hx => by
    simpa using hstructs (by simpa using hx)
  obtain ⟨τ, hτ⟩ := hd.exists_fields hw hforward
  let ρ : Renumbering := { base with fields := τ }
  refine ⟨ρ, ?_, ?_⟩
  · exact
      { owned := hd.sound.owned
        structs := fun i s hs => by
          obtain ⟨s', hs', hlike⟩ := hd.struct_like (ρ := ρ) hw hforward hτ hs
          exact ⟨s', hs', { hlike with referencedBy := .refl _ }⟩
        fields := fun i f hf => ⟨_, hd.field_like (ρ := ρ) hw hforward hτ hf, rfl⟩
        enums := fun i e he => ⟨e, henums he, rfl⟩
        bitfields := fun i b hb => ⟨b, hbitfields hb, rfl⟩
        roles := fun i r hr => ⟨r, hroles hr,
          hd.role_like (Array.mem_toList_iff.2 (Array.mem_of_getElem? hr))⟩ }
  · refine ⟨fun i hi => ?_, fun i hi => ?_, fun i hi => ?_, fun i hi => ?_⟩
    · rw [model, hd.lists.size] at hi
      rw [model, hp.lists.size]
      exact hσ i hi
    · rw [← Array.length_toList, model, hp.enums]
      exact hε i hi
    · rw [← Array.length_toList, model, hp.bitfields]
      exact hβ i hi
    · rw [size_roles, Nat.add_sub_cancel_left]
      exact hκ i hi

/-- As many parts are in the model of two lists of documents as in those of the two. -/
theorem sizes_append (docs docs' : List (String × Decl.Document)) :
    (ofDocuments (docs ++ docs')).model.structs.size =
        (ofDocuments docs).model.structs.size + (ofDocuments docs').model.structs.size ∧
      (ofDocuments (docs ++ docs')).model.enums.size =
        (ofDocuments docs).model.enums.size + (ofDocuments docs').model.enums.size ∧
      (ofDocuments (docs ++ docs')).model.bitfields.size =
        (ofDocuments docs).model.bitfields.size + (ofDocuments docs').model.bitfields.size ∧
      (ofDocuments (docs ++ docs')).model.roles.size + 3 =
        (ofDocuments docs).model.roles.size + (ofDocuments docs').model.roles.size := by
  have hd := holds_ofDocuments docs
  have hd' := holds_ofDocuments docs'
  have hw := holds_ofDocuments (docs ++ docs')
  refine ⟨?_, ?_, ?_, ?_⟩
  · rw [model, model, model, hw.lists.size, hd.lists.size, hd'.lists.size, ← List.length_append]
    exact congrArg List.length List.flatMap_append
  · simp only [← Array.length_toList, model, hw.enums, hd.enums, hd'.enums, List.flatMap_append,
      List.length_append]
  · simp only [← Array.length_toList, model, hw.bitfields, hd.bitfields, hd'.bitfields,
      List.flatMap_append, List.length_append]
  · simp only [size_roles, List.flatMap_append, List.length_append]
    omega

/-- One of two lists of documents. -/
def either (docs docs' : List (String × Decl.Document)) (b : Bool) : Model :=
  (ofDocuments (cond b docs' docs)).model

/-- The model of two lists of documents is made up of the models of the two, and its structures are
those of the first one before those of the second one. -/
theorem exists_merges (docs docs' : List (String × Decl.Document)) :
    ∃ ρ, Model.Merges ρ (either docs docs') (ofDocuments (docs ++ docs')).model ∧
      (ofDocuments (docs ++ docs')).model.structIds =
        [false, true].flatMap fun b => (either docs docs' b).structIds.map (ρ b).struct := by
  obtain ⟨hstructs, henums, hbitfields, hroles⟩ := sizes_append docs docs'
  -- before the first list there are no documents, and before the second one there are those of the
  -- first
  obtain ⟨ρ, hwithin, hmoves⟩ := exists_within [] docs docs'
  obtain ⟨ρ', hwithin', hmoves'⟩ := exists_within docs docs' []
  rw [List.nil_append] at hwithin
  rw [List.append_nil] at hwithin'
  have hwithins : ∀ b, (either docs docs' b).Within (cond b ρ' ρ)
      (ofDocuments (docs ++ docs')).model := by
    rintro (_ | _)
    exacts [hwithin, hwithin']
  have hcovers : Covers (fun b => (cond b ρ' ρ).structs)
      (fun b => (either docs docs' b).structs.size)
      (ofDocuments (docs ++ docs')).model.structs.size :=
    covers_moveUp hmoves.structs hmoves'.structs (Nat.zero_le _) hstructs
  have howned := (holds_ofDocuments (docs ++ docs')).sound.owned
  refine ⟨fun b => cond b ρ' ρ, ⟨hwithins, hcovers, howned.covers_fields hwithins hcovers,
    covers_moveUp hmoves.enums hmoves'.enums (Nat.zero_le _) henums,
    covers_moveUp hmoves.bitfields hmoves'.bitfields (Nat.zero_le _) hbitfields,
    covers_moveUp hmoves.roles hmoves'.roles ?_ hroles⟩, ?_⟩
  · rw [either, cond_false, size_roles]
    exact Nat.le_add_right 3 _
  · simp only [Model.structIds, hstructs, List.range_add, List.map_append, List.map_map,
      List.flatMap_cons, List.flatMap_nil, List.append_nil]
    congr 1
    · refine List.map_congr_left fun i hi => congrArg StructId.mk ?_
      refine ((hmoves.structs i (List.mem_range.1 hi)).trans ?_).symm
      exact (moveUp_zero _ i).trans (Nat.zero_add i)
    · refine List.map_congr_left fun i hi => congrArg StructId.mk ?_
      exact ((hmoves'.structs i (List.mem_range.1 hi)).trans (moveUp_zero _ i)).symm

end SourceSet

end ModelLinker
