import Mathlib.Data.Set.List
import ModelLinker.Proofs.Binding.Sources
import ModelLinker.Proofs.Linked
import ModelLinker.Proofs.Relinked.Problems
import ModelLinker.Proofs.Renumber.Sources
import ModelLinker.Proofs.Searches.Rows

/-!
# Uniqueness constraints compared

Every constraint of a structure is compared with those after it, and one error is reported for each
pair that lists as many fields and the same set of them (`ClashesReported`). What counts of a
constraint is which fields it is bound to, in any order, and not how they are written: the reports
are the same for constraints that are restated (`Model.RestatesUniques`), also if the names are
bound only afterwards. In a linked model no two constraints without repetitions cover the same set.
-/

namespace ModelLinker

open List (Forall₂)
open Text (sameName)

/-! ### what a constraint covers -/

namespace Unique

/-- All members of a constraint are bound, and to these fields. -/
def Lists (u : Unique) (ids : List FieldId) : Prop := u.fields.map NameRef.target = ids.map some

/-- All members of both constraints are bound, they are as many, and they are the same fields. -/
def SameMembers (u v : Unique) : Prop :=
  ∃ a b, u.Lists a ∧ v.Lists b ∧ u.fields.length = v.fields.length ∧ ∀ id, id ∈ a ↔ id ∈ b

/-- The second constraint stands where the first one does, and has the same members in another
order and with other letters capital. -/
structure Restates (u v : Unique) : Prop where
  pos : v.pos = u.pos
  fields : ReorderedBy (fun r r' => sameName r'.name r.name = true ∧ r'.target = r.target)
    u.fields v.fields

variable {u v u' v' : Unique}

theorem boundFields?_eq_some {ids : List FieldId} : u.boundFields? = some ids ↔ u.Lists ids := by
  unfold boundFields? Lists
  induction u.fields generalizing ids with
  | nil => cases ids <;> simp
  | cons r rest ih =>
    cases hr : r.target with
    | none => cases ids <;> simp [hr]
    | some id =>
      cases ids with
      | nil => simp [hr, Option.bind_eq_some_iff]
      | cons id' ids => simp [hr, Option.bind_eq_some_iff, ih, and_comm]

/-- All members of a constraint are bound to something. -/
theorem exists_lists : (∃ ids, u.Lists ids) ↔ ∀ r ∈ u.fields, ∃ id, r.target = some id := by
  have h := Set.ext_iff.1 (Set.range_list_map (some : FieldId → Option FieldId))
    (u.fields.map NameRef.target)
  simp only [Set.mem_range, Set.mem_ofPred_eq, List.forall_mem_map] at h
  simpa only [Lists, eq_comm] using h

theorem mem_of_sameFields {a b : List FieldId} :
    sameFields a b = true ↔ ∀ id, id ∈ a ↔ id ∈ b := by
  simp only [sameFields, Bool.and_eq_true, List.all_eq_true, List.contains_iff_mem]
  exact ⟨fun ⟨hab, hba⟩ id => ⟨hab id, hba id⟩, fun h => ⟨fun id => (h id).1, fun id => (h id).2⟩⟩

theorem clashes_iff : u.clashes v = true ↔ u.SameMembers v := by
  unfold clashes SameMembers
  rw [Bool.and_eq_true, beq_iff_eq]
  constructor
  · rintro ⟨hlen, hsame⟩
    split at hsame
    · rename_i a b ha hb
      exact ⟨a, b, boundFields?_eq_some.1 ha, boundFields?_eq_some.1 hb, hlen,
        mem_of_sameFields.1 hsame⟩
    · cases hsame
  · rintro ⟨a, b, ha, hb, hlen, hsame⟩
    refine ⟨hlen, ?_⟩
    simp only [boundFields?_eq_some.2 ha, boundFields?_eq_some.2 hb]
    exact mem_of_sameFields.2 hsame

/-! ### restated constraints -/

theorem Restates.targets (h : u.Restates v) :
    (u.fields.map NameRef.target).Perm (v.fields.map NameRef.target) :=
  h.fields.map_perm fun _ _ hr => hr.2.symm

theorem Restates.symm (h : u.Restates v) : v.Restates u where
  pos := h.pos.symm
  fields := h.fields.symm.imp fun _ _ hr => ⟨(Text.sameName_comm _ _).trans hr.1, hr.2.symm⟩

/-- A restated constraint lists the same fields in some order. -/
theorem Restates.lists (h : u.Restates v) {a : List FieldId} (ha : u.Lists a) :
    ∃ b, v.Lists b ∧ a.Perm b := by
  have hperm : (a.map some).Perm (v.fields.map NameRef.target) := ha ▸ h.targets
  obtain ⟨b, hb⟩ : ∃ b, v.Lists b := exists_lists.2 fun r hr => by
    obtain ⟨id, -, hid⟩ := List.mem_map.1 (hperm.symm.subset (List.mem_map_of_mem hr))
    exact ⟨id, hid.symm⟩
  refine ⟨b, hb, ?_⟩
  rw [hb] at hperm
  exact (List.map_perm_map_iff (Option.some_injective _)).1 hperm

theorem Restates.sameMembers (hu : u.Restates u') (hv : v.Restates v') (h : u.SameMembers v) :
    u'.SameMembers v' := by
  obtain ⟨a, b, ha, hb, hlen, hsame⟩ := h
  obtain ⟨a', ha', hpa⟩ := hu.lists ha
  obtain ⟨b', hb', hpb⟩ := hv.lists hb
  have hlength : ∀ {u v : Unique}, u.Restates v → u.fields.length = v.fields.length := by
    intro u v h
    simpa using h.targets.length_eq
  refine ⟨a', b', ha', hb', ?_, fun id => ?_⟩
  · rw [← hlength hu, ← hlength hv, hlen]
  · rw [← hpa.mem_iff, ← hpb.mem_iff, hsame]

theorem Restates.clashes (hu : u.Restates u') (hv : v.Restates v') :
    u'.clashes v' = u.clashes v := by
  rw [Bool.eq_iff_iff, clashes_iff, clashes_iff]
  exact ⟨hu.symm.sameMembers hv.symm, hu.sameMembers hv⟩

end Unique

/-! ### what is reported -/

/-- Two constraints of a list, each given by its place, have the same members. -/
def SameAt (us : List Unique) (i j : Nat) : Prop :=
  ∃ u v, us[i]? = some u ∧ us[j]? = some v ∧ u.SameMembers v

/-- An error for a pair of constraints: it stands at the earlier one and says where the later one
is. -/
def ReportsClash (us : List Unique) (p : Nat × Nat) (d : Diagnostic) : Prop :=
  d.isError = true ∧ ∃ u v, us[p.1]? = some u ∧ us[p.2]? = some v ∧
    d = (Cause.duplicateUnique v.pos).at u.pos

/-- There is one error for every pair of constraints with the same members, in the order of the
pairs. -/
def ClashesReported (us : List Unique) (ds : Diagnostics) : Prop :=
  ∃ pairs : List (Nat × Nat), pairs.Pairwise (Prod.Lex (· < ·) (· < ·)) ∧
    (∀ i j, (i, j) ∈ pairs ↔ i < j ∧ SameAt us i j) ∧
    Forall₂ (ReportsClash us) pairs ds

/-- The places of the later constraints that clash with the first one of a list. -/
def clashesAfter (u : Unique) (rest : List Unique) : List (Nat × Nat) :=
  (rest.zipIdx.filter fun e => u.clashes e.1).map fun e => (0, e.2 + 1)

theorem mem_clashesAfter {u : Unique} {rest : List Unique} {i j : Nat} :
    (i, j) ∈ clashesAfter u rest ↔
      i = 0 ∧ ∃ k v, j = k + 1 ∧ rest[k]? = some v ∧ u.SameMembers v := by
  simp only [clashesAfter, List.mem_map, List.mem_filter, Unique.clashes_iff, Prod.exists,
    List.mem_zipIdx_iff_getElem?, Prod.mk.injEq]
  constructor
  · rintro ⟨v, k, ⟨hv, hsame⟩, rfl, rfl⟩
    exact ⟨rfl, k, v, rfl, hv, hsame⟩
  · rintro ⟨rfl, k, v, rfl, hv, hsame⟩
    exact ⟨v, k, ⟨hv, hsame⟩, rfl, rfl⟩

theorem pairwise_clashesAfter (u : Unique) (rest : List Unique) :
    (clashesAfter u rest).Pairwise (Prod.Lex (· < ·) (· < ·)) := by
  have hplaces : rest.zipIdx.Pairwise fun e e' => e.2 < e'.2 := by
    rw [← List.pairwise_map (f := Prod.snd), List.zipIdx_map_snd]
    exact List.pairwise_lt_range'
  refine List.pairwise_map.2 ((hplaces.filter _).imp fun hlt => .right _ ?_)
  exact Nat.succ_lt_succ hlt

/-- Each later constraint that clashes with the first one is reported once. -/
theorem reports_clashesAfter (u : Unique) (rest : List Unique) :
    Forall₂ (ReportsClash (u :: rest)) (clashesAfter u rest)
      ((rest.filter u.clashes).map fun v => (Cause.duplicateUnique v.pos).at u.pos) := by
  have hfilter : rest.filter u.clashes =
      (rest.zipIdx.filter fun e => u.clashes e.1).map Prod.fst := by
    conv_lhs => rw [← List.zipIdx_map_fst 0 rest, List.filter_map]
    rfl
  rw [hfilter, List.map_map, clashesAfter, List.forall₂_map_left_iff, List.forall₂_map_right_iff,
    List.forall₂_same]
  rintro ⟨v, k⟩ he
  have hv := List.mem_zipIdx_iff_getElem?.1 (List.mem_of_mem_filter he)
  exact ⟨rfl, u, v, rfl, hv, rfl⟩

/-- Of a list of constraints every pair with the same members is reported, and nothing else. -/
theorem clashesReported (us : List Unique) : ClashesReported us (clashProblems us) := by
  induction us with
  | nil => exact ⟨[], .nil, by simp [SameAt], .nil⟩
  | cons u rest ih =>
    obtain ⟨pairs, hascending, hmem, hreports⟩ := ih
    refine ⟨clashesAfter u rest ++ pairs.map (Prod.map (· + 1) (· + 1)), ?_, ?_, ?_⟩
    · rw [List.pairwise_append, List.pairwise_map]
      refine ⟨pairwise_clashesAfter u rest, hascending.imp ?_, ?_⟩
      · rintro ⟨i, j⟩ ⟨k, l⟩ h
        rcases Prod.lex_def.1 h with h | ⟨rfl, h⟩
        · exact .left _ _ (Nat.succ_lt_succ h)
        · exact .right _ (Nat.succ_lt_succ h)
      · -- the first constraint comes before all others
        rintro ⟨i, j⟩ hi _ hp
        obtain ⟨⟨k, l⟩, -, rfl⟩ := List.mem_map.1 hp
        obtain ⟨rfl, -⟩ := mem_clashesAfter.1 hi
        exact .left _ _ (Nat.succ_pos k)
    · intro i j
      rw [List.mem_append, mem_clashesAfter]
      cases i with
      | zero =>
        cases j with
        | zero => simp
        | succ j => simp [SameAt]
      | succ i =>
        cases j with
        | zero => simp
        | succ j =>
          have hshift : (i + 1, j + 1) ∈ pairs.map (Prod.map (· + 1) (· + 1)) ↔ (i, j) ∈ pairs := by
            simp
          simp [hshift, hmem, SameAt]
    · rw [clashProblems]
      refine List.rel_append (reports_clashesAfter u rest) ?_
      rw [List.forall₂_map_left_iff]
      exact hreports

/-- The structures of a model are compared one after another. -/
theorem exists_uniqueProblems (m : Model) : ∃ parts,
    Forall₂ (fun s ds => ClashesReported s.uniques ds) m.structs.toList parts ∧
      uniqueProblems m = parts.flatten := by
  refine ⟨m.structs.toList.map fun s => clashProblems s.uniques, ?_,
    by rw [uniqueProblems, List.flatMap_def]⟩
  rw [List.forall₂_map_right_iff, List.forall₂_same]
  exact fun s _ => clashesReported s.uniques

/-! ### constraints that are restated -/

/-- Every constraint stands where the one in its place in the other list does, and has the same
members. -/
abbrev RestatedAll (us us' : List Unique) : Prop := Forall₂ Unique.Restates us us'

theorem filter_clashes {u u' : Unique} (hu : u.Restates u') {us us' : List Unique}
    (h : RestatedAll us us') : RestatedAll (us.filter u.clashes) (us'.filter u'.clashes) := by
  induction h with
  | nil => exact .nil
  | cons hv _ ih =>
    rw [List.filter_cons, List.filter_cons, hu.clashes hv]
    split
    · exact .cons hv ih
    · exact ih

theorem clashProblems_restated {us us' : List Unique} (h : RestatedAll us us') :
    clashProblems us' = clashProblems us := by
  have hposes : ∀ {vs vs' : List Unique}, RestatedAll vs vs' →
      vs'.map Unique.pos = vs.map Unique.pos := by
    intro vs vs' h
    induction h with
    | nil => rfl
    | cons hv _ ih => rw [List.map_cons, List.map_cons, hv.pos, ih]
  induction h with
  | nil => rfl
  | @cons u u' rest rest' hu hrest ih =>
    have hreport : ∀ vs : List Unique, vs.map (fun v => (Cause.duplicateUnique v.pos).at u.pos) =
        (vs.map Unique.pos).map fun p => (Cause.duplicateUnique p).at u.pos := by simp
    rw [clashProblems, clashProblems, ih, hu.pos, hreport, hreport,
      hposes (filter_clashes hu hrest)]

namespace Model

/-- The structures of two models have the same constraints in the same places, each of them written
in one way or another. -/
structure RestatesUniques (m m' : Model) : Prop where
  size : m'.structs.size = m.structs.size
  uniques : ∀ id s s', m.struct? id = some s → m'.struct? id = some s' →
    RestatedAll s.uniques s'.uniques

variable {m m' : Model}

/-- What is reported does not depend on how constraints are written. -/
theorem RestatesUniques.uniqueProblems (h : RestatesUniques m m') :
    uniqueProblems m' = uniqueProblems m := by
  have hstructs : m'.structs.map (fun s => clashProblems s.uniques) =
      m.structs.map fun s => clashProblems s.uniques := by
    refine Array.ext (by simp [h.size]) fun i hi' hi => ?_
    rw [Array.size_map] at hi hi'
    rw [Array.getElem_map, Array.getElem_map]
    exact clashProblems_restated
      (h.uniques ⟨i⟩ _ _ (Array.getElem?_eq_getElem hi) (Array.getElem?_eq_getElem hi'))
  have key : ∀ m : Model, ModelLinker.uniqueProblems m =
      (m.structs.map fun s => clashProblems s.uniques).toList.flatten := fun m => by
    rw [ModelLinker.uniqueProblems, Array.toList_map, List.flatMap_def]
  rw [key, key, hstructs]

/-! ### names that are not bound yet -/

theorem isStructField_walkable (id : FieldId) :
    m.walkable.isStructField id = m.isStructField id := by
  rw [isStructField, field?_walkable, field?_keyed, field?_typed, isStructField]
  cases m.field? id with
  | none => rfl
  | some f =>
    simp only [Option.map_some, Option.any_some, resolveStruct_isStruct, resolveForeign_type,
      isStruct_resolveValue]

theorem findField?_congr {origin : StructId} {n n' : String} (h : sameName n' n = true) :
    m.findField? origin n' = m.findField? origin n := by
  have hfold := Text.sameName_iff.1 h
  simp only [findField?, sameName, hfold]

theorem SameFields.findField? (h : SameFields m m') : m'.findField? = m.findField? := by
  funext origin n
  rw [Model.findField?, h.listed, Model.findField?]

theorem SameFields.isStructField (h : SameFields m m') : m'.isStructField = m.isStructField := by
  funext id
  rw [Model.isStructField, field?, h.fields, Model.isStructField, field?]

/-- A local name is bound to the same field in both models, also if its letters change their
case. -/
theorem SameFields.resolveLocal (h : SameFields m m') {origin : StructId} {r r' : NameRef FieldId}
    (hname : sameName r'.name r.name = true) (htarget : r'.target = r.target) :
    sameName (resolveLocal (.ofModel m') m'.walkable .unique origin r').1.name
        (resolveLocal (.ofModel m) m.walkable .unique origin r).1.name = true ∧
      (resolveLocal (.ofModel m') m'.walkable .unique origin r').1.target =
        (resolveLocal (.ofModel m) m.walkable .unique origin r).1.target := by
  simp only [ModelLinker.resolveLocal, Namespace.field?_ofModel, h.findField?,
    findField?_congr hname, isStructField_walkable, h.isStructField]
  cases m.findField? origin r.name with
  | none => exact ⟨hname, htarget⟩
  | some id =>
    dsimp only
    split
    · exact ⟨hname, htarget⟩
    · exact ⟨hname, rfl⟩

theorem SameFields.resolveUnique (h : SameFields m m') {origin : StructId} {u u' : Unique}
    (hu : u.Restates u') :
    (resolveUnique (.ofModel m) m.walkable origin u).1.Restates
      (resolveUnique (.ofModel m') m'.walkable origin u').1 where
  pos := hu.pos
  fields := by
    obtain ⟨mid, hperm, hinside⟩ := hu.fields
    refine ⟨_, hperm.map _, ?_⟩
    rw [List.forall₂_map_left_iff, ModelLinker.resolveUnique, resolveAll,
      List.forall₂_map_right_iff]
    exact hinside.imp fun r r' hr => h.resolveLocal hr.1 hr.2

/-- A structure once its names are bound has the constraints it had, with their names bound. -/
theorem uniques_of_resolved {id : StructId} {s : Struct} (hs : m.resolved.struct? id = some s) :
    ∃ s₀, m.struct? id = some s₀ ∧
      s.uniques = s₀.uniques.map fun u => (resolveUnique (.ofModel m) m.walkable id u).1 := by
  -- of the stages before, two write into structures, and neither touches constraints
  have hview : m.walkable.structs.map Struct.uniques = m.structs.map Struct.uniques := by
    have htyped : m.typed.structs.map Struct.uniques = m.structs.map Struct.uniques :=
      map_mapIdx_of_eq (by intros; rfl)
    have hkeyed : m.keyed.structs.map Struct.uniques = m.typed.structs.map Struct.uniques :=
      map_mapIdx_of_eq (by intros; rfl)
    exact hkeyed.trans htyped
  simp only [resolved_eq, resolveQueries, struct?, Array.getElem?_mapIdx,
    Option.map_eq_some_iff] at hs
  obtain ⟨s₁, hs₁, rfl⟩ := hs
  obtain ⟨s₀, hs₀, huniques⟩ := struct?_of_map_eq hview hs₁
  exact ⟨s₀, hs₀, by rw [huniques]; rfl⟩

/-- Constraints that are restated still are so once their names are bound. -/
theorem RestatesUniques.resolved (h : RestatesUniques m m') (hfields : SameFields m m') :
    RestatesUniques m.resolved m'.resolved where
  size := by
    rw [size_structs_congr asDeclared_resolved, size_structs_congr asDeclared_resolved, h.size]
  uniques id s s' hs hs' := by
    obtain ⟨s₀, hs₀, huniques⟩ := uniques_of_resolved hs
    obtain ⟨s₀', hs₀', huniques'⟩ := uniques_of_resolved hs'
    rw [huniques, huniques', RestatedAll, List.forall₂_map_left_iff, List.forall₂_map_right_iff]
    exact (h.uniques id s₀ s₀' hs₀ hs₀').imp fun _ _ hu => hfields.resolveUnique hu

end Model

/-! ### linked models -/

/-- If nothing was reported no two constraints have the same members. -/
theorem pairwise_of_isOk {us : List Unique} (h : Diagnostics.isOk (clashProblems us) = true) :
    us.Pairwise fun u v => ¬ u.SameMembers v := by
  obtain ⟨pairs, -, hmem, hreports⟩ := clashesReported us
  have hnone : pairs = [] := by
    generalize clashProblems us = ds at h hreports
    cases hreports with
    | nil => rfl
    | cons hd _ =>
      rw [Diagnostics.isOk_cons, hd.1] at h
      cases h
  rw [List.pairwise_iff_getElem]
  intro i j hi hj hlt hsame
  have hp : (i, j) ∈ pairs := (hmem i j).2 ⟨hlt, us[i], us[j], List.getElem?_eq_getElem hi,
    List.getElem?_eq_getElem hj, hsame⟩
  rw [hnone] at hp
  cases hp

/-- Constraints without repetitions that cover the same fields have the same members. -/
theorem Unique.Lists.sameMembers {u v : Unique} {a b : List FieldId} (ha : u.Lists a)
    (hb : v.Lists b) (hau : a.Nodup) (hbu : b.Nodup) (hsame : ∀ id, id ∈ a ↔ id ∈ b) :
    u.SameMembers v := by
  have hlength : ∀ {u : Unique} {a : List FieldId}, u.Lists a → u.fields.length = a.length := by
    intro u a h
    simpa using congrArg List.length h
  refine ⟨a, b, ha, hb, ?_, hsame⟩
  rw [hlength ha, hlength hb, ((List.perm_ext_iff_of_nodup hau hbu).2 hsame).length_eq]

theorem settled_uniques : Struct.Settled Struct.uniques where
  joins _ _ := rfl
  paths _ := rfl
  height _ _ := rfl
  unique _ _ := rfl
  flags _ _ := rfl

/-- In a linked model all members of constraints are bound, and no two constraints of a structure
that repeat no member cover the same fields. -/
theorem uniques_of_linkWith {seed : Diagnostics} {m : Model} {l : Linked}
    (h : linkWith seed m = .ok l) {sid : StructId} {s : Struct}
    (hs : l.model.struct? sid = some s) :
    s.uniques.Pairwise fun u v => ∃ a b, u.Lists a ∧ v.Lists b ∧
      (a.Nodup → b.Nodup → ¬ ∀ id, id ∈ a ↔ id ∈ b) := by
  have hok : Diagnostics.isOk (uniqueProblems l.model) = true := by
    rw [(Model.linked_of_linkWith h).1,
      uniqueProblems_congr (Model.map_linked settled_uniques fun _ _ => rfl)]
    exact (faultless_of_linkWith h).2.uniques
  rw [uniqueProblems, Diagnostics.isOk_flatMap] at hok
  have hdifferent := pairwise_of_isOk (hok s (Array.mem_toList_iff.2 (Array.mem_of_getElem? hs)))
  have hbound : ∀ u ∈ s.uniques, ∃ a, u.Lists a := fun u hu =>
    Unique.exists_lists.2 fun r hr => by
      obtain ⟨id, f, hb, -⟩ :=
        (Model.columnsBound_of_linkWith h hs).locals r (Unique.fields_mem_locals hu hr)
      exact ⟨id, hb.target⟩
  refine hdifferent.imp_of_mem fun {u v} hu hv hne => ?_
  obtain ⟨a, ha⟩ := hbound u hu
  obtain ⟨b, hb⟩ := hbound v hv
  exact ⟨a, b, ha, hb, fun hau hbu hsame => hne (ha.sameMembers hb hau hbu hsame)⟩

/-! ### all of it -/

/-- Every pair of constraints of a structure that list as many bound fields and the same set of them
is reported by one error at the earlier one, and nothing else is. What is reported stays the same
however the constraints are written, also if their names are bound only afterwards. In a linked
model no two constraints of a structure that repeat no member cover the same fields. -/
theorem uniqueClashes_reported :
    (∀ m : Model, ∃ parts,
      Forall₂ (fun s ds => ClashesReported s.uniques ds) m.structs.toList parts ∧
        uniqueProblems m = parts.flatten) ∧
    (∀ m m' : Model, m.SameFields m' → m.RestatesUniques m' →
      uniqueProblems m' = uniqueProblems m ∧
        uniqueProblems m'.resolved = uniqueProblems m.resolved) ∧
    ∀ seed m l, linkWith seed m = .ok l → ∀ sid s, l.model.struct? sid = some s →
      s.uniques.Pairwise fun u v => ∃ a b, u.Lists a ∧ v.Lists b ∧
        (a.Nodup → b.Nodup → ¬ ∀ id, id ∈ a ↔ id ∈ b) :=
  ⟨exists_uniqueProblems,
    fun _ _ hfields h => ⟨h.uniqueProblems, (h.resolved hfields).uniqueProblems⟩,
    fun _ _ _ h _ _ hs => uniques_of_linkWith h hs⟩

/-- Seats of teams, with some uniqueness constraints. -/
def seatDocument (uniques : List (List String)) : Decl.Document where
  structs := [
    { name := "seat", place := none, doc := none
      fields := [
        { Decl.Field.bare "id" (.plain .int) none with rowid := true },
        .bare "team" (.plain .int) none,
        .bare "number" (.plain .int) none]
      searches := [], updates := [], deletes := [], insert := none
      uniques := uniques.map fun names => ⟨names, none⟩ }]
  enums := []
  bitfields := []
  roles := []

/-- The seats alone. -/
def seatSet (uniques : List (List String)) : SourceSet :=
  .ofDocuments [("seat", seatDocument uniques)]

/-- Two constraints that can both stay. -/
theorem seatSet_links : ∃ l, linkSources (seatSet [["team", "number"], ["number"]]) = .ok l := by
  have hfaultless : (seatSet [["team", "number"], ["number"]]).FaultlessBy (·.index) := by
    simp only [SourceSet.FaultlessBy, Model.bindingProblems, Model.marked, Model.topology,
      Model.joined, Model.bound, Model.resolved, Namespace.ofModel_eq_scan]
    decide +kernel
  exact hfaultless.links

/-- A team and a number in two orders, and with other letters capital. -/
theorem seatSet_restated :
    (seatSet [["team", "number"], ["number", "team"]]).model.SameFields
        (seatSet [["TEAM", "number"], ["Team", "Number"]]).model ∧
      (seatSet [["team", "number"], ["number", "team"]]).model.RestatesUniques
        (seatSet [["TEAM", "number"], ["Team", "Number"]]).model := by
  have hfields : (seatSet [["TEAM", "number"], ["Team", "Number"]]).model.fields =
      (seatSet [["team", "number"], ["number", "team"]]).model.fields := by
    decide +kernel
  refine ⟨⟨hfields, Model.fieldsOf_congr (by decide +kernel) hfields⟩, rfl, ?_⟩
  rintro ⟨i⟩ s s' hs hs'
  cases i with
  | zero =>
    obtain rfl := Option.some.inj hs
    obtain rfl := Option.some.inj hs'
    have hteam : sameName "TEAM" "team" = true ∧ sameName "Team" "team" = true := by decide +kernel
    have hnumber : sameName "Number" "number" = true := by decide +kernel
    exact .cons ⟨rfl, _, .refl _, .cons ⟨hteam.1, rfl⟩ (.cons ⟨Text.sameName_refl _, rfl⟩ .nil)⟩
      (.cons ⟨rfl, _, .swap _ _ _, .cons ⟨hteam.2, rfl⟩ (.cons ⟨hnumber, rfl⟩ .nil)⟩ .nil)
  | succ i => cases hs

theorem uniqueClashes_of_seatSet :
    (∃ l s, linkSources (seatSet [["team", "number"], ["number"]]) = .ok l ∧
      l.model.struct? ⟨0⟩ = some s ∧ s.uniques.length = 2 ∧
        s.uniques.Pairwise fun u v => ∃ a b, u.Lists a ∧ v.Lists b ∧
          (a.Nodup → b.Nodup → ¬ ∀ id, id ∈ a ↔ id ∈ b)) ∧
    (uniqueProblems (seatSet [["team", "number"], ["number", "team"]]).model.resolved).length = 1 ∧
      uniqueProblems (seatSet [["TEAM", "number"], ["Team", "Number"]]).model.resolved =
        uniqueProblems (seatSet [["team", "number"], ["number", "team"]]).model.resolved := by
  obtain ⟨hfields, hrestated⟩ := seatSet_restated
  refine ⟨?_, ?_, (uniqueClashes_reported.2.1 _ _ hfields hrestated).2⟩
  · obtain ⟨l, hl⟩ := seatSet_links
    have hdeclared := Model.asDeclared_linked (m := (seatSet [["team", "number"], ["number"]]).model)
    rw [← (Model.linked_of_linkWith hl).1] at hdeclared
    obtain ⟨s, hs, hsame⟩ : ∃ s, l.model.struct? ⟨0⟩ = some s ∧ s.asDeclared = _ :=
      Model.struct?_of_map_eq (congrArg Model.structs hdeclared).symm rfl
    have hlen : s.uniques.length = 2 := by
      have hlen := congrArg (fun s => s.uniques.length) hsame
      simp only [Struct.asDeclared, List.length_map] at hlen
      exact hlen.trans rfl
    exact ⟨l, s, hl, hs, hlen, uniqueClashes_reported.2.2 _ _ l hl _ s hs⟩
  · rw [Model.resolved, Namespace.ofModel_eq_scan]
    decide +kernel

end ModelLinker
