import ModelLinker.Proofs.Joins
import ModelLinker.Proofs.Topology

/-!
# Chains of structure-typed fields

`Model.joinChains` lists the chains of structure-typed fields that start at a structure, depth first.
In a model without recursion it lists all of them (`mem_joinChains_iff`), each before those that go
on from it (`joinChains_eq`), because no chain is longer than there are structures. The joins of the
structure have the dotted texts of these chains, in the same order (`joinPathsOf_eq`).
-/

namespace ModelLinker

open Relation

namespace Model

/-- A chain of structure-typed fields from one structure to another: each field is one of the
structure reached so far, and steps into the structure it embeds. -/
inductive Chain (m : Model) : StructId → List FieldId → StructId → Prop where
  | nil {s} : Chain m s [] s
  | step {s t u id rest} : (id, t) ∈ m.embeds s → Chain m t rest u → Chain m s (id :: rest) u

/-- The chains that start at a structure, each before those that go on from it. The number bounds
their length. -/
def chains (m : Model) : Nat → StructId → List (List FieldId)
  | 0, _ => []
  | n + 1, s => (m.embeds s).flatMap fun e => [e.1] :: (m.chains n e.2).map (e.1 :: ·)

/-- The chains that the joins of a structure stand for. -/
def joinChains (m : Model) (s : StructId) : List (List FieldId) :=
  m.chains (m.structs.size + 1) s

def fieldName (m : Model) (id : FieldId) : String := ((m.field? id).map Field.name).getD ""

/-- The names of the fields of a chain with dots between. -/
def chainPath (m : Model) (c : List FieldId) : String := Text.joinDots (c.map m.fieldName)

variable {m m' : Model} {s t u : StructId} {c : List FieldId}

theorem Chain.reaches (h : m.Chain s c t) : ReflTransGen m.Embeds s t := by
  induction h with
  | nil => exact .refl
  | step he _ ih => exact .head ⟨_, he⟩ ih

/-! ### all chains up to a length -/

theorem mem_chains {n : Nat} :
    c ∈ m.chains n s ↔ c ≠ [] ∧ c.length ≤ n ∧ ∃ t, m.Chain s c t := by
  induction n generalizing s c with
  | zero =>
    simp only [chains, List.not_mem_nil, Nat.le_zero, List.length_eq_zero_iff, false_iff]
    exact fun ⟨hne, hnil, _⟩ => hne hnil
  | succ n ih =>
    simp only [chains, List.mem_flatMap, List.mem_cons, List.mem_map, ih]
    constructor
    · rintro ⟨⟨id, t⟩, he, rfl | ⟨c, ⟨-, hlen, u, hc⟩, rfl⟩⟩
      · exact ⟨by simp, by simp, t, .step he .nil⟩
      · exact ⟨by simp, by simpa using hlen, u, .step he hc⟩
    · rintro ⟨hne, hlen, u, hc⟩
      cases hc with
      | nil => exact absurd rfl hne
      | @step _ t _ id rest he hrest =>
        refine ⟨(id, t), he, ?_⟩
        rcases eq_or_ne rest [] with rfl | hrest'
        · exact .inl rfl
        · exact .inr ⟨rest, ⟨hrest', by simpa using hlen, u, hrest⟩, rfl⟩

/-- A greater bound gives nothing new once all chains are within it. -/
theorem chains_succ {n : Nat} (h : ∀ c t, m.Chain s c t → c.length ≤ n) :
    m.chains (n + 1) s = m.chains n s := by
  induction n generalizing s with
  | zero =>
    have hnone : m.embeds s = [] := by
      rw [List.eq_nil_iff_forall_not_mem]
      intro e he
      have := h [e.1] e.2 (.step he .nil)
      simp at this
    simp [chains, hnone]
  | succ n ih =>
    rw [chains, chains]
    refine List.flatMap_congr fun e he => ?_
    rw [ih fun c t hc => by simpa using h (e.1 :: c) t (.step he hc)]

/-- Different fields start different chains, so none is listed twice if no field is. -/
theorem nodup_chains (hfields : ∀ s x, m.struct? s = some x → x.fields.Nodup) (n : Nat)
    (s : StructId) : (m.chains n s).Nodup := by
  have hembeds : ∀ s, (m.embeds s).Pairwise fun a b => a.1 ≠ b.1 := by
    intro s
    simp only [embeds, fieldsOf]
    cases hs : m.struct? s with
    | none => exact .nil
    | some x =>
      simp only [List.pairwise_filterMap, Option.map_eq_some_iff]
      refine (hfields s x hs).imp ?_
      rintro a b hab _ ⟨f, -, rfl⟩ _ ⟨g, -, rfl⟩ _ ⟨t, -, rfl⟩ _ ⟨u, -, rfl⟩
      exact hab
  induction n generalizing s with
  | zero => exact .nil
  | succ n ih =>
    rw [chains, List.nodup_flatMap]
    constructor
    · intro e _
      refine List.nodup_cons.2 ⟨?_, (ih e.2).map fun a b h => (List.cons.inj h).2⟩
      simp [mem_chains]
    · refine (hembeds s).imp fun {a b} hab => List.disjoint_left.2 fun c ha hb => ?_
      simp only [List.mem_cons, List.mem_map] at ha hb
      rcases ha with rfl | ⟨c, -, rfl⟩ <;> rcases hb with hb | ⟨c', -, hb⟩ <;>
        exact hab (by simp_all)

/-! ### models without recursion -/

section Acyclic

variable (hacyclic : ∀ s, ¬ TransGen m.Embeds s s)

include hacyclic

/-- A chain passes through a structure once at most, so it is no longer than there are
structures. -/
theorem Chain.length_le (h : m.Chain s c t) : c.length ≤ m.structs.size := by
  -- the structures that the fields of the chain belong to; a repeated one would embed itself
  obtain ⟨passed, hlen, hnodup, hpassed⟩ : ∃ passed : List StructId, passed.length = c.length ∧
      passed.Nodup ∧ ∀ v ∈ passed, v ∈ m.structIds ∧ ReflTransGen m.Embeds s v := by
    induction h with
    | nil => exact ⟨[], rfl, .nil, by simp⟩
    | @step s t _ id _ he _ ih =>
      obtain ⟨passed, hlen, hnodup, hpassed⟩ := ih
      have hst : m.Embeds s t := ⟨id, he⟩
      refine ⟨s :: passed, by simp [hlen], List.nodup_cons.2 ⟨?_, hnodup⟩, ?_⟩
      · intro hs
        exact hacyclic s (.head' hst (hpassed s hs).2)
      · intro v hv
        rcases List.mem_cons.1 hv with rfl | hv
        · exact ⟨mem_structIds_of_embeds hst, .refl⟩
        · exact ⟨(hpassed v hv).1, .head hst (hpassed v hv).2⟩
  have hsub := (List.subperm_of_subset hnodup fun v hv => (hpassed v hv).1).length_le
  rw [← hlen]
  simpa [structIds] using hsub

/-- The chains of a structure are all sequences of structure-typed fields that can be walked from
it. -/
theorem mem_joinChains_iff : c ∈ m.joinChains s ↔ c ≠ [] ∧ ∃ t, m.Chain s c t := by
  rw [joinChains, mem_chains]
  constructor
  · rintro ⟨hne, -, t, hc⟩
    exact ⟨hne, t, hc⟩
  · rintro ⟨hne, t, hc⟩
    exact ⟨hne, Nat.le_succ_of_le (hc.length_le hacyclic), t, hc⟩

/-- Depth first: every field by itself, then with the chains that go on from it. -/
theorem joinChains_eq (s : StructId) :
    m.joinChains s = (m.embeds s).flatMap fun e => [e.1] :: (m.joinChains e.2).map (e.1 :: ·) := by
  have hbound : ∀ t, m.chains (m.structs.size + 1) t = m.chains m.structs.size t :=
    fun t => chains_succ fun c u hc => hc.length_le hacyclic
  rw [joinChains, chains]
  refine List.flatMap_congr fun e _ => ?_
  rw [joinChains, hbound]

end Acyclic

/-! ### dotted texts -/

theorem fieldName_of_field? {id : FieldId} {f : Field} (h : m.field? id = some f) :
    m.fieldName id = f.name := by
  simp [fieldName, h]

theorem chainPath_cons (id : FieldId) (hc : c ≠ []) :
    m.chainPath (id :: c) = extendPath (some (m.fieldName id)) (m.chainPath c) := by
  cases c with
  | nil => exact absurd rfl hc
  | cons id' c => exact String.intercalate_cons_cons

theorem extendPath_extendPath (before : Option String) (a b : String) :
    extendPath (some (extendPath before a)) b = extendPath before (extendPath (some a) b) := by
  cases before <;> simp [extendPath, String.append_assoc]

theorem joinPaths_eq (n : Nat) (before : Option String) (s : StructId) :
    m.joinPaths n before s = (m.chains n s).map fun c => extendPath before (m.chainPath c) := by
  induction n generalizing before s with
  | zero => rfl
  | succ n ih =>
    rw [joinPaths, chains, List.map_flatMap]
    refine List.flatMap_congr fun e he => ?_
    obtain ⟨f, hf, -⟩ := field?_of_mem_embeds he
    have hsingle : m.chainPath [e.1] = f.name := by
      simp [chainPath, Text.joinDots, fieldName_of_field? hf]
    simp only [hf, ih, List.map_cons, List.map_map, hsingle, List.cons.injEq, true_and]
    refine List.map_congr_left fun c hc => ?_
    rw [Function.comp_apply, chainPath_cons e.1 (mem_chains.1 hc).1, fieldName_of_field? hf,
      extendPath_extendPath]

/-- The joins of a structure have the dotted texts of its chains. -/
theorem joinPathsOf_eq (s : StructId) : m.joinPathsOf s = (m.joinChains s).map m.chainPath := by
  rw [joinPathsOf, joinPaths_eq]
  rfl

end Model

end ModelLinker
