import ModelLinker.Proofs.Binding.ForeignKeys
import ModelLinker.Proofs.Linked

/-!
# Foreign keys in a loop

Keys can be resolved field by field in place, each turn on the model that the turns before it have
left (`keyLoop`). What a turn writes no other turn looks at: it reads names, types and marks of
fields, which stay. So the loop comes to the same as resolving every key on the model before
(`keyLoop_eq`).
-/

namespace ModelLinker

section Loop

variable (names : Namespace)

/-- One turn. The key of the field is taken out of the model, checked against what is left, and put
back. A valid key gives the field its reference, and adds it to those that refer to the structure
of the target; a faulty one gives an error. -/
def keyTurn (x : Model × Diagnostics) (id : FieldId) : Model × Diagnostics :=
  match x.1.field? id with
  | none => x
  | some f => match f.foreign with
    | none => x
    | some k =>
      let taken := x.1.modifyField id fun f => { f with foreign := none }
      match resolveKey names taken id { f with foreign := none } k with
      | (bound, .error p) =>
        (taken.modifyField id fun f => { f with foreign := some bound },
          x.2 ++ [(Cause.resolve p).at k.pos])
      | (bound, .ok (sid, r)) =>
        (((taken.modifyField id fun f => { f with reference := some r }).modifyStruct sid
            fun s => { s with referencedBy := s.referencedBy ++ [id] }).modifyField id
            fun f => { f with foreign := some bound },
          x.2)

/-- A turn for every field. -/
def keyLoop (m : Model) : Model × Diagnostics :=
  (List.range m.fields.size).foldl (fun x i => keyTurn names x ⟨i⟩) (m, [])

/-! ### the state between two turns -/

variable (m : Model)

/-- The fields that refer to a structure, as far as the first `n` turns find them. -/
def listedBefore (n : Nat) (sid : StructId) : List FieldId :=
  (((m.fields.toList.zipIdx.take n).filterMap (keyEntry names m)).filter fun e => e.1 = sid).map
    (·.2)

/-- The fields after the first `n` turns: those before `n` have their keys resolved. -/
def fieldsBefore (n : Nat) : Array Field :=
  m.fields.mapIdx fun i f => if i < n then f.resolveForeign names m ⟨i⟩ else f

/-- The structures after the first `n` turns. -/
def structsBefore (n : Nat) : Array Struct :=
  m.structs.mapIdx fun i s =>
    { s with referencedBy := s.referencedBy ++ listedBefore names m n ⟨i⟩ }

/-- The model and the diagnostics after the first `n` turns. -/
def keyState (n : Nat) : Model × Diagnostics :=
  ({ m with fields := fieldsBefore names m n, structs := structsBefore names m n },
    (m.fields.toList.zipIdx.take n).flatMap fun e => e.1.foreignProblems names m ⟨e.2⟩)

variable {names m} {n : Nat} {f : Field}

theorem zipIdx_take_succ (hf : m.field? ⟨n⟩ = some f) :
    m.fields.toList.zipIdx.take (n + 1) = m.fields.toList.zipIdx.take n ++ [(f, n)] := by
  have hn : m.fields.toList.zipIdx[n]? = some (f, n) := by
    simpa [Model.field?, List.getElem?_zipIdx] using hf
  rw [List.take_add_one, hn]
  rfl

theorem listedBefore_succ (hf : m.field? ⟨n⟩ = some f) (sid : StructId) :
    listedBefore names m (n + 1) sid =
      listedBefore names m n sid ++
        ((keyEntry names m (f, n)).toList.filter fun e => e.1 = sid).map (·.2) := by
  simp only [listedBefore, zipIdx_take_succ hf, List.filterMap_append, List.filter_append,
    List.map_append]
  cases h : keyEntry names m (f, n) <;> simp [h]

theorem modify_modify {α : Type} (xs : Array α) (i : Nat) (g h : α → α) :
    (xs.modify i g).modify i h = xs.modify i fun x => h (g x) := by
  apply Array.ext_getElem?
  intro j
  simp only [Array.getElem?_modify]
  split
  · rw [Option.map_map]
    rfl
  · rfl

variable (names) in
/-- Fields change one by one. -/
theorem fieldsBefore_modify (hf : m.field? ⟨n⟩ = some f) {g : Field → Field}
    (hg : g f = f.resolveForeign names m ⟨n⟩) :
    (fieldsBefore names m n).modify n g = fieldsBefore names m (n + 1) := by
  apply Array.ext_getElem?
  intro i
  have hn : m.fields[n]? = some f := hf
  rw [Array.getElem?_modify]
  simp only [fieldsBefore, Array.getElem?_mapIdx]
  rcases Nat.lt_trichotomy i n with hlt | rfl | hgt
  · simp [hlt, Nat.ne_of_gt hlt, Nat.lt_succ_of_lt hlt]
  · simp [hn, hg]
  · have h₁ : ¬ i < n := by omega
    have h₂ : ¬ i < n + 1 := by omega
    simp [h₁, h₂, Nat.ne_of_lt hgt]

theorem field?_keyState (hf : m.field? ⟨n⟩ = some f) :
    (keyState names m n).1.field? ⟨n⟩ = some f := by
  have hn : m.fields[n]? = some f := hf
  simp [keyState, fieldsBefore, Model.field?, hn]

/-- What a key comes to in the middle of the loop is what it came to before. -/
theorem resolveKey_keyState (f : Field) (k : ForeignKey) :
    resolveKey names ((keyState names m n).1.modifyField ⟨n⟩ fun f => { f with foreign := none })
        ⟨n⟩ { f with foreign := none } k = resolveKey names m ⟨n⟩ f k := by
  refine resolveKey_congr rfl rfl (fun id => ?_) (fun id => ?_) rfl rfl
  · simp [keyState, structsBefore, Model.modifyField, Model.struct?, Function.comp_def]
  · have hkept : ∀ i g, ((Field.resolveForeign names m i g).name,
        (Field.resolveForeign names m i g).type, (Field.resolveForeign names m i g).flags) =
          (g.name, g.type, g.flags) := by
      intro i g
      unfold Field.resolveForeign
      split <;> rfl
    simp only [keyState, fieldsBefore, Model.modifyField, Model.field?, Array.getElem?_modify,
      Array.getElem?_mapIdx]
    cases m.fields[id.index]? with
    | none => simp
    | some g =>
      simp only [Option.map_some]
      split <;> split <;> simp [hkept]

/-- A turn that finds no valid key leaves the structures as they are. -/
theorem structsBefore_of_none (hf : m.field? ⟨n⟩ = some f) (h : keyEntry names m (f, n) = none) :
    structsBefore names m (n + 1) = structsBefore names m n := by
  simp [structsBefore, listedBefore_succ hf, h]

/-- A valid key changes one structure. -/
theorem structsBefore_modify (hf : m.field? ⟨n⟩ = some f) {sid : StructId}
    (h : keyEntry names m (f, n) = some (sid, ⟨n⟩)) :
    ((structsBefore names m n).modify sid.index
      fun s => { s with referencedBy := s.referencedBy ++ [⟨n⟩] }) =
        structsBefore names m (n + 1) := by
  apply Array.ext_getElem?
  intro i
  obtain ⟨k⟩ := sid
  rw [Array.getElem?_modify]
  simp only [structsBefore, Array.getElem?_mapIdx, listedBefore_succ hf, h]
  by_cases hk : k = i
  · simp [hk, Function.comp_def]
  · simp [hk]

/-- A turn takes the loop from one state to the next. -/
theorem keyTurn_keyState (hf : m.field? ⟨n⟩ = some f) :
    keyTurn names (keyState names m n) ⟨n⟩ = keyState names m (n + 1) := by
  have hproblems : (keyState names m (n + 1)).2 =
      (keyState names m n).2 ++ f.foreignProblems names m ⟨n⟩ := by
    simp only [keyState, zipIdx_take_succ hf, List.flatMap_append, List.flatMap_singleton]
  cases hk : f.foreign with
  | none =>
    have hfields := fieldsBefore_modify names hf (g := id)
      (by simp [Field.resolveForeign, hk])
    have hentry : keyEntry names m (f, n) = none := by simp [keyEntry, hk]
    have hsame : (fieldsBefore names m n).modify n id = fieldsBefore names m n := by
      apply Array.ext_getElem?
      simp [Array.getElem?_modify]
    simp only [keyTurn, field?_keyState hf, hk]
    refine Prod.ext ?_ ?_
    · simp only [keyState, ← hfields, hsame, structsBefore_of_none hf hentry]
    · simp [hproblems, Field.foreignProblems, hk]
  | some k =>
    simp only [keyTurn, field?_keyState hf, hk, resolveKey_keyState]
    cases ho : resolveKey names m ⟨n⟩ f k with
    | mk bound outcome =>
      cases outcome with
      | error p =>
        have hentry : keyEntry names m (f, n) = none := by
          simp [keyEntry, hk, ho, Except.toOption]
        refine Prod.ext ?_ ?_
        · have hfields := fieldsBefore_modify names hf
            (g := fun f => { f with foreign := some bound })
            (by simp [Field.resolveForeign, hk, ho])
          simp only [keyState, Model.modifyField, modify_modify, ← hfields,
            structsBefore_of_none hf hentry]
        · simp [hproblems, Field.foreignProblems, hk, ho]
      | ok x =>
        obtain ⟨sid, r⟩ := x
        have hentry : keyEntry names m (f, n) = some (sid, ⟨n⟩) := by
          simp [keyEntry, hk, ho, Except.toOption]
        refine Prod.ext ?_ ?_
        · have hfields := fieldsBefore_modify names hf
            (g := fun f => { f with foreign := some bound, reference := some r })
            (by simp [Field.resolveForeign, hk, ho])
          simp only [keyState, Model.modifyField, Model.modifyStruct, modify_modify, ← hfields,
            structsBefore_modify hf hentry]
        · simp [hproblems, Field.foreignProblems, hk, ho]

/-- The loop does what resolving all keys on the model before does. -/
theorem keyLoop_eq (names : Namespace) (m : Model) :
    keyLoop names m = (resolveForeignKeys names m, foreignKeyProblems names m) := by
  have hstart : keyState names m 0 = (m, []) := by
    have hfields : fieldsBefore names m 0 = m.fields := array_mapIdx_eq_self fun _ => by simp
    have hstructs : structsBefore names m 0 = m.structs :=
      array_mapIdx_eq_self fun _ => by simp [listedBefore]
    simp [keyState, hfields, hstructs]
  have hend : keyState names m m.fields.size =
      (resolveForeignKeys names m, foreignKeyProblems names m) := by
    have htake : m.fields.toList.zipIdx.take m.fields.size = m.fields.toList.zipIdx :=
      List.take_of_length_le (by simp)
    have hfields : fieldsBefore names m m.fields.size =
        m.fields.mapIdx fun i f => f.resolveForeign names m ⟨i⟩ := by
      apply Array.ext (by simp [fieldsBefore])
      intro i hi _
      have hi : i < m.fields.size := by simpa [fieldsBefore] using hi
      simp [fieldsBefore, hi]
    rw [keyState, hfields, htake]
    simp only [structsBefore, listedBefore, htake, ← validKeys_eq_entries]
    rfl
  have hstates : ∀ n ≤ m.fields.size,
      (List.range n).foldl (fun x i => keyTurn names x ⟨i⟩) (m, []) = keyState names m n := by
    intro n hn
    induction n with
    | zero => exact hstart.symm
    | succ n ih =>
      have hf : m.field? ⟨n⟩ = some m.fields[n] := Array.getElem?_eq_getElem hn
      rw [List.range_succ, List.foldl_append, ih (Nat.le_of_succ_le hn)]
      exact keyTurn_keyState hf
  rw [keyLoop, hstates _ (Nat.le_refl _), hend]

end Loop

/-! ### models without references -/

/-- In a model without references, and so in a run, resolving foreign keys gives a reference to
every field with a valid key, one error to every other key, and to every structure the list of the
fields that refer to it, whether key after key or all at once. Of one field the same becomes
whatever keys other fields have. -/
theorem foreignKeys_settled (m : Model) (hun : m.Unlinked)
    (hlist : ∀ s ∈ m.structs, s.referencedBy = []) :
    (m.KeysSettled (resolveForeignKeys (.ofModel m) m) (foreignKeyProblems (.ofModel m) m) ∧
      (m.Owned → (resolveForeignKeys (.ofModel m) m).BackLinked) ∧
      keyLoop (.ofModel m) m =
        (resolveForeignKeys (.ofModel m) m, foreignKeyProblems (.ofModel m) m)) ∧
    (m.typed.KeysSettled m.keyed (foreignKeyProblems (.ofModel m) m.typed) ∧
      (m.Owned → m.keyed.BackLinked) ∧
      keyLoop (.ofModel m) m.typed = (m.keyed, foreignKeyProblems (.ofModel m) m.typed)) ∧
    ∀ keys id f, m.field? id = some f → (m.withKeys keys).field? id = some f →
      (resolveForeignKeys (.ofModel (m.withKeys keys)) (m.withKeys keys)).field? id =
          (resolveForeignKeys (.ofModel m) m).field? id ∧
        f.foreignProblems (.ofModel (m.withKeys keys)) (m.withKeys keys) id =
          f.foreignProblems (.ofModel m) m id := by
  have hsettled : m.KeysSettled (resolveForeignKeys (.ofModel m) m)
      (foreignKeyProblems (.ofModel m) m) :=
    keysSettled_resolveForeignKeys (Namespace.struct?_ofModel m) (Namespace.field?_ofModel m) hun
      hlist
  have hkeyed := Model.keysSettled_keyed hun hlist
  refine ⟨⟨hsettled, hsettled.backLinked, keyLoop_eq _ m⟩, ⟨hkeyed, fun hown => ?_,
    keyLoop_eq _ m.typed⟩, fun keys id f hf hkeys => ?_⟩
  · exact hkeyed.backLinked (hown.congr Model.asDeclared_typed)
  · obtain ⟨hfield, hproblems⟩ := resolveForeign_withKeys m keys id f
    refine ⟨?_, hproblems⟩
    simp only [resolveForeignKeys, Model.field?, Array.getElem?_mapIdx] at hf hkeys ⊢
    rw [hf, hkeys, Option.map_some, Option.map_some, hfield]

/-- An employee refers to the firm, and the firm lists this field. -/
theorem foreignKeys_settled_staffSet :
    staffSet.model.Unlinked ∧ (∀ s ∈ staffSet.model.structs, s.referencedBy = []) ∧
      staffSet.model.Owned ∧
      foreignKeyProblems (.ofModel staffSet.model) staffSet.model.typed = [] ∧
      (staffSet.model.keyed.struct? ⟨1⟩).map Struct.referencedBy = some [⟨1⟩] ∧
      staffSet.model.typed.KeysSettled staffSet.model.keyed
        (foreignKeyProblems (.ofModel staffSet.model) staffSet.model.typed) ∧
      staffSet.model.keyed.BackLinked := by
  have hun : staffSet.model.Unlinked := fun _ _ hf => staffSet_reached.sound.unlinked hf
  have hown := staffSet_reached.sound.owned
  obtain ⟨-, ⟨hsettled, hback, -⟩, -⟩ := foreignKeys_settled staffSet.model hun staffSet_unlisted
  refine ⟨hun, staffSet_unlisted, hown, ?_, ?_, hsettled, hback hown⟩
  · simp only [Model.typed, Namespace.ofModel_eq_scan]
    decide +kernel
  · simp only [Model.keyed, Model.typed, Namespace.ofModel_eq_scan]
    decide +kernel

end ModelLinker
