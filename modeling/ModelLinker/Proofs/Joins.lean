import ModelLinker.Proofs.Kept

/-!
# The joins of a model, apart from their short names

`Model.joinPaths` lists the paths of the joins of one structure, without regard to other structures.
The linker, which counts the joins of the whole model, gives a structure these joins as long as the
short names last, and reports an error exactly if there are more joins than short names
(`isOk_joinsFrom`).
-/

namespace ModelLinker

/-- The paths of all chains of structure-typed fields that start at a structure, each before those
that go on from it. The number bounds the length of a chain. -/
def Model.joinPaths (m : Model) : Nat → Option String → StructId → List String
  | 0, _, _ => []
  | room + 1, before, id =>
    (m.embeds id).flatMap fun (fid, target) =>
      match m.field? fid with
      | none => []
      | some f =>
        let path := extendPath before f.name
        path :: m.joinPaths room (some path) target

/-- There is a short name for a number exactly if it is less than their count. -/
theorem shortName?_isSome {n : Nat} : (shortName? n).isSome = true ↔ n < greatestJoinCount := by
  have hlimit : 26 < greatestJoinCount ∧ 26 * 26 < greatestJoinCount := by decide
  unfold shortName?
  split
  · simp only [Option.isSome_some, true_iff]
    omega
  · split
    · simp only [Option.isSome_some, true_iff]
      omega
    · split <;> simp_all

/-- The step of the linker from one embedding to the next. -/
def joinStep (m : Model) (room : Nat) (before : Option String) (state : JoinCount)
    (e : FieldId × StructId) : Except Pos JoinCount :=
  match m.field? e.1 with
  | none => .ok state
  | some f =>
    match shortName? state.1 with
    | none => .error f.pos
    | some name =>
      let path := extendPath before f.name
      collectJoins m room (some path) e.2 (state.1 + 1, ⟨path, name⟩ :: state.2)

/-- The collection of some paths: it adds a join for each of them, or runs out of short names. -/
def Collects (run : JoinCount → Except Pos JoinCount) (paths : List String) : Prop :=
  ∀ count found, count ≤ greatestJoinCount →
    (count + paths.length ≤ greatestJoinCount →
      ∃ joins : List Join, joins.reverse.map Join.path = paths ∧
        run (count, found) = .ok (count + paths.length, joins ++ found)) ∧
    (greatestJoinCount < count + paths.length → ∃ pos, run (count, found) = .error pos)

theorem Collects.nil : Collects .ok [] := by
  intro count found hcount
  refine ⟨fun _ => ⟨[], rfl, rfl⟩, fun h => ?_⟩
  simp only [List.length_nil] at h
  omega

theorem Collects.bind {run run' : JoinCount → Except Pos JoinCount} {paths paths' : List String}
    (h : Collects run paths) (h' : Collects run' paths') :
    Collects (fun state => run state >>= run') (paths ++ paths') := by
  intro count found hcount
  obtain ⟨hok, herror⟩ := h count found hcount
  simp only [List.length_append]
  rcases Nat.lt_or_ge greatestJoinCount (count + paths.length) with hmany | hfew
  · obtain ⟨pos, hpos⟩ := herror hmany
    refine ⟨fun _ => by omega, fun _ => ⟨pos, ?_⟩⟩
    rw [hpos]
    rfl
  · obtain ⟨joins, hjoins, hrun⟩ := hok hfew
    obtain ⟨hok', herror'⟩ := h' (count + paths.length) (joins ++ found) hfew
    rw [Nat.add_assoc] at hok' herror'
    refine ⟨fun hle => ?_, fun hlt => ?_⟩
    · obtain ⟨joins', hjoins', hrun'⟩ := hok' hle
      refine ⟨joins' ++ joins, by simp [← hjoins, ← hjoins'], ?_⟩
      rw [hrun, List.append_assoc]
      exact hrun'
    · obtain ⟨pos, hpos⟩ := herror' hlt
      refine ⟨pos, ?_⟩
      rw [hrun]
      exact hpos

/-- One more join takes one short name. -/
theorem Collects.cons {run : JoinCount → Except Pos JoinCount} {paths : List String}
    (h : Collects run paths) (path : String) (pos : Pos) :
    Collects (fun state =>
      match shortName? state.1 with
      | none => .error pos
      | some name => run (state.1 + 1, ⟨path, name⟩ :: state.2)) (path :: paths) := by
  intro count found hcount
  simp only [List.length_cons]
  cases hname : shortName? count with
  | none =>
    have hfull : ¬ count < greatestJoinCount := by
      rw [← shortName?_isSome, hname]
      simp
    exact ⟨fun _ => by omega, fun _ => ⟨pos, rfl⟩⟩
  | some name =>
    have hroom : count < greatestJoinCount := by
      rw [← shortName?_isSome, hname]
      rfl
    obtain ⟨hok, herror⟩ := h (count + 1) (⟨path, name⟩ :: found) hroom
    refine ⟨fun hle => ?_, fun hlt => ?_⟩
    · obtain ⟨joins, hjoins, hrun⟩ := hok (by omega)
      refine ⟨joins ++ [⟨path, name⟩], by simp [← hjoins], ?_⟩
      simp only [hrun, List.append_assoc, List.singleton_append]
      congr 2
      omega
    · exact herror (by omega)

theorem collects_collectJoins (m : Model) (room : Nat) (before : Option String) (id : StructId) :
    Collects (collectJoins m room before id) (m.joinPaths room before id) := by
  induction room generalizing before id with
  | zero => exact .nil
  | succ room ih =>
    have hstep : ∀ e : FieldId × StructId,
        Collects (fun state => joinStep m room before state e)
          (match m.field? e.1 with
            | none => []
            | some f =>
              extendPath before f.name ::
                m.joinPaths room (some (extendPath before f.name)) e.2) := by
      intro e
      unfold joinStep
      cases m.field? e.1 with
      | none => exact .nil
      | some f => exact (ih (some (extendPath before f.name)) e.2).cons _ f.pos
    have hall : ∀ es : List (FieldId × StructId),
        Collects (fun state => es.foldlM (joinStep m room before) state)
          (es.flatMap fun e => match m.field? e.1 with
            | none => []
            | some f =>
              extendPath before f.name ::
                m.joinPaths room (some (extendPath before f.name)) e.2) := by
      intro es
      induction es with
      | nil => exact .nil
      | cons e rest ihes => exact (hstep e).bind ihes
    exact hall (m.embeds id)

/-! ### the joins of all structures -/

/-- The paths of the joins of a structure. -/
def Model.joinPathsOf (m : Model) (id : StructId) : List String :=
  m.joinPaths (m.structs.size + 1) none id

/-- How many joins some structures have. -/
def Model.joinTotal (m : Model) (ids : List StructId) : Nat :=
  (ids.flatMap m.joinPathsOf).length

theorem joinsFrom_spec (m : Model) (ids : List StructId) (count : Nat)
    (hcount : count ≤ greatestJoinCount) :
    (count + m.joinTotal ids ≤ greatestJoinCount →
      (joinsFrom m count ids).2.2 = [] ∧
        (joinsFrom m count ids).1.map (List.map Join.path) = ids.map m.joinPathsOf) ∧
    (greatestJoinCount < count + m.joinTotal ids →
      Diagnostics.isOk (joinsFrom m count ids).2.2 = false) := by
  induction ids generalizing count with
  | nil =>
    refine ⟨fun _ => ⟨rfl, rfl⟩, fun h => ?_⟩
    simp only [Model.joinTotal, List.flatMap_nil, List.length_nil] at h
    omega
  | cons id rest ih =>
    obtain ⟨hok, herror⟩ := collects_collectJoins m (m.structs.size + 1) none id count [] hcount
    have htotal : m.joinTotal (id :: rest) = (m.joinPathsOf id).length + m.joinTotal rest := by
      simp [Model.joinTotal]
    rw [htotal, ← Nat.add_assoc]
    rcases Nat.lt_or_ge greatestJoinCount (count + (m.joinPathsOf id).length) with hmany | hfew
    · obtain ⟨pos, hpos⟩ := herror hmany
      refine ⟨fun _ => by omega, fun _ => ?_⟩
      simp [joinsFrom, hpos]
    · obtain ⟨joins, hjoins, hrun⟩ := hok hfew
      obtain ⟨hok', herror'⟩ := ih (count + (m.joinPathsOf id).length) hfew
      have hcons : joinsFrom m count (id :: rest) =
          ((joins.reverse :: (joinsFrom m (count + (m.joinPathsOf id).length) rest).1),
            (joinsFrom m (count + (m.joinPathsOf id).length) rest).2) := by
        rw [joinsFrom, hrun, List.append_nil]
        rfl
      rw [hcons]
      refine ⟨fun hle => ?_, herror'⟩
      obtain ⟨hnil, hpaths⟩ := hok' hle
      exact ⟨hnil, by rw [List.map_cons, List.map_cons, hjoins, hpaths]; rfl⟩

/-- There are too many joins exactly if there are more of them than short names. -/
theorem isOk_joinsFrom {m : Model} :
    Diagnostics.isOk (assignJoins m).2.2 = true ↔
      m.joinTotal m.structIds ≤ greatestJoinCount := by
  have hspec := joinsFrom_spec m m.structIds 0 (Nat.zero_le _)
  rw [Nat.zero_add] at hspec
  change Diagnostics.isOk (joinsFrom m 0 m.structIds).2.2 = true ↔ _
  rcases Nat.lt_or_ge greatestJoinCount (m.joinTotal m.structIds) with hmany | hfew
  · rw [hspec.2 hmany]
    simp only [Bool.false_eq_true, false_iff]
    omega
  · rw [(hspec.1 hfew).1]
    simp [hfew]

/-- If the short names last, every structure gets the joins that start at it. -/
theorem joinsFrom_paths {m : Model} (h : Diagnostics.isOk (assignJoins m).2.2 = true) :
    (assignJoins m).2.2 = [] ∧
      (joinsFrom m 0 m.structIds).1.map (List.map Join.path) = m.structIds.map m.joinPathsOf := by
  have hspec := joinsFrom_spec m m.structIds 0 (Nat.zero_le _)
  rw [Nat.zero_add] at hspec
  exact hspec.1 (isOk_joinsFrom.1 h)

end ModelLinker
