import ModelLinker.Proofs.Joins.Chains

/-!
# Joins are numbered through the whole model

The linker gives short names to the chains of all structures, one after another. As long as the
names last, the joins of a structure are its chains in order, named by their numbers in the whole
model (`numbered_assignJoins`), and no name is given twice (`nodup_shortNames`).
-/

namespace ModelLinker

/-! ### short names -/

theorem letter_inj {a b : Nat} (h : letter a = letter b) : a % 26 = b % 26 := by
  have key : ∀ i j : Fin 26, Char.ofNat ('a'.toNat + i) = Char.ofNat ('a'.toNat + j) → i = j := by
    decide
  exact congrArg Fin.val
    (key ⟨a % 26, Nat.mod_lt _ (by decide)⟩ ⟨b % 26, Nat.mod_lt _ (by decide)⟩ h)

/-- Different numbers have different short names. -/
theorem shortName?_inj {a b : Nat} {name : String} (ha : shortName? a = some name)
    (hb : shortName? b = some name) : a = b := by
  have hlimit : greatestJoinCount = 26 * 26 * 26 := rfl
  unfold shortName? at ha hb
  rw [← hb] at ha
  -- names from different ranges differ in length, so only the diagonal is left
  split_ifs at ha hb <;>
    simp only [Option.some.injEq, String.ofList_inj, List.cons.injEq, true_and, and_true,
      and_false, reduceCtorEq] at ha
  · have := letter_inj ha
    omega
  · have := letter_inj ha.1
    have := letter_inj ha.2
    omega
  · have := letter_inj ha.1
    have := letter_inj ha.2.1
    have := letter_inj ha.2.2
    omega

/-! ### numbers -/

/-- The joins of some chains, in their order, with the short names of the numbers from a first one
on. -/
structure Model.Numbered (m : Model) (first : Nat) (chains : List (List FieldId))
    (joins : List Join) : Prop where
  paths : joins.map Join.path = chains.map m.chainPath
  names : joins.map (fun j => some j.shortName) =
    (List.range' first chains.length).map shortName?

namespace Model.Numbered

variable {m : Model} {first : Nat} {chains chains' : List (List FieldId)} {joins joins' : List Join}

theorem length_eq (h : m.Numbered first chains joins) : joins.length = chains.length := by
  simpa using congrArg List.length h.paths

theorem append (h : m.Numbered first chains joins)
    (h' : m.Numbered (first + chains.length) chains' joins') :
    m.Numbered first (chains ++ chains') (joins ++ joins') where
  paths := by rw [List.map_append, List.map_append, h.paths, h'.paths]
  names := by
    rw [List.map_append, h.names, h'.names, List.length_append, ← List.map_append,
      List.range'_append_1]

/-- Different joins have different short names. -/
theorem nodup (h : m.Numbered first chains joins) : (joins.map Join.shortName).Nodup := by
  have hsome : ∀ k ∈ List.range' first chains.length, ∃ name, shortName? k = some name := by
    intro k hk
    have := List.mem_map_of_mem (f := shortName?) hk
    rw [← h.names] at this
    obtain ⟨j, -, hj⟩ := List.mem_map.1 this
    exact ⟨_, hj.symm⟩
  refine .of_map some ?_
  rw [List.map_map]
  change (joins.map fun j => some j.shortName).Nodup
  rw [h.names]
  refine List.Nodup.map_on (fun a ha b _ hab => ?_) (List.nodup_range' ..)
  obtain ⟨name, hname⟩ := hsome a ha
  exact shortName?_inj hname (hab ▸ hname)

end Model.Numbered

/-! ### the joins of one structure -/

/-- The names of the joins found so far are those of the numbers from a first one up to the next
number. -/
structure CountedFrom (first : Nat) (state : JoinCount) : Prop where
  next : state.1 = first + state.2.length
  names : state.2.reverse.map (fun j => some j.shortName) =
    (List.range' first state.2.length).map shortName?

variable {m : Model} {first : Nat} {state state' : JoinCount}

theorem CountedFrom.start (first : Nat) : CountedFrom first (first, []) := ⟨rfl, rfl⟩

theorem CountedFrom.cons (h : CountedFrom first state) {name : String}
    (hname : shortName? state.1 = some name) (path : String) :
    CountedFrom first (state.1 + 1, ⟨path, name⟩ :: state.2) where
  next := by rw [h.next, List.length_cons, Nat.add_assoc]
  names := by
    rw [List.reverse_cons, List.map_append, h.names, List.length_cons, List.range'_1_concat,
      List.map_append, ← h.next]
    simp [hname]

/-- One embedding adds one join and those that go on from it. -/
theorem countedFrom_joinStep {room : Nat} {before : Option String} {e : FieldId × StructId}
    (ih : ∀ {before id state state'}, CountedFrom first state →
      collectJoins m room before id state = .ok state' → CountedFrom first state')
    (h : CountedFrom first state) (hrun : joinStep m room before state e = .ok state') :
    CountedFrom first state' := by
  unfold joinStep at hrun
  cases hf : m.field? e.1 with
  | none =>
    rw [hf] at hrun
    exact Except.ok.inj hrun ▸ h
  | some f =>
    cases hname : shortName? state.1 with
    | none => simp [hf, hname] at hrun
    | some name =>
      simp only [hf, hname] at hrun
      exact ih (h.cons hname _) hrun

theorem countedFrom_collectJoins {room : Nat} {before : Option String} {id : StructId}
    (h : CountedFrom first state)
    (hrun : collectJoins m room before id state = .ok state') :
    CountedFrom first state' := by
  induction room generalizing before id state state' with
  | zero => exact Except.ok.inj hrun ▸ h
  | succ room ih =>
    -- the fields of the structure one after another, each by the step above
    have hall : ∀ (es : List (FieldId × StructId)) (state : JoinCount), CountedFrom first state →
        es.foldlM (joinStep m room before) state = .ok state' →
        CountedFrom first state' := by
      intro es
      induction es with
      | nil => exact fun state h hrun => Except.ok.inj hrun ▸ h
      | cons e rest ihes =>
        intro state h hrun
        rw [List.foldlM_cons] at hrun
        cases hstep : joinStep m room before state e with
        | error pos =>
          rw [hstep] at hrun
          cases hrun
        | ok next =>
          rw [hstep] at hrun
          exact ihes next (countedFrom_joinStep ih h hstep) hrun
    exact hall (m.embeds id) state h hrun

/-- The joins of one structure are numbered from the number of joins before them on. -/
theorem numbered_collectJoins {id : StructId} {count : Nat}
    (hfit : count + (m.joinChains id).length ≤ greatestJoinCount) :
    ∃ joins, m.Numbered count (m.joinChains id) joins.reverse ∧
      collectJoins m (m.structs.size + 1) none id (count, []) =
        .ok (count + (m.joinChains id).length, joins) := by
  have hpaths : m.joinPaths (m.structs.size + 1) none id = (m.joinChains id).map m.chainPath :=
    m.joinPathsOf_eq id
  obtain ⟨hok, -⟩ := collects_collectJoins m (m.structs.size + 1) none id count [] (by omega)
  rw [hpaths, List.length_map] at hok
  obtain ⟨joins, hjoins, hrun⟩ := hok hfit
  rw [List.append_nil] at hrun
  have hcounted := countedFrom_collectJoins (.start count) hrun
  have hlen : joins.length = (m.joinChains id).length := by
    simpa using congrArg List.length hjoins
  exact ⟨joins, ⟨hjoins, by rw [hcounted.names, hlen]⟩, hrun⟩

/-! ### the joins of all structures -/

/-- One structure gets its joins, and the next ones go on with the numbers after them. -/
theorem joinsFrom_cons {id : StructId} {rest : List StructId} {count : Nat}
    (hfit : count + (m.joinChains id).length ≤ greatestJoinCount) :
    ∃ joins, m.Numbered count (m.joinChains id) joins ∧
      joinsFrom m count (id :: rest) =
        (joins :: (joinsFrom m (count + (m.joinChains id).length) rest).1,
          (joinsFrom m (count + (m.joinChains id).length) rest).2) := by
  obtain ⟨joins, hnumbered, hrun⟩ := numbered_collectJoins hfit
  refine ⟨joins.reverse, hnumbered, ?_⟩
  rw [joinsFrom, hrun]

/-- The joins of each of some structures are numbered from the number of joins before them on, and
so are all of them together. -/
theorem numbered_joinsFrom {ids : List StructId} {count : Nat}
    (hfit : count + (ids.flatMap m.joinChains).length ≤ greatestJoinCount) :
    m.Numbered count (ids.flatMap m.joinChains) (joinsFrom m count ids).1.flatten ∧
      ∀ {k id joins}, ids[k]? = some id → (joinsFrom m count ids).1[k]? = some joins →
        m.Numbered (count + ((ids.take k).flatMap m.joinChains).length) (m.joinChains id) joins := by
  induction ids generalizing count with
  | nil => exact ⟨⟨rfl, rfl⟩, by simp⟩
  | cons id rest ih =>
    rw [List.flatMap_cons, List.length_append, ← Nat.add_assoc] at hfit
    obtain ⟨joins, hnumbered, hcons⟩ :=
      @joinsFrom_cons m id rest count ((Nat.le_add_right _ _).trans hfit)
    obtain ⟨hall, hrest⟩ := ih hfit
    rw [hcons, List.flatMap_cons, List.flatten_cons]
    refine ⟨hnumbered.append hall, ?_⟩
    intro k id' joins' hid hjoins
    cases k with
    | zero =>
      obtain rfl := Option.some.inj hid
      obtain rfl := Option.some.inj hjoins
      exact hnumbered
    | succ k =>
      rw [List.take_succ_cons, List.flatMap_cons, List.length_append, ← Nat.add_assoc]
      exact hrest hid hjoins

/-- At most one problem is reported, however many joins there are. -/
theorem problems_joinsFrom (m : Model) (ids : List StructId) (count : Nat) :
    (joinsFrom m count ids).2.2 = [] ∨
      ∃ pos, (joinsFrom m count ids).2.2 = [Cause.tooManyAliases.at pos] := by
  induction ids generalizing count with
  | nil => exact .inl rfl
  | cons id rest ih =>
    rw [joinsFrom]
    cases collectJoins m (m.structs.size + 1) none id (count, []) with
    | error pos => exact .inr ⟨pos, rfl⟩
    | ok state => exact ih state.1

namespace Model

/-- The chains of all structures, one structure after another. -/
def allChains (m : Model) : List (List FieldId) := m.structIds.flatMap m.joinChains

/-- How many chains there are before those of a structure. -/
def chainsBefore (m : Model) (id : StructId) : Nat :=
  ((m.structIds.take id.index).flatMap m.joinChains).length

theorem joinTotal_eq (m : Model) : m.joinTotal m.structIds = m.allChains.length := by
  have : m.joinPathsOf = fun s => (m.joinChains s).map m.chainPath := funext m.joinPathsOf_eq
  simp [joinTotal, allChains, this]

theorem isOk_assignJoins :
    Diagnostics.isOk (assignJoins m).2.2 = true ↔ m.allChains.length ≤ greatestJoinCount := by
  rw [isOk_joinsFrom, joinTotal_eq]

theorem problems_assignJoins_of_le (h : m.allChains.length ≤ greatestJoinCount) :
    (assignJoins m).2.2 = [] :=
  (joinsFrom_paths (isOk_assignJoins.2 h)).1

theorem problems_assignJoins_of_lt (h : greatestJoinCount < m.allChains.length) :
    ∃ pos, (assignJoins m).2.2 = [Cause.tooManyAliases.at pos] := by
  refine (problems_joinsFrom m m.structIds 0).resolve_left fun hnil => ?_
  have hok : Diagnostics.isOk (assignJoins m).2.2 = true := by
    change Diagnostics.isOk (joinsFrom m 0 m.structIds).2.2 = true
    rw [hnil]
    rfl
  have := isOk_assignJoins.1 hok
  omega

/-- Every structure gets the joins that were found for it. -/
theorem joins_assignJoins (h : m.allChains.length ≤ greatestJoinCount) :
    (assignJoins m).1.structs.toList.map Struct.joins = (joinsFrom m 0 m.structIds).1 := by
  have hlen : (joinsFrom m 0 m.structIds).1.length = m.structs.size := by
    have := congrArg List.length (joinsFrom_paths (isOk_assignJoins.2 h)).2
    simpa [structIds] using this
  refine List.ext_getElem? fun i => ?_
  rcases Nat.lt_or_ge i m.structs.size with hlt | hge
  · have hi : i < (joinsFrom m 0 m.structIds).1.length := hlen ▸ hlt
    simp [assignJoins, setJoins, Struct.bindJoins, hlt, hi]
  · have hi : (joinsFrom m 0 m.structIds).1.length ≤ i := hlen ▸ hge
    simp [assignJoins, setJoins, hge, hi]

/-- The joins of every structure are its chains, numbered through the whole model. -/
theorem numbered_assignJoins (h : m.allChains.length ≤ greatestJoinCount) {id : StructId}
    {s : Struct} (hs : (assignJoins m).1.struct? id = some s) :
    m.Numbered (m.chainsBefore id) (m.joinChains id) s.joins := by
  obtain ⟨-, heach⟩ := @numbered_joinsFrom m m.structIds 0 (by simpa [allChains] using h)
  have hjoins : (joinsFrom m 0 m.structIds).1[id.index]? = some s.joins := by
    rw [← joins_assignJoins h, List.getElem?_map, Array.getElem?_toList]
    exact congrArg (Option.map Struct.joins) hs
  have hlt : id.index < m.structs.size := by
    simpa [assignJoins, setJoins] using (struct?_eq_some.1 hs).1
  have hid : m.structIds[id.index]? = some id := by
    simp [structIds, hlt]
  simpa [chainsBefore] using heach hid hjoins

/-- No two joins of a model have the same short name. -/
theorem nodup_shortNames (h : m.allChains.length ≤ greatestJoinCount) :
    (((assignJoins m).1.structs.toList.flatMap Struct.joins).map Join.shortName).Nodup := by
  obtain ⟨hall, -⟩ := @numbered_joinsFrom m m.structIds 0 (by simpa [allChains] using h)
  rw [List.flatMap_def, joins_assignJoins h]
  exact hall.nodup

end Model

end ModelLinker
