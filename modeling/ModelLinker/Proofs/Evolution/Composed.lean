import ModelLinker.Proofs.Evolution.Accepted

/-!
# Upgrades in several steps

Stored data that can follow from one model to the next can follow over several steps at once, if no
step loses a structure-typed field (`Model.Accepts.trans`). Such a loss is only warned of, but it
frees the name of the field for a column of any kind. So comparisons without errors compose
(`isOk_changes_trans`), over any number of steps (`upgradesTo_of_steps`).
-/

namespace ModelLinker

open Text (sameName sameName_trans)

namespace TypeName

theorem not_mem_texts_of_mem_integers {t : TypeName} (h : t ∈ integers) : t ∉ texts := by
  revert h
  simp only [integers, texts, List.mem_cons, List.not_mem_nil, or_false]
  rintro (rfl | rfl | rfl | rfl) <;> decide

/-- No kind is both a whole number and a text, so that a column stays within its family. -/
theorem Follows.trans {a b c : TypeName} (h : a.Follows b) (h' : b.Follows c) : a.Follows c := by
  obtain rfl | ⟨ha, hb⟩ | ⟨ha, hb⟩ := h
  · exact h'
  · obtain rfl | ⟨-, hc⟩ | ⟨hb', -⟩ := h'
    · exact .inr (.inl ⟨ha, hb⟩)
    · exact .inr (.inl ⟨ha, hc⟩)
    · exact absurd hb' (not_mem_texts_of_mem_integers hb)
  · obtain rfl | ⟨hb', -⟩ | ⟨-, hc⟩ := h'
    · exact .inr (.inr ⟨ha, hb⟩)
    · exact absurd hb (not_mem_texts_of_mem_integers hb')
    · exact .inr (.inr ⟨ha, hc⟩)

end TypeName

theorem FieldType.isStruct_iff {t : FieldType} : t.isStruct = true ↔ t.name = .struct := by
  cases t <;> simp [FieldType.isStruct, FieldType.name]

/-- A structure-typed field becomes nothing else, and nothing else becomes one. -/
theorem isStruct_of_follows {a b : FieldType} (h : a.name.Follows b.name) :
    a.isStruct = b.isStruct := by
  rw [Bool.eq_iff_iff, FieldType.isStruct_iff, FieldType.isStruct_iff]
  obtain heq | ⟨ha, hb⟩ | ⟨ha, hb⟩ := h
  · rw [heq]
  all_goals
    constructor
    · intro hs
      rw [hs] at ha
      exact absurd ha (by decide)
    · intro hs
      rw [hs] at hb
      exact absurd hb (by decide)

/-- What is kept of a field in two steps is kept in one. -/
theorem Field.Kept.trans {a b c : Model} {f g k : Field} (h : f.Kept a b g) (h' : g.Kept b c k) :
    f.Kept a c k := by
  -- a column has only columns in between
  have hmid : f.type.isStruct = false → g.type.isStruct = false := fun hf =>
    (isStruct_of_follows h.kind).symm.trans hf
  refine ⟨h.kind.trans h'.kind, h.rowid.trans h'.rowid, h.unique.trans h'.unique,
    h.nullable.trans h'.nullable, fun hf hk => ?_, fun hf hk r r'' hr hr'' => ?_⟩
  · exact (h.refers hf (hmid hf)).trans (h'.refers (hmid hf) hk)
  · obtain ⟨r', hr'⟩ := Option.isSome_iff_exists.1
      ((h.refers hf (hmid hf)).1 (Option.isSome_of_eq_some hr))
    obtain ⟨hu, hd, ht⟩ := h.reference hf (hmid hf) r r' hr hr'
    obtain ⟨hu', hd', ht'⟩ := h'.reference (hmid hf) hk r' r'' hr' hr''
    exact ⟨hu.trans hu', hd.trans hd', fun name => (ht name).trans (ht' name)⟩

namespace Model

/-- Every structure-typed field of an old model has a counterpart in a new one. -/
def EmbeddingsKept (old new : Model) : Prop :=
  ∀ id id' s s', old.struct? id = some s → new.struct? id' = some s' →
    sameName s.name s'.name = true → ∀ e ∈ old.fieldsOf id, e.2.type.isStruct = true →
      ∃ e' ∈ new.fieldsOf id', sameName e.2.name e'.2.name = true

variable {a b c : Model}

/-- With its structure-typed fields kept, every field has a counterpart. -/
theorem Accepts.counterpart (h : a.Accepts b) (hkept : a.EmbeddingsKept b) {id id' : StructId}
    {s s' : Struct} (hs : a.struct? id = some s) (hs' : b.struct? id' = some s')
    (hn : sameName s.name s'.name = true) {e : FieldId × Field} (he : e ∈ a.fieldsOf id) :
    ∃ e' ∈ b.fieldsOf id', sameName e.2.name e'.2.name = true ∧ e.2.Kept a b e'.2 := by
  obtain ⟨e', he', hee⟩ : ∃ e' ∈ b.fieldsOf id', sameName e.2.name e'.2.name = true := by
    cases hplain : e.2.type.isStruct with
    | true => exact hkept id id' s s' hs hs' hn e he hplain
    | false => exact h.columns id id' s s' hs hs' hn e he hplain
  exact ⟨e', he', hee, h.fields id id' s s' hs hs' hn e he e' he' hee⟩

/-- Data that can follow in two steps can follow in one. What has the same name at both ends has a
counterpart in between, which is where a lost structure-typed field would leave a gap. -/
theorem Accepts.trans (h : a.Accepts b) (hkept : a.EmbeddingsKept b) (h' : b.Accepts c) :
    a.Accepts c := by
  have hmiddle : ∀ {id id'' s s''}, a.struct? id = some s → c.struct? id'' = some s'' →
      sameName s.name s''.name = true → ∃ id' s', b.struct? id' = some s' ∧
        sameName s.name s'.name = true ∧ sameName s'.name s''.name = true := by
    intro id id'' s s'' hs _ hn
    obtain ⟨id', s', hs', hss⟩ := h.structs id s hs
    exact ⟨id', s', hs', hss, sameName_trans (Text.sameName_comm s.name _ ▸ hss) hn⟩
  refine ⟨fun e he => ?_, fun id s hs => ?_, fun id id'' s s'' hs hs'' hn e he hplain => ?_,
    fun id id'' s s'' hs hs'' hn e he e'' he'' hee => ?_, fun id id'' s s'' hs hs'' hn => ?_⟩
  · obtain ⟨e', he', hn, hitems⟩ := h.enums e he
    obtain ⟨e'', he'', hn', hitems'⟩ := h'.enums e' he'
    refine ⟨e'', he'', sameName_trans hn hn', fun i hi => ?_⟩
    obtain ⟨j, hj, hij, hvalue⟩ := hitems i hi
    obtain ⟨k, hk, hjk, hvalue'⟩ := hitems' j hj
    exact ⟨k, hk, sameName_trans hij hjk, hvalue.trans hvalue'⟩
  · obtain ⟨id', s', hs', hn⟩ := h.structs id s hs
    obtain ⟨id'', s'', hs'', hn'⟩ := h'.structs id' s' hs'
    exact ⟨id'', s'', hs'', sameName_trans hn hn'⟩
  · obtain ⟨id', s', hs', hn₁, hn₂⟩ := hmiddle hs hs'' hn
    obtain ⟨e', he', hee, hfield⟩ := h.counterpart hkept hs hs' hn₁ he
    have hplain' : e'.2.type.isStruct = false :=
      (isStruct_of_follows hfield.kind).symm.trans hplain
    obtain ⟨e'', he'', hee'⟩ := h'.columns id' id'' s' s'' hs' hs'' hn₂ e' he' hplain'
    exact ⟨e'', he'', sameName_trans hee hee'⟩
  · obtain ⟨id', s', hs', hn₁, hn₂⟩ := hmiddle hs hs'' hn
    obtain ⟨e', he', hee', hfield⟩ := h.counterpart hkept hs hs' hn₁ he
    have hnext : sameName e'.2.name e''.2.name = true :=
      sameName_trans (Text.sameName_comm e.2.name _ ▸ hee') hee
    exact hfield.trans (h'.fields id' id'' s' s'' hs' hs'' hn₂ e' he' e'' he'' hnext)
  · obtain ⟨id', s', hs', hn₁, hn₂⟩ := hmiddle hs hs'' hn
    exact (h.uniques id id' s s' hs hs' hn₁).trans (h'.uniques id' id'' s' s'' hs' hs'' hn₂)

/-- If no step loses a structure-typed field, neither do all of them together. -/
theorem EmbeddingsKept.trans (h : a.Accepts b) (hkept : a.EmbeddingsKept b)
    (hkept' : b.EmbeddingsKept c) : a.EmbeddingsKept c := by
  intro id id'' s s'' hs hs'' hn e he hstruct
  obtain ⟨id', s', hs', hss⟩ := h.structs id s hs
  obtain ⟨e', he', hee, hfield⟩ := h.counterpart hkept hs hs' hss he
  obtain ⟨e'', he'', hee'⟩ := hkept' id' id'' s' s'' hs' hs''
    (sameName_trans (Text.sameName_comm s.name _ ▸ hss) hn) e' he'
    ((isStruct_of_follows hfield.kind).symm.trans hstruct)
  exact ⟨e'', he'', sameName_trans hee hee'⟩

end Model

/-! ### the comparison of linked models -/

/-- The diagnostic warns of a structure-typed field that is gone. -/
def Diagnostic.isLostEmbedding (d : Diagnostic) : Bool :=
  match d.cause with
  | .change c => c == .lostStructField
  | _ => false

section Linked

variable {seed seed' seed'' : Diagnostics} {m m' m'' : Model} {a b c : Linked}

/-- A comparison finds nothing but changes, so that it warns of no lost structure-typed field
exactly if every change is of another kind. -/
theorem no_lostEmbedding_iff (ha : linkWith seed m = .ok a) (hb : linkWith seed' m' = .ok b) :
    (∀ d ∈ changes a b, d.isLostEmbedding = false) ↔ a.model.EmbeddingsKept b.model := by
  have hold := comparable_of_linkWith ha
  have hnew := comparable_of_linkWith hb
  have hall : Diagnostics.Only (fun _ => True) (changes a b) :=
    (only_changes hold hnew).2 (Model.evolves_of_all (fun _ => trivial) _ _)
  have honly : (∀ d ∈ changes a b, d.isLostEmbedding = false) ↔
      Diagnostics.Only (· ≠ .lostStructField) (changes a b) := by
    refine forall₂_congr fun d hd => ?_
    obtain ⟨change, hcause, -⟩ := hall d hd
    simp [Diagnostic.IsChange, Diagnostic.isLostEmbedding, hcause]
  rw [honly, only_changes hold hnew]
  constructor
  · intro he id id' s s' hs hs' hn e hmem hstruct
    refine ((he.structs id id' s s' hs hs' hn).lost e hmem).resolve_right ?_
    simp [hstruct]
  · intro hkept
    have htype : ∀ before after, typeChange before after ≠ .lostStructField := by
      intro before after
      unfold typeChange
      split_ifs <;> simp
    refine ⟨fun _ _ => .inr (by decide), fun _ _ _ _ _ => ?_, fun _ _ => .inr (by decide),
      fun _ _ _ => .inr (by decide), fun id id' s s' hs hs' hn => ?_⟩
    · exact ⟨fun _ _ => .inr (by decide), fun _ _ _ _ _ => .inr (by decide),
        fun _ _ => .inr (by decide)⟩
    · refine ⟨fun _ _ _ => .inr (by decide), fun e hmem => ?_, fun _ _ _ _ _ => ?_,
        fun _ _ => .inr (by decide), fun _ _ => .inr (by decide)⟩
      · cases hstruct : e.2.type.isStruct with
        | true => exact .inl (hkept id id' s s' hs hs' hn e hmem hstruct)
        | false => exact .inr (by simp)
      · exact ⟨.inr (htype _ _), .inr (by decide), fun _ _ => .inr (by decide),
          fun _ _ _ _ _ _ => ⟨.inr (by decide), .inr (by decide), .inr (by decide)⟩⟩

/-- A comparison is without errors exactly if stored data can follow. -/
theorem isOk_iff_accepts (ha : linkWith seed m = .ok a) (hb : linkWith seed' m' = .ok b) :
    Diagnostics.isOk (changes a b) = true ↔ a.model.Accepts b.model := by
  have hold := comparable_of_linkWith ha
  have hnew := comparable_of_linkWith hb
  rw [isOk_changes hold hnew]
  exact ⟨accepts_of_evolves hold hnew, evolves_of_accepts hold hnew⟩

/-- Comparisons without errors compose, if the first one warns of no structure-typed field that is
gone, which it does exactly if all of these are kept. -/
theorem isOk_changes_trans (ha : linkWith seed m = .ok a) (hb : linkWith seed' m' = .ok b)
    (hc : linkWith seed'' m'' = .ok c) :
    ((∀ d ∈ changes a b, d.isLostEmbedding = false) ↔ a.model.EmbeddingsKept b.model) ∧
      (Diagnostics.isOk (changes a b) = true → (∀ d ∈ changes a b, d.isLostEmbedding = false) →
        Diagnostics.isOk (changes b c) = true → Diagnostics.isOk (changes a c) = true) := by
  refine ⟨no_lostEmbedding_iff ha hb, fun hab hkept hbc => ?_⟩
  rw [isOk_iff_accepts ha hb] at hab
  rw [isOk_iff_accepts hb hc] at hbc
  rw [no_lostEmbedding_iff ha hb] at hkept
  exact (isOk_iff_accepts ha hc).2 (hab.trans hkept hbc)

end Linked

/-- A comparison has no errors, and warns of no structure-typed field that is gone. -/
def Linked.UpgradesTo (old new : Linked) : Prop :=
  Diagnostics.isOk (changes old new) = true ∧ ∀ d ∈ changes old new, d.isLostEmbedding = false

theorem Linked.UpgradesTo.trans {seed seed' seed'' : Diagnostics} {m m' m'' : Model}
    {a b c : Linked} (ha : linkWith seed m = .ok a) (hb : linkWith seed' m' = .ok b)
    (hc : linkWith seed'' m'' = .ok c) (h : a.UpgradesTo b) (h' : b.UpgradesTo c) :
    a.UpgradesTo c := by
  rw [UpgradesTo, isOk_iff_accepts ha hb, no_lostEmbedding_iff ha hb] at h
  rw [UpgradesTo, isOk_iff_accepts hb hc, no_lostEmbedding_iff hb hc] at h'
  rw [UpgradesTo, isOk_iff_accepts ha hc, no_lostEmbedding_iff ha hc]
  exact ⟨h.1.trans h.2 h'.1, h.2.trans h.1 h'.2⟩

/-- Over any number of steps, each from one version to the next, the first version can become any
later one at once. -/
theorem upgradesTo_of_steps {first : Linked} {later : List Linked}
    (hlinked : ∀ l ∈ first :: later, ∃ seed m, linkWith seed m = .ok l)
    (hsteps : (first :: later).IsChain Linked.UpgradesTo) :
    ∀ last ∈ later, first.UpgradesTo last := by
  induction later generalizing first with
  | nil => simp
  | cons next later ih =>
    obtain ⟨hstep, hrest⟩ := List.isChain_cons_cons.1 hsteps
    intro last hlast
    rcases List.mem_cons.1 hlast with rfl | hlast
    · exact hstep
    · obtain ⟨_, _, hfirst⟩ := hlinked first (by simp)
      obtain ⟨_, _, hnext⟩ := hlinked next (by simp)
      obtain ⟨_, _, hend⟩ := hlinked last (by simp [hlast])
      have hothers : ∀ l ∈ next :: later, ∃ seed m, linkWith seed m = .ok l := fun l hl =>
        hlinked l (List.mem_cons_of_mem _ hl)
      exact hstep.trans hfirst hnext hend (ih hothers hrest last hlast)

/-! ### parcels and their routes -/

/-- Parcels with the id of a route, and some more fields; routes have a label of either kind of
text, and perhaps a length. -/
def parcelSet (label : PlainType) (parcel route : List Decl.Field) : SourceSet :=
  .ofDocuments [("parcels.json",
    { structs := [
        { name := "parcel", place := none, doc := none
          fields := [
            { Decl.Field.bare "id" (.plain .int) none with rowid := true },
            { Decl.Field.bare "route_id" (.plain .int) none with
              references := some ⟨"route.id", .cascade, .cascade⟩ }] ++ parcel
          searches := [], updates := [], deletes := [], insert := none, uniques := [] },
        { name := "route", place := none, doc := none
          fields := [
            { Decl.Field.bare "id" (.plain .int) none with rowid := true },
            .bare "label" (.plain label) none] ++ route
          searches := [], updates := [], deletes := [], insert := none, uniques := [] }]
      enums := [], bitfields := [], roles := [] })]

/-- Every parcel comes with its route. -/
def joinedParcels : SourceSet := parcelSet .text [.bare "route" .struct (some "route_id")] []

/-- The label of a route is an address. -/
def addressedParcels : SourceSet := parcelSet .email [.bare "route" .struct (some "route_id")] []

/-- Routes have a length, and the label is a text again. -/
def measuredParcels : SourceSet :=
  parcelSet .text [.bare "route" .struct (some "route_id")] [.bare "length" (.plain .int) none]

/-- Parcels come without their routes. -/
def plainParcels : SourceSet := parcelSet .text [] []

/-- The name of the route is taken by a text. -/
def renamedParcels : SourceSet := parcelSet .text [.bare "route" (.plain .text) none] []

theorem parcels_link :
    ∀ set ∈ [joinedParcels, addressedParcels, measuredParcels, plainParcels, renamedParcels],
      ∃ l, linkSources set = .ok l := by
  have hall : ∀ set ∈ [joinedParcels, addressedParcels, measuredParcels, plainParcels,
      renamedParcels], set.FaultlessBy (1 - ·.index) := by
    simp only [SourceSet.FaultlessBy, Model.bindingProblems, Model.marked, Model.topology,
      Model.joined, Model.bound, Model.resolved, Namespace.ofModel_eq_scan]
    decide +kernel
  exact fun set hset => (hall set hset).links

/-- The label of a route becomes an address and then a text again, while routes get a length. -/
theorem isOk_changes_measuredParcels :
    ∃ a b c, linkSources joinedParcels = .ok a ∧ linkSources addressedParcels = .ok b ∧
      linkSources measuredParcels = .ok c ∧ a.model.EmbeddingsKept b.model ∧
      Diagnostics.isOk (changes a b) = true ∧ Diagnostics.isOk (changes b c) = true ∧
      Diagnostics.isOk (changes a c) = true := by
  obtain ⟨a, ha⟩ := parcels_link joinedParcels (by simp)
  obtain ⟨b, hb⟩ := parcels_link addressedParcels (by simp)
  obtain ⟨c, hc⟩ := parcels_link measuredParcels (by simp)
  have hab : Diagnostics.isOk (changes a b) = true ∧
      ∀ d ∈ changes a b, d.isLostEmbedding = false := by
    rw [changes_bound ha hb]
    simp only [Model.bound, Model.resolved, Namespace.ofModel_eq_scan]
    decide +kernel
  have hbc : Diagnostics.isOk (changes b c) = true := by
    rw [changes_bound hb hc]
    simp only [Model.bound, Model.resolved, Namespace.ofModel_eq_scan]
    decide +kernel
  obtain ⟨hkept, hcomposed⟩ := isOk_changes_trans ha hb hc
  exact ⟨a, b, c, ha, hb, hc, hkept.1 hab.2, hab.1, hbc, hcomposed hab.1 hab.2 hbc⟩

-- without its route a parcel can get a text of that name, but not with the route still there
example :
    ∃ a b c, linkSources joinedParcels = .ok a ∧ linkSources plainParcels = .ok b ∧
      linkSources renamedParcels = .ok c ∧ Diagnostics.isOk (changes a b) = true ∧
      Diagnostics.isOk (changes b c) = true ∧ Diagnostics.isOk (changes a c) = false := by
  obtain ⟨a, ha⟩ := parcels_link joinedParcels (by simp)
  obtain ⟨b, hb⟩ := parcels_link plainParcels (by simp)
  obtain ⟨c, hc⟩ := parcels_link renamedParcels (by simp)
  refine ⟨a, b, c, ha, hb, hc, ?_⟩
  rw [changes_bound ha hb, changes_bound hb hc, changes_bound ha hc]
  simp only [Model.bound, Model.resolved, Namespace.ofModel_eq_scan]
  decide +kernel

end ModelLinker
