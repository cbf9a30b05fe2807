import ModelLinker.Proofs.Evolution.Allowed
import ModelLinker.Proofs.Evolution.Stored
import ModelLinker.Proofs.Linked

/-!
# What a comparison is silent about

A comparison that reports nothing at all has seen the same enumerations in both models, but it looks
neither at the enumeration that a field is bound to nor at bit fields. So the numbers stored for a
field keep their meaning if its type still names the same enumeration, and in general exactly if the
old model had the items under the new name as well (`valuesKept_of_silent`). A field that is bound
anew can lose them, and so can any bit field (`jobs_lost`).
-/

namespace ModelLinker

open Text (sameName sameName_comm sameName_refl sameName_trans)

namespace Model

/-- The enumeration that the type of a field is bound to. -/
def enumOf? (m : Model) (f : Field) : Option Enumeration :=
  match f.type with
  | .enum r => r.target.bind fun e => m.enums[e.index]?
  | _ => none

/-- The bit field that the type of a field is bound to. -/
def bitfieldOf? (m : Model) (f : Field) : Option Bitfield :=
  match f.type with
  | .bitfield r => r.target.bind fun b => m.bitfields[b.index]?
  | _ => none

/-- Fields of the same name in structures of the same name. -/
def Counterparts (old new : Model) (f f' : Field) : Prop :=
  ∃ id id' s s' fid fid', old.struct? id = some s ∧ new.struct? id' = some s' ∧
    sameName s.name s'.name = true ∧ (fid, f) ∈ old.fieldsOf id ∧ (fid', f') ∈ new.fieldsOf id' ∧
    sameName f.name f'.name = true

instance (old new : Model) (f f' : Field) : Decidable (old.Counterparts new f f') :=
  decidable_of_iff (∃ x ∈ old.indexedStructs, ∃ x' ∈ new.indexedStructs,
      sameName x.2.name x'.2.name = true ∧ (∃ e ∈ old.fieldsOf x.1, e.2 = f) ∧
      (∃ e' ∈ new.fieldsOf x'.1, e'.2 = f') ∧ sameName f.name f'.name = true) <| by
    constructor
    · rintro ⟨⟨id, s⟩, hs, ⟨id', s'⟩, hs', hn, ⟨⟨fid, _⟩, hf, rfl⟩, ⟨⟨fid', _⟩, hf', rfl⟩, hff⟩
      exact ⟨id, id', s, s', fid, fid', mem_indexedStructs.1 hs, mem_indexedStructs.1 hs', hn, hf,
        hf', hff⟩
    · rintro ⟨id, id', s, s', fid, fid', hs, hs', hn, hf, hf', hff⟩
      exact ⟨(id, s), mem_indexedStructs.2 hs, (id', s'), mem_indexedStructs.2 hs', hn,
        ⟨_, hf, rfl⟩, ⟨_, hf', rfl⟩, hff⟩

end Model

/-- Every item of an enumeration is an item of another one, with the same value. -/
def Enumeration.KeptIn (e e' : Enumeration) : Prop :=
  ∀ i ∈ e.items, ∃ j ∈ e'.items, sameName i.name j.name = true ∧ i.value = j.value

/-- Every bit of a bit field is a bit of another one, at the same place. -/
def Bitfield.KeptIn (b b' : Bitfield) : Prop :=
  ∀ i ∈ b.items, ∃ j ∈ b'.items, sameName i.name j.name = true ∧ i.value = j.value

instance (e e' : Enumeration) : Decidable (e.KeptIn e') :=
  inferInstanceAs (Decidable (∀ i ∈ e.items, ∃ j ∈ e'.items,
    sameName i.name j.name = true ∧ i.value = j.value))

instance (b b' : Bitfield) : Decidable (b.KeptIn b') :=
  inferInstanceAs (Decidable (∀ i ∈ b.items, ∃ j ∈ b'.items,
    sameName i.name j.name = true ∧ i.value = j.value))

theorem Enumeration.KeptIn.refl (e : Enumeration) : e.KeptIn e :=
  fun i hi => ⟨i, hi, sameName_refl _, rfl⟩

theorem Enumeration.KeptIn.trans {a b c : Enumeration} (h : a.KeptIn b) (h' : b.KeptIn c) :
    a.KeptIn c := by
  intro i hi
  obtain ⟨j, hj, hij, hvalue⟩ := h i hi
  obtain ⟨k, hk, hjk, hvalue'⟩ := h' j hj
  exact ⟨k, hk, sameName_trans hij hjk, hvalue.trans hvalue'⟩

/-- Without any change two enumerations have the same items. -/
theorem Enumeration.Evolves.keptIn {e e' : Enumeration} (h : e.Evolves (fun _ => False) e') :
    e.KeptIn e' ∧ e'.KeptIn e := by
  constructor
  · intro i hi
    obtain ⟨j, hj, hij⟩ := (h.lost i hi).resolve_right not_false
    exact ⟨j, hj, hij, (h.values i hi j hj hij).resolve_right not_false⟩
  · intro j hj
    obtain ⟨i, hi, hij⟩ := (h.added j hj).resolve_right not_false
    exact ⟨i, hi, sameName_comm i.name _ ▸ hij,
      ((h.values i hi j hj hij).resolve_right not_false).symm⟩

/-! ### bound types -/

namespace Model

variable {m : Model}

theorem exists_enumOf? (h : m.ResolveOk) {id : FieldId} {f : Field}
    (hf : m.linked.field? id = some f) (ht : f.type.name = .enum) :
    ∃ x ∈ m.linked.enums, m.linked.enumOf? f = some x := by
  cases hr : f.type with
  | enum r =>
    obtain ⟨e, x, he, hx, -⟩ := linked_enumType h hf hr
    exact ⟨x, Array.mem_of_getElem? hx, by simp [enumOf?, hr, he, hx]⟩
  | _ => simp [hr, FieldType.name] at ht

theorem exists_bitfieldOf? (h : m.ResolveOk) {id : FieldId} {f : Field}
    (hf : m.linked.field? id = some f) (ht : f.type.name = .bitfield) :
    ∃ x, m.linked.bitfieldOf? f = some x := by
  cases hr : f.type with
  | bitfield r =>
    obtain ⟨b, x, hb, hx, -⟩ := linked_bitfieldType h hf hr
    exact ⟨x, by simp [bitfieldOf?, hr, hb, hx]⟩
  | _ => simp [hr, FieldType.name] at ht

theorem enumOf?_some {f : Field} {x : Enumeration} (h : m.enumOf? f = some x) :
    f.type.name = .enum ∧ x ∈ m.enums := by
  unfold enumOf? at h
  split at h
  · rename_i hr
    obtain ⟨e, -, hx⟩ := Option.bind_eq_some_iff.1 h
    exact ⟨by rw [hr]; rfl, Array.mem_of_getElem? hx⟩
  · cases h

theorem bitfieldOf?_some {f : Field} {x : Bitfield} (h : m.bitfieldOf? f = some x) :
    f.type.name = .bitfield := by
  unfold bitfieldOf? at h
  split at h
  · rename_i hr
    rw [hr]
    rfl
  · cases h

end Model

/-- A comparison that reports nothing leaves every field with the kind of its type. The items of the
enumeration that it was bound to are kept exactly if the old model had them under the name of the
new enumeration, and so if that name is still the same. Of bit fields nothing can be said, because
the comparison is the same whatever they are. -/
theorem valuesKept_of_silent {seed seed' : Diagnostics} {m m' : Model} {old new : Linked}
    (h : linkWith seed m = .ok old) (h' : linkWith seed' m' = .ok new)
    (hsilent : changes old new = []) {f f' : Field} (hf : old.model.Counterparts new.model f f') :
    f'.type.name = f.type.name ∧
      (∀ x, old.model.enumOf? f = some x → ∃ y, new.model.enumOf? f' = some y ∧
        (∃ z ∈ old.model.enums, sameName z.name y.name = true ∧ (x.KeptIn y ↔ x.KeptIn z)) ∧
        (sameName x.name y.name = true → x.KeptIn y)) ∧
      (∀ b, old.model.bitfieldOf? f = some b → ∃ c, new.model.bitfieldOf? f' = some c) ∧
      ∀ bits bits', changes { old with model := { old.model with bitfields := bits } }
        { new with model := { new.model with bitfields := bits' } } = [] := by
  have hold := comparable_of_linkWith h
  have hresolve := (Model.stagesOk_of_linkWith h').1
  have hsame := (only_changes hold (comparable_of_linkWith h')).1
    (Diagnostics.only_false.2 hsilent)
  obtain ⟨id, id', s, s', fid, fid', hs, hs', hn, hmem, hmem', hff⟩ := hf
  have hkind : f.type.name = f'.type.name :=
    ((hsame.structs id id' s s' hs hs' hn).fields _ hmem _ hmem' hff).type.resolve_right not_false
  have hfield : m'.linked.field? fid' = some f' := by
    rw [← (Model.linked_of_linkWith h').1]
    exact Model.field?_of_mem_fieldsOf hmem'
  have hblind : ∀ bits bits', changes { old with model := { old.model with bitfields := bits } }
      { new with model := { new.model with bitfields := bits' } } = [] := fun _ _ =>
    (changes_congr rfl rfl).trans hsilent
  refine ⟨hkind.symm, fun x hx => ?_, fun b hb => ?_, hblind⟩
  · obtain ⟨hxt, hxmem⟩ := Model.enumOf?_some hx
    obtain ⟨y, hymem, hy⟩ := Model.exists_enumOf? hresolve hfield (hkind ▸ hxt)
    rw [← (Model.linked_of_linkWith h').1] at hymem hy
    -- the new enumeration has an old counterpart with the same items
    obtain ⟨z, hz, hzn⟩ := (hsame.newEnums y hymem).resolve_right not_false
    obtain ⟨hzy, hyz⟩ := (hsame.enums z hz y hymem hzn).keptIn
    refine ⟨y, hy, ⟨z, hz, hzn, fun hxy => hxy.trans hyz, fun hxz => hxz.trans hzy⟩, fun hxn => ?_⟩
    exact (hsame.enums x hxmem y hymem hxn).keptIn.1
  · obtain ⟨c, hc⟩ :=
      Model.exists_bitfieldOf? hresolve hfield (hkind ▸ Model.bitfieldOf?_some hb)
    rw [← (Model.linked_of_linkWith h').1] at hc
    exact ⟨c, hc⟩

/-- Jobs with a state and some marks. Both the enumeration that the state is bound to and the places
of the marks can be chosen; the enumerations are always the same. -/
def jobSet (file states : String) (read write : Int) : SourceSet := .ofDocuments [(file,
  { structs := [
      { name := "job", place := none, doc := none
        fields := [
          { Decl.Field.bare "id" (.plain .int) none with rowid := true },
          .bare "state" .enum (some states), .bare "marks" .bitfield (some "marks")]
        searches := [], updates := [], deletes := [], insert := none, uniques := [] }]
    enums := [
      ⟨"stage", [⟨"open", none, none, none⟩, ⟨"done", none, none, none⟩], none, none⟩,
      ⟨"phase", [⟨"done", none, none, none⟩, ⟨"open", none, none, none⟩], none, none⟩,
      ⟨"course", [⟨"open", none, none, none⟩, ⟨"done", none, none, none⟩,
        ⟨"left", none, none, none⟩], none, none⟩]
    bitfields := [⟨"marks", [⟨"read", read, none, none⟩, ⟨"write", write, none, none⟩], none, none⟩]
    roles := [] })]

/-- The jobs before, after the state is bound anew and the marks change places, and after the state
is bound to an enumeration with one item more. -/
def oldJobs : SourceSet := jobSet "old.json" "stage" 0 1

@[inherit_doc oldJobs] def swappedJobs : SourceSet := jobSet "new.json" "phase" 1 0

@[inherit_doc oldJobs] def widenedJobs : SourceSet := jobSet "new.json" "course" 0 1

theorem jobs_link : ∀ set ∈ [oldJobs, swappedJobs, widenedJobs], ∃ l, linkSources set = .ok l := by
  have hall : ∀ set ∈ [oldJobs, swappedJobs, widenedJobs], set.FaultlessBy fun _ => 0 := by
    simp only [SourceSet.FaultlessBy, Model.bindingProblems, Model.marked, Model.topology,
      Model.joined, Model.bound, Model.resolved, Namespace.ofModel_eq_scan]
    decide +kernel
  exact fun set hset => (hall set hset).links

namespace Model

/-- Joins, heights and marks change neither the names of parts nor what types are bound to. -/
theorem counterparts_linked {m m' : Model} {f f' : Field}
    (h : m.bound.Counterparts m'.bound f f') : m.linked.Counterparts m'.linked f f' := by
  have hname : Struct.Settled Struct.name :=
    ⟨fun _ _ => rfl, fun _ => rfl, fun _ _ => rfl, fun _ _ => rfl, fun _ _ => rfl⟩
  have hstruct : ∀ {m : Model} {id s}, m.bound.struct? id = some s →
      ∃ t, m.linked.struct? id = some t ∧ t.name = s.name := fun hs =>
    struct?_of_map_eq (map_linked_bound hname).symm hs
  obtain ⟨id, id', s, s', fid, fid', hs, hs', hn, hf, hf', hff⟩ := h
  obtain ⟨t, ht, hts⟩ := hstruct hs
  obtain ⟨t', ht', hts'⟩ := hstruct hs'
  rw [← (sameFields_of_bound m).listed] at hf
  rw [← (sameFields_of_bound m').listed] at hf'
  exact ⟨id, id', t, t', fid, fid', ht, ht', by rw [hts, hts', hn], hf, hf', hff⟩

theorem enumOf?_linked (m : Model) : m.linked.enumOf? = m.bound.enumOf? := by
  rw [linked, computeFlags_eq]
  rfl

theorem bitfieldOf?_linked (m : Model) : m.linked.bitfieldOf? = m.bound.bitfieldOf? := by
  rw [linked, computeFlags_eq]
  rfl

end Model

/-- What becomes of the state and of the marks, once all names are bound. -/
theorem jobs_bound :
    (∃ f ∈ oldJobs.model.bound.fields, ∃ f' ∈ swappedJobs.model.bound.fields,
      oldJobs.model.bound.Counterparts swappedJobs.model.bound f f' ∧
      ∃ x ∈ oldJobs.model.bound.enumOf? f, ∃ y ∈ swappedJobs.model.bound.enumOf? f',
        ¬ x.KeptIn y) ∧
    (∃ f ∈ oldJobs.model.bound.fields, ∃ f' ∈ swappedJobs.model.bound.fields,
      oldJobs.model.bound.Counterparts swappedJobs.model.bound f f' ∧
      ∃ b ∈ oldJobs.model.bound.bitfieldOf? f, ∃ c ∈ swappedJobs.model.bound.bitfieldOf? f',
        ¬ b.KeptIn c) ∧
    ∃ f ∈ oldJobs.model.bound.fields, ∃ f' ∈ widenedJobs.model.bound.fields,
      oldJobs.model.bound.Counterparts widenedJobs.model.bound f f' ∧
      ∃ x ∈ oldJobs.model.bound.enumOf? f, ∃ y ∈ widenedJobs.model.bound.enumOf? f',
        sameName x.name y.name = false ∧
        ∀ z ∈ oldJobs.model.bound.enums, sameName z.name y.name = true → x.KeptIn z := by
  simp only [Model.bound, Model.resolved, Namespace.ofModel_eq_scan]
  decide +kernel

theorem jobs_silent {old new : Linked} (h : linkSources oldJobs = .ok old) :
    (linkSources swappedJobs = .ok new → changes old new = []) ∧
      (linkSources widenedJobs = .ok new → changes old new = []) := by
  have hsilent : ∀ set ∈ [swappedJobs, widenedJobs],
      (changes oldJobs.model.bound.unordered set.model.bound.unordered).isEmpty = true := by
    simp only [Model.bound, Model.resolved, Namespace.ofModel_eq_scan]
    decide +kernel
  constructor
  · intro h'
    rw [changes_bound h h']
    exact List.isEmpty_iff.1 (hsilent swappedJobs (by simp))
  · intro h'
    rw [changes_bound h h']
    exact List.isEmpty_iff.1 (hsilent widenedJobs (by simp))

/-- A job that is stored as open reads as done after the state is bound anew, and a mark for reading
becomes one for writing. Nothing of it is reported. -/
theorem jobs_lost :
    ∃ old new, linkSources oldJobs = .ok old ∧ linkSources swappedJobs = .ok new ∧
      changes old new = [] ∧
      (∃ f f' x y, old.model.Counterparts new.model f f' ∧ old.model.enumOf? f = some x ∧
        new.model.enumOf? f' = some y ∧ ¬ x.KeptIn y) ∧
      ∃ f f' b c, old.model.Counterparts new.model f f' ∧ old.model.bitfieldOf? f = some b ∧
        new.model.bitfieldOf? f' = some c ∧ ¬ b.KeptIn c := by
  obtain ⟨old, hold⟩ := jobs_link oldJobs (by simp)
  obtain ⟨new, hnew⟩ := jobs_link swappedJobs (by simp)
  obtain ⟨⟨f, -, f', -, hff, x, hx, y, hy, hstates⟩, ⟨g, -, g', -, hgg, b, hb, c, hc, hmarks⟩, -⟩ :=
    jobs_bound
  refine ⟨old, new, hold, hnew, (jobs_silent hold).1 hnew, ⟨f, f', x, y, ?_⟩, g, g', b, c, ?_⟩
  · rw [(Model.linked_of_linkWith hold).1, (Model.linked_of_linkWith hnew).1,
      Model.enumOf?_linked, Model.enumOf?_linked]
    exact ⟨Model.counterparts_linked hff, hx, hy, hstates⟩
  · rw [(Model.linked_of_linkWith hold).1, (Model.linked_of_linkWith hnew).1,
      Model.bitfieldOf?_linked, Model.bitfieldOf?_linked]
    exact ⟨Model.counterparts_linked hgg, hb, hc, hmarks⟩

/-- A state that is bound to the wider enumeration keeps its meaning, though its name is another. -/
theorem valuesKept_of_widenedJobs :
    ∃ old new, linkSources oldJobs = .ok old ∧ linkSources widenedJobs = .ok new ∧
      ∃ f f' x y, old.model.Counterparts new.model f f' ∧ old.model.enumOf? f = some x ∧
        new.model.enumOf? f' = some y ∧ sameName x.name y.name = false ∧ x.KeptIn y := by
  obtain ⟨old, hold⟩ := jobs_link oldJobs (by simp)
  obtain ⟨new, hnew⟩ := jobs_link widenedJobs (by simp)
  obtain ⟨-, -, f, -, f', -, hff, x, hx, y, hy, hn, hz⟩ := jobs_bound
  have hff : old.model.Counterparts new.model f f' := by
    rw [(Model.linked_of_linkWith hold).1, (Model.linked_of_linkWith hnew).1]
    exact Model.counterparts_linked hff
  have hx : old.model.enumOf? f = some x := by
    rw [(Model.linked_of_linkWith hold).1, Model.enumOf?_linked]
    exact hx
  have hy : new.model.enumOf? f' = some y := by
    rw [(Model.linked_of_linkWith hnew).1, Model.enumOf?_linked]
    exact hy
  have henums : old.model.enums = oldJobs.model.bound.enums := by
    rw [(Model.linked_of_linkWith hold).1, Model.linked, computeFlags_eq]
    rfl
  obtain ⟨-, henum, -⟩ := valuesKept_of_silent hold hnew ((jobs_silent hold).2 hnew) hff
  obtain ⟨y', hy', ⟨z, hzmem, hzn, hiff⟩, -⟩ := henum x hx
  obtain rfl : y = y' := Option.some.inj (hy.symm.trans hy')
  exact ⟨old, new, hold, hnew, f, f', x, y, hff, hx, hy, hn, hiff.2 (hz z (henums ▸ hzmem) hzn)⟩

end ModelLinker
