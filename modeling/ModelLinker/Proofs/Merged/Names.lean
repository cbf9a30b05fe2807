import ModelLinker.Proofs.Merged.Basic
import ModelLinker.Proofs.Roles.Tree

/-!
# What names stand for in a greater model

Where the greater model repeats no name, every name that stands for a part of the smaller one stands
for the same part in the greater one (`Model.Within.names`). A name that stands for nothing in the
smaller model can stand for something else in the greater one.

A model that is made up of others repeats no name if none of these does and their names are apart
(`Merges.namesDistinct`).
-/

namespace ModelLinker

open Text (sameName)

/-- What a name stands for, it stands for under a new number as well. -/
structure Namespace.Within (ρ : Renumbering) (names names' : Namespace) : Prop where
  struct? : ∀ {n id}, names.struct? n = some id → names'.struct? n = some (ρ.struct id)
  field? : ∀ {s n id}, names.field? s n = some id →
    names'.field? (ρ.struct s) n = some (ρ.field id)
  enum? : ∀ {n id}, names.enum? n = some id → names'.enum? n = some (ρ.enum id)
  bitfield? : ∀ {n id}, names.bitfield? n = some id → names'.bitfield? n = some (ρ.bitfield id)
  role? : ∀ {n id}, names.role? n = some id → names'.role? n = some (ρ.role id)

theorem Model.Within.names {ρ : Renumbering} {m w : Model} (h : m.Within ρ w)
    (hd : w.NamesDistinct) : (Namespace.ofModel m).Within ρ (Namespace.ofModel w) := by
  refine ⟨?_, ?_, ?_, ?_, ?_⟩
  · intro n id hn
    obtain ⟨s, hs, hname⟩ := Namespace.struct?_some hn
    obtain ⟨s', hs', hlike⟩ := h.struct? hs
    have heq : s'.name = s.name := hlike.name
    rw [← Namespace.struct?_congr hname, ← heq]
    exact hd.structs hs'
  · intro s n id hn
    obtain ⟨f, hf, hname⟩ := Namespace.field?_some hn
    obtain ⟨_, hs, -⟩ := mem_fieldsOf.1 hf
    have hmem : (ρ.field id, f.rename ρ) ∈ w.fieldsOf (ρ.struct s) := by
      rw [h.fieldsOf (mem_structIds.2 (struct?_eq_some.1 hs).1)]
      exact List.mem_map_of_mem hf
    have hid := hd.fields hmem
    rw [Field.rename_name] at hid
    rw [← Namespace.field?_congr hname, hid]
  · intro n id hn
    obtain ⟨e, he, hname⟩ := Namespace.enum?_some hn
    obtain ⟨_, he', rfl⟩ := h.enums he
    rw [← Namespace.enum?_congr hname]
    exact hd.enums he'
  · intro n id hn
    obtain ⟨b, hb, hname⟩ := Namespace.bitfield?_some hn
    obtain ⟨_, hb', rfl⟩ := h.bitfields hb
    rw [← Namespace.bitfield?_congr hname]
    exact hd.bitfields hb'
  · intro n id hn
    obtain ⟨r, hr, hname⟩ := Namespace.role?_some hn
    obtain ⟨r', hr', hlike⟩ := h.role? hr
    rw [← Namespace.role?_congr hname, ← hlike.name]
    exact hd.roles hr'

/-! ### names of different models -/

/-- No declaration of the first model has the name of one of its kind in the second model. The names
of reserved roles are in both. -/
structure Model.NamesApart (m m' : Model) : Prop where
  structs : ∀ s ∈ m.structs, ∀ s' ∈ m'.structs, sameName s.name s'.name = false
  enums : ∀ e ∈ m.enums, ∀ e' ∈ m'.enums, sameName e.name e'.name = false
  bitfields : ∀ b ∈ m.bitfields, ∀ b' ∈ m'.bitfields, sameName b.name b'.name = false
  roles : ∀ r ∈ m.roles, ∀ r' ∈ m'.roles, r.kind = .named → r'.kind = .named →
    sameName r.name r'.name = false

theorem Model.NamesApart.symm {m m' : Model} (h : m.NamesApart m') : m'.NamesApart m where
  structs s hs s' hs' := by rw [Text.sameName_comm, h.structs s' hs' s hs]
  enums e he e' he' := by rw [Text.sameName_comm, h.enums e' he' e he]
  bitfields b hb b' hb' := by rw [Text.sameName_comm, h.bitfields b' hb' b hb]
  roles r hr r' hr' hk hk' := by rw [Text.sameName_comm, h.roles r' hr' r hr hk' hk]

section Unique

variable {ι α β : Type} {σ : ι → Equiv.Perm ℕ} {xs : ι → Array α} {ys : Array β}
  {R : ι → α → β → Prop} {f : α → String} {g : β → String}

/-- If items of the same name always come to the same number, then no name is repeated. -/
theorem Covers.unique (hc : Covers σ (fun i => (xs i).size) ys.size)
    (h : ∀ i, Within (R i) (σ i) (xs i) ys) (hname : ∀ i x y, R i x y → g y = f x)
    (hsame : ∀ i j (k l : ℕ) x y, (xs i)[k]? = .some x → (xs j)[l]? = .some y →
      sameName (f x) (f y) = true → σ i k = σ j l)
    {k l : ℕ} {x y : β} (hx : ys[k]? = .some x) (hy : ys[l]? = .some y)
    (hn : sameName (g x) (g y) = true) : k = l := by
  obtain ⟨i, k, a, rfl, ha, hr⟩ := hc.some h hx
  obtain ⟨j, l, b, rfl, hb, hr'⟩ := hc.some h hy
  rw [hname i a x hr, hname j b y hr'] at hn
  exact hsame i j k l a b ha hb hn

/-- The same, if no part repeats a name and different parts have no name in common. -/
theorem Covers.unique_of_apart (hc : Covers σ (fun i => (xs i).size) ys.size)
    (h : ∀ i, Within (R i) (σ i) (xs i) ys) (hname : ∀ i x y, R i x y → g y = f x)
    (hsame : ∀ i (k l : ℕ) x y, (xs i)[k]? = .some x → (xs i)[l]? = .some y →
      sameName (f x) (f y) = true → k = l)
    (hapart : ∀ i j, i ≠ j → ∀ x ∈ xs i, ∀ y ∈ xs j, sameName (f x) (f y) = false)
    {k l : ℕ} {x y : β} (hx : ys[k]? = .some x) (hy : ys[l]? = .some y)
    (hn : sameName (g x) (g y) = true) : k = l := by
  refine hc.unique h hname ?_ hx hy hn
  intro i j k l a b ha hb hn
  by_cases hij : i = j
  · subst hij
    rw [hsame i k l a b ha hb hn]
  · rw [hapart i j hij a (Array.mem_of_getElem? ha) b (Array.mem_of_getElem? hb)] at hn
    cases hn

end Unique

/-- A role that is reserved is so in every model, and keeps its number. -/
theorem Model.ReservedRoles.reserved {m m' : Model} (h : m.ReservedRoles) (h' : m'.ReservedRoles)
    {id : RoleId} {r : Role} (hr : m.role? id = some r) (hkind : r.kind ≠ .named) :
    (∃ r', m'.role? id = some r') ∧ ∀ ρ : Renumbering, ρ.role id = id := by
  obtain ⟨a, ha, -⟩ := h'.all
  obtain ⟨b, hb, -⟩ := h'.none
  obtain ⟨c, hc, -⟩ := h'.default
  rcases h.named hr with hnamed | rfl | rfl | rfl
  · exact absurd hnamed hkind
  · exact ⟨⟨a, ha⟩, fun ρ => ρ.role_all⟩
  · exact ⟨⟨b, hb⟩, fun ρ => ρ.role_none⟩
  · exact ⟨⟨c, hc⟩, fun ρ => ρ.role_default⟩

namespace Model.Merges

variable {ι : Type} {ρ : ι → Renumbering} {m : ι → Model} {w : Model}

section

variable (h : Merges ρ m w) (hd : ∀ i, (m i).NamesDistinct)

include h hd

/-- No structure of the whole lists two fields of one name, as it is one of a part. -/
theorem listed (sid : StructId) :
    (w.fieldsOf sid).Pairwise fun e e' => sameName e.2.name e'.2.name = false := by
  by_cases hs : sid ∈ w.structIds
  · obtain ⟨i, sid, hsid, rfl⟩ := h.mem_structIds hs
    rw [(h.within i).fieldsOf hsid, List.pairwise_map]
    exact (hd i).listed sid
  · rw [fieldsOf_of_not_mem hs]
    exact .nil

/-- All parts have the same reserved roles, so a role of the name of one of these is this one. -/
theorem eq_of_reserved (hr : ∀ i, (m i).ReservedRoles) {i j : ι} {id id' : RoleId} {r r' : Role}
    (hid : (m i).role? id = some r) (hid' : (m j).role? id' = some r')
    (hn : sameName r.name r'.name = true) (hkind : r'.kind ≠ .named) :
    (ρ i).role id = (ρ j).role id' := by
  obtain ⟨⟨a, ha⟩, hkeep⟩ := (hr j).reserved (hr i) hid' hkind
  -- both parts have this role, and it comes to the same one of the whole
  obtain ⟨b, hb, hlike⟩ := (h.within i).role? ha
  obtain ⟨b', hb', hlike'⟩ := (h.within j).role? hid'
  rw [hkeep (ρ i)] at hb
  rw [hkeep (ρ j), hb, Option.some.injEq] at hb'
  rw [← hlike'.name, ← hb', hlike.name] at hn
  rw [(hd i).role_unique hid ha hn, hkeep, hkeep]

theorem unique_role (hr : ∀ i, (m i).ReservedRoles)
    (hapart : ∀ i j, i ≠ j → (m i).NamesApart (m j)) {id id' : RoleId} {r r' : Role}
    (hid : w.role? id = some r) (hid' : w.role? id' = some r')
    (hn : sameName r.name r'.name = true) : id = id' := by
  refine congrArg RoleId.mk (h.roles.unique (fun i => (h.within i).roles)
    (fun _ _ _ hlike => hlike.name) ?_ hid hid' hn)
  intro i j k l q q' hq hq' hn
  replace hq : (m i).role? ⟨k⟩ = some q := hq
  replace hq' : (m j).role? ⟨l⟩ = some q' := hq'
  by_cases hij : i = j
  · subst hij
    rw [RoleId.mk.inj ((hd i).role_unique hq hq' hn)]
  by_cases hnamed' : q'.kind = .named
  · by_cases hnamed : q.kind = .named
    · rw [(hapart i j hij).roles q (Array.mem_of_getElem? hq) q' (Array.mem_of_getElem? hq') hnamed
        hnamed'] at hn
      cases hn
    · rw [Text.sameName_comm] at hn
      exact (RoleId.mk.inj (h.eq_of_reserved hd hr hq' hq hn hnamed)).symm
  · exact RoleId.mk.inj (h.eq_of_reserved hd hr hq hq' hn hnamed')

/-- If the names of the parts are distinct and apart, then those of the whole are distinct. -/
theorem namesDistinct (hr : ∀ i, (m i).ReservedRoles)
    (hapart : ∀ i j, i ≠ j → (m i).NamesApart (m j)) : w.NamesDistinct := by
  refine ⟨?_, h.listed hd, ?_, ?_, ?_⟩
  · intro id s hs
    obtain ⟨first, x, hfirst, -⟩ := Namespace.struct?_name hs
    obtain ⟨x, hx, hn⟩ := Namespace.struct?_some hfirst
    have hid := h.structs.unique_of_apart (fun i => (h.within i).structs)
      (fun _ _ _ hlike => hlike.name)
      (fun i k l a b ha hb hn => congrArg StructId.index
        ((hd i).struct_unique (show (m i).struct? ⟨k⟩ = some a from ha) hb hn))
      (fun i j hij => (hapart i j hij).structs) hx hs hn
    exact hfirst.trans (congrArg (fun k => some (StructId.mk k)) hid)
  · intro i e he
    obtain ⟨first, x, hfirst, -⟩ := Namespace.enum?_name he
    obtain ⟨x, hx, hn⟩ := Namespace.enum?_some hfirst
    have hid := h.enums.unique_of_apart (fun i => (h.within i).enums)
      (fun _ _ _ hr => congrArg Enumeration.name hr)
      (fun i k l a b ha hb hn => (hd i).enum_index_unique ha hb hn)
      (fun i j hij => (hapart i j hij).enums) hx he hn
    exact hfirst.trans (congrArg (fun k => some (EnumId.mk k)) hid)
  · intro i b hb
    obtain ⟨first, x, hfirst, -⟩ := Namespace.bitfield?_name hb
    obtain ⟨x, hx, hn⟩ := Namespace.bitfield?_some hfirst
    have hid := h.bitfields.unique_of_apart (fun i => (h.within i).bitfields)
      (fun _ _ _ hr => congrArg Bitfield.name hr)
      (fun i k l a b ha hb hn => (hd i).bitfield_index_unique ha hb hn)
      (fun i j hij => (hapart i j hij).bitfields) hx hb hn
    exact hfirst.trans (congrArg (fun k => some (BitfieldId.mk k)) hid)
  · intro id r hid
    obtain ⟨first, x, hfirst, -⟩ := Namespace.role?_name hid
    obtain ⟨x, hx, hn⟩ := Namespace.role?_some hfirst
    rw [hfirst, h.unique_role hd hr hapart hx hid hn]

end

end Model.Merges

end ModelLinker
