import ModelLinker.Proofs.Renumber.Basic

/-!
# What names stand for in models that are alike

If a model repeats no name, then neither does a model like it, and every name stands for the part
with the new number (`Model.Like.names`). Without that the first declaration of a name would count,
and which one is first depends on the order.
-/

namespace ModelLinker

open Text (sameName sameName_trans sameName_comm)

/-- What every name stands for gets the new number. -/
structure Namespace.Like (ρ : Renumbering) (names names' : Namespace) : Prop where
  struct? : ∀ n, names'.struct? n = (names.struct? n).map ρ.struct
  field? : ∀ s n, names'.field? (ρ.struct s) n = (names.field? s n).map ρ.field
  enum? : ∀ n, names'.enum? n = (names.enum? n).map ρ.enum
  bitfield? : ∀ n, names'.bitfield? n = (names.bitfield? n).map ρ.bitfield
  role? : ∀ n, names'.role? n = (names.role? n).map ρ.role

section Lookup

variable {α β ι : Type} {R : α → β → Prop} {σ : Equiv.Perm ℕ} {xs : Array α} {ys : Array β}
  {name : α → String} {name' : β → String}

/-- Where no name is repeated, the first item of a name is the only one, and its number changes
with the item. -/
theorem findIdx?_permuted (h : Permuted R σ xs ys) (hname : ∀ x y, R x y → name' y = name x)
    (hunique : ∀ {i x}, xs[i]? = some x →
      xs.findIdx? (fun a => sameName (name a) (name x)) = some i) (n : String) :
    ys.findIdx? (fun b => sameName (name' b) n) =
      (xs.findIdx? fun a => sameName (name a) n).map σ := by
  have hmem : ∀ {i x}, xs[i]? = some x → sameName (name x) n = true →
      xs.findIdx? (fun a => sameName (name a) n) = some i := by
    intro i x hx hn
    simpa only [Namespace.sameName_congr hn] using hunique hx
  cases hy : ys.findIdx? fun b => sameName (name' b) n with
  | some j =>
    obtain ⟨y, hj, hn⟩ := Namespace.getElem?_of_findIdx? hy
    obtain ⟨i, x, rfl, hx, hr⟩ := h.some' hj
    rw [hname x y hr] at hn
    rw [hmem hx hn, Option.map_some]
  | none =>
    cases hx : xs.findIdx? fun a => sameName (name a) n with
    | none => rfl
    | some i =>
      obtain ⟨x, hi, hn⟩ := Namespace.getElem?_of_findIdx? hx
      obtain ⟨y, hj, hr⟩ := h.some hi
      rw [← hname x y hr] at hn
      obtain ⟨j, hj⟩ := Namespace.findIdx?_of_getElem? hj hn
      rw [hj] at hy
      cases hy

/-- The same for parts that are known by an index of their own kind. -/
theorem lookup_permuted {mk : ℕ → ι} {f : ι → ι} (hmk : Function.Injective mk)
    (hf : ∀ i, f (mk i) = mk (σ i)) (h : Permuted R σ xs ys)
    (hname : ∀ x y, R x y → name' y = name x)
    (hunique : ∀ {i x}, xs[i]? = some x →
      (xs.findIdx? fun a => sameName (name a) (name x)).map mk = some (mk i)) (n : String) :
    (ys.findIdx? fun b => sameName (name' b) n).map mk =
      ((xs.findIdx? fun a => sameName (name a) n).map mk).map f := by
  have hfirst : ∀ {i x}, xs[i]? = some x →
      xs.findIdx? (fun a => sameName (name a) (name x)) = some i := fun hx =>
    Option.map_injective hmk (hunique hx)
  rw [findIdx?_permuted h hname hfirst, Option.map_map, Option.map_map]
  congr 1
  funext i
  exact (hf i).symm

end Lookup

namespace Model.Like

variable {ρ : Renumbering} {m m' : Model}

/-- The fields of a structure keep their order, so the first one of a name stays the first one. -/
theorem names_field? (h : m.Like ρ m') (s : StructId) (n : String) :
    (Namespace.ofModel m').field? (ρ.struct s) n =
      ((Namespace.ofModel m).field? s n).map ρ.field := by
  simp only [Namespace.ofModel_eq_scan, Namespace.scan, Model.findField?, h.fieldsOf,
    List.find?_map, Option.map_map]
  rfl

theorem names (h : m.Like ρ m') (hd : m.NamesDistinct) :
    (Namespace.ofModel m).Like ρ (Namespace.ofModel m') := by
  refine ⟨?_, h.names_field?, ?_, ?_, ?_⟩
  · have hs := @hd.structs
    rw [Namespace.ofModel_eq_scan] at hs ⊢
    rw [Namespace.ofModel_eq_scan]
    exact lookup_permuted (fun _ _ => StructId.mk.inj) (fun _ => rfl) h.structs
      (fun _ _ hr => hr.name) fun {i x} hx => @hs ⟨i⟩ x hx
  · have he := @hd.enums
    rw [Namespace.ofModel_eq_scan] at he ⊢
    rw [Namespace.ofModel_eq_scan]
    exact lookup_permuted (fun _ _ => EnumId.mk.inj) (fun _ => rfl) h.enums
      (fun _ _ hr => congrArg Enumeration.name hr) he
  · have hb := @hd.bitfields
    rw [Namespace.ofModel_eq_scan] at hb ⊢
    rw [Namespace.ofModel_eq_scan]
    exact lookup_permuted (fun _ _ => BitfieldId.mk.inj) (fun _ => rfl) h.bitfields
      (fun _ _ hr => congrArg Bitfield.name hr) hb
  · have hr := @hd.roles
    rw [Namespace.ofModel_eq_scan] at hr ⊢
    rw [Namespace.ofModel_eq_scan]
    exact lookup_permuted (fun _ _ => RoleId.mk.inj) (fun _ => rfl) h.roles
      (fun _ _ hlike => hlike.name) fun {i x} hx => @hr ⟨i⟩ x hx

/-- A model like one without repeated names has none either. -/
theorem namesDistinct (h : m.Like ρ m') (hd : m.NamesDistinct) : m'.NamesDistinct := by
  have hn := h.names hd
  refine ⟨?_, ?_, ?_, ?_, ?_⟩
  · intro id s hs
    obtain ⟨i, x, hi, hx, hlike⟩ := h.structs.some' hs
    have := @hd.structs ⟨i⟩ x hx
    rw [hlike.name, hn.struct?, this, Option.map_some, Renumbering.struct, hi]
  · intro sid
    obtain ⟨sid, rfl⟩ := ρ.struct_surjective sid
    rw [h.fieldsOf, List.pairwise_map]
    exact hd.listed sid
  · intro i e he
    obtain ⟨j, x, hj, hx, rfl⟩ := h.enums.some' he
    rw [hn.enum?, hd.enums hx, Option.map_some, Renumbering.enum, hj]
  · intro i b hb
    obtain ⟨j, x, hj, hx, rfl⟩ := h.bitfields.some' hb
    rw [hn.bitfield?, hd.bitfields hx, Option.map_some, Renumbering.bitfield, hj]
  · intro id r hr
    obtain ⟨i, x, hi, hx, hlike⟩ := h.roles.some' hr
    have := @hd.roles ⟨i⟩ x hx
    rw [hlike.name, hn.role?, this, Option.map_some, Renumbering.role, hi]

end Model.Like

end ModelLinker
