import ModelLinker.Proofs.Renumber.Basic
import ModelLinker.Proofs.Source.Entered

/-!
# Parts that have just been declared

Nothing is bound in a part that comes from a declaration, so new numbers change nothing in it. Only
a field knows the structure it stands in.
-/

namespace ModelLinker.Source

variable {ρ : Renumbering} {file : String} {pos : Pos}

@[simp] theorem refAt_rename {α : Type} (f : α → α) (name : String) :
    (refAt pos name : NameRef α).rename f = refAt pos name := rfl

/-- What holds of every part that can be made holds of all that were made. -/
theorem forall_mem_made {α : Type} {P : α → Prop} {xs : List (Made α)}
    (h : ∀ x ∈ xs, ∀ a, x = .ok a → P a) : ∀ a ∈ made xs, P a := by
  intro a ha
  obtain ⟨x, hx, heq⟩ := List.mem_filterMap.1 ha
  cases x with
  | error d => cases heq
  | ok b =>
    cases heq
    exact h _ hx _ rfl

theorem map_made_eq {α : Type} {f : α → α} {xs : List (Made α)}
    (h : ∀ x ∈ xs, ∀ a, x = .ok a → f a = a) : (made xs).map f = made xs := by
  conv_rhs => rw [← List.map_id (made xs)]
  exact List.map_congr_left (forall_mem_made h)

theorem map_head?_made_eq {α : Type} {f : α → α} {xs : List (Made α)}
    (h : ∀ x ∈ xs, ∀ a, x = .ok a → f a = a) : (made xs).head?.map f = (made xs).head? := by
  rw [← List.head?_map, map_made_eq h]

/-! ### fields -/

theorem field_rename (p : StructId) (d : Decl.Field) :
    (field file (ρ.struct p) d).1 = (field file p d).1.map (Field.rename ρ) := by
  have hkey : ∀ type : FieldType,
      (made (declaredKey d type (posIn file d.place)).toList).head?.map (ForeignKey.rename ρ) =
        (made (declaredKey d type (posIn file d.place)).toList).head? := by
    intro type
    refine map_head?_made_eq fun x hx k hk => ?_
    subst hk
    obtain ⟨r, -, hr⟩ := Option.map_eq_some_iff.1 (Option.mem_toList.1 hx)
    split at hr
    · cases hr
    · unfold foreignKey at hr
      split at hr
      · cases hr
        rfl
      · cases hr
  have htype : ∀ type, fieldType d (posIn file d.place) = .ok type → type.rename ρ = type := by
    intro type h
    unfold fieldType at h
    split at h <;> cases h <;> rfl
  unfold field
  cases ht : fieldType d (posIn file d.place) with
  | error problem => simp only [ht, Option.map_none]
  | ok type => simp only [ht, Option.map_some, Field.rename, hkey, htype type ht, Option.map_none]

/-! ### operations -/

theorem path_rename {dotted : String} {p : FieldPath} (h : path dotted pos = .ok p) :
    p.rename ρ = p := by
  unfold path at h
  split at h
  · cases h
    simp [FieldPath.rename]
  · cases h

theorem distinct_rename {dotted : String} {d : Distinct} (h : distinct dotted pos = .ok d) :
    d.rename ρ = d := by
  unfold distinct at h
  split at h
  · cases h
    rfl
  · cases hp : path dotted pos with
    | error e =>
      rw [hp] at h
      cases h
    | ok p =>
      rw [hp] at h
      cases h
      have := @path_rename ρ pos dotted p hp
      simp only [Distinct.rename, Option.map_none]
      exact congrArg (Distinct.mk · pos none) (congrArg FieldPath.segments this)

/-- A part made of a path and other things that know no numbers. -/
theorem map_path_rename {α : Type} {make : FieldPath → α} {f : α → α} {dotted : String} {a : α}
    (hf : ∀ p : FieldPath, f (make p) = make (p.rename ρ))
    (h : (path dotted pos).map make = .ok a) : f a = a := by
  cases hp : path dotted pos with
  | error e =>
    rw [hp] at h
    cases h
  | ok p =>
    rw [hp] at h
    cases h
    rw [hf, path_rename hp]

theorem roleMap_rename (names : Option (List String)) :
    (roleMap names pos).map (RoleMap.rename ρ) = roleMap names pos := by
  cases names <;> simp [roleMap, RoleMap.rename]

theorem search_rename (d : Decl.Search) : (search file d).1.rename ρ = (search file d).1 := by
  simp only [search, Search.rename, roleMap_rename]
  rw [map_made_eq, map_made_eq, map_head?_made_eq, map_head?_made_eq, map_head?_made_eq]
  · intro x hx a ha
    obtain ⟨dotted, -, rfl⟩ := List.mem_map.1 hx
    exact distinct_rename ha
  · intro x hx a ha
    obtain ⟨dotted, -, rfl⟩ := List.mem_map.1 hx
    exact path_rename ha
  · intro x hx a ha
    obtain ⟨y, -, rfl⟩ := List.mem_map.1 hx
    exact map_path_rename (fun _ => rfl) ha
  · intro x hx a ha
    obtain ⟨y, -, rfl⟩ := List.mem_map.1 hx
    exact map_path_rename (fun _ => rfl) ha
  · intro x hx a ha
    obtain ⟨y, -, rfl⟩ := List.mem_map.1 hx
    exact map_path_rename (fun _ => rfl) ha

theorem update_rename (d : Decl.Update) : (update file d).rename ρ = update file d := by
  simp [update, Update.rename, roleMap_rename, modifier, condition, Modifier.rename,
    Condition.rename, Function.comp_def]

theorem delete_rename (d : Decl.Delete) : (delete file d).rename ρ = delete file d := by
  simp [delete, Update.rename, roleMap_rename, condition, Condition.rename, Function.comp_def]

theorem insert_rename (d : Decl.Insert) : (insert file d).rename ρ = insert file d := by
  simp [insert, Insert.rename, roleMap_rename]

theorem unique_rename (d : Decl.Unique) : (unique file d).rename ρ = unique file d := by
  simp [unique, Unique.rename]

/-- Structures with the same declaration, whose fields have new numbers. -/
theorem structBody_like {d : Decl.Struct} {s s' : Struct} (hs : s.body = (structBody file d).1)
    (hs' : s'.body = (structBody file d).1) (hf : s'.fields = s.fields.map ρ.field) :
    s.Like ρ s' := by
  have whole : ∀ {s : Struct}, s.body = (structBody file d).1 →
      ∃ fields, s = { (structBody file d).1 with fields } := fun {s} h =>
    ⟨s.fields, by rw [← h]; rfl⟩
  obtain ⟨fields, rfl⟩ := whole hs
  obtain ⟨fields', rfl⟩ := whole hs'
  refine ⟨rfl, hf, ?_, ?_, ?_, ?_, rfl, rfl, rfl, rfl, .nil⟩
  · simp [structBody, search_rename]
  · simp [structBody, update_rename, delete_rename, Function.comp_def]
  · cases hi : d.insert <;> simp [structBody, hi, insert_rename]
  · simp [structBody, unique_rename, Function.comp_def]

/-! ### roles -/

theorem roles_eq (outer : Option String) (ds : List Decl.Role) :
    roles file outer ds =
      (ds.flatMap fun d => (role file outer d).1, ds.flatMap fun d => (role file outer d).2) := by
  induction ds with
  | nil => simp [roles]
  | cons d rest ih => simp [roles, ih]

mutual

/-- A role that was just declared has no number in it. -/
theorem role_like (outer : Option String) :
    ∀ d : Decl.Role, ∀ r ∈ (role file outer d).1, r.Like ρ r
  | ⟨name, parent, nested, place, doc⟩ => by
    intro r hr
    simp only [role, List.mem_cons] at hr
    rcases hr with rfl | hr
    · refine ⟨rfl, rfl, ?_, rfl⟩
      cases hp : parentName outer parent <;> simp [Role.declared]
    · exact roles_like (some name) nested r hr

theorem roles_like (outer : Option String) :
    ∀ ds : List Decl.Role, ∀ r ∈ (roles file outer ds).1, r.Like ρ r
  | [] => by simp [roles]
  | d :: rest => by
    intro r hr
    simp only [roles, List.mem_append] at hr
    rcases hr with hr | hr
    · exact role_like outer d r hr
    · exact roles_like outer rest r hr

end

end ModelLinker.Source
