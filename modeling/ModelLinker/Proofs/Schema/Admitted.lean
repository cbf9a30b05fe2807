import ModelLinker.Schema.Check

/-!
# What a schema admits

A schema admits a document if the check finds no violation. Where the document stands has no part in
this (`checkTarget_eq_nil`), so what is admitted can be said of the document alone: a list of items
that are admitted, an object of members that are listed and admitted with none of the required ones
missing. The schema also says which property the members within a document are values of
(`Target.Holds`).
-/

namespace ModelLinker.Schema

/-- A document meets a requirement. -/
def Target.Admits (t : Target) (j : Json) : Prop := checkTarget [] t j = []

/-- A document may stand in a place. -/
def Place.Admits (p : Place) (j : Json) : Prop :=
  p.isNullable = true ∧ j = .null ∨ p.target.Admits j

theorem atPath_eq_nil {path : List String} {faults : List Fault} :
    atPath path faults = [] ↔ faults = [] := List.map_eq_nil_iff

theorem orNull_eq_nil {nullable : Bool} {path : List String} {j : Json} {inner : List Violation} :
    orNull nullable path j inner = [] ↔ nullable = true ∧ j = .null ∨ inner = [] := by
  unfold orNull
  cases nullable with
  | false => simp
  | true => cases j <;> cases inner <;> simp

/-! ### the path has no part in it -/

mutual

theorem checkTarget_path (path path' : List String) (t : Target) :
    ∀ j : Json, checkTarget path t j = [] → checkTarget path' t j = []
  | .arr items => by
    intro h
    unfold checkTarget at h ⊢
    split at h
    · exact checkItems_path path path' _ 0 items h
    · exact atPath_eq_nil.2 (atPath_eq_nil.1 h)
  | .obj members => by
    intro h
    unfold checkTarget at h ⊢
    split at h
    · rw [List.append_eq_nil_iff] at h ⊢
      exact ⟨checkMembers_path path path' _ members h.1, atPath_eq_nil.2 (atPath_eq_nil.1 h.2)⟩
    · exact atPath_eq_nil.2 (atPath_eq_nil.1 h)
  | .null | .bool _ | .int _ | .real _ | .str _ => by
    intro h
    unfold checkTarget at h ⊢
    exact atPath_eq_nil.2 (atPath_eq_nil.1 h)

theorem checkItems_path (path path' : List String) (item : Place) (index : Nat) :
    ∀ items : List Json, checkItems path item index items = [] →
      checkItems path' item index items = []
  | [] => by simp [checkItems]
  | x :: xs => by
    intro h
    rw [checkItems, List.append_eq_nil_iff, orNull_eq_nil] at h ⊢
    exact ⟨h.1.imp_right (checkTarget_path _ _ item.target x),
      checkItems_path path path' item _ xs h.2⟩

theorem checkMembers_path (path path' : List String) (properties : List Property) :
    ∀ members : List (String × Json), checkMembers path properties members = [] →
      checkMembers path' properties members = []
  | [] => by simp [checkMembers]
  | (name, x) :: rest => by
    intro h
    rw [checkMembers, List.append_eq_nil_iff] at h ⊢
    refine ⟨?_, checkMembers_path path path' properties rest h.2⟩
    have hfirst := h.1
    split at hfirst
    · rw [orNull_eq_nil] at hfirst ⊢
      exact hfirst.imp_right (checkTarget_path _ _ _ x)
    · rfl

end

/-- A value is found in order wherever it stands. -/
theorem checkTarget_eq_nil {path : List String} {t : Target} {j : Json} :
    checkTarget path t j = [] ↔ t.Admits j :=
  ⟨checkTarget_path path [] t j, checkTarget_path [] path t j⟩

/-! ### what is admitted -/

section Admits

variable {j : Json} {required : List String} {properties : List Property}

theorem admits_scalar {s : Scalar} : Target.Admits (.body (.scalar s)) j ↔ s.check j = [] := by
  unfold Target.Admits
  cases j <;> exact atPath_eq_nil

theorem admits_choice {c : Combination} {alternatives : List (Option String × Scalar)} :
    Target.Admits (.body (.choice c alternatives)) j ↔ checkChoice c alternatives j = [] := by
  unfold Target.Admits
  cases j <;> exact atPath_eq_nil

theorem checkKind_eq_nil {kinds : List Kind} :
    checkKind kinds j = [] ↔ kinds.any (·.holds j) = true := by
  unfold checkKind
  split <;> simp_all

/-- A list is admitted with all of its items. -/
theorem admits_list {kinds : List Kind} {item : Place} {items : List Json} :
    Target.Admits (.list kinds item) (.arr items) ↔ ∀ x ∈ items, item.Admits x := by
  unfold Target.Admits checkTarget
  simp only
  have key : ∀ index, checkItems [] item index items = [] ↔ ∀ x ∈ items, item.Admits x := by
    induction items with
    | nil => simp [checkItems]
    | cons x xs ih =>
      intro index
      rw [checkItems, List.append_eq_nil_iff, orNull_eq_nil, checkTarget_eq_nil, ih,
        List.forall_mem_cons]
      rfl
  exact key 0

/-- Where a list is required, another value is admitted by its kind. -/
theorem exists_items_of_admits {kinds : List Kind} {item : Place}
    (h : Target.Admits (.list kinds item) j) :
    (∃ items, j = .arr items) ∨ kinds.any (·.holds j) = true := by
  unfold Target.Admits at h
  cases j with
  | arr items => exact .inl ⟨items, rfl⟩
  | _ => exact .inr (checkKind_eq_nil.1 (atPath_eq_nil.1 h))

theorem checkMembers_eq_nil {path : List String} {members : List (String × Json)} :
    checkMembers path properties members = [] ↔
      ∀ m ∈ members, ∀ p, properties.find? (·.name == m.1) = some p → p.place.Admits m.2 := by
  induction members with
  | nil => simp [checkMembers]
  | cons m rest ih =>
    rw [checkMembers, List.append_eq_nil_iff, ih, List.forall_mem_cons]
    refine and_congr_left fun _ => ?_
    cases properties.find? (·.name == m.1) with
    | none => simp
    | some p => simp [orNull_eq_nil, checkTarget_eq_nil, Place.Admits]

theorem checkNames_eq_nil {members : List (String × Json)} :
    checkNames required properties members = [] ↔
      (∀ m ∈ members, ∃ p ∈ properties, p.name = m.1) ∧
        ∀ n ∈ required, ∃ m ∈ members, m.1 = n := by
  have hknown : unexpectedNames properties members = [] ↔
      ∀ m ∈ members, ∃ p ∈ properties, p.name = m.1 := by
    simp [unexpectedNames, List.filter_eq_nil_iff]
  rw [← hknown, checkNames]
  cases unexpectedNames properties members <;>
    simp [List.filter_eq_nil_iff]

/-- An object is admitted if its members are listed and admitted, and no required one is missing. -/
theorem admits_object {members : List (String × Json)} :
    Target.Admits (.body (.object required properties)) (.obj members) ↔
      (∀ m ∈ members, ∃ p, properties.find? (·.name == m.1) = some p ∧ p.place.Admits m.2) ∧
        ∀ n ∈ required, ∃ m ∈ members, m.1 = n := by
  have hfound : ∀ name, (∃ p, properties.find? (·.name == name) = some p) ↔
      ∃ p ∈ properties, p.name = name := by
    intro name
    simp [← Option.isSome_iff_exists]
  unfold Target.Admits checkTarget
  rw [List.append_eq_nil_iff, atPath_eq_nil, checkMembers_eq_nil, checkNames_eq_nil, ← and_assoc]
  refine and_congr_left fun _ => ⟨fun h m hm => ?_, fun h => ⟨fun m hm p hp => ?_, fun m hm => ?_⟩⟩
  · obtain ⟨p, hp⟩ := (hfound m.1).2 (h.2 m hm)
    exact ⟨p, hp, h.1 m hm p hp⟩
  · obtain ⟨q, hq, hadmits⟩ := h m hm
    rw [hp, Option.some.injEq] at hq
    exact hq ▸ hadmits
  · obtain ⟨p, hp, -⟩ := h m hm
    exact (hfound m.1).1 ⟨p, hp⟩

/-- Where an object is required, nothing else is admitted. -/
theorem exists_members_of_admits (h : Target.Admits (.body (.object required properties)) j) :
    ∃ members, j = .obj members := by
  unfold Target.Admits at h
  cases j with
  | obj members => exact ⟨members, rfl⟩
  | _ => cases checkKind_eq_nil.1 (atPath_eq_nil.1 h)

end Admits

/-! ### values of properties -/

/-- A document that a requirement is for has, at any depth, the value of a property. -/
inductive Target.Holds (q : Property) (x : Json) : Target → Json → Prop where
  | here {required : List String} {properties : List Property} {members : List (String × Json)}
      {name : String} : (name, x) ∈ members → properties.find? (·.name == name) = some q →
      Holds q x (.body (.object required properties)) (.obj members)
  | within {required : List String} {properties : List Property} {members : List (String × Json)}
      {name : String} {y : Json} {p : Property} : (name, y) ∈ members →
      properties.find? (·.name == name) = some p → Holds q x p.place.target y →
      Holds q x (.body (.object required properties)) (.obj members)
  | item {kinds : List Kind} {place : Place} {items : List Json} {y : Json} : y ∈ items →
      Holds q x place.target y → Holds q x (.list kinds place) (.arr items)

section Holds

variable {q : Property} {x : Json}

theorem holds_object {required : List String} {properties : List Property}
    {members : List (String × Json)} :
    (Target.body (.object required properties)).Holds q x (.obj members) ↔
      ∃ m ∈ members, ∃ p, properties.find? (·.name == m.1) = some p ∧
        (q = p ∧ x = m.2 ∨ p.place.target.Holds q x m.2) := by
  constructor
  · intro h
    cases h with
    | here hm hp => exact ⟨_, hm, _, hp, .inl ⟨rfl, rfl⟩⟩
    | within hm hp hy => exact ⟨_, hm, _, hp, .inr hy⟩
  · rintro ⟨m, hm, p, hp, ⟨rfl, rfl⟩ | hy⟩
    · exact .here hm hp
    · exact .within hm hp hy

theorem holds_list {kinds : List Kind} {place : Place} {items : List Json} :
    (Target.list kinds place).Holds q x (.arr items) ↔ ∃ y ∈ items, place.target.Holds q x y := by
  constructor
  · rintro (_ | _ | ⟨hy, hx⟩)
    exact ⟨_, hy, hx⟩
  · rintro ⟨y, hy, hx⟩
    exact .item hy hx

/-- There are no members within a simple value. -/
theorem not_holds_scalar {s : Scalar} {j : Json} : ¬ (Target.body (.scalar s)).Holds q x j := by
  rintro ⟨⟩

end Holds

end ModelLinker.Schema
