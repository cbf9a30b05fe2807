import ModelLinker.Proofs.Decl.Layouts

/-!
# Schema, reader and writer of roles and documents

Roles are nested in roles to any depth. The reader keeps count of the depth, and yet a role is read
by its form with the roles nested in it read in the same way (`readRole_eq`). So the descriptions of
a role agree if those of the nested ones do, and by induction on the role and on its document they
agree always (`agree_role`). With the roles they agree for whole documents (`agree_document`).
-/

namespace ModelLinker.Decl

open List (Forall₂)
open Schema

/-! ### forms alike on the parts of a document -/

/-- Two members are read alike from all documents of less depth. -/
structure Member.SameBelow {α : Type} (n : Nat) (m m' : Member α) : Prop where
  name : m.name = m'.name
  required : m.required = m'.required
  read : ∀ x, x.depth < n → m.read x = m'.read x

section Alike

variable {α : Type} {n : Nat} {ms ms' : List (Member α)}

theorem find_sameBelow (h : Forall₂ (Member.SameBelow n) ms ms') (p : String → Bool → Bool) :
    Option.Rel (Member.SameBelow n) (ms.find? fun m => p m.name m.required)
      (ms'.find? fun m => p m.name m.required) := by
  induction h with
  | nil => exact .none
  | @cons m m' _ _ hm _ ih =>
    rw [List.find?_cons, List.find?_cons, ← hm.name, ← hm.required]
    split
    · exact .some hm
    · exact ih

theorem map_sameBelow {β : Type} (h : Forall₂ (Member.SameBelow n) ms ms') (g : String → Bool → β) :
    ms.map (fun m => g m.name m.required) = ms'.map fun m => g m.name m.required := by
  induction h with
  | nil => rfl
  | cons hm _ ih => rw [List.map_cons, List.map_cons, hm.name, hm.required, ih]

theorem foldlM_zip_sameBelow (h : Forall₂ (Member.SameBelow n) ms ms') {items : List Json}
    (hitems : ∀ x ∈ items, x.depth < n) (a : α) :
    (ms.zip items).foldlM (fun a (m, j) => (m.read j).map fun g : α → α => g a) a =
      (ms'.zip items).foldlM (fun a (m, j) => (m.read j).map fun g : α → α => g a) a := by
  induction h generalizing items a with
  | nil => rfl
  | cons hm _ ih =>
    cases items with
    | nil => rfl
    | cons x items =>
      obtain ⟨hx, hitems⟩ := List.forall_mem_cons.1 hitems
      simp only [List.zip_cons_cons, List.foldlM_cons, hm.read x hx, ih hitems]

variable {f f' : Form α}

theorem Form.enter_congr (h : Forall₂ (Member.SameBelow n) f.members f'.members) (a : α)
    {entry : String × Json} (hentry : entry.2.depth < n) : f.enter a entry = f'.enter a entry := by
  have hnames := map_sameBelow h fun name _ => name
  have hfind := find_sameBelow h fun name _ => name == entry.1
  rw [Form.enter, Form.enter, hnames]
  generalize f.members.find? (·.name == entry.1) = o at hfind ⊢
  generalize f'.members.find? (·.name == entry.1) = o' at hfind ⊢
  cases hfind with
  | none => rfl
  | some hm => simp only [hm.read _ hentry]

theorem foldlM_enter_congr (h : Forall₂ (Member.SameBelow n) f.members f'.members)
    {members : List (String × Json)} (hmembers : ∀ m ∈ members, m.2.depth < n) (a : α) :
    members.foldlM f.enter a = members.foldlM f'.enter a := by
  induction members generalizing a with
  | nil => rfl
  | cons m rest ih =>
    obtain ⟨hm, hrest⟩ := List.forall_mem_cons.1 hmembers
    simp only [List.foldlM_cons, Form.enter_congr h a hm, ih hrest]

/-- Forms with members alike read alike what has less depth. -/
theorem Form.read_congr {j : Json} (hkind : f.kind = f'.kind) (hblank : f.blank = f'.blank)
    (h : Forall₂ (Member.SameBelow j.depth) f.members f'.members) : f.read j = f'.read j := by
  cases j with
  | obj members =>
    have hfold := foldlM_enter_congr h
      (fun m hm => Json.depth_lt_of_mem_members (show (m.1, m.2) ∈ members from hm)) f.blank
    have hfind := find_sameBelow h fun name required =>
      required && !members.any (·.1 == name)
    rw [Form.read, Form.read, Form.readObject, Form.readObject, ← hblank, hfold]
    refine bind_congr fun a => ?_
    generalize (f.members.find? fun m => m.required && !members.any (·.1 == m.name)) = o at hfind ⊢
    generalize (f'.members.find? fun m => m.required && !members.any (·.1 == m.name)) = o'
      at hfind ⊢
    cases hfind with
    | none => rfl
    | some hm => simp only [hm.name]
  | arr items =>
    have hfold := foldlM_zip_sameBelow h (fun x hx => Json.depth_lt_of_mem_items hx) f.blank
    have hrequired := map_sameBelow h fun _ required => required
    have hindex : ∀ f : Form α, (f.members.drop items.length).findIdx? (·.required) =
        ((f.members.map (·.required)).drop items.length).findIdx? id := by
      intro f
      rw [← List.map_drop, List.findIdx?_map]
      rfl
    rw [Form.read, Form.read, Form.readItems, Form.readItems, ← hblank, hfold, hindex f, hindex f',
      hrequired, hkind, h.length_eq]
  | _ => rw [Form.read, Form.read, hkind] <;> simp

end Alike

/-! ### reading roles -/

section Roles

variable {nested nested' : Reading Role}

theorem readList_congr {α : Type} {read read' : Reading α} {j : Json}
    (h : ∀ x, x.depth < j.depth → read x = read' x) : readList read j = readList read' j := by
  cases j with
  | arr items =>
    exact mapM_congr fun x hx => h x (Json.depth_lt_of_mem_items hx)
  | _ => rfl

/-- Roles are read alike if the nested ones are. -/
theorem roleForm_congr {j : Json} (h : ∀ x, x.depth < j.depth → nested x = nested' x) :
    (roleForm nested).read j = (roleForm nested').read j := by
  have hsame : ∀ m : Member Role, m.SameBelow j.depth m := fun m => ⟨rfl, rfl, fun _ _ => rfl⟩
  refine Form.read_congr rfl rfl (.cons (hsame _) (.cons (hsame _) (.cons ?_ (.cons (hsame _)
    (.cons (hsame _) .nil)))))
  refine ⟨rfl, rfl, fun x hx => ?_⟩
  have hlist := @readList_congr Role nested nested' x fun y hy => h y (Nat.lt_trans hy hx)
  simp only [defaulted, hlist]

/-- A role without parts has no depth to run out of. -/
theorem readRoleWithin_leaf {j : Json} (hj : j.depth = 0) (n : Nat) :
    readRoleWithin n j = wrongType j (.object "RoleDecl") := by
  cases n with
  | zero => rfl
  | succ n =>
    cases j with
    | arr items => simp [Json.depth] at hj
    | obj members => simp [Json.depth] at hj
    | _ => rfl

/-- Room for more depth than there is changes nothing. -/
theorem readRoleWithin_eq (n m : Nat) {j : Json} (hn : j.depth ≤ n) (hm : j.depth ≤ m) :
    readRoleWithin n j = readRoleWithin m j := by
  induction n generalizing m j with
  | zero =>
    have hj : j.depth = 0 := Nat.le_zero.1 hn
    rw [readRoleWithin_leaf hj, readRoleWithin_leaf hj]
  | succ n ih =>
    cases m with
    | zero =>
      have hj : j.depth = 0 := Nat.le_zero.1 hm
      rw [readRoleWithin_leaf hj, readRoleWithin_leaf hj]
    | succ m =>
      exact roleForm_congr fun x hx => ih m (by omega) (by omega)

/-- A role is read by its form, with the roles in it read in the same way. -/
theorem readRole_eq : readRole = (roleForm readRole).read := by
  funext j
  calc readRole j = readRoleWithin (j.depth + 1) j := readRoleWithin_eq _ _ (by omega) (by omega)
    _ = (roleForm readRole).read j := roleForm_congr fun x hx =>
        readRoleWithin_eq _ _ (by omega) (by omega)

end Roles

/-! ### agreement -/

theorem rolesJson_eq (rs : List Role) : rolesJson rs = rs.map Role.toJson := by
  induction rs with
  | nil => rfl
  | cons r rs ih => rw [rolesJson, ih, List.map_cons]

theorem layout_role (nested : Reading Role) :
    Layout (roleForm nested) (roleSlots nested) Role.toJson Name.role.definition.body where
  members := rfl
  written a := by
    cases a
    simp [Role.toJson, rolesJson_eq, Json.list, roleSlots, Slot.written]
  described := ⟨_, _, rfl, .refl _, rfl, by simp [roleSlots]⟩
  apart := by simp [roleSlots, Slot.Apart]
  ext {a b} h := by cases a; cases b; simpa [roleSlots] using h
  blank := rfl
  omitted := by simp [roleSlots, roleForm]

theorem layout_document : Layout documentForm documentSlots Document.toJson sourceBody where
  members := rfl
  written a := by simp [Document.toJson, rolesJson_eq, Json.list, documentSlots, Slot.written]
  described := ⟨_, _, rfl, .refl _, rfl, by simp [documentSlots]⟩
  apart := by simp [documentSlots, Slot.Apart]
  ext {a b} h := by cases a; cases b; simpa [documentSlots] using h
  blank := rfl
  omitted := by simp [documentSlots, documentForm]

/-- The descriptions of the members of a role agree, but for the roles nested in it. -/
theorem forall_roleSlots {P : Slot Role → Prop}
    (hsimple : ∀ s : Slot Role, s.Agrees → P s)
    (hnested : P (.list (declarations "roles" .role) false readRole Role.toJson (·.roles)
      fun v d => { d with roles := v })) :
    ∀ s ∈ roleSlots readRole, P s := by
  simp only [roleSlots, List.forall_mem_cons]
  exact ⟨hsimple _ (agree_text.property rfl), hsimple _ (agree_textOrNull.property rfl), hnested,
    hsimple _ agree_place, hsimple _ agree_doc, List.forall_mem_nil _⟩

/-- A role that was read is carried by what is written of it, with the roles in it. -/
theorem carries_role (r : Role) (hr : ∃ j, readRole j = .ok r) :
    Carries Name.role.demand readRole (fun r => some r.toJson) r := by
  obtain ⟨j, hj⟩ := hr
  rw [readRole_eq] at hj
  have hread := (layout_role readRole).allRead_of_read hj
  have hslots : ∀ s ∈ roleSlots readRole, (∃ x, s.read x = .ok (s.get r)) →
      Carries s.property.demand s.read s.write (s.get r) :=
    forall_roleSlots (fun s hs hx => hs.carries hx) fun ⟨x, hx⟩ =>
      @carries_listed Role (.ref .role) readRole Role.toJson _ rfl r.roles
        fun b hb => carries_role b (exists_of_readList hx b hb)
  have hcarries := (layout_role readRole).carries fun s hs => hslots s hs (hread s hs)
  rwa [← readRole_eq] at hcarries
termination_by r
decreasing_by
  have hmem := List.sizeOf_lt_of_mem hb
  have hroles : sizeOf r.roles < sizeOf r := by
    cases r
    simp only [Role.mk.sizeOf_spec]
    omega
  exact Nat.lt_trans hmem hroles

/-- A role that is admitted can be read, but for integers in it and in the roles in it. -/
theorem blames_role (j : Json) : Blames Name.role.demand readRole j := by
  have hslots : ∀ s ∈ roleSlots readRole, ∀ x, x.depth < j.depth →
      Blames s.property.demand s.read x :=
    forall_roleSlots (fun s hs x _ => hs.blames x) fun x hx =>
      @blames_listed Role (.ref .role) readRole _ rfl rfl x fun y hy => blames_role y
  have hblames := (layout_role readRole).blames hslots
  rwa [← readRole_eq] at hblames
termination_by j.depth
decreasing_by exact Nat.lt_trans hy hx

theorem agree_role : Agree Name.role.demand readRole fun r => some r.toJson :=
  ⟨carries_role _, blames_role⟩

/-- Schema, reader and writer describe the same source documents. -/
theorem agree_document :
    Agree (Target.body sourceBody).demand readDocument fun d => some d.toJson :=
  layout_document.agree <| by
    simp only [documentSlots, List.forall_mem_cons]
    exact ⟨agree_struct.declared rfl, agree_enumeration.declared rfl, agree_bitfield.declared rfl,
      agree_role.declared rfl, List.forall_mem_nil _⟩

end ModelLinker.Decl
