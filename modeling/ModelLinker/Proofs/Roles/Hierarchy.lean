import ModelLinker.Proofs.Binding.Bound
import ModelLinker.Proofs.Roles.Tree
import ModelLinker.Proofs.Source.Entered

/-!
# The role tree of every model

A model is put together from the reserved roles, declared ones after them, and other parts; it can
also be the outcome of an earlier run. In all such models (`Model.Built`) the reserved roles stand
in their places, so linking makes a tree of the roles, also if it finds errors
(`roleTree_of_built`), and a linked model has one (`Model.Built.roleTree_linked`).
-/

namespace ModelLinker

namespace Model

/-- The models that can be put together: roles are declared one by one, with whatever parents, the
other parts can be anything, and a linked model is a model again. -/
inductive Built : Model → Prop where
  | empty : Built .empty
  | role {m} (name : String) (pos : Pos) (parent : Option (NameRef RoleId)) (doc : Option String) :
      Built m → Built (m.addRole (.declared name pos parent doc)).1
  | parts {m m'} : Built m → m'.roles = m.roles → Built m'
  | linked {seed m l} : Built m → linkWith seed m = .ok l → Built l.model

variable {m m' : Model}

/-! ### models with the same roles -/

theorem ReservedRoles.congr (h : m.ReservedRoles) (hroles : m'.roles = m.roles) :
    m'.ReservedRoles := by
  obtain ⟨structs, fields, enums, bitfields, roles⟩ := m
  obtain ⟨structs', fields', enums', bitfields', roles'⟩ := m'
  obtain rfl : roles' = roles := hroles
  exact ⟨h.all, h.none, h.default, h.named⟩

theorem parentChain_congr (hroles : m'.roles = m.roles) : m'.parentChain = m.parentChain := by
  have hparent : m'.parentOf = m.parentOf := by
    funext id
    simp only [parentOf, role?, hroles]
  funext n id
  induction n generalizing id with
  | zero => rfl
  | succ n ih => simp only [parentChain, hparent, ih]

theorem isAncestor_congr (hroles : m'.roles = m.roles) : m'.isAncestor = m.isAncestor := by
  funext a id
  rw [isAncestor, ancestors, parentChain_congr hroles, hroles, isAncestor, ancestors]

theorem RoleTree.congr (h : m.RoleTree) (hroles : m'.roles = m.roles) : m'.RoleTree := by
  have hrole : m'.role? = m.role? := by
    funext id
    rw [role?, hroles, role?]
  have hunder : m'.Under = m.Under := by
    funext id p
    simp only [Under, parentOf, hrole]
  have hancestors : m'.ancestors = m.ancestors := by
    funext id
    rw [ancestors, parentChain_congr hroles, hroles, ancestors]
  constructor <;>
    simp only [parentOf, hrole, hroles, hunder, hancestors, isAncestor_congr hroles,
      parentChain_congr hroles]
  exacts [h.root, h.sink, h.start, h.parent, h.nearest, h.once, h.above, h.top, h.uncut, h.ancestor,
    h.irrefl, h.trans, h.children]

theorem reservedRoles_empty : empty.ReservedRoles where
  all := ⟨_, rfl, rfl, rfl⟩
  none := ⟨_, rfl, rfl, rfl⟩
  default := ⟨_, rfl, rfl, rfl⟩
  named {id r} hr := by
    obtain ⟨i⟩ := id
    have hlt : i < 3 := index_lt_of_role? hr
    have hi : i = 0 ∨ i = 1 ∨ i = 2 := by omega
    right
    rcases hi with rfl | rfl | rfl
    · exact .inl rfl
    · exact .inr (.inl rfl)
    · exact .inr (.inr rfl)

theorem role?_addRole (r : Role) (id : RoleId) :
    (m.addRole r).1.role? id = if id.index = m.roles.size then some r else m.role? id := by
  simp [addRole, role?, Array.getElem?_push]

theorem ReservedRoles.addRole (h : m.ReservedRoles) {r : Role} (hr : r.kind = .named) :
    (m.addRole r).1.ReservedRoles := by
  have hkeep : ∀ {id q}, m.role? id = some q → (m.addRole r).1.role? id = some q := by
    intro id q hq
    rw [role?_addRole, if_neg (index_lt_of_role? hq).ne, hq]
  obtain ⟨a, ha, ha'⟩ := h.all
  obtain ⟨n, hn, hn'⟩ := h.none
  obtain ⟨d, hd, hd'⟩ := h.default
  refine ⟨⟨a, hkeep ha, ha'⟩, ⟨n, hkeep hn, hn'⟩, ⟨d, hkeep hd, hd'⟩, ?_⟩
  intro id q hq
  rw [role?_addRole] at hq
  split at hq
  · obtain rfl := Option.some.inj hq
    exact .inl hr
  · exact h.named hq

theorem resolved_roles (m : Model) : m.resolved.roles = m.roles := rfl

/-- A name stands for a role of the model. -/
theorem index_lt_of_name {n : String} {id : RoleId} (h : (Namespace.ofModel m).role? n = some id) :
    id.index < m.roles.size := by
  obtain ⟨r, hr, -⟩ := Namespace.role?_some h
  exact index_lt_of_role? hr

theorem ReservedRoles.bound (h : m.ReservedRoles) : m.bound.ReservedRoles :=
  reservedRoles_linkRoles (h.congr m.resolved_roles) index_lt_of_name

theorem ReservedRoles.roleTree_bound (h : m.ReservedRoles) : m.bound.RoleTree :=
  roleTree_linkRoles (h.congr m.resolved_roles) index_lt_of_name

theorem ReservedRoles.roleTree_linked (h : m.ReservedRoles) : m.linked.RoleTree :=
  h.roleTree_bound.congr (linked_roles m)

/-! ### models that can be put together -/

theorem Built.reservedRoles (h : m.Built) : m.ReservedRoles := by
  induction h with
  | empty => exact reservedRoles_empty
  | role name pos parent doc _ ih => exact ih.addRole rfl
  | parts _ hroles ih => exact ih.congr hroles
  | linked _ hl ih =>
    rw [(linked_of_linkWith hl).1]
    exact ih.bound.congr (linked_roles _)

/-- The roles of a linked model are a tree. -/
theorem Built.roleTree_linked (h : m.Built) {seed : Diagnostics} {l : Linked}
    (hl : linkWith seed m = .ok l) : l.model.RoleTree := by
  rw [(linked_of_linkWith hl).1]
  exact h.reservedRoles.roleTree_linked

theorem Built.addRoles {rs : List Role} (h : m.Built)
    (hrs : ∀ r ∈ rs, ∃ name pos parent doc, r = .declared name pos parent doc) :
    Built { m with roles := m.roles ++ rs.toArray } := by
  induction rs generalizing m with
  | nil => exact h.parts (by simp)
  | cons r rest ih =>
    simp only [List.mem_cons, forall_eq_or_imp] at hrs
    obtain ⟨⟨name, pos, parent, doc, rfl⟩, hrest⟩ := hrs
    exact (ih (h.role name pos parent doc) hrest).parts (by simp [addRole])

end Model

/-! ### models that come from documents -/

namespace Source

variable {file : String}

mutual

/-- The roles that a document declares are declared roles. -/
theorem declared_role (outer : Option String) : ∀ d : Decl.Role, ∀ r ∈ (role file outer d).1,
    ∃ name pos parent doc, r = .declared name pos parent doc
  | ⟨name, parent, nested, place, doc⟩ => by
    intro r hr
    simp only [role, List.mem_cons] at hr
    rcases hr with rfl | hr
    · exact ⟨_, _, _, _, rfl⟩
    · exact declared_roles (some name) nested r hr

theorem declared_roles (outer : Option String) : ∀ ds : List Decl.Role,
    ∀ r ∈ (roles file outer ds).1, ∃ name pos parent doc, r = .declared name pos parent doc
  | [] => by simp [roles]
  | d :: ds => by
    intro r hr
    simp only [roles, List.mem_append] at hr
    rcases hr with hr | hr
    · exact declared_role outer d r hr
    · exact declared_roles outer ds r hr

end

end Source

theorem Draft.built_addDocument {d : Draft} (h : d.model.Built) (name : String)
    (doc : Decl.Document) : (d.addDocument name doc).model.Built := by
  obtain ⟨-, -, hroles, -⟩ := @addStructs_others (d.addValues name doc) name doc.structs
  rw [addDocument_eq]
  exact ((h.addRoles (Source.declared_roles none doc.roles)).parts rfl).parts hroles

theorem SourceSet.built_addJson {set : SourceSet} (h : set.model.Built) (name : String) (j : Json) :
    (set.addJson name j).model.Built := by
  unfold addJson addLoaded
  split
  · refine Draft.built_addDocument ?_ name _
    exact h
  · exact h

/-- The model of a set of documents is put together part by part. -/
theorem SourceSet.Reached.built {set : SourceSet} (h : set.Reached) : set.model.Built := by
  induction h with
  | empty => exact .empty
  | document name d _ ih => exact Draft.built_addDocument ih name d
  | json name j _ ih => exact built_addJson ih name j
  | file name content _ hfile ih =>
    obtain ⟨j, rfl⟩ := addFile_eq_ok hfile
    exact built_addJson ih name j

/-! ### the tree -/

namespace Model

/-- Roles that hang under one another, under themselves, under a leaf, under a role that does not
exist and under one that is declared a second time. -/
def tangledRoles : Model :=
  [("left", "right"), ("right", "left"), ("branch", "left"), ("self", "SELF"), ("guest", "none"),
      ("clerk", "boss"), ("All", "all"), ("branch", "default")].foldl
    (fun m (name, parent) =>
      (m.addRole (.declared name (.ofFile "roles") (some (.unbound parent (.ofFile "roles"))) none)).1)
    empty

theorem built_tangledRoles : tangledRoles.Built := by
  simp only [tangledRoles, List.foldl_cons, List.foldl_nil]
  repeat apply Built.role
  exact .empty

/-- Linking makes a tree of the roles of every model, whatever parents they name and whatever errors
it finds. -/
theorem roleTree_of_built {m : Model} (h : m.Built) :
    (linkRoles (.ofModel m) m).1.RoleTree ∧ m.bound.RoleTree :=
  ⟨roleTree_linkRoles h.reservedRoles index_lt_of_name, h.reservedRoles.roleTree_bound⟩

theorem roleTree_tangledRoles :
    tangledRoles.Built ∧ Diagnostics.errorCount (linkRoles (.ofModel tangledRoles) tangledRoles).2 = 5 ∧
      (linkRoles (.ofModel tangledRoles) tangledRoles).1.RoleTree ∧ tangledRoles.bound.RoleTree :=
  ⟨built_tangledRoles, by rw [Namespace.ofModel_eq_scan]; decide +kernel,
    roleTree_of_built built_tangledRoles⟩

end Model

end ModelLinker
