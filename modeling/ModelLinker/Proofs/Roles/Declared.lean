import ModelLinker.Proofs.Linked
import ModelLinker.Proofs.Roles.Hierarchy

/-!
# The declared hierarchy

A role is declared with the roles nested in it. The declarations of all documents, each before
those nested in it, are numbered after the reserved roles (`roleDeclarations`). The roles of a
linked model are these, under these numbers, and they hang under one another as they were declared,
although the model knows the nesting by names only (`rolesDeclared_of_linkSources`).
-/

namespace ModelLinker

open Text (sameName)

/-! ### declarations with their numbers -/

/-- The declaration of a role, with the file it stands in and the declarations that enclose it, the
nearest first, each with its number. -/
structure DeclaredRole where
  file : String
  decl : Decl.Role
  outer : List (RoleId × Decl.Role)

mutual

/-- The declaration of a role and those nested in it, numbered from a number on. -/
def Decl.Role.listed (file : String) (outer : List (RoleId × Decl.Role)) (n : Nat) :
    Decl.Role → List DeclaredRole
  | ⟨name, parent, nested, place, doc⟩ =>
    ⟨file, ⟨name, parent, nested, place, doc⟩, outer⟩ ::
      listedRoles file ((⟨n⟩, ⟨name, parent, nested, place, doc⟩) :: outer) (n + 1) nested

/-- Some declarations, each before those nested in it, numbered from a number on. -/
def listedRoles (file : String) (outer : List (RoleId × Decl.Role)) (n : Nat) :
    List Decl.Role → List DeclaredRole
  | [] => []
  | d :: ds =>
    d.listed file outer n ++ listedRoles file outer (n + (d.listed file outer n).length) ds

end

/-- The declarations of some documents, numbered from a number on. -/
def listedDocuments (n : Nat) : List (String × Decl.Document) → List DeclaredRole
  | [] => []
  | x :: xs =>
    listedRoles x.1 [] n x.2.roles ++
      listedDocuments (n + (listedRoles x.1 [] n x.2.roles).length) xs

/-- The declarations of roles in some documents, document by document. The first one has the number
after the reserved roles. -/
def roleDeclarations (docs : List (String × Decl.Document)) : List DeclaredRole :=
  listedDocuments 3 docs

/-- The roles of a model are the reserved ones and those that documents declare, in their order, and
their hierarchy is the declared one. -/
structure Model.RolesDeclared (m : Model) (docs : List (String × Decl.Document)) : Prop where
  size : m.roles.size = 3 + (roleDeclarations docs).length
  role : ∀ {i x}, (roleDeclarations docs)[i]? = some x →
    ∃ r, m.role? ⟨3 + i⟩ = some r ∧ r.name = x.decl.name ∧ r.kind = .named ∧
      r.pos = Source.posIn x.file x.decl.place ∧ r.doc = x.decl.doc
  nested : ∀ {i x}, (roleDeclarations docs)[i]? = some x →
    ∀ {id d rest}, x.outer = (id, d) :: rest → x.decl ∈ d.roles ∧ m.parentOf ⟨3 + i⟩ = some id
  attached : ∀ {i x}, (roleDeclarations docs)[i]? = some x → x.outer = [] →
    ∀ {p}, x.decl.parent = some p →
      ∃ id q, m.parentOf ⟨3 + i⟩ = some id ∧ m.role? id = some q ∧ sameName q.name p = true ∧
        ∀ {id' q'}, m.role? id' = some q' → sameName q'.name p = true → id' = id
  top : ∀ {i x}, (roleDeclarations docs)[i]? = some x → x.outer = [] → x.decl.parent = none →
    m.parentOf ⟨3 + i⟩ = some .all
  enclosed : ∀ {i x}, (roleDeclarations docs)[i]? = some x → ∀ {id d}, (id, d) ∈ x.outer →
    m.isAncestor id ⟨3 + i⟩ = true ∧
      ∃ j y, id = ⟨3 + j⟩ ∧ (roleDeclarations docs)[j]? = some y ∧ y.decl = d

/-! ### the enclosing declarations -/

/-- In a list of declarations with numbers from `n` on, each is one of those that the list is made
of, or stands in the list after the declaration that it is nested in. -/
def Nested (outer : List (RoleId × Decl.Role)) (n : Nat) (ds : List Decl.Role)
    (listing : List DeclaredRole) : Prop :=
  ∀ x ∈ listing, x.outer = outer ∧ x.decl ∈ ds ∨
    ∃ j y, listing[j]? = some y ∧ x.decl ∈ y.decl.roles ∧ x.outer = (⟨n + j⟩, y.decl) :: y.outer

section Nested

variable {outer : List (RoleId × Decl.Role)} {n : Nat}

theorem nested_nil : Nested outer n [] [] := by
  simp [Nested]

/-- A declaration, and what lists those in it. -/
theorem Nested.cons {x : DeclaredRole} {listing : List DeclaredRole}
    (h : Nested ((⟨n⟩, x.decl) :: x.outer) (n + 1) x.decl.roles listing) :
    Nested x.outer n [x.decl] (x :: listing) := by
  intro y hy
  rcases List.mem_cons.1 hy with rfl | hy
  · exact .inl ⟨rfl, List.mem_singleton_self _⟩
  right
  rcases h y hy with ⟨houter, hmem⟩ | ⟨j, z, hz, hmem, houter⟩
  · exact ⟨0, x, rfl, hmem, houter⟩
  · refine ⟨j + 1, z, hz, hmem, ?_⟩
    rw [houter, show n + 1 + j = n + (j + 1) by omega]

theorem Nested.append {ds ds' : List Decl.Role} {listing listing' : List DeclaredRole}
    (h : Nested outer n ds listing) (h' : Nested outer (n + listing.length) ds' listing') :
    Nested outer n (ds ++ ds') (listing ++ listing') := by
  intro x hx
  rcases List.mem_append.1 hx with hx | hx
  · rcases h x hx with ⟨houter, hmem⟩ | ⟨j, y, hy, hrest⟩
    · exact .inl ⟨houter, List.mem_append_left _ hmem⟩
    · have hlt : j < listing.length := (List.getElem?_eq_some_iff.1 hy).1
      exact .inr ⟨j, y, by rwa [List.getElem?_append_left hlt], hrest⟩
  · rcases h' x hx with ⟨houter, hmem⟩ | ⟨j, y, hy, hmem, houter⟩
    · exact .inl ⟨houter, List.mem_append_right _ hmem⟩
    · refine .inr ⟨listing.length + j, y, ?_, hmem, ?_⟩
      · rw [List.getElem?_append_right (Nat.le_add_right _ _), Nat.add_sub_cancel_left, hy]
      · rw [houter, Nat.add_assoc]

end Nested

mutual

theorem nested_listed (file : String) (outer : List (RoleId × Decl.Role)) (n : Nat) :
    ∀ d : Decl.Role, Nested outer n [d] (d.listed file outer n)
  | ⟨name, parent, nested, place, doc⟩ => by
    rw [Decl.Role.listed]
    exact (nested_listedRoles file _ (n + 1) nested).cons

theorem nested_listedRoles (file : String) (outer : List (RoleId × Decl.Role)) (n : Nat) :
    ∀ ds : List Decl.Role, Nested outer n ds (listedRoles file outer n ds)
  | [] => by
    rw [listedRoles]
    exact nested_nil
  | d :: ds => by
    rw [listedRoles]
    exact (nested_listed file outer n d).append (nested_listedRoles file outer _ ds)

end

theorem nested_listedDocuments (n : Nat) (docs : List (String × Decl.Document)) :
    Nested [] n (docs.flatMap fun x => x.2.roles) (listedDocuments n docs) := by
  induction docs generalizing n with
  | nil => exact nested_nil
  | cons x xs ih => exact (nested_listedRoles x.1 [] n x.2.roles).append (ih _)

/-! ### the roles of the declarations -/

/-- The role that a declaration puts into a model. -/
def DeclaredRole.role (x : DeclaredRole) : Role :=
  let pos := Source.posIn x.file x.decl.place
  .declared x.decl.name pos
    ((Source.parentName (x.outer.head?.map (·.2.name)) x.decl.parent).map (Source.refAt pos))
    x.decl.doc

mutual

theorem role_eq_listed (file : String) (outer : List (RoleId × Decl.Role)) (n : Nat) :
    ∀ d : Decl.Role, (Source.role file (outer.head?.map (·.2.name)) d).1 =
      (d.listed file outer n).map DeclaredRole.role
  | ⟨name, parent, nested, place, doc⟩ => by
    have hinner := roles_eq_listed file ((⟨n⟩, ⟨name, parent, nested, place, doc⟩) :: outer) (n + 1)
      nested
    simp only [List.head?_cons, Option.map_some] at hinner
    simp only [Source.role, Decl.Role.listed, List.map_cons, hinner]
    rfl

theorem roles_eq_listed (file : String) (outer : List (RoleId × Decl.Role)) (n : Nat) :
    ∀ ds : List Decl.Role, (Source.roles file (outer.head?.map (·.2.name)) ds).1 =
      (listedRoles file outer n ds).map DeclaredRole.role
  | [] => by
    simp only [Source.roles, listedRoles, List.map_nil]
  | d :: ds => by
    have hrest := roles_eq_listed file outer (n + (d.listed file outer n).length) ds
    simp only [Source.roles, listedRoles, List.map_append, role_eq_listed file outer n d, hrest]

end

theorem flatMap_roles_eq (n : Nat) (docs : List (String × Decl.Document)) :
    (docs.flatMap fun x => (Source.roles x.1 none x.2.roles).1) =
      (listedDocuments n docs).map DeclaredRole.role := by
  induction docs generalizing n with
  | nil => rfl
  | cons x xs ih =>
    simp only [List.flatMap_cons, listedDocuments, List.map_append, ← ih]
    rw [← roles_eq_listed x.1 [] n x.2.roles]
    rfl

/-! ### the linked roles -/

namespace Model

/-- A role that names no parent hangs under `all`. -/
theorem parent_of_parentName_none {m : Model} (h : m.RolesOk) {id : RoleId} {r : Role}
    (hr : m.bound.role? id = some r) (hk : r.kind.isReserved = false) (hp : r.parentName = none) :
    r.parent = some .all := by
  obtain ⟨r₀, -, hparent, hname, hkind⟩ := role?_bound h hr
  rw [hkind] at hk
  cases hp₀ : r₀.parentName with
  | none => simpa [Role.attach, hk, hp₀] using hparent
  | some p =>
    rw [hp, Role.attach] at hname
    simp only [hk, hp₀, Bool.false_eq_true, if_false] at hname
    split at hname <;> cases hname

variable {docs : List (String × Decl.Document)} {l : Linked}

/-- The roles of a linked model, as far as they were declared. -/
theorem roles_of_linkSources (h : linkSources (.ofDocuments docs) = .ok l) :
    l.model.roles.toList.map Role.asDeclared =
      empty.roles.toList.map Role.asDeclared ++
        (roleDeclarations docs).map fun x => x.role.asDeclared := by
  have hkept : l.model.asDeclared.roles = (SourceSet.ofDocuments docs).model.asDeclared.roles := by
    rw [(linked_of_linkWith h).1, asDeclared_linked]
  have hlist := congrArg Array.toList hkept
  simp only [asDeclared, Array.toList_map] at hlist
  rw [hlist, SourceSet.model, (SourceSet.holds_ofDocuments docs).roles, flatMap_roles_eq 3,
    List.map_append, List.map_map]
  rfl

/-- The linked role of a declaration. -/
theorem role?_of_linkSources (h : linkSources (.ofDocuments docs) = .ok l) {i : Nat}
    {x : DeclaredRole} (hx : (roleDeclarations docs)[i]? = some x) :
    ∃ r, l.model.role? ⟨3 + i⟩ = some r ∧ r.asDeclared = x.role.asDeclared := by
  have hroles : (l.model.roles.toList.map Role.asDeclared)[3 + i]? = _ :=
    congrArg (·[3 + i]?) (roles_of_linkSources h)
  have hthree : (empty.roles.toList.map Role.asDeclared).length = 3 := rfl
  rw [List.getElem?_append_right (by omega), hthree, Nat.add_sub_cancel_left] at hroles
  simp only [List.getElem?_map, hx, Option.map_some, Array.getElem?_toList] at hroles
  exact Option.map_eq_some_iff.1 hroles

end Model

/-! ### the declared hierarchy -/

section Hierarchy

open Model

variable {docs : List (String × Decl.Document)} {l : Linked}

/-- A linked role that is declared under a name hangs under the one role of this name. -/
theorem parentOf_of_name (h : linkSources (.ofDocuments docs) = .ok l) {i : Nat}
    {x : DeclaredRole} (hx : (roleDeclarations docs)[i]? = some x) {p : String}
    (hp : Source.parentName (x.outer.head?.map (·.2.name)) x.decl.parent = some p) :
    ∃ id q, l.model.parentOf ⟨3 + i⟩ = some id ∧ l.model.role? id = some q ∧
      sameName q.name p = true ∧
      ∀ {id' q'}, l.model.role? id' = some q' → sameName q'.name p = true → id' = id := by
  obtain ⟨r, hr, hdecl⟩ := role?_of_linkSources h hx
  have hkind : r.kind = .named := congrArg Role.kind hdecl
  have hname : r.parentName.map NameRef.asDeclared =
      x.role.parentName.map NameRef.asDeclared := congrArg Role.parentName hdecl
  simp only [DeclaredRole.role, Role.declared, hp, Option.map_some, Option.map_eq_some_iff] at hname
  obtain ⟨ref, href, heq⟩ := hname
  have hp : ref.name = p := congrArg NameRef.name heq
  obtain ⟨id, q, -, hq, hsame, -, -, hparent⟩ :=
    (sound_of_linkSources (SourceSet.reached_ofDocuments docs) h).1.parents hr (by rw [hkind]; rfl)
      href
  rw [hp, Text.sameName_comm] at hsame
  refine ⟨id, q, (parentOf_of_role? hr).trans hparent, hq, (Text.sameName_comm _ _).trans hsame, ?_⟩
  intro id' q' hq' hsame'
  exact (namesDistinct_of_linkWith h).role_unique hq' hq
    (Text.sameName_trans hsame' hsame)

/-- A role hangs under the role of the declaration that it is nested in. -/
theorem parentOf_of_outer (h : linkSources (.ofDocuments docs) = .ok l) {i : Nat}
    {x : DeclaredRole} (hx : (roleDeclarations docs)[i]? = some x) {id : RoleId} {d : Decl.Role}
    {rest : List (RoleId × Decl.Role)} (houter : x.outer = (id, d) :: rest) :
    x.decl ∈ d.roles ∧ l.model.parentOf ⟨3 + i⟩ = some id ∧
      ∃ j y, id = ⟨3 + j⟩ ∧ (roleDeclarations docs)[j]? = some y ∧ y.decl = d ∧ y.outer = rest := by
  have hnested := nested_listedDocuments 3 docs x (List.mem_of_getElem? hx)
  rw [houter] at hnested
  rcases hnested with ⟨hnil, -⟩ | ⟨j, y, hy, hmem, hcons⟩
  · cases hnil
  obtain ⟨hhead, rfl⟩ := List.cons.inj hcons
  obtain ⟨rfl, rfl⟩ := Prod.mk.inj hhead
  obtain ⟨r, hr, hdecl⟩ := role?_of_linkSources h hy
  obtain ⟨id, -, hparent, -, -, hunique⟩ := @parentOf_of_name _ _ h _ _ hx y.decl.name
    (by rw [houter]; rfl)
  -- the enclosing declaration has this name, and it is the only role that does
  have hname : r.name = y.decl.name := congrArg Role.name hdecl
  refine ⟨hmem, ?_, j, y, rfl, hy, rfl, rfl⟩
  rw [hparent, hunique hr (by rw [hname]; exact Text.sameName_refl _)]

theorem isAncestor_of_outer (h : linkSources (.ofDocuments docs) = .ok l) :
    ∀ (outer : List (RoleId × Decl.Role)) {i : Nat} {x : DeclaredRole},
      (roleDeclarations docs)[i]? = some x → x.outer = outer → ∀ {id d}, (id, d) ∈ outer →
      l.model.isAncestor id ⟨3 + i⟩ = true ∧
        ∃ j y, id = ⟨3 + j⟩ ∧ (roleDeclarations docs)[j]? = some y ∧ y.decl = d := by
  have htree := (SourceSet.reached_ofDocuments docs).built.roleTree_linked h
  intro outer
  induction outer with
  | nil => simp
  | cons e rest ih =>
    intro i x hx houter id d hmem
    obtain ⟨-, hparent, j, y, he, hy, hyd, hyrest⟩ := parentOf_of_outer h hx houter
    have habove : l.model.isAncestor e.1 ⟨3 + i⟩ = true := htree.ancestor.2 (.single hparent)
    rcases List.mem_cons.1 hmem with heq | hmem
    · subst heq
      exact ⟨habove, j, y, he, hy, hyd⟩
    · obtain ⟨hup, hdecl⟩ := ih hy hyrest hmem
      rw [he] at habove
      exact ⟨htree.trans hup habove, hdecl⟩

/-- The roles of documents that link are those that the documents declare, numbered in the order of
the declarations, and they hang under one another as declared. -/
theorem rolesDeclared_of_linkSources (docs : List (String × Decl.Document)) (l : Linked)
    (h : linkSources (.ofDocuments docs) = .ok l) : l.model.RolesDeclared docs where
  size := by
    have hlength := congrArg List.length (roles_of_linkSources h)
    simp only [List.length_append, List.length_map, Array.length_toList] at hlength
    exact hlength
  role hx := by
    obtain ⟨r, hr, hdecl⟩ := role?_of_linkSources h hx
    exact ⟨r, hr, congrArg Role.name hdecl, congrArg Role.kind hdecl, congrArg Role.pos hdecl,
      congrArg Role.doc hdecl⟩
  nested hx _ _ _ houter :=
    have hparent := parentOf_of_outer h hx houter
    ⟨hparent.1, hparent.2.1⟩
  attached hx houter p hp := parentOf_of_name h hx (by rw [houter, hp]; rfl)
  top hx houter hp := by
    obtain ⟨r, hr, hdecl⟩ := role?_of_linkSources h hx
    have hkind : r.kind = .named := congrArg Role.kind hdecl
    have hname : r.parentName.map NameRef.asDeclared =
        _ := congrArg Role.parentName hdecl
    rw [parentOf_of_role? hr]
    rw [(linked_of_linkWith h).1, role?, linked_roles] at hr
    refine parent_of_parentName_none (stagesOk_of_linkWith h).2 hr (by rw [hkind]; rfl) ?_
    simpa [DeclaredRole.role, Role.asDeclared, Role.declared, houter, hp, Source.parentName]
      using hname
  enclosed hx _ _ hmem := isAncestor_of_outer h _ hx rfl hmem

end Hierarchy

/-- Roles in roles, next to a firm, and roles of another document that hang under one of these. -/
def officeDocuments : List (String × Decl.Document) :=
  [("office", { firmDocument with roles := [
      ⟨"office", none, [⟨"desk", none, [⟨"drawer", none, [], none, none⟩], none, none⟩],
        none, none⟩,
      ⟨"lobby", some "ALL", [], none, none⟩] }),
    ("guests", {
      structs := [], enums := [], bitfields := []
      roles := [⟨"guest", some "DESK", [⟨"child", none, [], none, none⟩], none, none⟩] })]

/-- The six roles have the numbers from 3 on. A guest hangs under the desk of the other document, so
the office is above the child too. -/
theorem rolesDeclared_of_officeDocuments :
    ∃ l, linkSources (.ofDocuments officeDocuments) = .ok l ∧
      l.model.RolesDeclared officeDocuments ∧
      l.model.roles.size = 9 ∧ l.model.parentOf ⟨5⟩ = some ⟨4⟩ ∧ l.model.parentOf ⟨6⟩ = some .all ∧
      l.model.parentOf ⟨7⟩ = some ⟨4⟩ ∧ l.model.isAncestor ⟨3⟩ ⟨8⟩ = true := by
  have hfaultless : (SourceSet.ofDocuments officeDocuments).FaultlessBy (·.index) := by
    simp only [SourceSet.FaultlessBy, Model.bindingProblems, Model.marked, Model.topology,
      Model.joined, Model.bound, Model.resolved, Namespace.ofModel_eq_scan]
    decide +kernel
  obtain ⟨l, hl⟩ := hfaultless.links
  have hdecl := rolesDeclared_of_linkSources officeDocuments l hl
  have htree := (SourceSet.reached_ofDocuments officeDocuments).built.roleTree_linked hl
  obtain ⟨desk, hdesk, hname, -⟩ := @Model.RolesDeclared.role _ _ hdecl 1 _ rfl
  have hroot : ∃ r, l.model.role? .all = some r ∧ r.name = "all" := by
    have hroles : (l.model.roles.toList.map Role.asDeclared)[0]? = _ :=
      congrArg (·[0]?) (Model.roles_of_linkSources hl)
    rw [List.getElem?_map, Array.getElem?_toList] at hroles
    obtain ⟨r, hr, heq⟩ := Option.map_eq_some_iff.1 hroles
    exact ⟨r, hr, congrArg Role.name heq⟩
  have hlobby : l.model.parentOf ⟨6⟩ = some .all := by
    obtain ⟨id, -, hp, -, -, hunique⟩ :=
      @Model.RolesDeclared.attached _ _ hdecl 3 _ rfl rfl "ALL" rfl
    obtain ⟨r, hr, hall⟩ := hroot
    rw [hp, hunique hr (by rw [hall]; decide +kernel)]
  have hguest : l.model.parentOf ⟨7⟩ = some ⟨4⟩ := by
    obtain ⟨id, -, hp, -, -, hunique⟩ :=
      @Model.RolesDeclared.attached _ _ hdecl 4 _ rfl rfl "DESK" rfl
    rw [hp, hunique hdesk (by rw [hname]; decide +kernel)]
  have hchild : l.model.isAncestor ⟨7⟩ ⟨8⟩ = true :=
    (@Model.RolesDeclared.enclosed _ _ hdecl 5 _ rfl _ _ List.mem_cons_self).1
  have hinside : l.model.isAncestor ⟨3⟩ ⟨4⟩ = true :=
    (@Model.RolesDeclared.enclosed _ _ hdecl 1 _ rfl _ _ List.mem_cons_self).1
  refine ⟨l, hl, hdecl, hdecl.size, ?_, hlobby, hguest, ?_⟩
  · exact (@Model.RolesDeclared.nested _ _ hdecl 2 _ rfl _ _ _ rfl).2
  · exact htree.trans hinside (htree.trans (htree.ancestor.2 (.single hguest)) hchild)

end ModelLinker
