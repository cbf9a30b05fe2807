import Mathlib.Data.List.Forall2
import ModelLinker.Proofs.Names
import ModelLinker.Proofs.Reported

/-!
# Repeated declarations

`Model.declarations` lists all that a model declares, each with the scope its name belongs to; a
field that a structure lists twice is declared twice. Going through the list from its start, a
declaration whose name is that of one before it is reported, at its own place, against the first one
(`Model.reports`). The stage that looks names up in the finished index reports the same
(`problems_eq_reports`). So the index of names, a scan through the declarations and the reports about
repeated names all go by one rule (`namesAgree_of_any`).
-/

namespace ModelLinker

open Text (fold sameName sameName_iff)

/-! ### letters -/

namespace Text

/-- Two characters are the same up to the case of ASCII letters: they are equal, or one is a capital
of the alphabet and the other the small letter that stands 32 places after it. -/
def SameLetter (x y : Char) : Prop :=
  x = y ∨ (x.isUpper ∧ y.toNat = x.toNat + 32) ∨ (y.isUpper ∧ x.toNat = y.toNat + 32)

/-- Two names are the same up to the case of ASCII letters. -/
def SameLetters (a b : String) : Prop := List.Forall₂ SameLetter a.toList b.toList

theorem isUpper_iff_val {x : Char} : x.isUpper ↔ x.val ≥ 'A'.val ∧ x.val ≤ 'Z'.val :=
  decide_eq_true_iff

theorem isUpper_iff {x : Char} : x.isUpper ↔ 65 ≤ x.toNat ∧ x.toNat ≤ 90 := by
  rw [isUpper_iff_val, ge_iff_le, UInt32.le_iff_toNat_le, UInt32.le_iff_toNat_le]
  rfl

theorem toNat_toLower (x : Char) :
    x.toLower.toNat = if x.isUpper then x.toNat + 32 else x.toNat := by
  unfold Char.toLower
  split
  · rename_i h
    have hle : x.val.toNat ≤ 90 := (isUpper_iff.1 (isUpper_iff_val.2 h)).2
    rw [if_pos (isUpper_iff_val.2 h)]
    change (x.val.toNat + 32) % 2 ^ 32 = x.val.toNat + 32
    omega
  · rename_i h
    rw [if_neg fun hx => h (isUpper_iff_val.1 hx)]

theorem sameLetter_iff {x y : Char} : x.toLower = y.toLower ↔ SameLetter x y := by
  simp only [SameLetter, ← Char.toNat_inj, toNat_toLower, isUpper_iff]
  split <;> split <;> omega

theorem sameName_iff_letters {a b : String} : sameName a b = true ↔ SameLetters a b := by
  have hletters : (fun x y : Char => x.toLower = y.toLower) = SameLetter := by
    funext x y
    exact propext sameLetter_iff
  rw [SameLetters, sameName_iff, fold, fold, String.ofList_inj, ← List.forall₂_eq_eq_eq,
    List.forall₂_map_left_iff, List.forall₂_map_right_iff, hletters]

end Text

/-! ### declarations -/

/-- Where a name has to be the only one. Fields have a scope for each structure. -/
inductive Scope where
  | structs
  | fields (owner : StructId) (ownerName : String)
  | enums
  | bitfields
  | roles
deriving DecidableEq

/-- A declaration. -/
structure Declaration where
  scope : Scope
  name : String
  pos : Pos
  /-- The declaration is that of a reserved role. -/
  reserved : Bool

namespace Declaration

/-- Two declarations have the same name in the same scope. -/
def namesake (d e : Declaration) : Bool := d.scope == e.scope && sameName e.name d.name

/-- What is wrong with a declaration whose name was declared before, given where. -/
def problem (d : Declaration) : Pos → ResolveProblem :=
  match d.scope with
  | .structs => .duplicateStruct d.name
  | .fields _ owner => .duplicateField owner d.name
  | .enums => .duplicateEnumeration d.name
  | .bitfields => .duplicateBitfield d.name
  | .roles => .duplicateRole d.name

/-- The report of a declaration whose name belongs to another one. -/
def report (d first : Declaration) : Diagnostic :=
  (if first.reserved then .roles (.reservedName d.name)
    else .resolve (d.problem first.pos) : Cause).at d.pos

/-- The report of a declaration against the first one of its name among those before it. There is
none if the name is new. -/
def reports (before : List Declaration) (d : Declaration) : Diagnostics :=
  ((before.find? d.namesake).map d.report).toList

end Declaration

def Struct.declaration (s : Struct) : Declaration := ⟨.structs, s.name, s.pos, false⟩

def Field.declaration (owner : StructId) (ownerName : String) (f : Field) : Declaration :=
  ⟨.fields owner ownerName, f.name, f.pos, false⟩

def Enumeration.declaration (e : Enumeration) : Declaration := ⟨.enums, e.name, e.pos, false⟩

def Bitfield.declaration (b : Bitfield) : Declaration := ⟨.bitfields, b.name, b.pos, false⟩

def Role.declaration (r : Role) : Declaration := ⟨.roles, r.name, r.pos, r.kind.isReserved⟩

namespace Model

variable (m : Model)

/-- The fields that a structure lists. -/
def fieldDeclarations (e : StructId × Struct) : List Declaration :=
  (m.fieldsOf e.1).map fun f => f.2.declaration e.1 e.2.name

/-- A structure and its fields. -/
def structDeclarations (e : StructId × Struct) : List Declaration :=
  e.2.declaration :: m.fieldDeclarations e

/-- All that a model declares: structures with their fields, enumerations, bit fields, roles. -/
def declarations : List Declaration :=
  m.indexedStructs.flatMap m.structDeclarations ++
    m.enums.toList.map Enumeration.declaration ++
    m.bitfields.toList.map Bitfield.declaration ++
    m.roles.toList.map Role.declaration

/-- The reports of all declarations, one after another. -/
def reports : Diagnostics := withEarlier Declaration.reports [] m.declarations

end Model

/-! ### namesakes -/

namespace Declaration

variable {d e : Declaration}

theorem namesake_iff : d.namesake e = true ↔ d.scope = e.scope ∧ sameName d.name e.name = true := by
  simp [namesake, sameName, eq_comm (a := fold e.name)]

theorem namesake_comm (d e : Declaration) : d.namesake e = e.namesake d := by
  rw [Bool.eq_iff_iff, namesake_iff, namesake_iff, Text.sameName_comm, eq_comm]

theorem find?_namesake_of_scope {before : List Declaration} (h : ∀ e ∈ before, e.scope ≠ d.scope) :
    before.find? d.namesake = none :=
  List.find?_eq_none.2 fun e he hn => h e he (namesake_iff.1 hn).1.symm

/-- Declarations of other scopes have no part in a report. -/
theorem reports_append {before : List Declaration} (h : ∀ e ∈ before, e.scope ≠ d.scope)
    (earlier : List Declaration) : reports (before ++ earlier) d = reports earlier d := by
  rw [reports, List.find?_append, find?_namesake_of_scope h, Option.none_or, reports]

/-- Declarations of one scope are reported as if there were no others before them. -/
theorem withEarlier_reports {scope : Scope} {before ds : List Declaration}
    (hbefore : ∀ e ∈ before, e.scope ≠ scope) (hds : ∀ d ∈ ds, d.scope = scope) :
    withEarlier reports before ds = withEarlier reports [] ds := by
  rw [← List.append_nil before]
  refine withEarlier_append_left fun earlier d hd => reports_append ?_ earlier
  rw [hds d hd]
  exact hbefore

/-- A report stands where the declaration does. It is about roles if the name is reserved, and names
the place of the first declaration otherwise. -/
theorem report_worded (d first : Declaration) :
    (d.report first).pos = some d.pos ∧ (d.report first).isError = true ∧
      (d.report first).channel = (if first.reserved then .roles else .resolve) ∧
      (first.reserved = false →
        ∃ text, (d.report first).message = firstDeclared text first.pos) := by
  cases hfirst : first.reserved with
  | true =>
    rw [report, if_pos hfirst]
    exact ⟨rfl, rfl, rfl, fun h => Bool.noConfusion h⟩
  | false =>
    have hmessage : ∃ text, (d.problem first.pos).message = firstDeclared text first.pos := by
      obtain ⟨scope, name, pos, reserved⟩ := d
      cases scope <;> exact ⟨_, rfl⟩
    rw [report, if_neg (by simp [hfirst])]
    exact ⟨rfl, rfl, rfl, fun _ => hmessage⟩

end Declaration

open Declaration (withEarlier_reports)

/-! ### one scope -/

section Scope

variable {α : Type} {name : α → String} {mk : α → Declaration} {items : Array α}

/-- The report of an item of a scope, by the place of the first item of its name. -/
def reportAt (name : α → String) (mk : α → Declaration) (items : Array α) (a : α) (i : Nat) :
    Diagnostics :=
  ((Namespace.earlier? items (items.findIdx? fun x => sameName (name x) (name a)) i).map
    fun first => (mk a).report (mk first)).toList

/-- The items are the declarations of one scope. -/
structure Declares (scope : Scope) (name : α → String) (mk : α → Declaration) : Prop where
  scope : ∀ a, (mk a).scope = scope
  name : ∀ a, (mk a).name = name a

variable {scope : Scope} (h : Declares scope name mk)

include h

theorem Declares.scope_of_mem {xs : List α} {d : Declaration} (hd : d ∈ xs.map mk) :
    d.scope = scope := by
  obtain ⟨a, -, rfl⟩ := List.mem_map.1 hd
  exact h.scope a

/-- An item is reported against the first of those before it as against the first of all. -/
theorem Declares.reports_take {i : Nat} {a : α} (ha : items[i]? = some a) :
    Declaration.reports ((items.toList.take i).map mk) (mk a) = reportAt name mk items a i := by
  have hname : (mk a).namesake ∘ mk = fun x => sameName (name x) (name a) := by
    funext x
    simp [Declaration.namesake, h.scope, h.name]
  rw [reportAt, Namespace.earlier?_eq_find? ha, Declaration.reports, List.find?_map, hname,
    Option.map_map]
  rfl

theorem Declares.withEarlier_eq (items : Array α) :
    withEarlier Declaration.reports [] (items.toList.map mk) =
      items.toList.zipIdx.flatMap fun x => reportAt name mk items x.1 x.2 := by
  rw [withEarlier_eq_flatMap, List.length_nil, List.zipIdx_map, List.flatMap_map]
  refine List.flatMap_congr fun x hx => ?_
  rw [← h.reports_take (by simpa using List.mem_zipIdx_iff_getElem?.1 hx)]
  simp

end Scope

theorem declares_enum : Declares .enums Enumeration.name Enumeration.declaration :=
  ⟨fun _ => rfl, fun _ => rfl⟩

theorem declares_bitfield : Declares .bitfields Bitfield.name Bitfield.declaration :=
  ⟨fun _ => rfl, fun _ => rfl⟩

theorem declares_role : Declares .roles Role.name Role.declaration := ⟨fun _ => rfl, fun _ => rfl⟩

theorem declares_struct : Declares .structs Struct.name Struct.declaration :=
  ⟨fun _ => rfl, fun _ => rfl⟩

theorem declares_field (owner : StructId) (ownerName : String) :
    Declares (.fields owner ownerName) Field.name (Field.declaration owner ownerName) :=
  ⟨fun _ => rfl, fun _ => rfl⟩

/-! ### structures with their fields -/

namespace Model

variable {m : Model}

theorem scope_of_mem_fieldDeclarations {e : StructId × Struct} {d : Declaration}
    (hd : d ∈ m.fieldDeclarations e) : d.scope = .fields e.1 e.2.name := by
  obtain ⟨f, -, rfl⟩ := List.mem_map.1 hd
  rfl

theorem scope_of_mem_structDeclarations {es : List (StructId × Struct)} {d : Declaration}
    (hd : d ∈ es.flatMap m.structDeclarations) :
    d.scope = .structs ∨ ∃ e ∈ es, d.scope = .fields e.1 e.2.name := by
  obtain ⟨e, he, hd⟩ := List.mem_flatMap.1 hd
  rcases List.mem_cons.1 hd with rfl | hd
  · exact .inl rfl
  · exact .inr ⟨e, he, scope_of_mem_fieldDeclarations hd⟩

/-- Among structures with their fields only structures have the name of a structure. -/
theorem reports_struct (es : List (StructId × Struct)) (s : Struct) :
    Declaration.reports (es.flatMap m.structDeclarations) s.declaration =
      Declaration.reports (es.map fun e => e.2.declaration) s.declaration := by
  have hfind : (es.flatMap m.structDeclarations).find? s.declaration.namesake =
      (es.map fun e => e.2.declaration).find? s.declaration.namesake := by
    induction es with
    | nil => rfl
    | cons e rest ih =>
      have hfields : (m.fieldDeclarations e).find? s.declaration.namesake = none :=
        Declaration.find?_namesake_of_scope fun d hd => by
          rw [scope_of_mem_fieldDeclarations hd]
          exact Scope.noConfusion
      rw [List.flatMap_cons, List.find?_append, structDeclarations, List.map_cons, List.find?_cons,
        List.find?_cons, hfields]
      cases s.declaration.namesake e.2.declaration with
      | true => rfl
      | false => exact (Option.none_or ..).trans ih
  rw [Declaration.reports, hfind, Declaration.reports]

/-- Every structure is reported with the structures before it, and its fields among themselves. -/
theorem withEarlier_structs {before es : List (StructId × Struct)}
    (h : (before ++ es).Pairwise fun a b => a.1 ≠ b.1) :
    withEarlier Declaration.reports (before.flatMap m.structDeclarations)
        (es.flatMap m.structDeclarations) =
      withEarlier (fun before e =>
        Declaration.reports (before.map fun e => e.2.declaration) e.2.declaration ++
          withEarlier Declaration.reports [] (m.fieldDeclarations e)) before es := by
  induction es generalizing before with
  | nil => rfl
  | cons e rest ih =>
    have hother : ∀ d ∈ before.flatMap m.structDeclarations ++ [e.2.declaration],
        d.scope ≠ .fields e.1 e.2.name := by
      intro d hd hscope
      rcases List.mem_append.1 hd with hd | hd
      · rcases scope_of_mem_structDeclarations hd with hstruct | ⟨e', he', hfield⟩
        · cases hstruct.symm.trans hscope
        · have hne := (List.pairwise_append.1 h).2.2 e' he' e List.mem_cons_self
          exact hne (by injection hfield.symm.trans hscope)
      · rw [List.mem_singleton.1 hd] at hscope
        cases hscope
    have hrest : before.flatMap m.structDeclarations ++ m.structDeclarations e =
        (before ++ [e]).flatMap m.structDeclarations := by simp
    rw [List.flatMap_cons, withEarlier_append, hrest, ih (by simpa using h), structDeclarations,
      withEarlier, withEarlier, reports_struct,
      withEarlier_reports hother fun d hd => scope_of_mem_fieldDeclarations hd]

theorem indexedStructs_pairwise (m : Model) : m.indexedStructs.Pairwise fun a b => a.1 ≠ b.1 := by
  rw [indexedStructs, List.pairwise_map, List.pairwise_iff_getElem]
  intro i j hi hj hij
  simp only [List.getElem_zipIdx, ne_eq, StructId.mk.injEq]
  omega

/-- The place of a structure in the list is its index. -/
theorem zipIdx_indexedStructs (m : Model) :
    m.indexedStructs.zipIdx = m.indexedStructs.map fun e => (e, e.1.index) :=
  List.ext_getElem (by simp) fun i _ _ => by simp [indexedStructs]

theorem map_declaration_indexedStructs (m : Model) :
    (m.indexedStructs.map fun e => e.2.declaration) = m.structs.toList.map Struct.declaration :=
  List.ext_getElem (by simp [indexedStructs]) fun i _ _ => by simp [indexedStructs]

end Model

/-! ### the reports -/

namespace Namespace

variable {m : Model}

/-- A repeated name is reported as its declaration says. The first item of the name may be known by
an index of its own kind. -/
theorem repeated_eq_reportAt {α ι : Type} (name : α → String) (mk : α → Declaration)
    (posOf : α → Pos) (ofNat : ℕ → ι) (toNat : ι → ℕ) (hid : ∀ n, toNat (ofNat n) = n)
    (hpos : ∀ a, (mk a).pos = posOf a) (hreserved : ∀ a, (mk a).reserved = false)
    (items : Array α) (a : α) (i : ℕ) :
    repeated (mk a).problem (mk a).pos ((earlier? items
        (((items.findIdx? fun x => sameName (name x) (name a)).map ofNat).map toNat) i).map posOf) =
      reportAt name mk items a i := by
  have hfirst : ∀ o : Option ℕ, (o.map ofNat).map toNat = o := fun o => by
    cases o <;> simp [hid]
  rw [hfirst, reportAt]
  cases earlier? items _ i with
  | none => rfl
  | some first => simp [repeated, Declaration.report, hreserved, hpos]

theorem fieldProblems_eq_reports (e : StructId × Struct) :
    (ofModel m).fieldProblems m e.1 e.2.name =
      withEarlier Declaration.reports [] (m.fieldDeclarations e) := by
  have hlisted : m.fieldDeclarations e =
      ((m.fieldsOf e.1).map Prod.snd).toArray.toList.map (Field.declaration e.1 e.2.name) := by
    simp [Model.fieldDeclarations]
  rw [hlisted, (declares_field e.1 e.2.name).withEarlier_eq, fieldProblems]
  refine congrArg (List.flatMap · _) (funext fun x => ?_)
  have hreport := repeated_eq_reportAt Field.name (Field.declaration e.1 e.2.name) Field.pos id id
    (fun _ => rfl) (fun _ => rfl) (fun _ => rfl) ((m.fieldsOf e.1).map Prod.snd).toArray x.1 x.2
  simp only [Option.map_id, id_eq, ← listed?_ofModel] at hreport
  exact hreport

theorem structProblems_eq_reportAt (e : StructId × Struct) :
    (ofModel m).structProblems m e.1 e.2 =
      reportAt Struct.name Struct.declaration m.structs e.2 e.1.index ++
        withEarlier Declaration.reports [] (m.fieldDeclarations e) := by
  rw [structProblems, fieldProblems_eq_reports, ofModel_eq_scan]
  exact congrArg (· ++ _) (repeated_eq_reportAt Struct.name Struct.declaration Struct.pos StructId.mk
    StructId.index (fun _ => rfl) (fun _ => rfl) (fun _ => rfl) m.structs e.2 e.1.index)

/-- Structures and their fields are reported as their declarations say. -/
theorem structProblems_eq_reports (m : Model) :
    (m.indexedStructs.flatMap fun e => (ofModel m).structProblems m e.1 e.2) =
      withEarlier Declaration.reports [] (m.indexedStructs.flatMap m.structDeclarations) := by
  have hstructs := @Model.withEarlier_structs m [] m.indexedStructs m.indexedStructs_pairwise
  rw [List.flatMap_nil] at hstructs
  rw [hstructs, withEarlier_eq_flatMap, List.length_nil, m.zipIdx_indexedStructs, List.flatMap_map]
  refine List.flatMap_congr fun e he => ?_
  rw [structProblems_eq_reportAt, ← declares_struct.reports_take (Model.mem_indexedStructs.1 he),
    List.map_take, ← m.map_declaration_indexedStructs, ← List.map_take]
  rfl

theorem enumProblems_eq_reports (m : Model) :
    (m.enums.toList.zipIdx.flatMap fun x => (ofModel m).enumProblems m ⟨x.2⟩ x.1) =
      withEarlier Declaration.reports [] (m.enums.toList.map Enumeration.declaration) := by
  rw [declares_enum.withEarlier_eq, ofModel_eq_scan]
  exact congrArg (List.flatMap · _) (funext fun x =>
    repeated_eq_reportAt Enumeration.name Enumeration.declaration Enumeration.pos EnumId.mk
      EnumId.index (fun _ => rfl) (fun _ => rfl) (fun _ => rfl) m.enums x.1 x.2)

theorem bitfieldProblems_eq_reports (m : Model) :
    (m.bitfields.toList.zipIdx.flatMap fun x => (ofModel m).bitfieldProblems m ⟨x.2⟩ x.1) =
      withEarlier Declaration.reports [] (m.bitfields.toList.map Bitfield.declaration) := by
  rw [declares_bitfield.withEarlier_eq, ofModel_eq_scan]
  exact congrArg (List.flatMap · _) (funext fun x =>
    repeated_eq_reportAt Bitfield.name Bitfield.declaration Bitfield.pos BitfieldId.mk
      BitfieldId.index (fun _ => rfl) (fun _ => rfl) (fun _ => rfl) m.bitfields x.1 x.2)

theorem roleProblems_eq_reports (m : Model) :
    (m.roles.toList.zipIdx.flatMap fun x => (ofModel m).roleProblems m ⟨x.2⟩ x.1) =
      withEarlier Declaration.reports [] (m.roles.toList.map Role.declaration) := by
  rw [declares_role.withEarlier_eq, ofModel_eq_scan]
  refine congrArg (List.flatMap · _) (funext fun x => ?_)
  have hfirst : ((scan m).role? x.1.name).map RoleId.index =
      m.roles.findIdx? fun r => sameName r.name x.1.name := by
    simp [scan, Model.findRole?, Function.comp_def]
  rw [roleProblems, hfirst, reportAt]
  cases earlier? m.roles _ x.2 <;> rfl

/-- Exactly the declarations whose name belongs to an earlier one are reported, in the order of the
declarations. -/
theorem problems_eq_reports (m : Model) : (ofModel m).problems m = m.reports := by
  have hstructs : ∀ d ∈ m.indexedStructs.flatMap m.structDeclarations,
      d.scope ≠ .enums ∧ d.scope ≠ .bitfields ∧ d.scope ≠ .roles := by
    intro d hd
    rcases Model.scope_of_mem_structDeclarations hd with h | ⟨e, -, h⟩ <;> simp [h]
  have henums : ∀ d ∈ m.enums.toList.map Enumeration.declaration,
      d.scope ≠ .bitfields ∧ d.scope ≠ .roles := by
    intro d hd
    simp [declares_enum.scope_of_mem hd]
  have hbitfields : ∀ d ∈ m.bitfields.toList.map Bitfield.declaration, d.scope ≠ .roles := by
    intro d hd
    simp [declares_bitfield.scope_of_mem hd]
  rw [problems, structProblems_eq_reports, enumProblems_eq_reports, bitfieldProblems_eq_reports,
    roleProblems_eq_reports, Model.reports, Model.declarations, withEarlier_append,
    withEarlier_append, withEarlier_append]
  simp only [List.nil_append]
  rw [withEarlier_reports (fun d hd => (hstructs d hd).1) fun d => declares_enum.scope_of_mem,
    withEarlier_reports (List.forall_mem_append.2 ⟨fun d hd => (hstructs d hd).2.1,
      fun d hd => (henums d hd).1⟩) fun d => declares_bitfield.scope_of_mem,
    withEarlier_reports (List.forall_mem_append.2 ⟨List.forall_mem_append.2
      ⟨fun d hd => (hstructs d hd).2.2, fun d hd => (henums d hd).2⟩, hbitfields⟩)
      fun d => declares_role.scope_of_mem]

end Namespace

/-- Nothing is reported exactly if no two declarations are namesakes. -/
theorem Model.reports_eq_nil {m : Model} :
    m.reports = [] ↔ m.declarations.Pairwise fun d e => d.namesake e = false := by
  have hnew : ∀ before d, Declaration.reports before d = [] ↔
      ∀ e ∈ before, e.namesake d = false := by
    intro before d
    simp [Declaration.reports, Declaration.namesake_comm d]
  simp only [Model.reports, withEarlier_eq_flatMap, List.flatMap_eq_nil_iff, Prod.forall, hnew,
    List.length_nil, List.nil_append, List.mem_zipIdx_iff_getElem?, Namespace.pairwise_iff_take]
  exact forall_comm

/-! ### one rule -/

/-- The item at a place is the first one of a name. -/
def FirstNamed {α : Type} (name : α → String) (items : Array α) (n : String) (i : Nat) : Prop :=
  (∃ a, items[i]? = some a ∧ Text.SameLetters (name a) n) ∧
    ∀ j b, j < i → items[j]? = some b → ¬ Text.SameLetters (name b) n

theorem findIdx?_eq_some_iff_firstNamed {α : Type} {name : α → String} {items : Array α}
    {n : String} {i : Nat} :
    items.findIdx? (fun a => sameName (name a) n) = some i ↔ FirstNamed name items n i := by
  simp only [Array.findIdx?_eq_some_iff_getElem, FirstNamed, Array.getElem?_eq_some_iff,
    ← Text.sameName_iff_letters]
  constructor
  · rintro ⟨hi, hname, hbefore⟩
    refine ⟨⟨_, ⟨hi, rfl⟩, hname⟩, ?_⟩
    rintro j _ hj ⟨_, rfl⟩
    exact hbefore j hj
  · rintro ⟨⟨_, ⟨hi, rfl⟩, hname⟩, hbefore⟩
    exact ⟨hi, hname, fun j hj => hbefore j _ hj ⟨by omega, rfl⟩⟩

/-- The index of names, a scan through the declarations and the reports about repeated names go by
one rule. -/
structure Model.NamesAgree (m : Model) : Prop where
  struct : ∀ n, (Namespace.ofModel m).struct? n = m.findStruct? n
  field : ∀ s n, (Namespace.ofModel m).field? s n = m.findField? s n
  role : ∀ n, (Namespace.ofModel m).role? n = m.findRole? n
  enum : ∀ n i, (Namespace.ofModel m).enum? n = some ⟨i⟩ ↔
    FirstNamed Enumeration.name m.enums n i
  bitfield : ∀ n i, (Namespace.ofModel m).bitfield? n = some ⟨i⟩ ↔
    FirstNamed Bitfield.name m.bitfields n i
  /-- Folded names and a comparison letter by letter tell the same names apart. -/
  same : ∀ a b, fold a = fold b ↔ Text.SameLetters a b
  /-- The declarations that are not the first of their name are reported, one by one. -/
  problems : (Namespace.ofModel m).problems m = m.reports
  /-- Nothing is reported if all names are distinct. -/
  distinct : (Namespace.ofModel m).problems m = [] ↔
    m.declarations.Pairwise fun d e => d.namesake e = false
  /-- Reports stand where the declarations do, and those about names that are not reserved say where
  the first declaration stands. -/
  worded : ∀ d first : Declaration, (d.report first).pos = some d.pos ∧
    (d.report first).isError = true ∧
    (d.report first).channel = (if first.reserved then .roles else .resolve) ∧
    (first.reserved = false → ∃ text, (d.report first).message = firstDeclared text first.pos)

/-- Names stand for the same declarations wherever they are looked up, in every model. -/
theorem namesAgree_of_any (m : Model) : m.NamesAgree where
  struct n := by rw [Namespace.ofModel_eq_scan, Namespace.scan]
  field s n := by rw [Namespace.ofModel_eq_scan, Namespace.scan]
  role n := by rw [Namespace.ofModel_eq_scan, Namespace.scan]
  enum n i := by
    rw [Namespace.ofModel_eq_scan, ← findIdx?_eq_some_iff_firstNamed]
    simp [Namespace.scan]
  bitfield n i := by
    rw [Namespace.ofModel_eq_scan, ← findIdx?_eq_some_iff_firstNamed]
    simp [Namespace.scan]
  same a b := by rw [← sameName_iff, Text.sameName_iff_letters]
  problems := Namespace.problems_eq_reports m
  distinct := by rw [Namespace.problems_eq_reports, Model.reports_eq_nil]
  worded := Declaration.report_worded

end ModelLinker
