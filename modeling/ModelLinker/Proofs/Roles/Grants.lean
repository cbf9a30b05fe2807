import Mathlib.Data.List.Nodup
import Mathlib.Data.Sym.Sym2
import ModelLinker.Proofs.Linked
import ModelLinker.Proofs.Relinked.Problems
import ModelLinker.Proofs.Reported
import ModelLinker.Proofs.Roles.Hierarchy

/-!
# Roles granted together

The roles of a role map are compared each with each, in both orders. Since the roles are a tree,
only one order of a pair counts, and a role never counts against itself: so every pair of roles of
which one lies above the other is reported once, however often and in whatever order the map names
them, and every entry is reported that names a role again (`RoleMap.ReportedOnce`). What is left
once a model is linked are maps of different roles, none above another (`RoleMap.Apart`).
-/

namespace ModelLinker

namespace RoleMap

variable {m : Model} {g : RoleMap}

/-- The entries of a map that name a role which an entry before them names. -/
def repeated (g : RoleMap) : List (RoleId × NameRef RoleId) :=
  withEarlier (fun earlier e => if e.1 ∈ earlier.map (·.1) then [e] else []) [] g.entries

/-- The entry is the first one to name its role. -/
def IsFirst (g : RoleMap) (e : RoleId × NameRef RoleId) : Prop :=
  g.entries.find? (·.1 == e.1) = some e

/-- The report that the first entry of a pair lies above the second. -/
def overlapProblem (m : Model) (p : (RoleId × NameRef RoleId) × (RoleId × NameRef RoleId)) :
    Diagnostic :=
  (Cause.roles (.overlappingGrant (m.roleName p.2.1) (m.roleName p.1.1))).at p.1.2.pos

/-- The pairs are those of a map of which one role lies above the other: all of them, each in one
order only, each with the entries that name its roles first. -/
structure Overlaps (m : Model) (g : RoleMap)
    (pairs : List ((RoleId × NameRef RoleId) × (RoleId × NameRef RoleId))) : Prop where
  once : (pairs.map fun p => s(p.1.1, p.2.1)).Nodup
  mem : ∀ a b, s(a, b) ∈ pairs.map (fun p => s(p.1.1, p.2.1)) ↔
    a ∈ g.resolved ∧ b ∈ g.resolved ∧ a ≠ b ∧ (m.isAncestor a b = true ∨ m.isAncestor b a = true)
  above : ∀ p ∈ pairs, m.isAncestor p.1.1 p.2.1 = true
  first : ∀ p ∈ pairs, g.IsFirst p.1 ∧ g.IsFirst p.2

/-- What is reported of a map: every entry that names a role again, every pair of roles of which one
lies above the other, and nothing else. -/
def ReportedOnce (m : Model) (g : RoleMap) : Prop :=
  ∃ pairs, g.Overlaps m pairs ∧
    g.problems m = repeatProblems g.repeated ++ pairs.map (overlapProblem m)

/-- All names of the map stand for roles that can be granted, all of them different, and none of them
above another. -/
structure Apart (m : Model) (g : RoleMap) : Prop where
  bound : ∀ r ∈ g.roles, ∃ id x, r.target = some id ∧ m.role? id = some x ∧
    Text.sameName x.name r.name ∧ id ≠ .none
  once : (g.roles.map NameRef.target).Nodup
  apart : ∀ a ∈ g.resolved, ∀ b ∈ g.resolved, m.isAncestor a b = false

/-! ### the first entry of every role -/

theorem resolved_eq_entries (g : RoleMap) : g.resolved = g.entries.map (·.1) := by
  rw [resolved, entries, List.map_filterMap]
  congr
  funext r
  cases r.target <;> rfl

/-- What is known of a list of entries split into the first ones and those that repeat a role. -/
structure Split (es first again : List (RoleId × NameRef RoleId)) : Prop where
  once : (first.map (·.1)).Nodup
  mem : ∀ e, e ∈ first ↔ es.find? (·.1 == e.1) = some e
  again : again = withEarlier (fun earlier e => if e.1 ∈ earlier.map (·.1) then [e] else []) [] es

/-- A role is among the first entries exactly if some entry names it. -/
theorem Split.mem_map {es first again : List (RoleId × NameRef RoleId)} (h : Split es first again)
    {id : RoleId} : id ∈ first.map (·.1) ↔ id ∈ es.map (·.1) := by
  constructor
  · intro hid
    obtain ⟨e, he, rfl⟩ := List.mem_map.1 hid
    exact List.mem_map_of_mem (List.mem_of_find?_eq_some ((h.mem e).1 he))
  · intro hid
    obtain ⟨e, he, rfl⟩ := List.mem_map.1 hid
    cases hfind : es.find? (·.1 == e.1) with
    | none => exact absurd (List.find?_eq_none.1 hfind e he) (by simp)
    | some x =>
      have hx : x.1 = e.1 := by simpa using List.find?_some hfind
      rw [← hx] at hfind ⊢
      exact List.mem_map_of_mem ((h.mem x).2 hfind)

theorem Split.again_append {es first again : List (RoleId × NameRef RoleId)}
    (h : Split es first again) (e : RoleId × NameRef RoleId) :
    withEarlier (fun earlier e => if e.1 ∈ earlier.map (·.1) then [e] else []) [] (es ++ [e]) =
      again ++ if e.1 ∈ es.map (·.1) then [e] else [] := by
  simp only [withEarlier_append, withEarlier, List.nil_append, List.append_nil, ← h.again]

/-- One more entry that repeats a role. -/
theorem Split.repeated {es first again : List (RoleId × NameRef RoleId)} (h : Split es first again)
    {e : RoleId × NameRef RoleId} (hold : e.1 ∈ es.map (·.1)) :
    Split (es ++ [e]) first (again ++ [e]) := by
  refine ⟨h.once, fun x => ?_, by rw [h.again_append, if_pos hold]⟩
  rw [h.mem, List.find?_append]
  cases hfind : es.find? (·.1 == x.1) with
  | some y => simp
  | none =>
    -- the role of the new entry has one before it, so it is not the role that none has
    have hne : e.1 ≠ x.1 := by
      intro heq
      obtain ⟨y, hy, hye⟩ := List.mem_map.1 hold
      exact List.find?_eq_none.1 hfind y hy (by simp [hye, heq])
    simp [hne]

/-- One more entry that is the first one of its role. -/
theorem Split.fresh {es first again : List (RoleId × NameRef RoleId)} (h : Split es first again)
    {e : RoleId × NameRef RoleId} (hfresh : e.1 ∉ es.map (·.1)) :
    Split (es ++ [e]) (first ++ [e]) again := by
  refine ⟨?_, fun x => ?_, by rw [h.again_append, if_neg hfresh, List.append_nil]⟩
  · simp only [List.map_append, List.map_cons, List.map_nil]
    refine List.nodup_append.2 ⟨h.once, by simp, ?_⟩
    rintro a ha b hb rfl
    obtain rfl : a = e.1 := by simpa using hb
    exact hfresh (h.mem_map.1 ha)
  · simp only [List.mem_append, List.mem_singleton, h.mem, List.find?_append]
    cases hfind : es.find? (·.1 == x.1) with
    | some y =>
      have hy : y.1 = x.1 := by simpa using List.find?_some hfind
      have hne : x ≠ e := by
        rintro rfl
        exact hfresh (hy ▸ List.mem_map_of_mem (List.mem_of_find?_eq_some hfind))
      simp [hne]
    | none =>
      constructor
      · rintro (h | rfl)
        · cases h
        · simp
      · intro h
        right
        simp only [Option.none_or, List.find?_singleton] at h
        split at h
        · exact (Option.some.inj h).symm
        · cases h

/-- One more entry: it is a first one, or it repeats a role. -/
theorem Split.step {es first again : List (RoleId × NameRef RoleId)} (h : Split es first again)
    (e : RoleId × NameRef RoleId) :
    Split (es ++ [e]) (if first.any (·.1 == e.1) then first else first ++ [e])
      (if first.any (·.1 == e.1) then again ++ [e] else again) := by
  have hany : first.any (·.1 == e.1) = true ↔ e.1 ∈ es.map (·.1) := by
    rw [← h.mem_map]
    simp
  by_cases hold : e.1 ∈ es.map (·.1)
  · rw [if_pos (hany.2 hold), if_pos (hany.2 hold)]
    exact h.repeated hold
  · rw [if_neg (mt hany.1 hold), if_neg (mt hany.1 hold)]
    exact h.fresh hold

theorem split_foldl (xs : List (RoleId × NameRef RoleId)) :
    ∀ {es first again}, Split es first again →
      Split (es ++ xs)
        (xs.foldl (fun (x : _ × _) e =>
          if x.1.any (·.1 == e.1) then (x.1, x.2 ++ [e]) else (x.1 ++ [e], x.2)) (first, again)).1
        (xs.foldl (fun (x : _ × _) e =>
          if x.1.any (·.1 == e.1) then (x.1, x.2 ++ [e]) else (x.1 ++ [e], x.2))
            (first, again)).2 := by
  induction xs with
  | nil => simp
  | cons e rest ih =>
    intro es first again h
    have hstep := h.step e
    rw [List.foldl_cons, ← List.singleton_append, ← List.append_assoc]
    dsimp only
    split
    all_goals
      rename_i hany
      simp only [hany, if_true, Bool.false_eq_true, if_false] at hstep
      exact ih hstep

/-- The entries of a map are split into the first of every role and those that repeat one. -/
theorem split_entries (g : RoleMap) :
    Split g.entries (splitRepeated g.entries).1 (splitRepeated g.entries).2 := by
  have hstart : Split [] [] [] := ⟨by simp, by simp, rfl⟩
  simpa [splitRepeated] using split_foldl g.entries hstart

/-! ### roles above one another -/

/-- The pairs of entries of which the first names a role above that of the second. -/
def nested (m : Model) (first : List (RoleId × NameRef RoleId)) :
    List ((RoleId × NameRef RoleId) × (RoleId × NameRef RoleId)) :=
  first.flatMap fun a => (first.filter fun d => m.isAncestor a.1 d.1).map fun d => (a, d)

theorem overlapProblems_eq (m : Model) (first : List (RoleId × NameRef RoleId)) :
    overlapProblems m first = (nested m first).map (overlapProblem m) := by
  simp [overlapProblems, nested, List.map_flatMap, overlapProblem, Function.comp_def]

theorem mem_nested {first : List (RoleId × NameRef RoleId)}
    {p : (RoleId × NameRef RoleId) × (RoleId × NameRef RoleId)} :
    p ∈ nested m first ↔ p.1 ∈ first ∧ p.2 ∈ first ∧ m.isAncestor p.1.1 p.2.1 = true := by
  obtain ⟨a, d⟩ := p
  simp only [nested, List.mem_flatMap, List.mem_map, List.mem_filter, Prod.mk.injEq]
  constructor
  · rintro ⟨a, ha, d, ⟨hd, had⟩, rfl, rfl⟩
    exact ⟨ha, hd, had⟩
  · rintro ⟨ha, hd, had⟩
    exact ⟨a, ha, d, ⟨hd, had⟩, rfl, rfl⟩

theorem nodup_nested {first : List (RoleId × NameRef RoleId)} (h : first.Nodup) :
    (nested m first).Nodup := by
  refine List.nodup_flatMap.2 ⟨fun a _ => (h.filter _).map fun d d' heq => (Prod.mk.inj heq).2, ?_⟩
  refine h.imp fun {a b} hne p hp hq => hne ?_
  obtain ⟨d, -, rfl⟩ := List.mem_map.1 hp
  obtain ⟨d', -, heq⟩ := List.mem_map.1 hq
  exact (Prod.mk.inj heq).1.symm

end RoleMap

namespace Model.RoleTree

variable {m : Model}

/-- No two roles lie above each other. -/
theorem not_isAncestor_of_isAncestor (h : m.RoleTree) {a b : RoleId}
    (hab : m.isAncestor a b = true) : m.isAncestor b a = false := by
  rw [Bool.eq_false_iff]
  intro hba
  have hself := h.trans hab hba
  rw [h.irrefl a] at hself
  cases hself

theorem ne_of_isAncestor (h : m.RoleTree) {a b : RoleId} (hab : m.isAncestor a b = true) :
    a ≠ b := by
  rintro rfl
  rw [h.irrefl a] at hab
  cases hab

/-- The nested pairs of the first entries of a map are its overlaps. -/
theorem overlaps_nested (h : m.RoleTree) {g : RoleMap}
    {first again : List (RoleId × NameRef RoleId)} (hsplit : RoleMap.Split g.entries first again) :
    g.Overlaps m (RoleMap.nested m first) := by
  -- an entry of a list that names every role once is known by its role
  have hsame : ∀ {a b}, a ∈ first → b ∈ first → a.1 = b.1 → a = b := fun ha hb heq =>
    List.inj_on_of_nodup_map hsplit.once ha hb heq
  constructor
  case once =>
    refine List.Nodup.map_on ?_ (RoleMap.nodup_nested hsplit.once.of_map)
    intro p hp q hq heq
    obtain ⟨hp₁, hp₂, hp⟩ := RoleMap.mem_nested.1 hp
    obtain ⟨hq₁, hq₂, hq⟩ := RoleMap.mem_nested.1 hq
    rcases Sym2.eq_iff.1 heq with ⟨h₁, h₂⟩ | ⟨h₁, h₂⟩
    · exact Prod.ext (hsame hp₁ hq₁ h₁) (hsame hp₂ hq₂ h₂)
    · rw [h₁, h₂, h.not_isAncestor_of_isAncestor hq] at hp
      cases hp
  case mem =>
    intro a b
    simp only [RoleMap.resolved_eq_entries, ← hsplit.mem_map]
    constructor
    · intro hab
      obtain ⟨p, hp, heq⟩ := List.mem_map.1 hab
      obtain ⟨hp₁, hp₂, hp⟩ := RoleMap.mem_nested.1 hp
      rcases Sym2.eq_iff.1 heq with ⟨rfl, rfl⟩ | ⟨rfl, rfl⟩
      · exact ⟨List.mem_map_of_mem hp₁, List.mem_map_of_mem hp₂, h.ne_of_isAncestor hp, .inl hp⟩
      · exact ⟨List.mem_map_of_mem hp₂, List.mem_map_of_mem hp₁, (h.ne_of_isAncestor hp).symm,
          .inr hp⟩
    · rintro ⟨ha, hb, -, hab⟩
      obtain ⟨x, hx, rfl⟩ := List.mem_map.1 ha
      obtain ⟨y, hy, rfl⟩ := List.mem_map.1 hb
      rcases hab with hab | hab
      · exact List.mem_map.2 ⟨(x, y), RoleMap.mem_nested.2 ⟨hx, hy, hab⟩, rfl⟩
      · exact List.mem_map.2 ⟨(y, x), RoleMap.mem_nested.2 ⟨hy, hx, hab⟩, Sym2.eq_swap⟩
  case above => exact fun p hp => (RoleMap.mem_nested.1 hp).2.2
  case first =>
    intro p hp
    obtain ⟨hp₁, hp₂, -⟩ := RoleMap.mem_nested.1 hp
    exact ⟨(hsplit.mem _).1 hp₁, (hsplit.mem _).1 hp₂⟩

/-- In a tree of roles every problem of a role map is reported once. -/
theorem reportedOnce (h : m.RoleTree) (g : RoleMap) : g.ReportedOnce m := by
  have hsplit := g.split_entries
  refine ⟨_, h.overlaps_nested hsplit, ?_⟩
  rw [RoleMap.repeated, ← hsplit.again, ← RoleMap.overlapProblems_eq]
  rfl

end Model.RoleTree

/-! ### role maps without problems -/

namespace RoleMap

variable {m : Model} {g : RoleMap}

theorem isError_overlapProblem (p : (RoleId × NameRef RoleId) × (RoleId × NameRef RoleId)) :
    (overlapProblem m p).isError = true := rfl

/-- Nothing is wrong with a map whose problems are reported only if no role is named twice, and no
role lies above another. -/
theorem ReportedOnce.of_isOk (h : g.ReportedOnce m)
    (hok : Diagnostics.isOk (g.problems m) = true) :
    g.repeated = [] ∧ ∀ a ∈ g.resolved, ∀ b ∈ g.resolved, a ≠ b → m.isAncestor a b = false := by
  obtain ⟨pairs, hpairs, heq⟩ := h
  rw [heq, Diagnostics.isOk_append, Bool.and_eq_true] at hok
  obtain ⟨hrepeat, hoverlap⟩ := hok
  have hnone : pairs = [] := by
    refine List.eq_nil_iff_forall_not_mem.2 fun p hp => ?_
    have := Diagnostics.isOk_iff_forall.1 hoverlap _ (List.mem_map_of_mem hp)
    rw [isError_overlapProblem] at this
    cases this
  constructor
  · refine List.eq_nil_iff_forall_not_mem.2 fun e he => ?_
    cases Diagnostics.isOk_iff_forall.1 hrepeat _ (List.mem_map_of_mem he)
  · intro a ha b hb hne
    rw [Bool.eq_false_iff]
    intro hab
    have := (hpairs.mem a b).2 ⟨ha, hb, hne, .inl hab⟩
    rw [hnone] at this
    cases this

theorem nodup_of_withEarlier {earlier es : List (RoleId × NameRef RoleId)}
    (h : withEarlier (fun earlier e => if e.1 ∈ earlier.map (·.1) then [e] else []) earlier es = []) :
    (es.map (·.1)).Nodup ∧ ∀ e ∈ es, e.1 ∉ earlier.map (·.1) := by
  induction es generalizing earlier with
  | nil => simp
  | cons e rest ih =>
    rw [withEarlier, List.append_eq_nil_iff] at h
    obtain ⟨hnodup, hlater⟩ := ih h.2
    have hnew : e.1 ∉ earlier.map (·.1) := fun hold => by
      rw [if_pos hold] at h
      cases h.1
    simp only [List.map_append, List.map_cons, List.map_nil, List.mem_append, List.mem_singleton,
      not_or] at hlater
    refine ⟨List.nodup_cons.2 ⟨fun hagain => ?_, hnodup⟩, fun x hx => ?_⟩
    · obtain ⟨x, hx, heq⟩ := List.mem_map.1 hagain
      exact (hlater x hx).2 heq
    · rcases List.mem_cons.1 hx with rfl | hx
      · exact hnew
      · exact (hlater x hx).1

theorem nodup_resolved (h : g.repeated = []) : g.resolved.Nodup := by
  rw [resolved_eq_entries]
  exact (nodup_of_withEarlier h).1

/-- The targets of a map all of whose names are bound. -/
theorem targets_eq (h : ∀ r ∈ g.roles, ∃ id, r.target = some id) :
    g.roles.map NameRef.target = g.resolved.map some := by
  obtain ⟨pos, roles⟩ := g
  simp only [resolved] at h ⊢
  induction roles with
  | nil => rfl
  | cons r rest ih =>
    simp only [List.mem_cons, forall_eq_or_imp] at h
    obtain ⟨⟨id, hid⟩, hrest⟩ := h
    simp [hid, ih hrest]

end RoleMap

namespace Model

variable {m : Model}

/-- A role map in a linked model is one of the model with bound names, and nothing was found wrong
with it. -/
theorem isOk_grantProblems (h : m.Faultless) {id : StructId} {s : Struct}
    (hs : m.linked.struct? id = some s) {op : Operation} (hop : op ∈ s.operations) {g : RoleMap}
    (hg : op.roles = some g) : Diagnostics.isOk (g.problems m.bound) = true := by
  obtain ⟨b, hb, hops⟩ := struct?_of_map_eq (map_linked_bound settled_operations) hs
  have hroles := h.roles
  simp only [linkRoles, Diagnostics.isOk_append, Bool.and_eq_true] at hroles
  have hgrants : Diagnostics.isOk (grantProblems m.bound) = true := hroles.1.2
  simp only [grantProblems, operations, Diagnostics.isOk_flatMap, List.mem_flatMap,
    Array.mem_toList_iff] at hgrants
  exact hgrants op ⟨b, Array.mem_of_getElem? hb, hops ▸ hop⟩ g (by simp [hg])

theorem mem_grants {s : Struct} {op : Operation} (hop : op ∈ s.operations) {g : RoleMap}
    (hg : op.roles = some g) {r : NameRef RoleId} (hr : r ∈ g.roles) : r ∈ s.grants :=
  List.mem_flatMap.2 ⟨op, hop, by simpa [hg] using hr⟩

end Model

/-- The role maps of a model linked from documents name different roles, none above another. -/
theorem apart_of_linkSources {set : SourceSet} (hset : set.Reached) {l : Linked}
    (h : linkSources set = .ok l) {id : StructId} {s : Struct} (hs : l.model.struct? id = some s)
    {op : Operation} (hop : op ∈ s.operations) {g : RoleMap} (hg : op.roles = some g) :
    g.Apart l.model := by
  obtain ⟨hbound, -⟩ := sound_of_linkSources hset h
  obtain ⟨-, hfault⟩ := faultless_of_linkWith h
  have htree : set.model.bound.RoleTree := (Model.roleTree_of_built hset.built).2
  have hnames : ∀ r ∈ g.roles, ∃ id x, r.target = some id ∧ l.model.role? id = some x ∧
      Text.sameName x.name r.name ∧ id ≠ .none := fun r hr =>
    hbound.grants hs r (Model.mem_grants hop hg hr)
  have hmodel := (Model.linked_of_linkWith h).1
  rw [hmodel] at hs
  obtain ⟨hrepeat, hoverlap⟩ :=
    (htree.reportedOnce g).of_isOk (Model.isOk_grantProblems hfault hs hop hg)
  -- stages after the roles keep them, and so which lies above which
  have hancestor : l.model.isAncestor = set.model.bound.isAncestor := by
    rw [hmodel]
    exact Model.isAncestor_congr (Model.linked_roles _)
  refine ⟨hnames, ?_, ?_⟩
  · rw [RoleMap.targets_eq fun r hr => (hnames r hr).imp fun id ⟨_, hid, _⟩ => hid]
    exact (RoleMap.nodup_resolved hrepeat).map fun a b => Option.some.inj
  · intro a ha b hb
    rw [hancestor]
    by_cases hab : a = b
    · rw [hab, htree.irrefl]
    · exact hoverlap a ha b hb hab

/-- A map that names all roles of two branches, some of them again, and a role that does not exist. -/
def tangledGrants : RoleMap where
  roles := [("right", some ⟨4⟩), ("all", some .all), ("Right", some ⟨4⟩), ("boss", none),
    ("left", some ⟨3⟩), ("none", some .none), ("ALL", some .all)].map fun (name, id) =>
      ⟨name, .ofFile "grants", id⟩
  pos := .ofFile "grants"

/-- Once a model from documents is linked, every role map names roles that are different and of which
none lies above another. Of every model, and every role map of bound and unbound names, linking
reports each repeated role and each pair of overlapping roles once. -/
theorem grantsApart_of_link :
    (∀ set l, SourceSet.Reached set → linkSources set = .ok l →
      ∀ s ∈ l.model.structs, ∀ op ∈ s.operations, ∀ g, op.roles = some g → g.Apart l.model) ∧
    ∀ m, Model.Built m → ∀ g : RoleMap,
      g.ReportedOnce (linkRoles (.ofModel m) m).1 ∧ g.ReportedOnce m.bound := by
  constructor
  · intro set l hset h s hs op hop g hg
    obtain ⟨i, hi, rfl⟩ := Array.getElem_of_mem hs
    have hs : l.model.struct? ⟨i⟩ = some l.model.structs[i] := Array.getElem?_eq_getElem hi
    exact apart_of_linkSources hset h hs hop hg
  · intro m hm g
    obtain ⟨hroles, hbound⟩ := Model.roleTree_of_built hm
    exact ⟨hroles.reportedOnce g, hbound.reportedOnce g⟩

theorem grantsApart_of_staffSet :
    (∃ l, linkSources staffSet = .ok l ∧
      ∀ s ∈ l.model.structs, ∀ op ∈ s.operations, ∀ g, op.roles = some g → g.Apart l.model) ∧
    Model.tangledRoles.Built ∧
      (tangledGrants.problems (linkRoles (.ofModel Model.tangledRoles) Model.tangledRoles).1).length = 6 ∧
      tangledGrants.ReportedOnce (linkRoles (.ofModel Model.tangledRoles) Model.tangledRoles).1 ∧
      tangledGrants.ReportedOnce Model.tangledRoles.bound := by
  obtain ⟨l, hset, -⟩ := staffSet_links
  exact ⟨⟨l, hset, grantsApart_of_link.1 staffSet l staffSet_reached hset⟩,
    Model.built_tangledRoles, by rw [Namespace.ofModel_eq_scan]; decide +kernel,
    grantsApart_of_link.2 Model.tangledRoles Model.built_tangledRoles tangledGrants⟩

end ModelLinker
