import ModelLinker.Linking

/-!
# Where diagnostics come from

Every stage of a linking run reports in channels of its own (`Diagnostics.Within`), and never
anything fatal: names and references are resolved in `resolve`, redeclared reserved roles and grants
are reported in `roles`, and so on. So an error of one stage is never counted for another. Only
roles and searches are ever warned of; the other stages report errors or nothing (`Within.eq_nil`).
A run can be ended early by its seed alone, and then it ends before structures are put in order
(`linkRun_eq`).
-/

namespace ModelLinker

/-- What a stage reports itself, in contrast to notes from outside. -/
@[simp] def Cause.isReported : Cause → Bool
  | .note _ _ _ => false
  | _ => true

@[simp] theorem RoleProblem.severity_ne_fatal (p : RoleProblem) : p.severity ≠ .fatal := by
  cases p <;> simp [RoleProblem.severity]

@[simp] theorem SearchProblem.severity_ne_fatal (p : SearchProblem) : p.severity ≠ .fatal := by
  cases p <;> simp [SearchProblem.severity]

@[simp] theorem Change.severity_ne_fatal (c : Change) : c.severity ≠ .fatal := by
  cases c <;> simp [Change.severity]

theorem Cause.severity_ne_fatal {c : Cause} (h : c.isReported = true) : c.severity ≠ .fatal := by
  cases c <;> simp_all

namespace Diagnostics

/-- Diagnostics that come from some stages only, none of them from outside. -/
def Within (channels : List Channel) (ds : Diagnostics) : Prop :=
  ∀ d ∈ ds, d.channel ∈ channels ∧ d.cause.isReported = true

variable {channels : List Channel} {a b ds : Diagnostics} {c : Channel}

theorem Within.mono {channels' : List Channel} (h : Within channels ds)
    (hsub : ∀ c ∈ channels, c ∈ channels') : Within channels' ds :=
  fun d hd => ⟨hsub _ (h d hd).1, (h d hd).2⟩

theorem Within.hasFatal (h : Within channels ds) : hasFatal ds = false := by
  simp only [Diagnostics.hasFatal, Diagnostic.isFatal, List.any_eq_false, beq_iff_eq]
  exact fun d hd => Cause.severity_ne_fatal (h d hd).2

/-- Stages that have no warnings report errors or nothing. -/
theorem Within.eq_nil (h : Within [.resolve, .unique, .recursion, .aliases] ds)
    (hok : isOk ds = true) : ds = [] := by
  rw [List.eq_nil_iff_forall_not_mem]
  intro d hd
  obtain ⟨hchannel, hreported⟩ := h d hd
  have herror := isOk_iff_forall.1 hok d hd
  obtain ⟨cause, pos, related⟩ := d
  cases cause <;>
    simp_all [Diagnostic.isError, Diagnostic.severity, Diagnostic.channel, Cause.channel]

/-- Nothing is found of a stage that had no part in it. -/
theorem Within.filter_channel (h : Within channels ds) (hc : c ∉ channels) :
    ds.filter (·.channel = c) = [] := by
  simp only [List.filter_eq_nil_iff, decide_eq_true_eq]
  rintro d hd rfl
  exact hc (h d hd).1

/-! ### lists of diagnostics -/

@[simp] theorem channel_at (cause : Cause) (pos : Pos) : (cause.at pos).channel = cause.channel :=
  rfl

@[simp] theorem cause_at (cause : Cause) (pos : Pos) : (cause.at pos).cause = cause := rfl

@[simp] theorem within_nil : Within channels [] := by simp [Within]

@[simp] theorem within_cons {d : Diagnostic} :
    Within channels (d :: ds) ↔
      (d.channel ∈ channels ∧ d.cause.isReported = true) ∧ Within channels ds :=
  List.forall_mem_cons

@[simp] theorem within_append :
    Within channels (a ++ b) ↔ Within channels a ∧ Within channels b :=
  List.forall_mem_append

@[simp] theorem within_flatMap {α : Type} {xs : List α} {f : α → Diagnostics} :
    Within channels (xs.flatMap f) ↔ ∀ x ∈ xs, Within channels (f x) := by
  simp only [Within, List.mem_flatMap]
  exact ⟨fun h x hx d hd => h d ⟨x, hx, hd⟩, fun h d ⟨x, hx, hd⟩ => h x hx d hd⟩

@[simp] theorem within_map {α : Type} {xs : List α} {f : α → Diagnostic} :
    Within channels (xs.map f) ↔
      ∀ x ∈ xs, (f x).channel ∈ channels ∧ (f x).cause.isReported = true :=
  List.forall_mem_map

@[simp] theorem within_ite {p : Prop} [Decidable p] :
    Within channels (if p then a else b) ↔ (p → Within channels a) ∧ (¬p → Within channels b) := by
  split <;> simp_all

theorem within_withEarlier {α : Type} {f : List α → α → Diagnostics} {earlier xs : List α}
    (h : ∀ earlier x, Within channels (f earlier x)) :
    Within channels (withEarlier f earlier xs) := by
  induction xs generalizing earlier with
  | nil => exact within_nil
  | cons x xs ih => exact within_append.2 ⟨h earlier x, ih⟩

end Diagnostics

open Diagnostics

/-! ### names -/

namespace Namespace

variable (names : Namespace) (m : Model)

theorem within_repeated {problem : Pos → ResolveProblem} {pos : Pos} {first : Option Pos} :
    Within [.resolve, .roles] (repeated problem pos first) :=
  within_map.2 fun _ _ => ⟨List.mem_cons_self, rfl⟩

theorem within_problems : Within [.resolve, .roles] (names.problems m) := by
  simp only [problems, structProblems, fieldProblems, enumProblems, bitfieldProblems, roleProblems,
    within_append, within_flatMap, within_repeated, within_map, implies_true, and_true, true_and]
  intro r _ first _
  split <;> exact ⟨by simp [Cause.channel], rfl⟩

end Namespace

/-! ### references -/

section Resolve

variable (names : Namespace) (m : Model)

theorem within_enumProblems : Within [.resolve] (enumProblems m) := by
  simp only [enumProblems, within_flatMap, Enumeration.problems]
  exact fun e _ => within_withEarlier fun earlier i => by
    simp [Enumeration.itemProblems, Cause.channel]

theorem within_bitfieldProblems : Within [.resolve] (bitfieldProblems m) := by
  simp only [bitfieldProblems, within_flatMap, Bitfield.problems]
  exact fun b _ => within_withEarlier fun earlier i => by
    simp [Bitfield.itemProblems, Cause.channel]

theorem within_allRowidProblems : Within [.resolve] (allRowidProblems m) := by
  simp only [allRowidProblems, within_flatMap]
  exact fun id _ => within_withEarlier fun earlier e => by
    simp [rowidProblems, Cause.channel]

theorem within_valueTypeProblems : Within [.resolve] (valueTypeProblems names m) := by
  simp only [valueTypeProblems, within_flatMap]
  intro f _
  unfold FieldType.valueProblems
  split <;> simp [Cause.channel]

theorem within_foreignKeyProblems : Within [.resolve] (foreignKeyProblems names m) := by
  simp only [foreignKeyProblems, within_flatMap]
  intro f _
  unfold Field.foreignProblems
  split
  · exact within_nil
  · split <;> simp [Cause.channel]

theorem within_structFieldProblems : Within [.resolve] (structFieldProblems names m) := by
  simp only [structFieldProblems, within_flatMap]
  intro f _
  unfold Field.structProblems
  split
  · split <;> simp [Cause.channel]
  · exact within_nil

theorem within_validationProblems : Within [.resolve] (validationProblems m) := by
  simp only [validationProblems, within_flatMap]
  intro f _
  unfold Field.validationProblems
  split <;> simp [Cause.channel]

theorem within_walkPath {use : PathUse} {dotted : String} {origin : StructId}
    {path : List (NameRef FieldId)} :
    Within [.resolve] (walkPath names m use dotted origin path).2 := by
  induction path generalizing origin with
  | nil => exact within_nil
  | cons r rest ih =>
    unfold walkPath
    split
    · simp [Cause.channel]
    · split
      · simp [Cause.channel]
      · split
        · simp [Cause.channel]
        · exact ih

theorem walkDistinct_error {origin : StructId} {path path' : List (NameRef FieldId)}
    {problem : Diagnostic} (h : walkDistinct names m origin path = (path', .error problem)) :
    Within [.resolve] [problem] := by
  induction path generalizing origin path' with
  | nil => simp [walkDistinct] at h
  | cons r rest ih =>
    unfold walkDistinct at h
    split at h
    · simp only [Prod.mk.injEq, Except.error.injEq] at h
      simp [← h.2, Cause.channel]
    · split at h
      · simp only [Prod.mk.injEq, Except.error.injEq] at h
        simp [← h.2, Cause.channel]
      · rename_i next _
        simp only [Prod.mk.injEq] at h
        exact @ih next (walkDistinct names m next rest).1 (Prod.ext rfl h.2)

theorem within_resolveDistinct {origin : StructId} {d : Distinct} :
    Within [.resolve] (resolveDistinct names m origin d).2 := by
  unfold resolveDistinct
  split
  · exact within_nil
  · rename_i h
    exact walkDistinct_error names m h

theorem within_resolveLocal {use : LocalUse} {origin : StructId} {r : NameRef FieldId} :
    Within [.resolve] (resolveLocal names m use origin r).2 := by
  unfold resolveLocal
  split
  · simp [Cause.channel]
  · split <;> simp [Cause.channel]

theorem within_resolveAll {α : Type} {f : α → α × Diagnostics} {xs : List α}
    {channels : List Channel} (h : ∀ x, Within channels (f x).2) :
    Within channels (resolveAll f xs).2 :=
  within_flatMap.2 fun x _ => h x

theorem within_resolveOption {α : Type} {f : α → α × Diagnostics} {x : Option α}
    {channels : List Channel} (h : ∀ x, Within channels (f x).2) :
    Within channels (resolveOption f x).2 :=
  within_flatMap.2 fun x _ => h x

theorem within_resolveSearch {origin : StructId} {s : Search} :
    Within [.resolve] (resolveSearch names m origin s).2 := by
  simp only [resolveSearch, within_append]
  exact ⟨⟨⟨⟨within_resolveAll fun _ => within_walkPath names m,
    within_resolveAll fun _ => within_walkPath names m⟩,
    within_resolveOption fun _ => within_walkPath names m⟩,
    within_resolveOption fun _ => within_walkPath names m⟩,
    within_resolveOption fun _ => within_resolveDistinct names m⟩

theorem within_resolveUpdate {origin : StructId} {u : Update} :
    Within [.resolve] (resolveUpdate names m origin u).2 := by
  simp only [resolveUpdate, within_append]
  refine ⟨⟨?_, within_resolveAll fun _ => within_resolveLocal names m⟩,
    within_resolveAll fun _ => within_resolveLocal names m⟩
  simp [Update.emptyProblems, Cause.channel]

theorem within_queryProblems : Within [.resolve] (queryProblems names m) := by
  simp only [queryProblems, within_flatMap, resolveStruct, within_append]
  exact fun s _ => ⟨⟨within_resolveAll fun _ => within_resolveSearch names m,
    within_resolveAll fun _ => within_resolveUpdate names m⟩,
    within_resolveAll fun _ => within_resolveAll fun _ => within_resolveLocal names m⟩

theorem within_resolve : Within [.resolve] (resolve names m).2 := by
  simp only [resolve, within_append]
  exact ⟨⟨⟨⟨⟨⟨⟨within_enumProblems _, within_bitfieldProblems _⟩, within_allRowidProblems _⟩,
    within_valueTypeProblems _ _⟩, within_foreignKeyProblems _ _⟩, within_structFieldProblems _ _⟩,
    within_validationProblems _⟩, within_queryProblems _ _⟩

end Resolve

/-! ### constraints and roles -/

theorem within_uniqueProblems (m : Model) : Within [.unique] (uniqueProblems m) := by
  simp only [uniqueProblems, within_flatMap]
  intro s _
  induction s.uniques with
  | nil => exact within_nil
  | cons u rest ih => simp [clashProblems, ih, Cause.channel]

theorem within_linkRoles (names : Namespace) (m : Model) :
    Within [.roles] (linkRoles names m).2 := by
  simp only [linkRoles, within_append]
  refine ⟨⟨⟨⟨?_, ?_⟩, ?_⟩, ?_⟩, ?_⟩
  · simp only [parentProblems, within_flatMap]
    intro r _
    unfold Role.parentProblems
    split
    · exact within_nil
    · split
      · exact within_nil
      · split <;> simp [Cause.channel]
  · simp [cycleProblems, Cause.channel]
  · simp only [grantNameProblems, RoleMap.nameProblems, within_flatMap]
    intro op _ g _ r _
    split <;> simp [Cause.channel]
  · simp [grantProblems, RoleMap.problems, repeatProblems, overlapProblems, Cause.channel]
  · simp [reachabilityProblems, Cause.channel]

/-! ### structures and searches -/

theorem within_recursionProblems (m : Model) : Within [.recursion] (recursionProblems m) := by
  simp [recursionProblems, Cause.channel]

theorem within_joinsFrom {m : Model} {count : Nat} {ids : List StructId} :
    Within [.aliases] (joinsFrom m count ids).2.2 := by
  induction ids generalizing count with
  | nil => exact within_nil
  | cons id rest ih =>
    unfold joinsFrom
    split
    · simp [Cause.channel]
    · exact ih

theorem within_assignJoins (m : Model) : Within [.aliases] (assignJoins m).2.2 := within_joinsFrom

theorem within_searchProblems (m : Model) : Within [.search] (searchProblems m) := by
  simp only [searchProblems, within_flatMap, within_append]
  refine fun s _ x _ => ⟨?_, ?_⟩
  · simp only [Search.conditionProblems, within_ite, within_append, within_flatMap]
    refine ⟨fun _ => ⟨fun _ => by simp [Cause.channel], fun _ => within_nil⟩, fun _ => ⟨?_, ?_⟩⟩
    · unfold Search.rowProblems
      split <;> simp [Cause.channel]
    · simp [Predicate.problems, Cause.channel]
  · unfold Search.groupProblems
    split
    · exact within_nil
    · simp [Cause.channel]
    · simp [Cause.channel]
    · split
      · simp [groupedProblems, Cause.channel]
      · exact within_nil

/-! ### a whole run -/

theorem recursion_orderStructs (m : Model) : (orderStructs m).recursion = recursionProblems m := by
  cases hrec : isOk (recursionProblems m) <;> simp [orderStructs, hrec]

theorem within_orderStructs (m : Model) : Within [.recursion, .aliases] (orderStructs m).found := by
  have hrecursion : Within [.recursion, .aliases] (recursionProblems m) :=
    (within_recursionProblems m).mono (by simp)
  cases hrec : isOk (recursionProblems m) with
  | true => simpa [orderStructs, hrec] using ⟨hrecursion, (within_assignJoins m).mono (by simp)⟩
  | false => simpa [orderStructs, hrec] using hrecursion

/-- Once the names of a model are bound without anything fatal, a run goes on to its end. -/
theorem linkRun_eq (seed : Diagnostics) (m : Model) :
    linkRun seed m =
      if m.structs.isEmpty then
        ([], .error (seed ++ [⟨.resolve .noStructs, none, none⟩]))
      else
        let bound := bindModel seed m
        if hasFatal bound.diagnostics then
          abortLinking bound.steps bound.diagnostics
        else
          let ordered := orderStructs bound.model
          let marked := markUniqueSearches ordered.model
          let searches := searchProblems marked
          finishLinking (bound.steps ++ ordered.steps ++ [.searchesChecked searches]) marked
            ordered.topology (bound.diagnostics ++ ordered.found ++ searches) := by
  have hrecursion : ∀ m, hasFatal (orderStructs m).recursion = false := fun m => by
    rw [recursion_orderStructs]
    exact (within_recursionProblems m).hasFatal
  have hfound : ∀ m, hasFatal (orderStructs m).found = false := fun m =>
    (within_orderStructs m).hasFatal
  have hsearches : ∀ m, hasFatal (searchProblems m) = false := fun m =>
    (within_searchProblems m).hasFatal
  cases hfatal : hasFatal (bindModel seed m).diagnostics with
  | true => simp only [linkRun, hfatal, if_true]
  | false => simp only [linkRun, hasFatal_append, hfatal, hrecursion, hfound, hsearches,
      Bool.or_false, Bool.false_eq_true, if_false]

end ModelLinker
