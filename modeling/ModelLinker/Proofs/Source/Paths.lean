import ModelLinker.Proofs.Reported
import ModelLinker.Proofs.Source.Stated
import ModelLinker.Proofs.Trimmed

/-!
# Dotted names of documents

Paths of fields and targets of foreign keys are dotted texts. What is read of a path are its pieces
without the blanks at their ends (`Source.path_ok_iff`), and it can be written and read again
(`Source.PathOf`). A target is a path of two names (`Source.foreignKey_ok_iff`). Every text that
cannot be read leaves one error, in a search (`Source.oneEach_search`) and in a field
(`Source.field_problems_of_reference`).
-/

namespace ModelLinker

open List (Forall₂)
open Text (Cuts HasInk Tight Trims parsePath? parseTarget? trim trimChars)

namespace FieldPath

theorem dottedNames_concat {steps : List (NameRef FieldId)} (h : steps ≠ [])
    (last : NameRef FieldId) :
    dottedNames (steps ++ [last]) = dottedNames steps ++ "." ++ last.name := by
  induction steps with
  | nil => exact absurd rfl h
  | cons r rest ih =>
    cases rest with
    | nil => simp [dottedNames]
    | cons r' rest =>
      have hrest := ih (List.cons_ne_nil _ _)
      simp only [dottedNames, List.cons_append, List.map_cons,
        String.intercalate_cons_cons] at hrest ⊢
      rw [hrest]
      simp only [String.append_assoc]

/-- The steps of a path, a dot, and the name at its end are the whole path. -/
theorem dotted_of_two_le {p : FieldPath} (h : 2 ≤ p.segments.length) :
    ∃ steps last, p.joinPath = some steps ∧ p.segments.getLast? = some last ∧
      p.dotted = steps ++ "." ++ last.name := by
  obtain hp | ⟨steps, last, hp⟩ := List.eq_nil_or_concat p.segments
  · simp [hp] at h
  · rw [List.concat_eq_append] at hp
    obtain ⟨r, rest, rfl⟩ : ∃ r rest, steps = r :: rest := by
      refine List.exists_cons_of_ne_nil ?_
      rintro rfl
      simp [hp] at h
    refine ⟨dottedNames (r :: rest), last, ?_, by rw [hp, List.getLast?_concat], ?_⟩
    · rw [joinPath, hp, List.dropLast_concat]
    · rw [dotted, hp, dottedNames_concat (List.cons_ne_nil _ _)]

end FieldPath

namespace Text

/-- No part is blank. -/
def NoneBlank (parts : List String) : Prop := ∀ p ∈ parts, HasInk p.toList

theorem trim_trim (s : String) : trim (trim s) = trim s := by
  simp only [trim, String.toList_ofList, trimChars_of_tight (tight_trimChars _)]

theorem trim_ne_empty {s : String} : trim s ≠ "" ↔ HasInk s.toList := by
  rw [← trimChars_ne_nil, trim, ne_eq, ne_eq, ← String.toList_inj, String.toList_ofList]
  rfl

theorem dotless_trim {s : String} (h : '.' ∉ s.toList) : '.' ∉ (trim s).toList := by
  rw [trim, String.toList_ofList]
  exact fun hdot => h ((trims_trimChars _).subset hdot)

/-- The text in which the trimmed parts of another one are joined is cut into these again. -/
theorem Cuts.trimmed {s : String} {parts : List String} (h : Cuts s parts) :
    Cuts (joinDots (parts.map trim)) (parts.map trim) where
  nonempty := by simpa using h.nonempty
  dotless := List.forall_mem_map.2 fun p hp => dotless_trim (h.dotless p hp)
  joined := rfl

theorem Cuts.parsePath? {s : String} {parts names : List String} (h : Cuts s parts) :
    parsePath? s = some names ↔ NoneBlank parts ∧ names = parts.map trim := by
  rw [parsePath?_eq_some, ← cuts_iff.1 h, List.forall_mem_map, List.map_map]
  rfl

end Text

open Text (NoneBlank)

namespace Source

variable {s : String} {parts : List String} {pos : Pos} {p : FieldPath}

/-! ### paths -/

/-- A path that was read from a text with these parts. -/
structure PathOf (parts : List String) (pos : Pos) (p : FieldPath) : Prop where
  trimmed : Forall₂ (fun part r => Trims part.toList r.name.toList) parts p.segments
  names : ∀ r ∈ p.segments, r.name ≠ "" ∧ '.' ∉ r.name.toList ∧ Tight r.name.toList
  unbound : p.join = none ∧ p.pos = pos ∧ ∀ r ∈ p.segments, r = refAt pos r.name
  steps : 2 ≤ p.segments.length → ∃ steps last, p.joinPath = some steps ∧
    p.segments.getLast? = some last ∧ p.dotted = steps ++ "." ++ last.name
  reread : path p.dotted pos = .ok p

theorem path_eq (s : String) (pos : Pos) :
    path s pos = match parsePath? s with
      | some names => .ok ⟨names.map (refAt pos), pos, none⟩
      | none => .error (problemAt (.malformedPath s) pos) := rfl

/-- A path is read if no part of it is blank, and its names are the trimmed parts. -/
theorem path_ok_iff (h : Cuts s parts) : path s pos = .ok p ↔
    NoneBlank parts ∧ p = ⟨(parts.map trim).map (refAt pos), pos, none⟩ := by
  rw [path_eq]
  cases hread : parsePath? s with
  | none =>
    have hblank : ¬ NoneBlank parts := fun hink => by
      rw [h.parsePath?.2 ⟨hink, rfl⟩] at hread
      cases hread
    simp [hblank]
  | some names =>
    obtain ⟨hink, rfl⟩ := h.parsePath?.1 hread
    simp [hink, eq_comm]

/-- Otherwise one error says so. -/
theorem path_error_iff (h : Cuts s parts) {d : Diagnostic} : path s pos = .error d ↔
    ¬ NoneBlank parts ∧ d = problemAt (.malformedPath s) pos := by
  constructor
  · intro herror
    refine ⟨fun hink => ?_, path_eq_error herror⟩
    rw [(path_ok_iff h).2 ⟨hink, rfl⟩] at herror
    cases herror
  · rintro ⟨hblank, rfl⟩
    cases hpath : path s pos with
    | ok p => exact absurd ((path_ok_iff h).1 hpath).1 hblank
    | error d => rw [path_eq_error hpath]

theorem pathOf_of_path (h : Cuts s parts) (hp : path s pos = .ok p) : PathOf parts pos p := by
  obtain ⟨hink, rfl⟩ := (path_ok_iff h).1 hp
  have hdotted : FieldPath.dotted ⟨(parts.map trim).map (refAt pos), pos, none⟩ =
      Text.joinDots (parts.map trim) := by
    simp [FieldPath.dotted, FieldPath.dottedNames, Text.joinDots, Function.comp_def, refAt,
      NameRef.unbound]
  have hname : ∀ r : NameRef FieldId, r ∈ (parts.map trim).map (refAt pos) →
      ∃ q ∈ parts, refAt pos (trim q) = r := by
    simp
  refine ⟨?_, fun r hr => ?_, ⟨rfl, rfl, fun r hr => ?_⟩, FieldPath.dotted_of_two_le, ?_⟩
  · rw [List.map_map, List.forall₂_map_right_iff, List.forall₂_same]
    intro q _
    simp only [Function.comp_apply, refAt, NameRef.unbound, trim, String.toList_ofList]
    exact Text.trims_trimChars q.toList
  · obtain ⟨q, hq, rfl⟩ := hname r hr
    refine ⟨Text.trim_ne_empty.2 (hink q hq), Text.dotless_trim (h.dotless q hq), ?_⟩
    simp only [refAt, NameRef.unbound, trim, String.toList_ofList]
    exact Text.tight_trimChars q.toList
  · obtain ⟨q, -, rfl⟩ := hname r hr
    rfl
  · -- the parts are trimmed already, so they are read as they are
    rw [hdotted, path_ok_iff h.trimmed]
    refine ⟨List.forall_mem_map.2 fun q hq => ?_, ?_⟩
    · rw [← Text.trim_ne_empty, Text.trim_trim]
      exact Text.trim_ne_empty.2 (hink q hq)
    · simp [Function.comp_def, Text.trim_trim]

/-! ### targets -/

/-- A foreign key is read exactly if its target is a path of two names, and these are its names. -/
theorem foreignKey_ok_iff {r : Decl.Reference} {k : ForeignKey} : foreignKey r pos = .ok k ↔
    ∃ struct field, path r.target pos = .ok ⟨[refAt pos struct, refAt pos field], pos, none⟩ ∧
      k = { targetStruct := refAt pos struct, targetField := refAt pos field,
            onUpdate := r.onUpdate, onDelete := r.onDelete, pos } := by
  have htwo : ∀ struct field : String,
      path r.target pos = .ok ⟨[refAt pos struct, refAt pos field], pos, none⟩ ↔
        parseTarget? r.target = some (struct, field) := by
    intro struct field
    rw [path_eq, Text.parseTarget?_eq_some]
    cases parsePath? r.target with
    | none => simp
    | some names =>
      have hinj : Function.Injective (refAt pos : String → NameRef FieldId) := fun _ _ hab =>
        congrArg NameRef.name hab
      have hmap := (List.map_injective_iff.2 hinj).eq_iff (a := names) (b := [struct, field])
      simp only [List.map_cons, List.map_nil] at hmap
      simp [hmap]
  simp only [htwo, foreignKey]
  cases parseTarget? r.target with
  | none => simp
  | some halves =>
    obtain ⟨struct, field⟩ := halves
    simp [eq_comm]

theorem exists_foreignKey_iff {r : Decl.Reference} : (∃ k, foreignKey r pos = .ok k) ↔
    ∃ p, path r.target pos = .ok p ∧ p.segments.length = 2 := by
  simp only [foreignKey_ok_iff]
  constructor
  · rintro ⟨k, struct, field, hp, -⟩
    exact ⟨_, hp, rfl⟩
  · rintro ⟨p, hp, hlen⟩
    rw [path_eq] at hp
    cases hread : parsePath? r.target with
    | none => simp [hread] at hp
    | some names =>
      simp only [hread, Except.ok.injEq] at hp
      subst hp
      rw [List.length_map, List.length_eq_two] at hlen
      obtain ⟨struct, field, rfl⟩ := hlen
      exact ⟨_, struct, field, by rw [path_eq, hread]; rfl, rfl⟩

/-- Otherwise one error says so. -/
theorem foreignKey_error_iff {r : Decl.Reference} {d : Diagnostic} :
    foreignKey r pos = .error d ↔
      (¬ ∃ p, path r.target pos = .ok p ∧ p.segments.length = 2) ∧
        d = problemAt (.malformedTarget r.target) pos := by
  have herror : ∀ d, foreignKey r pos = .error d → d = problemAt (.malformedTarget r.target) pos := by
    intro d h
    unfold foreignKey at h
    split at h
    · cases h
    · exact (Except.error.inj h).symm
  rw [← exists_foreignKey_iff]
  constructor
  · refine fun h => ⟨?_, herror d h⟩
    rintro ⟨k, hk⟩
    rw [hk] at h
    cases h
  · rintro ⟨hnone, rfl⟩
    cases hkey : foreignKey r pos with
    | ok k => exact absurd ⟨k, hkey⟩ hnone
    | error d => rw [herror d hkey]

/-! ### what is reported -/

/-- The dotted texts of a search, with the positions they are read at. A blank projection is no
path. -/
def dottedTexts (file : String) (d : Decl.Search) : List (String × Pos) :=
  let pos := posIn file d.place
  d.params.map (fun x => (x.field, posOr file pos x.place)) ++
    d.order.map (fun x => (x.field, posOr file pos x.place)) ++
    d.aggregate.toList.map (fun x => (x.field, posOr file pos x.place)) ++
    d.group.toList.map (·, pos) ++
    (d.distinct.toList.filter fun s => !(trim s).isEmpty).map (·, pos)

/-- The error of a text that is no path. -/
def textProblems (x : String × Pos) : Diagnostics := refused [path x.1 x.2]

/-- What is refused among things that are made of paths is what is refused of the paths. -/
theorem refused_map {α β : Type} {make : α → Made β} {text : α → String × Pos} (xs : List α)
    (h : ∀ x ∈ xs, refused [make x] = textProblems (text x)) :
    refused (xs.map make) = (xs.map text).flatMap textProblems := by
  induction xs with
  | nil => rfl
  | cons x rest ih =>
    obtain ⟨hx, hrest⟩ := List.forall_mem_cons.1 h
    have hsplit : refused (make x :: rest.map make) = refused [make x] ++ refused (rest.map make) := by
      rw [refused, refused, refused, ← List.filterMap_append]
      rfl
    rw [List.map_cons, hsplit, hx, ih hrest, List.map_cons, List.flatMap_cons]

theorem refused_path_map {β : Type} (f : FieldPath → β) (s : String) (pos : Pos) :
    refused [(path s pos).map f] = textProblems (s, pos) := by
  rw [textProblems]
  cases path s pos <;> rfl

/-- A search says of its dotted texts, one after another, which of them are no paths. -/
theorem search_problems_eq (file : String) (d : Decl.Search) :
    (search file d).2 = (dottedTexts file d).flatMap textProblems := by
  have hdistinct : ∀ pos, refused (d.distinct.toList.map (distinct · pos)) =
      ((d.distinct.toList.filter fun s => !(trim s).isEmpty).map (·, pos)).flatMap
        textProblems := by
    intro pos
    cases d.distinct with
    | none => rfl
    | some s =>
      rw [Option.toList_some, List.map_singleton, distinct]
      split
      · rename_i hblank
        rw [List.filter_cons_of_neg (by simp [hblank])]
        rfl
      · rename_i hink
        rw [List.filter_cons_of_pos (by simpa using hink), refused_path_map]
        simp
  simp only [search, dottedTexts, List.flatMap_append, hdistinct]
  refine congrArg (· ++ _) (congrArg₂ _ (congrArg₂ _ (congrArg₂ _ ?_ ?_) ?_) ?_)
  · exact refused_map d.params fun _ _ => refused_path_map _ _ _
  · exact refused_map d.order fun _ _ => refused_path_map _ _ _
  · exact refused_map d.aggregate.toList fun _ _ => refused_path_map _ _ _
  · exact refused_map d.group.toList fun _ _ => rfl

/-- A search gives one error for every dotted text of it that is no path, and nothing else. -/
theorem oneEach_search (file : String) (d : Decl.Search) :
    (search file d).2.OneEach
      (fun n => ∃ x, (dottedTexts file d)[n]? = some x ∧ ¬ ∃ p, path x.1 x.2 = .ok p)
      (fun n e => ∃ x, (dottedTexts file d)[n]? = some x ∧
        e = problemAt (.malformedPath x.1) x.2) := by
  rw [search_problems_eq]
  generalize dottedTexts file d = texts
  have hzip : texts.flatMap textProblems = texts.zipIdx.flatMap fun e => textProblems e.1 := by
    rw [← List.flatMap_map Prod.fst textProblems, List.zipIdx_map_fst]
  rw [hzip]
  refine Diagnostics.oneEach_zipIdx fun {n x} hx => ?_
  simp only [textProblems]
  cases hpath : path x.1 x.2 with
  | ok p => exact .inr ⟨fun h => h ⟨p, rfl⟩, rfl⟩
  | error d =>
    refine .inl ⟨?_, d, rfl, x, hx, path_eq_error hpath⟩
    rintro ⟨p, ⟨⟩⟩

/-- A field that is made and could have a foreign key gives one error for a target that cannot be
read. -/
theorem field_problems_of_reference {file : String} {parent : StructId} {d : Decl.Field}
    {type : FieldType} {r : Decl.Reference} (htype : fieldType d (posIn file d.place) = .ok type)
    (hplain : type.isStruct = false) (hr : d.references = some r) :
    ∃ ds, (field file parent d).2 = argumentProblems d (posIn file d.place) ++ ds ∧
      ((∃ k, foreignKey r (posIn file d.place) = .ok k) ∧ ds = [] ∨
        (¬ ∃ k, foreignKey r (posIn file d.place) = .ok k) ∧
          ds = [problemAt (.malformedTarget r.target) (posIn file d.place)]) := by
  have hfound : (field file parent d).2 = argumentProblems d (posIn file d.place) ++
      refused [foreignKey r (posIn file d.place)] := by
    simp [field, htype, declaredKey, hr, hplain]
  refine ⟨_, hfound, ?_⟩
  cases hkey : foreignKey r (posIn file d.place) with
  | ok k => exact .inl ⟨⟨k, rfl⟩, rfl⟩
  | error e =>
    refine .inr ⟨?_, ?_⟩
    · rintro ⟨k, ⟨⟩⟩
    · rw [(foreignKey_error_iff.1 hkey).2]
      rfl

/-! ### all of it -/

theorem existsUnique_cuts (s : String) : ∃! parts, Cuts s parts := by
  have hback : String.toList ∘ String.ofList = id := funext fun _ => String.toList_ofList
  refine ⟨(Text.pieces s.toList).map String.ofList, Text.cuts_iff.2 ?_, fun parts h => ?_⟩
  · rw [List.map_map, hback, List.map_id]
  · rw [← Text.cuts_iff.1 h, List.map_map]
    simp [Function.comp_def]

theorem length_of_cuts (h : Cuts s parts) : parts.length = s.toList.count '.' + 1 := by
  rw [← Text.length_pieces, ← Text.cuts_iff.1 h, List.length_map]

/-- A text is cut at its dots in one way, and its path is read exactly if no part is blank. The names
of the path are then the trimmed parts, and the path is read again from how it is written. The target
of a foreign key is read exactly if it is a path of two names, and has these. Every other text gives
one error, also within searches and fields. -/
theorem dottedTexts_read :
    (∀ s, ∃! parts, Cuts s parts) ∧
    (∀ s parts pos, Cuts s parts →
      ((∃ p, path s pos = .ok p) ↔ ∀ q ∈ parts, HasInk q.toList) ∧
      (∀ p, path s pos = .ok p →
        p.segments.length = s.toList.count '.' + 1 ∧ PathOf parts pos p) ∧
      ∀ d, path s pos = .error d ↔
        (¬ ∀ q ∈ parts, HasInk q.toList) ∧ d = problemAt (.malformedPath s) pos) ∧
    (∀ r pos,
      ((∃ k, foreignKey r pos = .ok k) ↔
        ∃ p, path r.target pos = .ok p ∧ p.segments.length = 2) ∧
      (∀ k p, foreignKey r pos = .ok k → path r.target pos = .ok p →
        p.segments.map NameRef.name = [k.targetStruct.name, k.targetField.name]) ∧
      ∀ d, foreignKey r pos = .error d ↔
        (¬ ∃ p, path r.target pos = .ok p ∧ p.segments.length = 2) ∧
          d = problemAt (.malformedTarget r.target) pos) ∧
    (∀ s pos, ∀ d ∈ [problemAt (.malformedPath s) pos, problemAt (.malformedTarget s) pos],
      d.severity = .error ∧ d.channel = .source) ∧
    (∀ file d, (search file d).2.OneEach
      (fun n => ∃ x, (dottedTexts file d)[n]? = some x ∧ ¬ ∃ p, path x.1 x.2 = .ok p)
      (fun n e => ∃ x, (dottedTexts file d)[n]? = some x ∧
        e = problemAt (.malformedPath x.1) x.2)) ∧
    ∀ file parent (d : Decl.Field) type r, fieldType d (posIn file d.place) = .ok type →
      type.isStruct = false → d.references = some r →
      ∃ ds, (field file parent d).2 = argumentProblems d (posIn file d.place) ++ ds ∧
        ((∃ k, foreignKey r (posIn file d.place) = .ok k) ∧ ds = [] ∨
          (¬ ∃ k, foreignKey r (posIn file d.place) = .ok k) ∧
            ds = [problemAt (.malformedTarget r.target) (posIn file d.place)]) := by
  refine ⟨existsUnique_cuts, fun s parts pos h => ⟨?_, fun p hp => ⟨?_, pathOf_of_path h hp⟩,
    fun d => path_error_iff h⟩, fun r pos => ⟨exists_foreignKey_iff, fun k p hk hp => ?_,
    fun d => foreignKey_error_iff⟩, fun s pos d hd => ?_, oneEach_search,
    fun file parent d type r => field_problems_of_reference⟩
  · exact ⟨fun ⟨p, hp⟩ => ((path_ok_iff h).1 hp).1, fun hink => ⟨_, (path_ok_iff h).2 ⟨hink, rfl⟩⟩⟩
  · rw [← length_of_cuts h]
    exact (pathOf_of_path h hp).trimmed.length_eq.symm
  · obtain ⟨struct, field, hpath, rfl⟩ := foreignKey_ok_iff.1 hk
    rw [← Except.ok.inj (hpath.symm.trans hp)]
    rfl
  · rcases List.mem_pair.1 hd with rfl | rfl <;> exact ⟨rfl, rfl⟩

/-- A target with blanks around its halves, and a path that lacks a name. -/
theorem dottedTexts_read_firm :
    (∃ p k, path " firm .id" (.ofFile "staff") = .ok p ∧ path p.dotted (.ofFile "staff") = .ok p ∧
      foreignKey ⟨" firm .id", .cascade, .cascade⟩ (.ofFile "staff") = .ok k ∧
      p.segments.map NameRef.name = [k.targetStruct.name, k.targetField.name]) ∧
    path "firm..id" (.ofFile "staff") =
      .error (problemAt (.malformedPath "firm..id") (.ofFile "staff")) := by
  obtain ⟨-, hpaths, hkeys, -⟩ := dottedTexts_read
  have hfirm : Cuts " firm .id" [" firm ", "id"] := ⟨by simp, by decide, by decide +kernel⟩
  have hblank : Cuts "firm..id" ["firm", "", "id"] := ⟨by simp, by decide, by decide +kernel⟩
  have hink : ∀ q ∈ [" firm ", "id"], HasInk q.toList := by
    intro q hq
    rcases List.mem_pair.1 hq with rfl | rfl
    · exact ⟨'f', by decide +kernel, by decide +kernel⟩
    · exact ⟨'i', by decide +kernel, by decide +kernel⟩
  obtain ⟨p, hp⟩ := (hpaths _ _ (.ofFile "staff") hfirm).1.2 hink
  obtain ⟨hlen, hread⟩ := (hpaths _ _ _ hfirm).2.1 p hp
  obtain ⟨k, hk⟩ := (hkeys ⟨" firm .id", .cascade, .cascade⟩ (.ofFile "staff")).1.2
    ⟨p, hp, hlen.trans (by decide +kernel)⟩
  refine ⟨⟨p, k, hp, hread.reread, hk, (hkeys _ _).2.1 k p hk hp⟩, ?_⟩
  refine ((hpaths _ _ _ hblank).2.2 _).2 ⟨fun h => ?_, rfl⟩
  obtain ⟨c, hc, -⟩ := h "" (by simp)
  simp at hc

end Source

end ModelLinker
