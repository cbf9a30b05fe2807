import Mathlib.Data.List.Pairwise
import Mathlib.Data.List.Perm.Subperm
import ModelLinker.Proofs.Decl.Agreement

/-!
# Schema, reader and writer of a declaration

A declaration is an object of members. A slot is a member in all three descriptions at once: its
property in the schema, how its value is read, how it is written, and where the declaration keeps
it. If the slots of a declaration make up its form, its schema and its written form (`Layout`), the
three descriptions of the declaration agree as soon as those of its members do (`Layout.agree`).
-/

namespace ModelLinker.Decl

open Schema

/-! ### slots -/

/-- A member of a declaration in the schema, for the reader and for the writer, and where the
declaration keeps its value. -/
structure Slot (α : Type) where
  Value : Type
  property : Property
  required : Bool
  read : Reading Value
  write : Value → Option Json
  get : α → Value
  set : Value → α → α
  get_set : ∀ v a, get (set v a) = v

namespace Slot

variable {α β : Type}

@[simp]
def name (s : Slot α) : String := s.property.name

/-- The member as the reader knows it. -/
def member (s : Slot α) : Member α := ⟨s.name, s.required, fun j => (s.read j).map s.set⟩

/-- The member as the writer leaves it. -/
def written (s : Slot α) (a : α) : List (String × Json) :=
  ((s.write (s.get a)).map fun x => (s.name, x)).toList

/-- Two slots have different names and keep their values apart. -/
def Apart (s t : Slot α) : Prop :=
  s.name ≠ t.name ∧ (∀ v a, t.get (s.set v a) = t.get a) ∧ ∀ v a, s.get (t.set v a) = s.get a

instance : Std.Symm (@Slot.Apart α) := ⟨fun _ _ h => ⟨h.1.symm, h.2.2, h.2.1⟩⟩

theorem mem_written {s : Slot α} {a : α} {m : String × Json} :
    m ∈ s.written a ↔ s.write (s.get a) = some m.2 ∧ s.name = m.1 := by
  obtain ⟨name, x⟩ := m
  simp [written]

/-- Every value of a declaration can be read. -/
def AllRead (slots : List (Slot α)) (a : α) : Prop :=
  ∀ s ∈ slots, ∃ x, s.read x = .ok (s.get a)

/-- The descriptions of a member agree. -/
def Agrees (s : Slot α) : Prop := Agree s.property.demand s.read s.write

/-- A member that is always written. -/
@[simp]
def always (property : Property) (required : Bool) (read : Reading β) (write : β → Json)
    (get : α → β) (set : β → α → α) (h : ∀ v a, get (set v a) = v := by intros; rfl) : Slot α :=
  ⟨β, property, required, read, fun v => some (write v), get, set, h⟩

/-- A member that is written only when it is there. -/
@[simp]
def optional (property : Property) (read : Reading β) (write : β → Json)
    (get : α → Option β) (set : Option β → α → α)
    (h : ∀ v a, get (set v a) = v := by intros; rfl) : Slot α :=
  ⟨Option β, property, false, readOption read, Option.map write, get, set, h⟩

end Slot

/-! ### layouts -/

/-- The slots of a declaration make up its form, what is written of it, and its schema. Values that
are not written are those that the declaration has while nothing is read. -/
structure Layout {α : Type} (f : Form α) (slots : List (Slot α)) (write : α → Json)
    (body : Body) : Prop where
  members : f.members = slots.map Slot.member
  written : ∀ a, write a = .obj (slots.flatMap (·.written a))
  described : ∃ required properties, body = .object required properties ∧
    required.Perm ((slots.filter Slot.required).map Slot.name) ∧
    properties.length = slots.length ∧ ∀ s ∈ slots, s.property ∈ properties
  apart : slots.Pairwise Slot.Apart
  ext : ∀ {a b}, (∀ s ∈ slots, s.get a = s.get b) → a = b
  blank : slots.map (fun s =>
      (s.read ((s.write (s.get f.blank)).getD .null)).map fun v => s.set v f.blank) =
    slots.map fun _ => .ok f.blank
  omitted : ∀ s ∈ slots, ∀ v, s.write v = none → s.required = false ∧ v = s.get f.blank

namespace Layout

variable {α : Type} {f : Form α} {slots : List (Slot α)} {write : α → Json} {body : Body}
  (h : Layout f slots write body) {s t : Slot α}

include h

theorem eq_or_apart (hs : s ∈ slots) (ht : t ∈ slots) : s = t ∨ s.Apart t := by
  by_cases heq : s = t
  · exact .inl heq
  · exact .inr (h.apart.forall hs ht heq)

theorem eq_of_name (hs : s ∈ slots) (ht : t ∈ slots) (hname : s.name = t.name) : s = t :=
  (h.eq_or_apart hs ht).resolve_right fun hapart => hapart.1 hname

/-- The reader finds the member of a name. -/
theorem find_member (hs : s ∈ slots) : f.members.find? (·.name == s.name) = some s.member := by
  have hslot : slots.find? (·.name == s.name) = some s := by
    obtain ⟨t, ht⟩ := Option.isSome_iff_exists.1
      (List.find?_isSome.2 ⟨s, hs, beq_self_eq_true s.name⟩ :
        (slots.find? (·.name == s.name)).isSome = true)
    have hname : t.name = s.name := by simpa using List.find?_some ht
    rw [ht, h.eq_of_name (List.mem_of_find?_eq_some ht) hs hname]
  rw [h.members, List.find?_map]
  exact congrArg (Option.map Slot.member) hslot

/-- The schema lists the properties of the slots. -/
theorem exists_properties : ∃ required properties, body = .object required properties ∧
    (∀ n, n ∈ required ↔ ∃ s ∈ slots, s.required = true ∧ s.name = n) ∧
    ∀ name p, properties.find? (·.name == name) = some p ↔
      ∃ s ∈ slots, s.name = name ∧ s.property = p := by
  obtain ⟨required, properties, hbody, hrequired, hlength, hmem⟩ := h.described
  refine ⟨required, properties, hbody, fun n => ?_, ?_⟩
  · simp [hrequired.mem_iff, and_assoc]
  -- as many properties as slots, so there are no others
  have hnodup : (slots.map Slot.property).Nodup :=
    List.pairwise_map.2 (h.apart.imp fun hst heq => hst.1 (congrArg Property.name heq))
  have hsubset : slots.map Slot.property ⊆ properties := by
    simpa [List.subset_def] using hmem
  have hperm := (List.subperm_of_subset hnodup hsubset).perm_of_length_le (by simp [hlength])
  have hslot : ∀ {p}, p ∈ properties → ∃ s ∈ slots, s.property = p := fun hp =>
    List.mem_map.1 (hperm.mem_iff.2 hp)
  have key : ∀ {name p}, properties.find? (·.name == name) = some p →
      ∃ s ∈ slots, s.property.name = name ∧ s.property = p := by
    intro name p hp
    obtain ⟨s, hs, rfl⟩ := hslot (List.mem_of_find?_eq_some hp)
    exact ⟨s, hs, by simpa using List.find?_some hp, rfl⟩
  refine fun name p => ⟨key, ?_⟩
  rintro ⟨s, hs, rfl, rfl⟩
  obtain ⟨p, hp⟩ := Option.isSome_iff_exists.1
    (List.find?_isSome.2 ⟨s.property, hmem s hs, beq_self_eq_true s.name⟩ :
      (properties.find? (·.name == s.name)).isSome = true)
  obtain ⟨t, ht, hname, rfl⟩ := key hp
  rw [hp, h.eq_of_name ht hs hname]

/-- If no required member is missing, an object is read by entering its members. -/
theorem readObject_eq {members : List (String × Json)}
    (hthere : ∀ s ∈ slots, s.required = true → ∃ m ∈ members, m.1 = s.name) :
    f.readObject members = members.foldlM f.enter f.blank := by
  have hnone : (f.members.find? fun m => m.required && !members.any (·.1 == m.name)) = none := by
    rw [List.find?_eq_none, h.members, List.forall_mem_map]
    intro s hs hmissing
    rw [Bool.and_eq_true] at hmissing
    obtain ⟨m, hm, hname⟩ := hthere s hs hmissing.1
    have hany : members.any (·.1 == s.member.name) = true :=
      List.any_eq_true.2 ⟨m, hm, beq_iff_eq.2 hname⟩
    simp [hany] at hmissing
  simp only [Form.readObject, hnone]
  cases members.foldlM f.enter f.blank <;> rfl

/-! #### what is read is carried -/

/-- What is written of the blank declaration is read as what it has. -/
theorem allRead_blank : Slot.AllRead slots f.blank := by
  intro s hs
  obtain ⟨v, hv, hset⟩ := map_eq_ok_iff.1 (List.map_inj_left.1 h.blank s hs)
  have hget : s.get f.blank = v := by rw [← hset, s.get_set]
  exact ⟨_, by rw [hget]; exact hv⟩

theorem allRead_step {a b : α} (ha : Slot.AllRead slots a) {m : Member α} (hm : m ∈ f.members)
    {x : Json} (hb : (m.read x).map (· a) = .ok b) : Slot.AllRead slots b := by
  rw [h.members, List.mem_map] at hm
  obtain ⟨s, hs, rfl⟩ := hm
  obtain ⟨g, hg, rfl⟩ := map_eq_ok_iff.1 hb
  obtain ⟨v, hv, rfl⟩ := map_eq_ok_iff.1 hg
  intro t ht
  rcases h.eq_or_apart hs ht with rfl | hapart
  · exact ⟨x, by rw [s.get_set, hv]⟩
  · rw [hapart.2.1]
    exact ha t ht

/-- Every value of a declaration that was read can be read, be it from an object or from a list. -/
theorem allRead_of_read {j : Json} {d : α} (hd : f.read j = .ok d) :
    Slot.AllRead slots d := by
  cases j with
  | obj members =>
    rw [Form.read, Form.readObject, bind_eq_ok_iff] at hd
    obtain ⟨a, hfold, hd⟩ := hd
    split at hd
    · cases hd
    obtain rfl := Except.ok.inj hd
    refine foldlM_invariant (Slot.AllRead slots) h.allRead_blank (fun entry _ a b ha hb => ?_) hfold
    unfold Form.enter at hb
    split at hb
    · rename_i m hm
      exact h.allRead_step ha (List.mem_of_find?_eq_some hm) hb
    · cases hb
  | arr items =>
    rw [Form.read, Form.readItems, bind_eq_ok_iff] at hd
    obtain ⟨a, hfold, hd⟩ := hd
    split at hd
    · cases hd
    split at hd
    · cases hd
    obtain rfl := Except.ok.inj hd
    refine foldlM_invariant (Slot.AllRead slots) h.allRead_blank (fun x hx a b ha hb => ?_) hfold
    exact h.allRead_step ha (List.of_mem_zip (show (x.1, x.2) ∈ _ from hx)).1 hb
  | _ => cases hd

/-- Members whose values are those of a declaration are entered one by one. -/
theorem foldlM_enter {d : α} {members : List (String × Json)}
    (hm : ∀ m ∈ members, ∃ s ∈ slots, s.name = m.1 ∧ s.read m.2 = .ok (s.get d)) (a : α) :
    ∃ a', members.foldlM f.enter a = .ok a' ∧
      ∀ s ∈ slots, (s.get a = s.get d ∨ ∃ m ∈ members, m.1 = s.name) → s.get a' = s.get d := by
  induction members generalizing a with
  | nil => exact ⟨a, rfl, by simp⟩
  | cons m rest ih =>
    obtain ⟨⟨s, hs, hname, hread⟩, hrest⟩ := List.forall_mem_cons.1 hm
    obtain ⟨a', hfold, hget⟩ := ih hrest (s.set (s.get d) a)
    refine ⟨a', ?_, fun t ht hmt => hget t ht ?_⟩
    · rw [List.foldlM_cons, Form.enter, ← hname, h.find_member hs]
      simp only [Slot.member, hread, Except.map]
      exact hfold
    · rcases h.eq_or_apart hs ht with rfl | hapart
      · exact .inl (s.get_set _ _)
      rw [hapart.2.1]
      refine hmt.imp_right ?_
      rintro ⟨m', hm', hname'⟩
      rcases List.mem_cons.1 hm' with rfl | hm'
      · exact absurd (hname.trans hname') hapart.1
      · exact ⟨m', hm', hname'⟩

/-- A declaration is carried by what is written of it if all of its values are. -/
theorem carries {d : α}
    (hd : ∀ s ∈ slots, Carries s.property.demand s.read s.write (s.get d)) :
    Carries (Target.body body).demand f.read (fun a => some (write a)) d := by
  rintro _ ⟨⟩ e he
  rw [h.written] at he
  obtain ⟨members, rfl, hthere, hfrom⟩ := he.eq_obj
  obtain ⟨required, properties, hbody, hrequired, hfind⟩ := h.exists_properties
  have hread : ∀ m ∈ members, ∃ s ∈ slots, s.name = m.1 ∧ s.property.place.Admits m.2 ∧
      s.read m.2 = .ok (s.get d) := by
    intro m hm
    obtain ⟨m₀, hm₀, hname, hvalue⟩ := hfrom m hm
    obtain ⟨s, hs, hwritten⟩ := List.mem_flatMap.1 hm₀
    obtain ⟨hx, hname₀⟩ := Slot.mem_written.1 hwritten
    exact ⟨s, hs, hname₀.trans hname, hd s hs _ hx _ hvalue⟩
  have hwritten : ∀ s ∈ slots, s.write (s.get d) ≠ none → ∃ m ∈ members, m.1 = s.name := by
    intro s hs hx
    obtain ⟨x, hx⟩ := Option.ne_none_iff_exists'.1 hx
    exact hthere (s.name, x) (List.mem_flatMap.2 ⟨s, hs, Slot.mem_written.2 ⟨hx, rfl⟩⟩)
  have hneeded : ∀ s ∈ slots, s.required = true → ∃ m ∈ members, m.1 = s.name := by
    intro s hs hreq
    refine hwritten s hs fun hnone => ?_
    rw [(h.omitted s hs _ hnone).1] at hreq
    cases hreq
  constructor
  · subst hbody
    refine admits_object.2 ⟨fun m hm => ?_, fun n hn => ?_⟩
    · obtain ⟨s, hs, hname, hadmits, -⟩ := hread m hm
      exact ⟨s.property, (hfind _ _).2 ⟨s, hs, hname, rfl⟩, hadmits⟩
    · obtain ⟨s, hs, hreq, rfl⟩ := (hrequired n).1 hn
      exact hneeded s hs hreq
  · obtain ⟨a, hfold, hget⟩ := h.foldlM_enter (fun m hm => by
      obtain ⟨s, hs, hname, -, hvalue⟩ := hread m hm
      exact ⟨s, hs, hname, hvalue⟩) f.blank
    have had : a = d := h.ext fun s hs => by
      refine hget s hs ?_
      by_cases hnone : s.write (s.get d) = none
      · exact .inl (h.omitted s hs _ hnone).2.symm
      · exact .inr (hwritten s hs hnone)
    rw [Form.read, h.readObject_eq hneeded, hfold, had]

/-! #### what is admitted is read -/

/-- A declaration that is admitted can be read, as far as its values can. -/
theorem blames {j : Json}
    (hj : ∀ s ∈ slots, ∀ x, x.depth < j.depth → Blames s.property.demand s.read x) :
    Blames (Target.body body).demand f.read j := by
  intro hsized hadmits e he
  obtain ⟨required, properties, rfl, hrequired, hfind⟩ := h.exists_properties
  obtain ⟨members, rfl⟩ := exists_members_of_admits hadmits
  obtain ⟨hknown, hthere⟩ := admits_object.1 hadmits
  rw [Form.read, h.readObject_eq fun s hs hreq =>
    hthere s.name ((hrequired _).2 ⟨s, hs, hreq, rfl⟩)] at he
  obtain ⟨⟨name, x⟩, hx, a, hfail⟩ := exists_of_foldlM_eq_error he
  obtain ⟨p, hp, hadm⟩ := hknown _ hx
  obtain ⟨s, hs, rfl, rfl⟩ := (hfind _ _).1 hp
  rw [Form.enter, h.find_member hs] at hfail
  have hread : s.read x = .error e := map_eq_error_iff.1 (map_eq_error_iff.1 hfail)
  have hxsized : x.WordSized := by
    cases hsized with | obj hmembers => exact hmembers _ hx
  obtain ⟨m, y, hy, hrest⟩ := hj s hs x (Json.depth_lt_of_mem_members hx) hxsized hadm e hread
  refine ⟨m, y, ?_, hrest⟩
  rcases hy with ⟨hproperty, rfl⟩ | hy
  · exact .here hx (hproperty ▸ hp)
  · exact .within hx hp hy

/-- The descriptions of a declaration agree if those of its members do. -/
theorem agree (hslots : ∀ s ∈ slots, s.Agrees) :
    Agree (Target.body body).demand f.read fun a => some (write a) where
  carries := by
    rintro d ⟨j, hj⟩
    exact h.carries fun s hs => (hslots s hs).carries (h.allRead_of_read hj s hs)
  blames j := h.blames fun s hs x _ => (hslots s hs).blames x

end Layout

end ModelLinker.Decl
