import ModelLinker.Decl.Reader
import ModelLinker.Decl.Writer
import ModelLinker.Proofs.Json.Rearranged
import ModelLinker.Proofs.Json.WordSized
import ModelLinker.Proofs.Schema.Admitted
import ModelLinker.Proofs.Steps

/-!
# Schema, reader and writer of a value

Three descriptions of one place in a document agree (`Agree`) if a value that was read is written as
a document that the schema admits and that is read as the same value, whatever the order of members
in it, and if what the schema admits can be read unless an integer in it is out of range. Here this
is shown of the values that stand in members: texts, truth values, words, literals and integers, and
of lists and options of other values.
-/

namespace ModelLinker

open List (Forall₂)
open Decimal (Binary64)

/-- Every value is what its word stands for. -/
def Keyword.Faithful (α : Type) [Keyword α] : Prop :=
  ∀ a : α, Keyword.ofWord? (Keyword.word a) = some a

namespace Decl

open Schema

/-! ### integers -/

/-- The members of declarations that have an integer as their value. -/
inductive IntegerMember where
  | line | column | limit | offset | itemValue | bitValue

namespace IntegerMember

/-- The member in the schema. -/
@[simp]
def property : IntegerMember → Property
  | line => .plain "line" (.natural "uint")
  | column => .plain "column" (.natural "uint")
  | limit => .plain "limit" .naturalOrNull
  | offset => .plain "offset" .naturalOrNull
  | itemValue =>
    ⟨"value", some "Omitted values are numbered automatically.", none,
      .scalar ⟨[.integer, .null], none, some "int64", false⟩⟩
  | bitValue => .plain "value" (.scalar ⟨[.integer], none, some "int64", false⟩)

def least : IntegerMember → Int
  | itemValue | bitValue => leastSigned
  | _ => 0

def greatest : IntegerMember → Int
  | itemValue | bitValue => greatestSigned
  | _ => greatestUnsigned

/-- What the reader expects as the value. -/
def expected : IntegerMember → Expected
  | line | column => .size
  | limit | offset => .unsigned
  | itemValue | bitValue => .signed

/-- A number that is not written as an integer, or is one out of range. -/
def Rejects (m : IntegerMember) : Json → Prop
  | .int n => ¬ (m.least ≤ n ∧ n ≤ m.greatest)
  | .real _ => True
  | _ => False

instance (m : IntegerMember) : DecidablePred m.Rejects
  | .int n => inferInstanceAs (Decidable (¬ (m.least ≤ n ∧ n ≤ m.greatest)))
  | .real _ => inferInstanceAs (Decidable True)
  | .null | .bool _ | .str _ | .arr _ | .obj _ => inferInstanceAs (Decidable False)

/-- What is wrong with such a number. -/
def error (m : IntegerMember) : Json → FormError
  | .int n => .invalidValue (.integer n) m.expected
  | j => .invalidType (.ofJson j) m.expected

end IntegerMember

/-! ### agreement -/

/-- What a schema says of some place: what may stand there, and the values that properties have in
it. -/
structure Demand where
  Admits : Json → Prop
  Holds : Property → Json → Json → Prop

end Decl

namespace Schema

def Target.demand (t : Target) : Decl.Demand := ⟨t.Admits, fun q x j => t.Holds q x j⟩

def Place.demand (p : Place) : Decl.Demand := ⟨p.Admits, fun q x j => p.target.Holds q x j⟩

def Name.demand (name : Name) : Decl.Demand := (Target.body name.definition.body).demand

/-- The value of a property is what stands in its place. -/
def Property.demand (p : Property) : Decl.Demand :=
  ⟨p.place.Admits, fun q x j => q = p ∧ x = j ∨ p.place.target.Holds q x j⟩

end Schema

namespace Decl

open Schema

section Agree

variable {β γ : Type} {D D' : Demand} {read : Reading β} {write : β → Option Json}

/-- A value is carried by the document that it is written as, with its members in any order: this is
admitted, and the value is read from it. -/
def Carries (D : Demand) (read : Reading β) (write : β → Option Json) (b : β) : Prop :=
  ∀ x, write b = some x → ∀ e, x.Rearranged e → D.Admits e ∧ read e = .ok b

/-- If a document that is admitted cannot be read, this is the fault of an integer in it. -/
def Blames (D : Demand) (read : Reading β) (j : Json) : Prop :=
  j.WordSized → D.Admits j → ∀ e, read j = .error e →
    ∃ (m : IntegerMember) (x : Json), D.Holds m.property x j ∧ m.Rejects x ∧ e = m.error x

/-- Schema, reader and writer describe the same values. -/
structure Agree (D : Demand) (read : Reading β) (write : β → Option Json) : Prop where
  carries : ∀ {b}, (∃ j, read j = .ok b) → Carries D read write b
  blames : ∀ j, Blames D read j

/-- If all that is admitted can be read, there is nothing to blame. -/
theorem Agree.of_total {write : β → Json}
    (hread : ∀ j, j.WordSized → D.Admits j → ∃ b, read j = .ok b)
    (hwrite : ∀ j b, read j = .ok b → ∀ e, (write b).Rearranged e → D.Admits e ∧ read e = .ok b) :
    Agree D read fun b => some (write b) where
  carries := by
    rintro b ⟨j, hj⟩ _ ⟨⟩ e he
    exact hwrite j b hj e he
  blames := by
    intro j hsized hadmits e he
    obtain ⟨b, hb⟩ := hread j hsized hadmits
    rw [hb] at he
    cases he

theorem Carries.weaken {b : β} (h : Carries D read write b)
    (hadmits : ∀ j, D.Admits j → D'.Admits j) : Carries D' read write b := by
  intro x hx e he
  obtain ⟨hadm, hread⟩ := h x hx e he
  exact ⟨hadmits e hadm, hread⟩

theorem Blames.weaken {j : Json} (h : Blames D read j) (hadmits : D'.Admits j → D.Admits j)
    (hholds : ∀ q x, D.Holds q x j → D'.Holds q x j) : Blames D' read j := by
  intro hsized hadm e he
  obtain ⟨m, x, hx, hrest⟩ := h hsized (hadmits hadm) e he
  exact ⟨m, x, hholds _ _ hx, hrest⟩

theorem Agree.weaken (h : Agree D read write) (hadmits : ∀ j, D'.Admits j ↔ D.Admits j)
    (hholds : ∀ q x j, D.Holds q x j → D'.Holds q x j) : Agree D' read write where
  carries hb := (h.carries hb).weaken fun j => (hadmits j).2
  blames j := (h.blames j).weaken (hadmits j).1 fun q x => hholds q x j

/-- A value that stands for another one is read and written as that one. -/
theorem Agree.map (h : Agree D read write) (f : β → γ) {write' : γ → Option Json}
    (hwrite : ∀ j b, read j = .ok b → write' (f b) = write b) :
    Agree D (fun j => (read j).map f) write' where
  carries := by
    rintro c ⟨j, hj⟩ x hx e he
    obtain ⟨b, hb, rfl⟩ := map_eq_ok_iff.1 hj
    rw [hwrite j b hb] at hx
    obtain ⟨hadmits, hread⟩ := h.carries ⟨j, hb⟩ x hx e he
    exact ⟨hadmits, map_eq_ok_iff.2 ⟨b, hread, rfl⟩⟩
  blames j hsized hadmits e he := h.blames j hsized hadmits e (map_eq_error_iff.1 he)

theorem readOption_of_ne_null {j : Json} (h : j ≠ .null) :
    readOption read j = (read j).map some := by
  cases j <;> first | rfl | exact absurd rfl h

/-- A value that may be left out may be null as well. -/
theorem Agree.option {write : β → Json} (h : Agree D read fun b => some (write b))
    (hnull : ∀ b, read .null ≠ .ok b) (hadmits : ∀ j, D'.Admits j ↔ j = .null ∨ D.Admits j)
    (hholds : ∀ q x j, D.Holds q x j → D'.Holds q x j) :
    Agree D' (readOption read) (Option.map write) where
  carries := by
    rintro b ⟨j, hj⟩ x hx e he
    cases b with
    | none => cases hx
    | some b =>
      obtain rfl := Option.some.inj hx
      have hne : j ≠ .null := by
        rintro rfl
        cases hj
      rw [readOption_of_ne_null hne] at hj
      obtain ⟨_, hb, ⟨⟩⟩ := map_eq_ok_iff.1 hj
      obtain ⟨hadm, hread⟩ := h.carries ⟨j, hb⟩ _ rfl e he
      refine ⟨(hadmits e).2 (.inr hadm), ?_⟩
      rw [readOption_of_ne_null (fun heq => hnull b (heq ▸ hread)), hread, Except.map]
  blames := by
    intro j hsized hadm e he
    by_cases hj : j = .null
    · subst hj
      cases he
    rw [readOption_of_ne_null hj, map_eq_error_iff] at he
    obtain ⟨m, x, hx, hrest⟩ := h.blames j hsized (((hadmits j).1 hadm).resolve_left hj) e he
    exact ⟨m, x, hholds _ _ _ hx, hrest⟩

end Agree

/-! ### places -/

section Places

variable {β : Type} {read : Reading β} {write : β → Option Json} {p : Property}

/-- A place that has no value of its own for null. -/
theorem Agree.place {place : Place} (h : Agree place.target.demand read write)
    (hplace : place.isNullable = false) : Agree place.demand read write :=
  h.weaken (fun _ => ⟨fun hj => hj.resolve_left (by simp [hplace]), .inr⟩) fun _ _ _ hx => hx

theorem Agree.property (h : Agree p.place.target.demand read write)
    (hplace : p.place.isNullable = false) : Agree p.demand read write :=
  (h.place hplace).weaken (fun _ => .rfl) fun _ _ _ hx => .inr hx

/-- The place of a property that has a defined value. -/
theorem Agree.ref {name : Name} (h : Agree name.demand read write)
    (hplace : p.place = .ref name ∨ p.place = .refWithDefault name) :
    Agree p.demand read write := by
  refine Agree.property ?_ ?_
  · rcases hplace with hplace | hplace <;>
      · rw [hplace]
        exact h
  · rcases hplace with hplace | hplace <;> rw [hplace] <;> rfl

/-- The place of a property that may be null instead of a defined value. -/
theorem Agree.orNull {write : β → Json} {name : Name}
    (h : Agree name.demand read fun b => some (write b)) (hplace : p.place = .refOrNull name)
    (hnull : ∀ b, read .null ≠ .ok b) :
    Agree p.demand (readOption read) (Option.map write) := by
  refine h.option hnull (fun j => ?_) fun q x j hx => .inr ?_
  · simp only [Property.demand, Place.Admits, hplace, Place.isNullable, true_and]
    rfl
  · rw [hplace]
    exact hx

end Places

/-! ### single values -/

theorem check_ofKind {k : Kind} {j : Json} : (Scalar.ofKind k).check j = [] ↔ k.holds j = true := by
  simp [Scalar.check, Scalar.ofKind, checkKind_eq_nil]

theorem agree_text : Agree Place.text.target.demand readText fun s => some (.str s) :=
  .of_total
    (fun j _ hj => by
      have hkind := check_ofKind.1 (admits_scalar.1 hj)
      cases j <;> first | exact ⟨_, rfl⟩ | cases hkind)
    (fun j s _ e he => by
      rw [he.eq_str]
      exact ⟨admits_scalar.2 rfl, rfl⟩)

theorem agree_truth : Agree Place.truth.target.demand readTruth fun b => some (.bool b) :=
  .of_total
    (fun j _ hj => by
      have hkind := check_ofKind.1 (admits_scalar.1 hj)
      cases j <;> first | exact ⟨_, rfl⟩ | cases hkind)
    (fun j b _ e he => by
      rw [he.eq_bool]
      exact ⟨admits_scalar.2 rfl, rfl⟩)

theorem agree_textOrNull :
    Agree Place.textOrNull.target.demand (readOption readText) (Option.map Json.str) := by
  refine agree_text.option (by rintro b ⟨⟩) (fun j => ?_) (by rintro q x j ⟨⟩)
  simp only [Target.demand, Place.textOrNull, Place.text, Place.target, admits_scalar, check_ofKind]
  cases j <;> simp [Scalar.check, checkKind_eq_nil, Kind.holds]

section Words

variable {α : Type} [Keyword α]

theorem mem_words {w : String} :
    w ∈ Keyword.words α ↔ ∃ a : α, Keyword.ofWord? w = some a := by
  rw [← Option.isSome_iff_exists, Keyword.ofWord?, List.find?_isSome, Keyword.words]
  simp

/-- The words of a vocabulary, if the schema admits these. -/
theorem agree_words {t : Target} (hfaithful : Keyword.Faithful α)
    (hadmits : ∀ j, t.Admits j ↔ ∃ w ∈ Keyword.words α, j = .str w) :
    Agree t.demand (readKeyword α) fun a => some (Keyword.toJson a) :=
  .of_total
    (fun j _ hj => by
      obtain ⟨w, hw, rfl⟩ := (hadmits j).1 hj
      obtain ⟨a, ha⟩ := mem_words.1 hw
      exact ⟨a, by rw [readKeyword, ha]⟩)
    (fun j a _ e he => by
      rw [he.eq_str]
      exact ⟨(hadmits _).2 ⟨_, mem_words.2 ⟨a, hfaithful a⟩, rfl⟩, by rw [readKeyword, hfaithful]⟩)

/-- A definition that lists the words of a vocabulary. -/
theorem agree_keyword {name : Name} (hfaithful : Keyword.Faithful α)
    (hbody : name.definition.body = .scalar (.word (Keyword.words α))) :
    Agree name.demand (readKeyword α) fun a => some (Keyword.toJson a) := by
  refine agree_words hfaithful fun j => ?_
  rw [hbody, admits_scalar]
  cases j <;> simp [Scalar.check, Scalar.word, checkKind_eq_nil, Kind.holds, isAmong]

end Words

/-- There is a floating-point number next to every integer of 64 bits. -/
theorem exists_ofInt {n : Int} (h : n ≤ UInt64.size - 1) (hpos : 0 < n) :
    ∃ x, Binary64.ofInt? n = some x := by
  have hsize : UInt64.size = 2 ^ 64 := rfl
  obtain ⟨k, rfl⟩ := Int.eq_ofNat_of_zero_le (Int.le_of_lt hpos)
  have hk : k < 2 ^ 64 := by omega
  have hk0 : k ≠ 0 := by omega
  have hlog : Nat.log2 k < 64 := (Nat.log2_lt hk0).2 hk
  have hexponent : Binary64.exponentOf k 1 ≤ 11 := by
    simp only [Binary64.exponentOf, Binary64.leastExponent, show Nat.log2 1 = 0 from rfl]
    split <;> omega
  have hgreatest : Binary64.greatestExponent = 971 := rfl
  unfold Binary64.ofInt? Binary64.ofQuotient
  simp only [Int.natAbs_natCast, if_neg hk0]
  rw [if_neg]
  · exact ⟨_, rfl⟩
  · split <;> simp only [hgreatest] <;> omega

theorem exists_readLiteral_int {n : Int} (h : n ≤ UInt64.size - 1) :
    ∃ l, readLiteral (.int n) = .ok l := by
  have hpos : 0 < greatestSigned := by decide
  rw [readLiteral]
  split
  · exact ⟨_, rfl⟩
  · obtain ⟨x, hx⟩ := exists_ofInt h (by omega)
    exact ⟨.real x, by rw [hx]⟩

theorem le_of_readLiteral {j : Json} {n : Int} (h : readLiteral j = .ok (.integer n)) :
    n ≤ greatestSigned := by
  unfold readLiteral at h
  grind

theorem admits_literal {j : Json} :
    Target.Admits (.body Name.literal.definition.body) j ↔
      (∃ n, j = .int n) ∨ (∃ x, j = .real x) ∨ ∃ s, j = .str s := by
  simp only [Name.definition]
  rw [admits_choice]
  cases j with
  | real x => cases hx : x.isIntegral <;>
      simp [checkChoice, Scalar.check, Scalar.ofKind, checkKind, Kind.holds, hx]
  | _ => simp [checkChoice, Scalar.check, Scalar.ofKind, checkKind, Kind.holds]

theorem agree_literal : Agree Name.literal.demand readLiteral fun l => some l.toJson :=
  .of_total
    (fun j hsized hj => by
      rcases admits_literal.1 hj with ⟨n, rfl⟩ | ⟨x, rfl⟩ | ⟨s, rfl⟩
      · cases hsized with | int _ hhigh => exact exists_readLiteral_int hhigh
      · exact ⟨_, rfl⟩
      · exact ⟨_, rfl⟩)
    (fun j l hl e he => by
      cases l with
      | integer n =>
        rw [he.eq_int]
        exact ⟨admits_literal.2 (.inl ⟨n, rfl⟩), by rw [readLiteral, if_pos (le_of_readLiteral hl)]⟩
      | real x =>
        rw [he.eq_real]
        exact ⟨admits_literal.2 (.inr (.inl ⟨x, rfl⟩)), rfl⟩
      | text s =>
        rw [he.eq_str]
        exact ⟨admits_literal.2 (.inr (.inr ⟨s, rfl⟩)), rfl⟩)

/-! ### integers read and written -/

/-- An integer member whose place is described by a simple value. -/
def IntegerMember.demand (m : IntegerMember) (s : Scalar) : Demand :=
  ⟨fun j => s.check j = [], fun q x j => q = m.property ∧ x = j⟩

theorem range_of_readInteger {low high n : Int} {e : Expected} {j : Json}
    (h : readInteger low high e j = .ok n) : low ≤ n ∧ n ≤ high := by
  unfold readInteger at h
  split at h
  · split at h
    · cases h
      assumption
    · cases h
  · cases h

theorem agree_integer (m : IntegerMember) {format : Option String} {fromZero : Bool}
    (hzero : fromZero = true → 0 ≤ m.least) :
    Agree (m.demand ⟨[.integer], none, format, fromZero⟩)
      (readInteger m.least m.greatest m.expected) fun n => some (.int n) where
  carries := by
    rintro n ⟨j, hj⟩ _ ⟨⟩ e he
    rw [he.eq_int]
    have hrange := range_of_readInteger hj
    refine ⟨?_, by rw [readInteger, if_pos hrange]⟩
    cases fromZero with
    | false => rfl
    | true =>
      have hn := hzero rfl
      simp only [IntegerMember.demand, Scalar.check, isBelowZero, checkKind, List.any_cons,
        Kind.holds]
      simp
      omega
  blames := by
    intro j hsized hadmits e he
    refine ⟨m, j, ⟨rfl, rfl⟩, ?_⟩
    cases j with
    | int n =>
      rw [readInteger] at he
      split at he
      · cases he
      · cases he
        exact ⟨by assumption, rfl⟩
    | real x =>
      cases he
      exact ⟨trivial, rfl⟩
    | _ => simp [IntegerMember.demand, Scalar.check, checkKind, Kind.holds] at hadmits

theorem agree_natural (m : IntegerMember) (hleast : m.least = 0)
    (hgreatest : m.greatest = greatestUnsigned) {format : Option String} :
    Agree (m.demand ⟨[.integer], none, format, true⟩) (readNatural m.expected)
      fun n => some (.nat n) := by
  have hinteger := @agree_integer m format true fun _ => Int.le_of_eq hleast.symm
  rw [hleast, hgreatest] at hinteger
  refine hinteger.map Int.toNat fun j n hn => ?_
  have hpos : 0 ≤ n := (range_of_readInteger hn).1
  rw [Json.nat, Int.toNat_of_nonneg hpos]

section Property

variable {m : IntegerMember} {β : Type} {read : Reading β}

theorem Agree.integer {write : β → Option Json} {s : Scalar} (h : Agree (m.demand s) read write)
    (hplace : m.property.place = .scalar s) : Agree m.property.demand read write := by
  refine h.weaken (fun j => ?_) fun q x j hx => .inl hx
  simp only [Property.demand, Place.Admits, hplace, Place.isNullable, Place.target, admits_scalar,
    IntegerMember.demand, Bool.false_eq_true, false_and, false_or]

/-- An integer that may be null as well. -/
theorem Agree.integerOrNull {write : β → Json} {format : Option String} {fromZero : Bool}
    (h : Agree (m.demand ⟨[.integer], none, format, fromZero⟩) read fun b => some (write b))
    (hplace : m.property.place = .scalar ⟨[.integer, .null], none, format, fromZero⟩)
    (hnull : ∀ b, read .null ≠ .ok b) :
    Agree m.property.demand (readOption read) (Option.map write) := by
  refine h.option hnull (fun j => ?_) fun q x j hx => .inl hx
  simp only [Property.demand, Place.Admits, hplace, Place.isNullable, Place.target, admits_scalar,
    IntegerMember.demand]
  cases j <;> simp [Scalar.check, checkKind_eq_nil, Kind.holds, isBelowZero]

end Property

/-! ### lists -/

section Lists

variable {β : Type} {item : Place} {read : Reading β} {write : β → Json}

/-- The items of a list that was read were read. -/
theorem exists_of_readList {j : Json} {bs : List β} (h : readList read j = .ok bs) :
    ∀ b ∈ bs, ∃ x, read x = .ok b := by
  cases j with
  | arr items =>
    have hitems : Forall₂ (fun b x => (∃ y, read y = .ok b) ∧ read x = .ok b) bs items :=
      .flip ((mapM_eq_ok_iff.1 h).imp fun x _ hx => ⟨⟨x, hx⟩, hx⟩)
    exact ((List.forall₂_and_left _ _).1 hitems).1
  | _ => cases h

theorem carries_list {kinds : List Kind} {bs : List β}
    (h : ∀ b ∈ bs, Carries item.demand read (fun b => some (write b)) b) :
    Carries (Target.list kinds item).demand (readList read) (fun bs => some (.list write bs))
      bs := by
  rintro _ ⟨⟩ e he
  obtain ⟨items, rfl, hitems⟩ := he.eq_arr
  rw [List.forall₂_map_left_iff] at hitems
  have hread : Forall₂ (fun x b => item.Admits x ∧ read x = .ok b) items bs :=
    .flip (((List.forall₂_and_left _ _).2 ⟨h, hitems⟩).imp fun _ x hb => hb.1 _ rfl x hb.2)
  obtain ⟨hadmits, hbs⟩ := (List.forall₂_and_left _ _).1 hread
  exact ⟨admits_list.2 hadmits, mapM_eq_ok_iff.2 hbs⟩

theorem blames_list {j : Json} (h : ∀ x, x.depth < j.depth → Blames item.demand read x) :
    Blames (Target.list [.array] item).demand (readList read) j := by
  intro hsized hadmits e he
  obtain ⟨items, rfl⟩ : ∃ items, j = .arr items := by
    rcases exists_items_of_admits hadmits with hitems | hkind
    · exact hitems
    · cases j <;> first | exact ⟨_, rfl⟩ | cases hkind
  obtain ⟨x, hx, hfail⟩ := exists_of_mapM_eq_error he
  have hxsized : x.WordSized := by
    cases hsized with | arr hitems => exact hitems x hx
  obtain ⟨m, y, hy, hrest⟩ := h x (Json.depth_lt_of_mem_items hx) hxsized
    (admits_list.1 hadmits x hx) e hfail
  exact ⟨m, y, .item hx hy, hrest⟩

theorem Agree.list (h : Agree item.demand read fun b => some (write b)) :
    Agree (Target.list [.array] item).demand (readList read) fun bs => some (.list write bs) where
  carries := by
    rintro bs ⟨j, hj⟩
    exact carries_list fun b hb => h.carries (exists_of_readList hj b hb)
  blames j := blames_list fun x _ => h.blames x

section Listed

variable {p : Property}

theorem carries_listed (hplace : p.place = .listOf item) {bs : List β}
    (h : ∀ b ∈ bs, Carries item.target.demand read (fun b => some (write b)) b) :
    Carries p.demand (readList read) (fun bs => some (.list write bs)) bs := by
  have hitems : ∀ b ∈ bs, Carries item.demand read (fun b => some (write b)) b :=
    fun b hb => (h b hb).weaken fun _ => .inr
  refine (@carries_list _ _ _ _ [.array] _ hitems).weaken fun j hj => .inr ?_
  rw [hplace]
  exact hj

theorem blames_listed (hitem : item.isNullable = false) (hplace : p.place = .listOf item) {j : Json}
    (h : ∀ x, x.depth < j.depth → Blames item.target.demand read x) :
    Blames p.demand (readList read) j := by
  have hitems : ∀ x, x.depth < j.depth → Blames item.demand read x := fun x hx =>
    (h x hx).weaken (fun hadmits => hadmits.resolve_left (by simp [hitem])) fun _ _ => id
  refine (blames_list hitems).weaken (fun hj => ?_) fun q x hx => .inr ?_
  · rw [Property.demand, hplace] at hj
    exact hj.resolve_left (by rintro ⟨⟨⟩, -⟩)
  · rw [hplace]
    exact hx

/-- A member that is a list of values. -/
theorem Agree.listed (h : Agree item.target.demand read fun b => some (write b))
    (hitem : item.isNullable = false) (hplace : p.place = .listOf item) :
    Agree p.demand (readList read) fun bs => some (.list write bs) where
  carries := by
    rintro bs ⟨j, hj⟩
    exact carries_listed hplace fun b hb => h.carries (exists_of_readList hj b hb)
  blames j := blames_listed hitem hplace fun x _ => h.blames x

end Listed

theorem Agree.declared {name : Name} {p : Property}
    (h : Agree name.demand read fun b => some (write b)) (hplace : p.place = .listOf (.ref name)) :
    Agree p.demand (readList read) fun bs => some (.list write bs) :=
  @Agree.listed β (.ref name) read write p h rfl hplace

/-- The names of the roles that may call an operation. -/
theorem agree_grants :
    Agree rolesProperty.demand (readOption (readList readText)) (Option.map namesJson) := by
  refine Agree.property ?_ rfl
  refine (agree_text.place rfl).list.option (by rintro b ⟨⟩) (fun j => ?_) fun q x j hx => ?_
  · cases j with
    | arr items => simp [Target.demand, rolesProperty, Property.plain, Place.target, admits_list]
    | _ => simp [Target.demand, rolesProperty, Property.plain, Place.target, Target.Admits,
        checkTarget, atPath_eq_nil, Target.checkLeaf, checkKind_eq_nil, Kind.holds]
  · cases hx with | item hy hx => exact .item hy hx

end Lists

end Decl

end ModelLinker
