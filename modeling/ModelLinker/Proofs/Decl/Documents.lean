import ModelLinker.Proofs.Decl.Nested
import ModelLinker.Proofs.Source.Attempts

/-!
# Documents read, written and checked

What was read from a document, in whatever form, is written as a document that the schema accepts
and that is read as the same again (`rewritten_of_readDocument`). And a document that the schema
accepts is read, unless a member that takes an integer has a number that does not fit it
(`accepted_of_validateJson`).
-/

namespace ModelLinker

open Decl Schema

theorem validateJson_eq_nil {name : String} {j : Json} :
    validateJson name j = [] ↔ (Target.body sourceBody).Admits j := List.map_eq_nil_iff

/-- A document that the schema admits is loaded if it can be read. -/
theorem Loaded.ofJson_eq_document {j : Json} {d : Decl.Document}
    (hadmits : (Target.body sourceBody).Admits j) (hread : readDocument j = .ok d) :
    Loaded.ofJson j = .document d := by
  have hcheck : Schema.check j = [] := hadmits
  simp only [Loaded.ofJson, hcheck, hread]

/-! ### documents written -/

/-- A document that was read is written in a form that the schema accepts and that loads as the same
document, also with the members of its objects in another order. -/
theorem rewritten_of_readDocument {v : Json} {d : Decl.Document} (hv : readDocument v = .ok d)
    {e : Json} (he : d.toJson.Rearranged e) :
    readDocument e = .ok d ∧ (∀ name, validateJson name e = []) ∧
      Loaded.ofJson e = .document d ∧ (∀ name, (Loaded.ofJson e).diagnostics name = []) ∧
      (readDocument e).map Decl.Document.toJson = .ok d.toJson := by
  obtain ⟨hadmits, hread⟩ := agree_document.carries ⟨v, hv⟩ _ rfl e he
  have hloaded := Loaded.ofJson_eq_document hadmits hread
  refine ⟨hread, fun _ => validateJson_eq_nil.2 hadmits, hloaded, fun _ => ?_, ?_⟩
  · rw [hloaded]
    rfl
  · rw [hread]
    rfl

/-- A document of lists and objects, with a word written as an object, members that are null, and a
default that is too great for an integer with a sign. -/
def mixedJson : Json :=
  .arr [
    .arr [.arr [.str "account", .null, .null, .arr [
      .arr [.str "id", .obj [("int", .null)]],
      .obj [("default", .int 9223372036854775808), ("name", .str "size"), ("type", .str "real"),
        ("of", .null)]]]],
    .arr [],
    .arr [],
    .arr [.obj [("name", .str "clerk"), ("roles", .arr [.arr [.str "junior"]])]]]

/-- What this document declares. -/
def mixedDocument : Decl.Document where
  structs := [
    { name := "account", place := none, doc := none
      fields := [.bare "id" (.plain .int) none,
        { Decl.Field.bare "size" (.plain .real) none with
          default := some (.real ⟨false, 4503599627370496, 11⟩) }]
      searches := [], updates := [], deletes := [], insert := none, uniques := [] }]
  enums := []
  bitfields := []
  roles := [⟨"clerk", none, [⟨"junior", none, [], none, none⟩], none, none⟩]

theorem rewritten_of_mixedJson :
    readDocument mixedJson = .ok mixedDocument ∧
      ∃ members, mixedDocument.toJson = .obj members ∧
        readDocument (.obj members.reverse) = .ok mixedDocument ∧
        validateJson "mixed" (.obj members.reverse) = [] ∧
        Loaded.ofJson (.obj members.reverse) = .document mixedDocument := by
  have hread : readDocument mixedJson = .ok mixedDocument := by rfl
  refine ⟨hread, _, rfl, ?_⟩
  have hreversed : mixedDocument.toJson.Rearranged (.obj _) :=
    .obj rfl (List.forall₂_same.2 fun x _ => .refl x) (List.reverse_perm _).symm
  obtain ⟨hagain, hvalid, hloaded, -⟩ := rewritten_of_readDocument hread hreversed
  exact ⟨hagain, hvalid "mixed", hloaded⟩

/-! ### documents accepted -/

/-- What the schema accepts is read, but for a number in a member that takes an integer which is no
integer or out of range. All integers of a document that comes from a text have 64 bits, as is
assumed here. What is not loaded leaves errors, all of them at the file. -/
theorem accepted_of_validateJson :
    (∀ text j, Json.read text = .ok j → j.WordSized) ∧
    (∀ (j : Json) (name : String), j.WordSized → validateJson name j = [] →
      (∀ e, readDocument j = .error e → ∃ (m : IntegerMember) (x : Json),
        (Target.body sourceBody).Holds m.property x j ∧ m.Rejects x ∧ e = m.error x) ∧
      ((∀ (m : IntegerMember) (x : Json), (Target.body sourceBody).Holds m.property x j →
          ¬ m.Rejects x) →
        ∃ d, Loaded.ofJson j = .document d ∧ (Loaded.ofJson j).diagnostics name = [])) ∧
    ∀ (j : Json) (name : String), (Loaded.ofJson j).document? = none →
      (Loaded.ofJson j).diagnostics name ≠ [] ∧
        ∀ d ∈ (Loaded.ofJson j).diagnostics name,
          d.severity = .error ∧ d.channel = .source ∧ d.pos = some (.ofFile name) := by
  refine ⟨fun _ _ => Json.wordSized_of_read, ?_,
    fun j name h => Loaded.diagnostics_of_rejected h name⟩
  intro j name hsized hvalid
  have hadmits := validateJson_eq_nil.1 hvalid
  have hblames := agree_document.blames j hsized hadmits
  refine ⟨hblames, fun hnone => ?_⟩
  cases hread : readDocument j with
  | error e =>
    obtain ⟨m, x, hx, hrejects, -⟩ := hblames e hread
    exact absurd hrejects (hnone m x hx)
  | ok d =>
    have hloaded := Loaded.ofJson_eq_document hadmits hread
    exact ⟨d, hloaded, by rw [hloaded]; rfl⟩

/-- A bitfield of one bit with some value. -/
def bitJson (value : Json) : Json :=
  .obj [("bitfields", .arr [
    .obj [("items", .arr [.obj [("name", .str "read"), ("value", value)]]),
      ("name", .str "access")]])]

/-- How such a bitfield is spelt. -/
def bitText (value : String) : String :=
  "\x7b\"bitfields\":[\x7b\"name\":\"access\",\"items\":[\x7b\"name\":\"read\",\"value\":" ++
    value ++ "\x7d]\x7d]\x7d"

/-- The number 1 with a fraction, which is an integer to the schema but not to the reader. -/
def fractionJson : Json := .real ⟨false, 4503599627370496, -52⟩

/-- The value of the bit is the only integer in it. -/
theorem eq_of_holds_bitJson {value x : Json} {m : IntegerMember}
    (h : (Target.body sourceBody).Holds m.property x (bitJson value)) : x = value := by
  revert h
  cases m <;>
    simp [bitJson, sourceBody, Name.definition, Definition.plain, holds_object, holds_list,
      not_holds_scalar, Place.target, Place.text, Place.natural, Place.naturalOrNull, atProperty,
      docProperty, declarations, Property.withDefault, Property.plain]

theorem accepted_of_bitJson :
    (∃ m : IntegerMember, m.Rejects fractionJson ∧
      readDocument (bitJson fractionJson) = .error (m.error fractionJson)) ∧
    (∃ d, Loaded.ofJson (bitJson (.int 4)) = .document d ∧
      (Loaded.ofJson (bitJson (.int 4))).diagnostics "bit" = []) ∧
    (Loaded.ofJson (bitJson .null)).diagnostics "bit" ≠ [] := by
  obtain ⟨hsized, haccepted, hrejected⟩ := accepted_of_validateJson
  have hreal : Json.read (bitText "1.0") = .ok (bitJson fractionJson) := by rfl
  have hint : Json.read (bitText "4") = .ok (bitJson (.int 4)) := by rfl
  refine ⟨?_, ?_, ?_⟩
  · have hvalid : validateJson "bit" (bitJson fractionJson) = [] := by decide +kernel
    have hread : readDocument (bitJson fractionJson) =
      .error (.invalidType (.ofJson fractionJson) .signed) := by rfl
    obtain ⟨m, x, hx, hrejects, heq⟩ := (haccepted _ "bit" (hsized _ _ hreal) hvalid).1 _ hread
    obtain rfl := eq_of_holds_bitJson hx
    exact ⟨m, hrejects, by rw [hread, heq]⟩
  · have hvalid : validateJson "bit" (bitJson (.int 4)) = [] := by decide +kernel
    refine (haccepted _ "bit" (hsized _ _ hint) hvalid).2 fun m x hx => ?_
    obtain rfl := eq_of_holds_bitJson hx
    cases m <;> decide
  · exact (hrejected (bitJson .null) "bit" (by decide +kernel)).1

end ModelLinker
