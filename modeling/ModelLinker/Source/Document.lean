import ModelLinker.Decl.Reader
import ModelLinker.Source.Parts

/-!
Entering source documents into one model. All documents share one set of names, and the parts of
a document come after those of the documents before it. A document that is not in order leaves
only its diagnostics.
-/

namespace ModelLinker

/-! ### loading a document -/

/-- What becomes of a document that is checked and read. -/
inductive Loaded where
  | rejected (violations : List Schema.Violation)
  | unreadable (e : Decl.FormError)
  | document (d : Decl.Document)

namespace Loaded

/-- A document is checked against the schema first, and read if it has no violations. -/
def ofJson (j : Json) : Loaded :=
  match Schema.check j with
  | v :: vs => .rejected (v :: vs)
  | [] => match Decl.readDocument j with
    | .ok d => .document d
    | .error e => .unreadable e

/-- The declarations, if the document is in order. -/
def document? : Loaded → Option Decl.Document
  | .document d => some d
  | _ => none

/-- What is wrong with the document. -/
def diagnostics (name : String) : Loaded → Diagnostics
  | .rejected vs => vs.map fun v => (Cause.source (.violation v)).at (.ofFile name)
  | .unreadable e => [(Cause.source (.form e)).at (.ofFile name)]
  | .document _ => []

end Loaded

/-- The violations of the schema by a document. -/
def validateJson (name : String) (j : Json) : Diagnostics :=
  (Schema.check j).map fun v => (Cause.source (.violation v)).at (.ofFile name)

/-! ### entering declarations -/

/-- A model that is being put together, and the diagnostics so far. -/
structure Draft where
  model : Model
  diagnostics : Diagnostics

namespace Draft

/-- A field of the structure that was entered last. -/
def addField (file : String) (parent : StructId) (draft : Draft) (d : Decl.Field) : Draft :=
  let (f, problems) := Source.field file parent d
  { model := match f with
      | some f => (draft.model.addField f).1
      | none => draft.model
    diagnostics := draft.diagnostics ++ problems }

/-- A structure with its fields. -/
def addStruct (file : String) (draft : Draft) (d : Decl.Struct) : Draft :=
  let (body, problems) := Source.structBody file d
  let (model, id) := draft.model.addStruct body
  let withFields := d.fields.foldl (addField file id) { draft with model }
  { withFields with diagnostics := withFields.diagnostics ++ problems }

/-- The enumerations, bit fields, roles and structures of a document, in this order. -/
def addDocument (file : String) (draft : Draft) (d : Decl.Document) : Draft :=
  let (roles, problems) := Source.roles file none d.roles
  let model := d.enums.foldl (fun m e => (m.addEnum (Source.enumeration file e)).1) draft.model
  let model := d.bitfields.foldl (fun m b => (m.addBitfield (Source.bitfield file b)).1) model
  let model := roles.foldl (fun m r => (m.addRole r).1) model
  d.structs.foldl (addStruct file) { model, diagnostics := draft.diagnostics ++ problems }

end Draft

/-! ### sets of documents -/

/-- The documents entered so far. -/
structure SourceSet where
  draft : Draft
  documents : Nat

namespace SourceSet

/-- No documents. -/
def empty : SourceSet := ⟨⟨.empty, []⟩, 0⟩

def addDocument (set : SourceSet) (name : String) (d : Decl.Document) : SourceSet :=
  ⟨set.draft.addDocument name d, set.documents + 1⟩

/-- One more document, with what came of loading it. -/
def addLoaded (set : SourceSet) (name : String) (loaded : Loaded) : SourceSet :=
  let draft := { set.draft with
    diagnostics := set.draft.diagnostics ++ loaded.diagnostics name }
  match loaded with
  | .document d => addDocument { set with draft } name d
  | _ => { set with draft }

/-- One more document, checked and read first. -/
def addJson (set : SourceSet) (name : String) (j : Json) : SourceSet :=
  set.addLoaded name (.ofJson j)

/-- The model of all documents, not yet linked. -/
def model (set : SourceSet) : Model := set.draft.model

/-- What was found wrong with the documents. -/
def diagnostics (set : SourceSet) : Diagnostics := set.draft.diagnostics

/-- Some documents that were read before, put together. -/
def ofDocuments (documents : List (String × Decl.Document)) : SourceSet :=
  documents.foldl (fun set (name, d) => set.addDocument name d) .empty

end SourceSet

end ModelLinker
