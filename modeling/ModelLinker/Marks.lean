import ModelLinker.Model.Lookup

/-!
The marks of structures: whether they have lists, streams and blobs, and whether they or a
structure they embed can be absent.
-/

namespace ModelLinker

/-- A structure-typed field whose structure may be absent, or has a part that may be. -/
def Model.isNullRef (m : Model) (f : Field) : Bool :=
  f.type.isStruct && f.reference.any fun r =>
    (m.field? r.source).any (fun source => source.flags.nullable) ||
      ((m.embedded? f).bind m.struct?).any fun s => s.flags.hasNullrefs

/-- The marks of a structure, given those of the structures it embeds. -/
def Model.flagsOf (m : Model) (id : StructId) (s : Struct) : StructFlags where
  hasQueue := s.searches.any fun x => x.kind == .list
  hasIterator := s.searches.any fun x => x.kind == .iterate
  hasBlob := (m.fieldsOf id).any fun (_, f) => f.type == .plain .blob
  hasNullrefs := (m.fieldsOf id).any fun (_, f) => m.isNullRef f

def setFlags (m : Model) (id : StructId) : Model :=
  match m.struct? id with
  | none => m
  | some s => m.modifyStruct id fun x => { x with flags := m.flagsOf id s }

/-- The model with the marks of all structures. The order lists every structure after those it
embeds. -/
def computeFlags (order : List StructId) (m : Model) : Model :=
  order.foldl setFlags m

/-- How many structures have parts that may be absent. -/
def nullrefCount (m : Model) : Nat :=
  m.structs.toList.countP fun s => s.flags.hasNullrefs

end ModelLinker
