import ModelLinker.Linking
import ModelLinker.Model.Writer

/-!
Writing a linked model as a document: the model itself, the topology and the warnings.
-/

namespace ModelLinker

def Topology.toJson (t : Topology) : Json :=
  .obj [("summary", .obj [("nodes", .nat t.nodes), ("edges", .nat t.edges)]),
    ("heights", .list .nat t.heights), ("generations", .list .nat t.generations),
    ("order", .list StructId.toJson t.order)]

def Linked.toJson (l : Linked) : Json :=
  .obj [("config", l.model.toJson), ("topology", l.topology.toJson),
    ("diagnostics", Diagnostics.toJson l.diagnostics)]

end ModelLinker
