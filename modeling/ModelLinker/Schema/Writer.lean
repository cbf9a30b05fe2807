import ModelLinker.Decl.Writer
import ModelLinker.Schema.Source

/-!
The schema as a document of its own.
-/

namespace ModelLinker.Schema

open Decl (always ifThere)

def kindsJson : List Kind → Json
  | [k] => .str k.name
  | kinds => .list (fun k => .str k.name) kinds

/-- The members of a simple value. -/
def Scalar.members (s : Scalar) : List (String × Json) :=
  always "type" (kindsJson s.kinds) ++ ifThere "enum" (.list .str) s.words ++
    ifThere "format" .str s.format ++
    (if s.fromZero then [("minimum", .real (.zero false))] else [])

/-- A reference to a definition. -/
def Name.refJson (name : Name) : Json :=
  .obj [("$ref", .str ("#/definitions/" ++ name.text))]

def Place.members : Place → List (String × Json)
  | .scalar s => s.members
  | .listOf item => [("type", .str "array"), ("items", .obj item.members)]
  | .listOrNull item =>
    [("type", kindsJson [.array, .null]), ("items", .obj item.members)]
  | .ref name => [("$ref", .str ("#/definitions/" ++ name.text))]
  | .refOrNull name => [("anyOf", .arr [name.refJson, .obj [("type", .str "null")]])]
  | .refWithDefault name => [("allOf", .arr [name.refJson])]

def Property.toJson (p : Property) : String × Json :=
  (p.name, .obj (ifThere "description" .str p.description ++ ifThere "default" id p.default ++
    p.place.members))

/-- The members of a definition's body. -/
def Body.members : Body → List (String × Json)
  | .scalar s => s.members
  | .object required properties =>
    always "type" (.str "object") ++
      (if required.isEmpty then [] else [("required", .list .str required)]) ++
      always "properties" (.obj (properties.map Property.toJson)) ++
      always "additionalProperties" (.bool false)
  | .choice c alternatives =>
    [(c.keyword, .list (fun a => .obj (ifThere "description" .str a.1 ++ a.2.members))
      alternatives)]

def Definition.toJson (d : Definition) : Json :=
  .obj (ifThere "description" .str d.description ++ d.body.members)

def sourceJson : Json :=
  .obj (always "$schema" (.str "http://json-schema.org/draft-07/schema#") ++
    always "title" (.str "SourceDocument") ++
    always "description" (.str "One input document.") ++ sourceBody.members ++
    always "definitions" (.obj (Name.all.map fun n => (n.text, n.definition.toJson))))

end ModelLinker.Schema
