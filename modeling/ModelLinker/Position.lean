import ModelLinker.Json.Basic

/-!
Positions in source documents.
-/

namespace ModelLinker

/-- A position: lines and columns count from one, and a line of zero means that only the file is
known. -/
structure Pos where
  file : String
  line : Nat
  column : Nat
deriving DecidableEq, Repr

namespace Pos

/-- A position that names only the file. -/
def ofFile (file : String) : Pos := ⟨file, 0, 0⟩

/-- The text of a position. -/
def text (p : Pos) : String :=
  if p.line = 0 then p.file
  else p.file ++ ":" ++ toString p.line ++ ":" ++ toString p.column

def toJson (p : Pos) : Json :=
  .obj [("file", .str p.file), ("line", .nat p.line), ("column", .nat p.column)]

end Pos

end ModelLinker
