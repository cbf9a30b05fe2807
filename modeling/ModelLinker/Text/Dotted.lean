import ModelLinker.Text.Blank

/-!
Dotted names, such as `author.company.name`. A path is split at every dot and each piece is
trimmed; a target has exactly one dot. Both refuse a name with a blank piece.
-/

namespace ModelLinker.Text

/-- The pieces of a text between its dots: one more than there are dots. -/
def pieces : List Char → List (List Char)
  | [] => [[]]
  | c :: cs =>
    if c = '.' then [] :: pieces cs
    else match pieces cs with
      | [] => [[c]]
      | p :: ps => (c :: p) :: ps

/-- The names written one after another with dots between. -/
def joinDots (names : List String) : String :=
  String.intercalate "." names

/-- The trimmed pieces of a dotted path, if none of them is blank. -/
def parsePath? (s : String) : Option (List String) :=
  let parts := (pieces s.toList).map trimChars
  if parts.any List.isEmpty then none else some (parts.map String.ofList)

/-- The two halves of a target `struct.field`: the text is cut at its first dot, the second half
has no dot, and neither half is blank. -/
def parseTarget? (s : String) : Option (String × String) :=
  match s.toList.dropWhile (· ≠ '.') with
  | [] => none
  | _ :: rest =>
    let first := trimChars (s.toList.takeWhile (· ≠ '.'))
    let second := trimChars rest
    if first.isEmpty || second.isEmpty || rest.contains '.' then none
    else some (String.ofList first, String.ofList second)

end ModelLinker.Text
