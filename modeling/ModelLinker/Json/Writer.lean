import ModelLinker.Json.Basic
import ModelLinker.Decimal.Shortest

/-!
The text of a document: compact, without blanks, or indented by two spaces a level. Members are
written in the order in which they stand.
-/

namespace ModelLinker.Json

/-- Four hexadecimal digits. -/
def hex4 (n : Nat) : List Char :=
  let ds := Nat.toDigits 16 n
  List.replicate (4 - ds.length) '0' ++ ds

/-- One character of a text as it stands between the quotes: only the quote, the backslash and
controls are escaped. -/
def escapeChar (c : Char) : List Char :=
  if c = '"' then ['\\', '"']
  else if c = '\\' then ['\\', '\\']
  else if c = '\x08' then ['\\', 'b']
  else if c = '\x0c' then ['\\', 'f']
  else if c = '\n' then ['\\', 'n']
  else if c = '\r' then ['\\', 'r']
  else if c = '\t' then ['\\', 't']
  else if c.toNat < 0x20 then ['\\', 'u'] ++ hex4 c.toNat
  else [c]

/-- A text between its quotes. -/
def quote (s : String) : String :=
  String.ofList ('"' :: s.toList.flatMap escapeChar ++ ['"'])

mutual

/-- The compact text of a document, written after what is there already. -/
def writeCompact (out : String) : Json → String
  | .null => out ++ "null"
  | .bool b => out ++ (if b then "true" else "false")
  | .int n => out ++ toString n
  | .real x => out ++ x.text
  | .str s => out ++ quote s
  | .arr items => writeItems (out ++ "[") items ++ "]"
  | .obj members => writeMembers (out ++ "\x7b") members ++ "\x7d"

/-- The compact texts of items with commas between. -/
def writeItems (out : String) : List Json → String
  | [] => out
  | [x] => writeCompact out x
  | x :: y :: xs => writeItems (writeCompact out x ++ ",") (y :: xs)

/-- The compact texts of members with commas between. -/
def writeMembers (out : String) : List (String × Json) → String
  | [] => out
  | [(k, x)] => writeCompact (out ++ quote k ++ ":") x
  | (k, x) :: m :: ms => writeMembers (writeCompact (out ++ quote k ++ ":") x ++ ",") (m :: ms)

end

def compact (j : Json) : String := writeCompact "" j

def newLine (level : Nat) : String :=
  String.ofList ('\n' :: List.replicate (2 * level) ' ')

mutual

/-- The indented text of a document at a level, written after what is there already. -/
def writeIndented (level : Nat) (out : String) : Json → String
  | .arr (x :: xs) =>
    indentItems (level + 1) (out ++ "[") (x :: xs) ++ newLine level ++ "]"
  | .obj (m :: ms) =>
    indentMembers (level + 1) (out ++ "\x7b") (m :: ms) ++ newLine level ++ "\x7d"
  | .null => out ++ "null"
  | .bool b => out ++ (if b then "true" else "false")
  | .int n => out ++ toString n
  | .real x => out ++ x.text
  | .str s => out ++ quote s
  | .arr [] => out ++ "[]"
  | .obj [] => out ++ "\x7b\x7d"

/-- The indented texts of items, each on a line of its own. -/
def indentItems (level : Nat) (out : String) : List Json → String
  | [] => out
  | [x] => writeIndented level (out ++ newLine level) x
  | x :: y :: xs =>
    indentItems level (writeIndented level (out ++ newLine level) x ++ ",") (y :: xs)

/-- The indented texts of members, each on a line of its own. -/
def indentMembers (level : Nat) (out : String) : List (String × Json) → String
  | [] => out
  | [(k, x)] => writeIndented level (out ++ newLine level ++ quote k ++ ": ") x
  | (k, x) :: m :: ms =>
    indentMembers level (writeIndented level (out ++ newLine level ++ quote k ++ ": ") x ++ ",")
      (m :: ms)

end

def indented (j : Json) : String := writeIndented 0 "" j

end ModelLinker.Json
