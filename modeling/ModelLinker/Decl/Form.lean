import ModelLinker.Keyword
import ModelLinker.Json.Basic
import ModelLinker.Decimal.Shortest
import ModelLinker.Text.Quoted

/-!
How declarations are read from documents. A form lists the members of a declaration in order; the
declaration is an object of members, or a list of them in that order. The first problem ends the
reading. An object is read member by member as it stands, and what is missing is noticed last.
-/

namespace ModelLinker.Decl

open Decimal (Binary64)

/-- What was found where something else was expected. -/
inductive Found where
  | null
  | truth (b : Bool)
  | integer (n : Int)
  | real (x : Binary64)
  | text (s : String)
  | sequence
  | map
deriving DecidableEq, Repr

/-- What a document is, seen from outside. -/
def Found.ofJson : Json → Found
  | .null => .null
  | .bool b => .truth b
  | .int n => .integer n
  | .real x => .real x
  | .str s => .text s
  | .arr _ => .sequence
  | .obj _ => .map

def Found.message : Found → String
  | .null => "null"
  | .truth b => "boolean `" ++ (if b then "true" else "false") ++ "`"
  | .integer n => "integer `" ++ toString n ++ "`"
  | .real x => "floating point `" ++ x.text ++ "`"
  | .text s => "string " ++ Text.quoted s
  | .sequence => "sequence"
  | .map => "map"

/-- What a place expects. -/
inductive Expected where
  | text
  | truth
  | sequence
  | signed
  | unsigned
  | size
  | unit
  | keyword
  | singleKey
  | object (kind : String)
  | fewerItems
  | items (kind : String) (count : Nat)
deriving DecidableEq, Repr

def Expected.message : Expected → String
  | .text => "a string"
  | .truth => "a boolean"
  | .sequence => "a sequence"
  | .signed => "i64"
  | .unsigned => "u64"
  | .size => "usize"
  | .unit => "unit"
  | .keyword => "string or map"
  | .singleKey => "map with a single key"
  | .object kind => "struct " ++ kind
  | .fewerItems => "fewer elements in array"
  | .items kind count =>
    "struct " ++ kind ++ " with " ++ toString count ++ (if count = 1 then " element" else " elements")

/-- Why a document is no declaration. -/
inductive FormError where
  | invalidType (found : Found) (expected : Expected)
  | invalidValue (found : Found) (expected : Expected)
  | invalidLength (count : Nat) (expected : Expected)
  | unknownMember (name : String) (known : List String)
  | unknownWord (word : String) (known : List String)
  | missingMember (name : String)
  | noLiteral
deriving DecidableEq, Repr

def backQuoted (name : String) : String := "`" ++ name ++ "`"

/-- The names that a place knows, as a message lists them. -/
def listNames : List String → String
  | [a] => backQuoted a
  | [a, b] => backQuoted a ++ " or " ++ backQuoted b
  | names => "one of " ++ String.intercalate ", " (names.map backQuoted)

def FormError.message : FormError → String
  | .invalidType f e => "invalid type: " ++ f.message ++ ", expected " ++ e.message
  | .invalidValue f e => "invalid value: " ++ f.message ++ ", expected " ++ e.message
  | .invalidLength n e => "invalid length " ++ toString n ++ ", expected " ++ e.message
  | .unknownMember name known =>
    "unknown field " ++ backQuoted name ++ ", expected " ++ listNames known
  | .unknownWord word known =>
    "unknown variant " ++ backQuoted word ++ ", expected " ++ listNames known
  | .missingMember name => "missing field " ++ backQuoted name
  | .noLiteral => "data did not match any variant of untagged enum Literal"

/-- Reading a value from a document. -/
abbrev Reading (α : Type) := Json → Except FormError α

def wrongType {α : Type} (j : Json) (e : Expected) : Except FormError α :=
  .error (.invalidType (.ofJson j) e)

/-! ### single values -/

def readText : Reading String
  | .str s => .ok s
  | j => wrongType j .text

/-- A truth value. -/
def readTruth : Reading Bool
  | .bool b => .ok b
  | j => wrongType j .truth

/-- An integer in a range. -/
def readInteger (low high : Int) (e : Expected) : Reading Int
  | .int n => if low ≤ n ∧ n ≤ high then .ok n else .error (.invalidValue (.integer n) e)
  | j => wrongType j e

/-- The least integer of 64 bits. -/
def leastSigned : Int := Int64.minValue.toInt

/-- The greatest integer of 64 bits. -/
def greatestSigned : Int := Int64.maxValue.toInt

/-- The greatest natural number of 64 bits. -/
def greatestUnsigned : Int := UInt64.size - 1

/-- An integer of 64 bits. -/
def readSigned : Reading Int := readInteger leastSigned greatestSigned .signed

/-- A natural number of 64 bits. -/
def readNatural (e : Expected) : Reading Nat :=
  fun j => (readInteger 0 greatestUnsigned e j).map Int.toNat

/-- A word of a vocabulary, or an object whose one member has that name and the value null. -/
def readKeyword (α : Type) [Keyword α] : Reading α
  | .str w => match Keyword.ofWord? w with
    | some a => .ok a
    | none => .error (.unknownWord w (Keyword.words α))
  | .obj [(w, j)] => match Keyword.ofWord? w, j with
    | some a, .null => .ok a
    | some _, j => wrongType j .unit
    | none, _ => .error (.unknownWord w (Keyword.words α))
  | .obj _ => .error (.invalidValue .map .singleKey)
  | j => wrongType j .keyword

/-- A value that may be null. -/
def readOption {α : Type} (read : Reading α) : Reading (Option α)
  | .null => .ok none
  | j => (read j).map some

/-- A list of values. -/
def readList {α : Type} (read : Reading α) : Reading (List α)
  | .arr items => items.mapM read
  | j => wrongType j .sequence

/-! ### forms -/

/-- A member of a declaration: its name, whether it has to be there, and how its value enters the
declaration. -/
structure Member (α : Type) where
  name : String
  required : Bool
  read : Json → Except FormError (α → α)

/-- A member that has to be there. -/
def required {α β : Type} (name : String) (read : Reading β) (set : β → α → α) : Member α :=
  ⟨name, true, fun j => (read j).map set⟩

/-- A member that may be left out. -/
def defaulted {α β : Type} (name : String) (read : Reading β) (set : β → α → α) : Member α :=
  ⟨name, false, fun j => (read j).map set⟩

/-- The form of a declaration: what it is called, what it is while no member is there, and its
members in order. -/
structure Form (α : Type) where
  kind : String
  blank : α
  members : List (Member α)

namespace Form

variable {α : Type} (f : Form α)

/-- One more member of an object. -/
def enter (a : α) (entry : String × Json) : Except FormError α :=
  match f.members.find? (·.name == entry.1) with
  | some m => (m.read entry.2).map (· a)
  | none => .error (.unknownMember entry.1 (f.members.map (·.name)))

/-- A declaration written as an object. -/
def readObject (entries : List (String × Json)) : Except FormError α := do
  let a ← entries.foldlM f.enter f.blank
  match f.members.find? fun m => m.required && !entries.any (·.1 == m.name) with
  | some m => .error (.missingMember m.name)
  | none => .ok a

/-- A declaration written as the list of its members; members at the end may be left out. -/
def readItems (items : List Json) : Except FormError α := do
  let a ← (f.members.zip items).foldlM (fun a (m, j) => (m.read j).map (· a)) f.blank
  match (f.members.drop items.length).findIdx? (·.required) with
  | some i => .error (.invalidLength (items.length + i) (.items f.kind f.members.length))
  | none =>
    if f.members.length < items.length then .error (.invalidLength items.length .fewerItems)
    else .ok a

/-- A declaration. -/
def read : Reading α
  | .obj entries => f.readObject entries
  | .arr items => f.readItems items
  | j => wrongType j (.object f.kind)

end Form

end ModelLinker.Decl
