import ModelLinker.Json.Basic
import ModelLinker.Decimal.Scaled

/-!
Reading a document from its text. The first fault ends the reading; it is reported with the line
and the column, in bytes, that the reader had come to. Lists and objects may be nested 127 deep.
-/

namespace ModelLinker.Json

open Decimal (Binary64 scaled?)

/-- What is wrong with a text that is no document. -/
inductive SyntaxProblem where
  | endInList
  | endInObject
  | endInText
  | endInValue
  | colonExpected
  | commaOrListEndExpected
  | commaOrObjectEndExpected
  | wordExpected
  | valueExpected
  | invalidEscape
  | invalidNumber
  | numberOutOfRange
  | controlInText
  | keyNotText
  | loneSurrogate
  | trailingComma
  | trailingCharacters
  | escapeCutShort
  | nestedTooDeep
deriving DecidableEq, Repr

def SyntaxProblem.message : SyntaxProblem → String
  | .endInList => "EOF while parsing a list"
  | .endInObject => "EOF while parsing an object"
  | .endInText => "EOF while parsing a string"
  | .endInValue => "EOF while parsing a value"
  | .colonExpected => "expected `:`"
  | .commaOrListEndExpected => "expected `,` or `]`"
  | .commaOrObjectEndExpected => "expected `,` or `\x7d`"
  | .wordExpected => "expected ident"
  | .valueExpected => "expected value"
  | .invalidEscape => "invalid escape"
  | .invalidNumber => "invalid number"
  | .numberOutOfRange => "number out of range"
  | .controlInText =>
    "control character (\\u0000-\\u001F) found while parsing a string"
  | .keyNotText => "key must be a string"
  | .loneSurrogate => "lone leading surrogate in hex escape"
  | .trailingComma => "trailing comma"
  | .trailingCharacters => "trailing characters"
  | .escapeCutShort => "unexpected end of hex escape"
  | .nestedTooDeep => "recursion limit exceeded"

/-- A problem, the text that was still to be read, and how many bytes of it the reader had looked
at when it gave up. -/
structure Fault where
  problem : SyntaxProblem
  rest : List Char
  ahead : Nat

/-- A step of reading gives a result and the rest of the text, or a fault. -/
abbrev Step (α : Type) := Except Fault (α × List Char)

/-- A fault before the next character. -/
def faultAt {α : Type} (problem : SyntaxProblem) (rest : List Char) : Step α :=
  .error ⟨problem, rest, 0⟩

/-- A fault on the next character. -/
def faultOn {α : Type} (problem : SyntaxProblem) (rest : List Char) : Step α :=
  .error ⟨problem, rest, 1⟩

/-- Blanks between the parts of a document. -/
def isFiller (c : Char) : Bool :=
  c = ' ' || c = '\n' || c = '\t' || c = '\r'

/-- The text without the blanks in front. -/
def skipFiller (s : List Char) : List Char := s.dropWhile isFiller

/-! ### numbers -/

def digitValue (c : Char) : Nat := c.toNat - '0'.toNat

/-- The text goes on with a digit. -/
def startsWithDigit : List Char → Bool
  | c :: _ => c.isDigit
  | [] => false

/-- The greatest significand that is kept: 64 bits. -/
def greatestSignificand : Nat := UInt64.size - 1

/-- Digits appended to a significand as long as it stays in range: the significand, how many
digits were taken, and the rest. -/
def gather (significand taken : Nat) : List Char → Nat × Nat × List Char
  | [] => (significand, taken, [])
  | c :: cs =>
    if c.isDigit && significand * 10 + digitValue c ≤ greatestSignificand then
      gather (significand * 10 + digitValue c) (taken + 1) cs
    else (significand, taken, c :: cs)

/-- A floating-point number from its parts; the fault is one of range. -/
def finish (negative : Bool) (significand : Nat) (exponent : Int) (rest : List Char) :
    Step Json :=
  match scaled? negative significand exponent with
  | some x => .ok (.real x, rest)
  | none => faultAt .numberOutOfRange rest

/-- The greatest exponent that is read digit by digit. -/
def greatestExponent : Nat := UInt32.size / 2 - 1

/-- The digits of an exponent; on one that is too great its sign decides. -/
def exponentDigits (negative down : Bool) (significand : Nat) (start : Int) (value : Nat) :
    List Char → Step Json
  | c :: cs =>
    if c.isDigit then
      let value := value * 10 + digitValue c
      if value ≤ greatestExponent then exponentDigits negative down significand start value cs
      else if significand ≠ 0 && !down then faultAt .numberOutOfRange cs
      else .ok (.real (.zero negative), cs.dropWhile Char.isDigit)
    else finish negative significand (if down then start - value else start + value) (c :: cs)
  | [] => finish negative significand (if down then start - value else start + value) []

/-- The part after the letter of an exponent. -/
def exponentPart (negative : Bool) (significand : Nat) (start : Int) (s : List Char) :
    Step Json :=
  let (down, s) := match s with
    | '+' :: cs => (false, cs)
    | '-' :: cs => (true, cs)
    | cs => (false, cs)
  match s with
  | [] => faultAt .endInValue []
  | c :: cs =>
    if c.isDigit then exponentDigits negative down significand start (digitValue c) cs
    else faultOn .invalidNumber (c :: cs)

/-- What may follow the digits of a floating-point number. -/
def afterDigits (negative : Bool) (significand : Nat) (exponent : Int) : List Char → Step Json
  | 'e' :: cs => exponentPart negative significand exponent cs
  | 'E' :: cs => exponentPart negative significand exponent cs
  | cs => finish negative significand exponent cs

/-- The part after the point. Digits that the significand has no room for are dropped. -/
def fractionPart (negative : Bool) (significand : Nat) (exponent : Int) (s : List Char) :
    Step Json :=
  let (value, taken, rest) := gather significand 0 s
  if startsWithDigit rest then
    afterDigits negative value (exponent - taken) (rest.dropWhile Char.isDigit)
  else if taken = 0 then
    match rest with
    | [] => faultAt .endInValue []
    | _ :: _ => faultOn .invalidNumber rest
  else afterDigits negative value (exponent - taken) rest

/-- A number without fraction and exponent. Below the range of 64 bits, and at minus zero, it is
floating-point. -/
def wholeNumber (negative : Bool) (significand : Nat) (rest : List Char) : Step Json :=
  if !negative then .ok (.int significand, rest)
  else if significand = 0 || UInt64.size / 2 < significand then finish true significand 0 rest
  else .ok (.int (-significand), rest)

/-- What may follow the digits before the point. -/
def afterWhole (negative : Bool) (significand : Nat) (dropped : Nat) : List Char → Step Json
  | '.' :: cs => fractionPart negative significand dropped cs
  | 'e' :: cs => exponentPart negative significand dropped cs
  | 'E' :: cs => exponentPart negative significand dropped cs
  | cs =>
    if dropped = 0 then wholeNumber negative significand cs
    else finish negative significand dropped cs

/-- A number after its sign. Only zero starts with a zero. -/
def readNumber (negative : Bool) (s : List Char) : Step Json :=
  match s with
  | [] => faultAt .endInValue []
  | '0' :: cs =>
    if startsWithDigit cs then faultOn .invalidNumber cs else afterWhole negative 0 0 cs
  | c :: cs =>
    if c.isDigit then
      let (significand, _, rest) := gather (digitValue c) 0 cs
      let dropped := rest.takeWhile Char.isDigit
      afterWhole negative significand dropped.length (rest.drop dropped.length)
    else faultOn .invalidNumber (c :: cs)

/-! ### texts -/

/-- The value of a hexadecimal digit. -/
def hexValue? (c : Char) : Option Nat :=
  if c.isDigit then some (c.toNat - '0'.toNat)
  else if 'a' ≤ c && c ≤ 'f' then some (c.toNat - 'a'.toNat + 10)
  else if 'A' ≤ c && c ≤ 'F' then some (c.toNat - 'A'.toNat + 10)
  else none

/-- The number of four hexadecimal digits. -/
def hexNumber? (a b c d : Char) : Option Nat := do
  let a ← hexValue? a
  let b ← hexValue? b
  let c ← hexValue? c
  let d ← hexValue? d
  return ((a * 16 + b) * 16 + c) * 16 + d

/-- How many bytes the text takes. -/
def byteCount (s : List Char) : Nat :=
  s.foldl (fun n c => n + c.utf8Size) 0

/-- The fault of an escape by number that has not four digits. -/
def hexFault {α : Type} (s : List Char) : Step α :=
  if byteCount s < 4 then faultAt .endInText [] else .error ⟨.invalidEscape, s, 4⟩

/-- The first half of a surrogate pair. -/
def isHighSurrogate (n : Nat) : Bool := 0xD800 ≤ n && n ≤ 0xDBFF

/-- The second half of a surrogate pair. -/
def isLowSurrogate (n : Nat) : Bool := 0xDC00 ≤ n && n ≤ 0xDFFF

/-- The character of a surrogate pair. -/
def pairChar (high low : Nat) : Char :=
  Char.ofNat ((high - 0xD800) * 0x400 + (low - 0xDC00) + 0x10000)

/-- The characters of a text after its opening quote, in reverse behind those already read. -/
def readText (done : List Char) : List Char → Step String
  | [] => faultAt .endInText []
  | '"' :: s => .ok (String.ofList done.reverse, s)
  | '\\' :: s =>
    match s with
    | [] => faultAt .endInText []
    | '"' :: s => readText ('"' :: done) s
    | '\\' :: s => readText ('\\' :: done) s
    | '/' :: s => readText ('/' :: done) s
    | 'b' :: s => readText ('\x08' :: done) s
    | 'f' :: s => readText ('\x0c' :: done) s
    | 'n' :: s => readText ('\n' :: done) s
    | 'r' :: s => readText ('\r' :: done) s
    | 't' :: s => readText ('\t' :: done) s
    | 'u' :: s =>
      match s with
      | a :: b :: c :: d :: s =>
        match hexNumber? a b c d with
        | none => hexFault (a :: b :: c :: d :: s)
        | some n =>
          if isLowSurrogate n then faultAt .loneSurrogate s
          else if isHighSurrogate n then
            match s with
            | '\\' :: 'u' :: s =>
              match s with
              | a :: b :: c :: d :: s =>
                match hexNumber? a b c d with
                | none => hexFault (a :: b :: c :: d :: s)
                | some m =>
                  if isLowSurrogate m then readText (pairChar n m :: done) s
                  else faultAt .loneSurrogate s
              | s => hexFault s
            | '\\' :: [] => faultAt .endInText []
            | '\\' :: s => faultOn .escapeCutShort s
            | [] => faultAt .endInText []
            | s => faultOn .escapeCutShort s
          else readText (Char.ofNat n :: done) s
      | s => hexFault s
    | s => faultOn .invalidEscape s
  | c :: s =>
    if c.toNat < 0x20 then faultOn .controlInText (c :: s) else readText (c :: done) s

/-! ### values -/

/-- The rest of a word such as `true`. -/
def readWord (value : Json) : List Char → List Char → Step Json
  | [], s => .ok (value, s)
  | _ :: _, [] => faultAt .endInValue []
  | w :: ws, c :: s => if c = w then readWord value ws s else faultOn .wordExpected (c :: s)

/-- The items of a list after one item, in reverse behind those already read. The fuel is at
least the length of the text. -/
def readItems (value : List Char → Step Json) : Nat → List Json → List Char → Step Json
  | 0, _, s => faultOn .endInList s
  | fuel + 1, done, s =>
    match skipFiller s with
    | [] => faultAt .endInList []
    | ']' :: s => .ok (.arr done.reverse, s)
    | ',' :: s =>
      match skipFiller s with
      | [] => faultAt .endInValue []
      | ']' :: s => faultOn .trailingComma (']' :: s)
      | s =>
        match value s with
        | .error f => .error f
        | .ok (x, s) => readItems value fuel (x :: done) s
    | s => faultOn .commaOrListEndExpected s

/-- A list after its opening bracket. -/
def readList (value : List Char → Step Json) (s : List Char) : Step Json :=
  match skipFiller s with
  | [] => faultAt .endInList []
  | ']' :: s => .ok (.arr [], s)
  | s =>
    match value s with
    | .error f => .error f
    | .ok (x, s) => readItems value (s.length + 1) [x] s

/-- A member of an object after the opening quote of its name. -/
def readMember (value : List Char → Step Json) (s : List Char) : Step (String × Json) :=
  match readText [] s with
  | .error f => .error f
  | .ok (name, s) =>
    match skipFiller s with
    | [] => faultAt .endInObject []
    | ':' :: s =>
      match value s with
      | .error f => .error f
      | .ok (x, s) => .ok ((name, x), s)
    | s => faultOn .colonExpected s

/-- The members of an object after one member. The last of several members with one name counts.
The fuel is at least the length of the text. -/
def readMembers (value : List Char → Step Json) :
    Nat → List (String × Json) → List Char → Step Json
  | 0, _, s => faultOn .endInObject s
  | fuel + 1, done, s =>
    match skipFiller s with
    | [] => faultAt .endInObject []
    | '\x7d' :: s => .ok (.obj done, s)
    | ',' :: s =>
      match skipFiller s with
      | [] => faultAt .endInValue []
      | '"' :: s =>
        match readMember value s with
        | .error f => .error f
        | .ok ((name, x), s) => readMembers value fuel (insertMember name x done) s
      | '\x7d' :: s => faultOn .trailingComma ('\x7d' :: s)
      | s => faultOn .keyNotText s
    | s => faultOn .commaOrObjectEndExpected s

/-- An object after its opening brace. -/
def readObject (value : List Char → Step Json) (s : List Char) : Step Json :=
  match skipFiller s with
  | [] => faultAt .endInObject []
  | '\x7d' :: s => .ok (.obj [], s)
  | '"' :: s =>
    match readMember value s with
    | .error f => .error f
    | .ok ((name, x), s) => readMembers value (s.length + 1) [(name, x)] s
  | s => faultOn .keyNotText s

/-- One document, with the blanks before it. The number bounds the nesting. -/
def readValue : Nat → List Char → Step Json
  | 0, s => faultOn .nestedTooDeep s
  | room + 1, s =>
    match skipFiller s with
    | [] => faultAt .endInValue []
    | 'n' :: s => readWord .null ['u', 'l', 'l'] s
    | 't' :: s => readWord (.bool true) ['r', 'u', 'e'] s
    | 'f' :: s => readWord (.bool false) ['a', 'l', 's', 'e'] s
    | '-' :: s => readNumber true s
    | '"' :: s =>
      match readText [] s with
      | .error f => .error f
      | .ok (t, s) => .ok (.str t, s)
    | '[' :: s => if room = 0 then faultOn .nestedTooDeep ('[' :: s) else readList (readValue room) s
    | '\x7b' :: s =>
      if room = 0 then faultOn .nestedTooDeep ('\x7b' :: s) else readObject (readValue room) s
    | c :: s => if c.isDigit then readNumber false (c :: s) else faultOn .valueExpected (c :: s)

/-! ### whole texts -/

/-- A fault in a text with the line and the column, in bytes, that the reader had come to. -/
structure SyntaxError where
  problem : SyntaxProblem
  line : Nat
  column : Nat
deriving DecidableEq, Repr

/-- The text of the error with its place. -/
def SyntaxError.message (e : SyntaxError) : String :=
  e.problem.message ++ " at line " ++ toString e.line ++ " column " ++ toString e.column

/-- The characters that lie wholly within the first bytes of a text, and how many bytes are left
over. -/
def takeBytes : Nat → List Char → List Char × Nat
  | n, c :: cs =>
    if c.utf8Size ≤ n then
      let (taken, left) := takeBytes (n - c.utf8Size) cs
      (c :: taken, left)
    else ([], n)
  | _, [] => ([], 0)

def Fault.place (text : List Char) (f : Fault) : SyntaxError :=
  let (seen, left) := takeBytes f.ahead f.rest
  let before := text.take (text.length - f.rest.length) ++ seen
  { problem := f.problem
    line := before.count '\n' + 1
    column := byteCount (before.reverse.takeWhile (· ≠ '\n')) + left }

/-- How many levels of lists and objects the reader has room for, the outermost value included. -/
def readingRoom : Nat := 128

def read (text : String) : Except SyntaxError Json :=
  let cs := text.toList
  match readValue readingRoom cs with
  | .error f => .error (f.place cs)
  | .ok (j, s) =>
    match skipFiller s with
    | [] => .ok j
    | s => .error ((Fault.mk .trailingCharacters s 1).place cs)

end ModelLinker.Json
