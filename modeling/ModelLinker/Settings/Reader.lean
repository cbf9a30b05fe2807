import ModelLinker.Settings.Basic

/-!
Reading settings. A settings file is a TOML document with at most three keys, each with a truth
value or a text; tables and other values have no place in it. Lines may be empty or hold a
comment.
-/

namespace ModelLinker.Settings

/-- A value of a setting. -/
inductive Value where
  | truth (b : Bool)
  | text (s : String)
deriving DecidableEq, Repr

/-- What was read, and the rest of the text. -/
abbrev Step (α : Type) := Option (α × List Char)

/-! ### characters -/

/-- Blanks within a line. -/
def isSpace (c : Char) : Bool := c = ' ' || c = '\t'

/-- Control characters may not appear as they are, except for the tab. -/
def isControl (c : Char) : Bool := (c.toNat < 0x20 && c ≠ '\t') || c.toNat = 0x7F

/-- The characters of a key without quotes. -/
def isKeyChar (c : Char) : Bool := c.isAlphanum || c = '_' || c = '-'

/-- The text without the blanks in front. -/
def skipSpace (s : List Char) : List Char := s.dropWhile isSpace

/-- The text after a line break. -/
def lineBreak? : List Char → Option (List Char)
  | '\n' :: s => some s
  | '\r' :: '\n' :: s => some s
  | _ => none

/-- The text without the blanks and line breaks in front. -/
def skipBlankLines : List Char → List Char
  | '\r' :: '\n' :: s => skipBlankLines s
  | c :: s => if isSpace c || c = '\n' then skipBlankLines s else c :: s
  | [] => []

/-! ### texts -/

/-- The value of a hexadecimal digit. -/
def hexValue? (c : Char) : Option Nat :=
  if c.isDigit then some (c.toNat - '0'.toNat)
  else if 'a' ≤ c && c ≤ 'f' then some (c.toNat - 'a'.toNat + 10)
  else if 'A' ≤ c && c ≤ 'F' then some (c.toNat - 'A'.toNat + 10)
  else none

/-- The character with a code in hexadecimal digits; surrogates are none. -/
def codeChar? (digits : List Char) : Option Char := do
  let values ← digits.mapM hexValue?
  let n := values.foldl (fun n v => n * 16 + v) 0
  if h : n.isValidChar then some (Char.ofNatAux n h) else none

/-- The character of a short escape. -/
def escape? : Char → Option Char
  | 'b' => some '\x08'
  | 't' => some '\t'
  | 'n' => some '\n'
  | 'f' => some '\x0c'
  | 'r' => some '\r'
  | '"' => some '"'
  | '\\' => some '\\'
  | _ => none

/-- The rest of a text on one line, in double quotes. -/
def readQuoted (done : List Char) : List Char → Step String
  | [] => none
  | '"' :: s => some (String.ofList done.reverse, s)
  | '\\' :: 'u' :: a :: b :: c :: d :: s =>
    (codeChar? [a, b, c, d]).bind fun x => readQuoted (x :: done) s
  | '\\' :: 'U' :: a :: b :: c :: d :: e :: f :: g :: h :: s =>
    (codeChar? [a, b, c, d, e, f, g, h]).bind fun x => readQuoted (x :: done) s
  | '\\' :: c :: s => (escape? c).bind fun x => readQuoted (x :: done) s
  | c :: s => if isControl c || c = '\\' then none else readQuoted (c :: done) s

/-- The rest of a text on one line, in single quotes. -/
def readLiteral (done : List Char) : List Char → Step String
  | [] => none
  | '\'' :: s => some (String.ofList done.reverse, s)
  | c :: s => if isControl c then none else readLiteral (c :: done) s

/-- The end of a text of several lines, at a run of its quotes: up to two of them before the last
three belong to the text. -/
def closeQuotes? (quote : Char) (done s : List Char) : Step String :=
  let run := (s.takeWhile (· = quote)).length
  if 3 ≤ run then
    let kept := min (run - 3) 2
    some (String.ofList (List.replicate kept quote ++ done).reverse, s.drop (kept + 3))
  else none

/-- The text after a backslash at the end of a line, if it is one. -/
def joinLines? (s : List Char) : Option (List Char) :=
  (lineBreak? (skipSpace s)).map skipBlankLines

/-- The rest of a text of several lines, in double quotes. The first argument bounds the number of
characters. -/
def readLongQuoted : Nat → List Char → List Char → Step String
  | 0, _, _ => none
  | _ + 1, _, [] => none
  | n + 1, done, '"' :: s =>
    (closeQuotes? '"' done ('"' :: s)).orElse fun _ => readLongQuoted n ('"' :: done) s
  | n + 1, done, '\\' :: s =>
    match joinLines? s, s with
    | some rest, _ => readLongQuoted n done rest
    | none, 'u' :: a :: b :: c :: d :: s =>
      (codeChar? [a, b, c, d]).bind fun x => readLongQuoted n (x :: done) s
    | none, 'U' :: a :: b :: c :: d :: e :: f :: g :: h :: s =>
      (codeChar? [a, b, c, d, e, f, g, h]).bind fun x => readLongQuoted n (x :: done) s
    | none, c :: s => (escape? c).bind fun x => readLongQuoted n (x :: done) s
    | none, [] => none
  | n + 1, done, c :: s =>
    match lineBreak? (c :: s) with
    | some rest => readLongQuoted n ('\n' :: done) rest
    | none => if isControl c then none else readLongQuoted n (c :: done) s

/-- The rest of a text of several lines, in single quotes. The first argument bounds the number of
characters. -/
def readLongLiteral : Nat → List Char → List Char → Step String
  | 0, _, _ => none
  | _ + 1, _, [] => none
  | n + 1, done, c :: s =>
    if c = '\'' then
      (closeQuotes? '\'' done (c :: s)).orElse fun _ => readLongLiteral n (c :: done) s
    else match lineBreak? (c :: s) with
      | some rest => readLongLiteral n ('\n' :: done) rest
      | none => if isControl c then none else readLongLiteral n (c :: done) s

/-- A text without the line break that follows its opening quotes. -/
def afterOpening (s : List Char) : List Char := (lineBreak? s).getD s

/-! ### entries -/

def readKey : List Char → Step String
  | '"' :: s => readQuoted [] s
  | '\'' :: s => readLiteral [] s
  | s =>
    let name := s.takeWhile isKeyChar
    if name.isEmpty then none else some (String.ofList name, s.dropWhile isKeyChar)

def readValue : List Char → Step Value
  | 't' :: 'r' :: 'u' :: 'e' :: s => some (.truth true, s)
  | 'f' :: 'a' :: 'l' :: 's' :: 'e' :: s => some (.truth false, s)
  | '"' :: '"' :: '"' :: s =>
    (readLongQuoted (s.length + 1) [] (afterOpening s)).map fun (t, rest) => (.text t, rest)
  | '"' :: s => (readQuoted [] s).map fun (t, rest) => (.text t, rest)
  | '\'' :: '\'' :: '\'' :: s =>
    (readLongLiteral (s.length + 1) [] (afterOpening s)).map fun (t, rest) => (.text t, rest)
  | '\'' :: s => (readLiteral [] s).map fun (t, rest) => (.text t, rest)
  | _ => none

/-- The text after a comment, if there is one. -/
def skipComment : List Char → List Char
  | '#' :: s => s.dropWhile (!isControl ·)
  | s => s

/-- The end of a line, with a comment before it: the text after the line break, or nothing. -/
def readLineEnd (s : List Char) : Option (List Char) :=
  let rest := skipComment (skipSpace s)
  if rest.isEmpty then some [] else lineBreak? rest

/-- A key with its value, after the blanks in front. -/
def readEntry (s : List Char) : Option ((String × Value) × List Char) := do
  let (key, s) ← readKey s
  match skipSpace s with
  | '=' :: s =>
    let (value, s) ← readValue (skipSpace s)
    return ((key, value), s)
  | _ => none

/-- The keys and values of a text, line by line. The first argument bounds the number of lines. -/
def readEntries : Nat → List Char → Option (List (String × Value))
  | 0, _ => none
  | n + 1, s => do
    let s := skipSpace s
    if s.isEmpty then return []
    match readLineEnd s with
    | some rest => readEntries n rest
    | none =>
      let (entry, rest) ← readEntry s
      let rest ← readLineEnd rest
      let entries ← readEntries n rest
      return entry :: entries

/-- A text without a byte order mark. -/
def withoutMark : List Char → List Char
  | '\ufeff' :: s => s
  | s => s

/-! ### settings -/

/-- The keys of settings. -/
def keys : List String := ["warnings_as_errors", "log_filter", "log_json"]

/-- One more setting. -/
def set (settings : Settings) (key : String) (value : Value) :
    Except SettingsProblem Settings :=
  match key, value with
  | "warnings_as_errors", .truth b => .ok { settings with warningsAsErrors := b }
  | "log_filter", .text s => .ok { settings with logFilter := s }
  | "log_json", .truth b => .ok { settings with logJson := b }
  | _, _ => .error (if keys.contains key then .wrongValue key else .unknownKey key)

/-- The first key that stands twice. -/
def repeated? : List String → Option String
  | [] => none
  | k :: ks => if ks.contains k then some k else repeated? ks

/-- The settings of a text; what is not set is as by default. -/
def read (text : String) : Except SettingsProblem Settings :=
  let s := withoutMark text.toList
  match readEntries (s.length + 1) s with
  | none => .error .unreadable
  | some entries =>
    match repeated? (entries.map (·.1)) with
    | some key => .error (.repeatedKey key)
    | none => entries.foldlM (fun settings (key, value) => settings.set key value) .default

end ModelLinker.Settings
