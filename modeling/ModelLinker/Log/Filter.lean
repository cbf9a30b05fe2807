import ModelLinker.Log.Event
import ModelLinker.Log.Pattern
import ModelLinker.Text.Alphanumeric
import ModelLinker.Text.Blank
import ModelLinker.Text.Fold

/-!
Filters of events. A filter is a list of directives, each of which raises the level up to which
events are told: of all events, of those from some target, or of those in some span. Of the
directives that an event falls under the most specific one decides; a directive about a span adds
to what the others let through.
-/

namespace ModelLinker.Log

open Text (isAlphanumeric sameName trimChars)

/-- What a value has to be: a natural number, or something that no span holds. -/
inductive Wanted where
  | natural (n : Nat)
  | other (text : String)
deriving DecidableEq, Repr

/-- What a directive asks of a span or event: a name, and perhaps a value under it. -/
structure FieldTest where
  name : String
  value : Option Wanted
deriving DecidableEq, Repr

/-- A directive: events up to a rank are told if they come from a target that starts as stated,
and fall into the stated span. Rank 0 turns them off. -/
structure Directive where
  target : Option String
  span : Option String
  fields : List FieldTest
  rank : Nat
deriving DecidableEq, Repr

/-- A filter. -/
abbrev Filter := List Directive

/-! ### reading -/

/-- The digits of a natural number, perhaps with a plus sign in front. -/
def natural? (s : String) : Option Nat :=
  let digits := match s.toList with
    | '+' :: cs => cs
    | cs => cs
  if digits.isEmpty || !digits.all Char.isDigit then none
  else some (digits.foldl (fun n c => n * 10 + (c.toNat - '0'.toNat)) 0)

def rankWords : List (String × Nat) :=
  [("off", 0), ("error", 1), ("warn", 2), ("info", 3), ("debug", 4), ("trace", 5)]

/-- A rank, by number or by word. Case does not count. -/
def rank? (s : String) : Option Nat :=
  match natural? s with
  | some n => if n ≤ 5 then some n else none
  | none => (rankWords.find? fun w => sameName w.1 s).map (·.2)

/-- A rank that may be left out; then everything is told. -/
def rankOrAll? (s : String) : Option Nat :=
  if s.isEmpty then some Level.trace.rank else rank? s

/-- A number as a value may be written: with a sign, a fraction and an exponent, or by name. -/
def isNumber (cs : List Char) : Bool :=
  let unsigned : List Char → List Char
    | '+' :: cs | '-' :: cs => cs
    | cs => cs
  let body := unsigned cs
  let (whole, rest) := (body.takeWhile Char.isDigit, body.dropWhile Char.isDigit)
  let (fraction, rest) := match rest with
    | '.' :: cs => (cs.takeWhile Char.isDigit, cs.dropWhile Char.isDigit)
    | cs => ([], cs)
  let exponent := match rest with
    | [] => true
    | c :: cs =>
      c.toLower = 'e' && !(unsigned cs).isEmpty && (unsigned cs).all Char.isDigit
  ["inf", "infinity", "nan"].any (sameName · (String.ofList body)) ||
    !(whole.isEmpty && fraction.isEmpty) && exponent

/-- What a value has to be: a number, or what a pattern matches. -/
def wanted? (cs : List Char) : Option Wanted :=
  match natural? (String.ofList cs) with
  | some n => some (.natural n)
  | none =>
    if isNumber cs || Pattern.isWellFormed cs then some (.other (String.ofList cs)) else none

/-- The test of a value: a name, or a name and a value with an equals sign between. What follows
a second sign does not count. -/
def fieldTest? (cs : List Char) : Option FieldTest :=
  let name := String.ofList (cs.takeWhile (· ≠ '='))
  match cs.dropWhile (· ≠ '=') with
  | [] => some ⟨name, none⟩
  | _ :: value => (wanted? (value.takeWhile (· ≠ '='))).map fun v => ⟨name, some v⟩

/-- A directive that stands alone names a rank or a target. -/
def readAlone (s : String) : Directive :=
  match rank? s with
  | some r => ⟨none, none, [], r⟩
  | none => ⟨some s, none, [], Level.trace.rank⟩

/-! ### places -/

/-- A stretch of a text: the places of its first character and of the one after its last. -/
structure Stretch where
  start : Nat
  stop : Nat
deriving DecidableEq, Repr

/-- The characters of a text from one place to another. -/
def Stretch.of (s : Stretch) (text : List Char) : List Char := (text.take s.stop).drop s.start

/-- Where the parts of a directive stand. -/
inductive Outline where
  /-- All of the text is one rank or target. -/
  | alone
  /-- There may be a target, a span, a test of a value, and the place where a rank starts. -/
  | parts (target span test : Option Stretch) (rank : Option Nat)
deriving DecidableEq, Repr

namespace Outline

/-- A directive can begin with these characters. -/
def canStart (c : Char) : Bool := ['-', ':', '_'].contains c || isAlphanumeric c

/-- The end of a directive, at a place after its span: nothing, or an equals sign and a rank. -/
def ofEnd? (target span test : Option Stretch) (place : Nat) : List Char → Option Outline
  | [] => some (.parts target span test none)
  | '=' :: _ => some (.parts target span test (some (place + 1)))
  | _ => none

/-- A span, at a place after the opening bracket, and the end of the directive. A test in braces
makes the name of the span optional. -/
def ofSpan? (target : Option Stretch) (place : Nat) (s : List Char) : Option Outline :=
  let name := s.takeWhile fun c => c ≠ ']' && c ≠ '\x7b'
  let span : Stretch := ⟨place, place + name.length⟩
  match s.drop name.length with
  | [] => none
  | ']' :: rest => ofEnd? target (some span) none (span.stop + 1) rest
  | _ :: rest =>
    let content := rest.takeWhile (· ≠ '\x7d')
    let test : Stretch := ⟨span.stop + 1, span.stop + 1 + content.length⟩
    match content, rest.drop content.length with
    | _ :: _, _ :: ']' :: rest =>
      ofEnd? target (if name.isEmpty then none else some span) (some test) (test.stop + 2) rest
    | _, _ => none

/-- The outline of a text without blanks around it. -/
def ofChars? : List Char → Option Outline
  | [] => none
  | '[' :: cs => ofSpan? none 1 cs
  | c :: cs =>
    if canStart c then
      let target := (c :: cs).takeWhile fun c => c ≠ '=' && c ≠ '['
      let stretch : Stretch := ⟨0, target.length⟩
      match (c :: cs).drop target.length with
      | [] => some .alone
      | '[' :: rest => ofSpan? (some stretch) (stretch.stop + 1) rest
      | rest => ofEnd? (some stretch) none none stretch.stop rest
    else none

/-- The directive whose parts stand at these places of a text. -/
def directive? (text : List Char) : Outline → Option Directive
  | alone => some (readAlone (String.ofList text))
  | parts target span test rank => do
    let name (s : Stretch) : String := String.ofList (s.of text)
    let fields ← test.toList.mapM fun s => fieldTest? (s.of text)
    let rank ← match rank with
      | some place => rankOrAll? (String.ofList (text.drop place))
      | none => some Level.trace.rank
    return ⟨target.map name, span.map name, fields, rank⟩

end Outline

/-- A directive. Its outline is that of the text without the blanks around it, while the places
count from the start of the whole text. With blanks in front the parts so found are not the words
that were meant: such a directive is about nothing, and it is none if it states a rank. -/
def Directive.read? (s : String) : Option Directive :=
  (Outline.ofChars? (trimChars s.toList)).bind (·.directive? s.toList)

/-- The pieces of a text between commas. -/
def commaPieces : List Char → List (List Char)
  | [] => [[]]
  | c :: cs =>
    if c = ',' then [] :: commaPieces cs
    else match commaPieces cs with
      | [] => [[c]]
      | p :: ps => (c :: p) :: ps

/-- A filter: directives with commas between, of which empty ones do not count. -/
def Filter.read? (s : String) : Option Filter :=
  ((commaPieces s.toList).filter (!·.isEmpty)).mapM fun p => Directive.read? (String.ofList p)

/-! ### applying -/

namespace Directive

variable (d : Directive)

def isAboutSpans : Bool := d.span.isSome || !d.fields.isEmpty

/-- The directive can be applied to events on their own. -/
def isAboutEvents : Bool := d.span.isNone && d.fields.all (·.value.isNone)

/-- The target starts as the directive states. -/
def admitsTarget (target : String) : Bool :=
  match d.target with
  | some t => t.isPrefixOf target
  | none => true

/-- An event falls under the directive. -/
def covers (e : Event) : Bool :=
  d.isAboutEvents && d.admitsTarget e.target &&
    d.fields.all fun f => e.fields.any (·.1 == f.name)

/-- A span meets the directive. -/
def matchesSpan (s : Span) : Bool :=
  d.isAboutSpans && d.admitsTarget s.target && d.span.all (· == s.name) &&
    d.fields.all fun f => f.name == s.field && f.value.all (· == .natural s.value)

/-- The directive takes the place of another one if it is about the same target and span and asks
for the same values. -/
def replaces (earlier : Directive) : Bool :=
  d.target == earlier.target && d.span == earlier.span && d.fields == earlier.fields

/-- The first directive is at least as specific as the second: a longer target counts more, then
more tests. -/
def atLeastAsSpecific (a b : Directive) : Bool :=
  let length (d : Directive) : Nat := match d.target with
    | some t => t.utf8ByteSize + 1
    | none => 0
  let names (d : Directive) : List String := d.fields.map (·.name)
  if length a ≠ length b then length b < length a
  else if a.fields.length ≠ b.fields.length then b.fields.length < a.fields.length
  else names b < names a || names a = names b

end Directive

/-- The directive that decides about an event; of two that are alike the later one. -/
def Filter.deciding? (filter : Filter) (e : Event) : Option Directive :=
  (filter.filter (·.covers e)).foldl (fun best d => match best with
    | some b => if d.atLeastAsSpecific b then some d else some b
    | none => some d) none

/-- A filter without the directives that a later one replaces. -/
def Filter.effective : Filter → Filter
  | [] => []
  | d :: ds => if ds.any (·.replaces d) then effective ds else d :: effective ds

/-- An event is told. -/
def Filter.admits (filter : Filter) (e : Event) : Bool :=
  let bySpan := e.span?.any fun s =>
    filter.effective.any fun d => d.matchesSpan s && e.level.rank ≤ d.rank
  bySpan || (filter.deciding? e).any fun d => e.level.rank ≤ d.rank

end ModelLinker.Log
