import ModelLinker.Text.Alphanumeric
import ModelLinker.Text.Blank

/-!
Patterns of values: regular expressions as a filter states them. The values of spans are numbers,
which no pattern matches, so all that counts of a pattern is its form: a filter with an ill-formed
pattern is no filter. A test of a value ends at its first closing brace. Hence a pattern holds
none, and what an opening brace begins is never ended.
-/

namespace ModelLinker.Log.Pattern

open Text (isBlank isAlphabetic isAlphanumeric)

/-! ### switches and signs -/

/-- The switches that change how a pattern is read: whether blanks and comments are left out,
whether it is about characters and not about bytes, and whether case does not count. -/
structure Switches where
  spaced : Bool
  wide : Bool
  folded : Bool
deriving DecidableEq, Repr

/-- The switches in the beginning. -/
def Switches.start : Switches := ⟨false, true, false⟩

/-- The letters of all switches, and the sign that turns those after it off. -/
def switchLetters : List Char := ['i', 'm', 's', 'U', 'u', 'R', 'x', '-']

/-- The switches after some are turned on or off. -/
def Switches.turn (s : Switches) (letters : List Char) : Switches :=
  let on := letters.takeWhile (· ≠ '-')
  let turned (c : Char) (before : Bool) : Bool :=
    if letters.contains c then on.contains c else before
  ⟨turned 'x' s.spaced, turned 'u' s.wide, turned 'i' s.folded⟩

/-- No letter stands twice, and the sign of turning off is not the last one. -/
def areSwitches (letters : List Char) : Bool :=
  letters.all switchLetters.contains && letters.eraseDups.length == letters.length &&
    letters.getLast? != some '-'

/-- What stands for characters or for a place between them. -/
inductive Sign where
  /-- One character. It may be written as a byte. -/
  | char (c : Char) (byte : Bool)
  /-- A class of characters, perhaps of ASCII alone. -/
  | set (ascii : Bool)
  /-- The start or the end of a line or of the text. -/
  | anchor
  /-- The start or the end of a word. -/
  | boundary
deriving DecidableEq, Repr

/-- The character is one of ASCII. -/
def isAscii (c : Char) : Bool := c.toNat < 0x80

/-- A sign that may stand alone. What is about bytes may not split a character. The words of
Unicode have no boundaries. -/
def Sign.isPart (w : Switches) : Sign → Bool
  | .char c byte => w.wide || isAscii c || !(byte || w.folded)
  | .set ascii => w.wide || ascii
  | .anchor => true
  | .boundary => !w.wide

/-- A sign that may stand between brackets. -/
def Sign.isItem (w : Switches) : Sign → Bool
  | .char c _ => w.wide || isAscii c
  | .set ascii => w.wide || ascii
  | .anchor | .boundary => false

/-! ### blanks and comments -/

/-- The text after the blanks and comments in front. A comment ends with its line. -/
def afterSpace (comment : Bool) : List Char → List Char
  | [] => []
  | c :: cs =>
    if comment then afterSpace (c ≠ '\n') cs
    else if isBlank c then afterSpace false cs
    else if c = '#' then afterSpace true cs
    else c :: cs

/-- The text from the next character that counts. -/
def Switches.skip (w : Switches) (cs : List Char) : List Char :=
  if w.spaced then afterSpace false cs else cs

/-- The next character that counts; the sign of a comment is looked through. -/
def Switches.next? (w : Switches) (cs : List Char) : Option Char :=
  if w.spaced then
    match cs.dropWhile isBlank with
    | '#' :: cs => (cs.dropWhile isBlank).head?
    | cs => cs.head?
  else cs.head?

/-! ### escapes -/

/-- The value of a hexadecimal digit. -/
def hexValue? (c : Char) : Option Nat :=
  if c.isDigit then some (c.toNat - '0'.toNat)
  else if 'a' ≤ c.toLower && c.toLower ≤ 'f' then some (c.toLower.toNat - 'a'.toNat + 10)
  else none

/-- A character by its code, of which some digits are still to be read. -/
def readCode (w : Switches) (byte : Bool) : Nat → Nat → List Char → Option (Sign × List Char)
  | 0, code, cs => if code.isValidChar then some (.char (Char.ofNat code) byte, cs) else none
  | digits + 1, code, cs =>
    match w.skip cs with
    | [] => none
    | c :: cs => (hexValue? c).bind fun v => readCode w byte digits (code * 16 + v) cs

/-- A class by the letter of a general category. -/
def readCategory (w : Switches) (cs : List Char) : Option (Sign × List Char) :=
  match w.skip cs with
  | [] => none
  | c :: cs =>
    if ['c', 'l', 'm', 'n', 'p', 's', 'z'].contains c.toLower then some (.set false, cs) else none

/-- The characters that have a letter. -/
def controls : List (Char × Char) :=
  [('a', '\x07'), ('f', '\x0c'), ('n', '\n'), ('r', '\r'), ('t', '\t'), ('v', '\x0b')]

/-- What follows a backslash. -/
def readEscape (w : Switches) : List Char → Option (Sign × List Char)
  | [] => none
  | 'x' :: cs => readCode w true 2 0 cs
  | 'u' :: cs => readCode w false 4 0 cs
  | 'U' :: cs => readCode w false 8 0 cs
  | c :: cs =>
    if ['p', 'P'].contains c then readCategory w cs
    else if ['d', 's', 'w'].contains c then some (.set true, cs)
    else if ['D', 'S', 'W'].contains c then some (.set false, cs)
    else if ['A', 'z'].contains c then some (.anchor, cs)
    else if ['b', 'B', '<', '>'].contains c then some (.boundary, cs)
    else match controls.lookup c with
      | some control => some (.char control false, cs)
      | none => if isAscii c && !c.isAlphanum then some (.char c false, cs) else none

/-! ### nesting -/

/-- Parts side by side: how many there are, and how deep the deepest is nested. -/
structure Row where
  parts : Nat
  depth : Nat
deriving DecidableEq, Repr

/-- No parts. -/
def Row.empty : Row := ⟨0, 0⟩

def Row.add (r : Row) (depth : Nat) : Row := ⟨r.parts + 1, max r.depth depth⟩

/-- How deep the row is nested: more than one part make a level of their own. -/
def Row.height (r : Row) : Nat := if r.parts ≤ 1 then r.depth else r.depth + 1

/-- A pattern may be nested as deep as this. -/
def maxDepth : Nat := 250

/-! ### classes in brackets -/

/-- The names of the classes of ASCII. -/
def classNames : List String :=
  ["alnum", "alpha", "ascii", "blank", "cntrl", "digit", "graph", "lower", "print", "punct",
    "space", "upper", "word", "xdigit"]

/-- A named class after its opening bracket, and whether it is negated. -/
def readNamed : List Char → Option (Bool × List Char)
  | ':' :: cs =>
    let negated := cs.head? == some '^'
    let cs := if negated then cs.tail else cs
    match cs.dropWhile (· ≠ ':') with
    | ':' :: ']' :: rest =>
      if classNames.contains (String.ofList (cs.takeWhile (· ≠ ':'))) then some (negated, rest)
      else none
    | _ => none
  | _ => none

/-- How two classes are made into one. -/
inductive SetOp where
  | intersection | difference | exclusion
deriving DecidableEq, Repr

/-- The operator that two equal characters stand for. -/
def SetOp.ofChar? : Char → Option SetOp
  | '&' => some .intersection
  | '-' => some .difference
  | '~' => some .exclusion
  | _ => none

/-- Whether something is in the class, if it is in the first and in the second. -/
def SetOp.holds : SetOp → Bool → Bool → Bool
  | .intersection, a, b => a && b
  | .difference, a, b => a && !b
  | .exclusion, a, b => a != b

/-- A class that is not closed yet: whether dashes and a closing bracket can still stand for
themselves, whether it is negated, what comes before its last operator, and the items since then,
some of which may lie beyond ASCII. -/
structure OpenSet where
  opening : Bool
  negated : Bool
  before : Option (SetOp × Nat × Bool)
  row : Row
  beyond : Bool

namespace OpenSet

/-- A class after its opening bracket, and the text that follows. -/
def start (w : Switches) (cs : List Char) : OpenSet × List Char :=
  match w.skip cs with
  | '^' :: cs => (⟨true, true, none, .empty, false⟩, cs)
  | cs => (⟨true, false, none, .empty, false⟩, cs)

/-- One more item. -/
def add (s : OpenSet) (depth : Nat) (beyond : Bool) : OpenSet :=
  { s with opening := false, row := s.row.add depth, beyond := s.beyond || beyond }

/-- How deep the class is nested, and whether it goes beyond ASCII before it is negated. -/
def content (s : OpenSet) : Nat × Bool :=
  match s.before with
  | none => (s.row.height, s.beyond)
  | some (op, depth, beyond) => (max depth s.row.height + 1, op.holds beyond s.beyond)

/-- The class after an operator. -/
def operate (s : OpenSet) (op : SetOp) : OpenSet :=
  { s with opening := false, before := some (op, s.content), row := .empty, beyond := false }

end OpenSet

/-- A character or an escape between brackets. -/
def readItem (w : Switches) : List Char → Option (Sign × List Char)
  | [] => none
  | '\\' :: cs => readEscape w cs
  | c :: cs => some (.char c false, cs)

/-- A sign, or two with a dash between that are the ends of a range. The text after it. -/
def readRange (w : Switches) (cs : List Char) : Option (List Char) := do
  let (first, cs) ← readItem w cs
  let single := if first.isItem w then some cs else none
  match w.skip cs with
  | '-' :: more =>
    if [some ']', some '-'].contains (w.next? more) then single
    else
      let (last, cs) ← readItem w (w.skip more)
      match first, last with
      | .char a _, .char b _ =>
        if first.isItem w && last.isItem w && a.toNat ≤ b.toNat then some cs else none
      | _, _ => none
  | _ => single

/-- The classes that are open, read to the end of the outermost: how deep that is nested, and the
text after it. Each step takes a character, so as many steps as there are characters are enough. -/
def readSet (w : Switches) : Nat → List OpenSet → List Char → Option (Nat × List Char)
  | 0, _, _ => none
  | _, [], _ => none
  | steps + 1, s :: outer, cs =>
    match w.skip cs with
    | [] => none
    | c :: cs =>
      if s.opening && c = '-' then
        readSet w steps ({ s.add 0 false with opening := true } :: outer) cs
      else if s.opening && c = ']' && s.row.parts = 0 then
        readSet w steps (s.add 0 false :: outer) cs
      else if c = '[' then
        match readNamed cs with
        | some (negated, rest) => readSet w steps (s.add 0 negated :: outer) rest
        | none =>
          let (inner, rest) := OpenSet.start w cs
          readSet w steps (inner :: { s with opening := false } :: outer) rest
      else if c = ']' then
        let (depth, beyond) := s.content
        if !w.wide && beyond != s.negated then none
        else match outer with
          | [] => some (depth + 1, cs)
          | next :: outer => readSet w steps (next.add (depth + 1) false :: outer) cs
      else
        let op := if cs.head? == some c then SetOp.ofChar? c else none
        match op with
        | some op => readSet w steps (s.operate op :: outer) cs.tail
        | none => (readRange w (c :: cs)).bind (readSet w steps (s.add 0 false :: outer))

/-! ### groups -/

/-- The branches of a group: the depth of the finished ones, the parts of the last one, and the
depth of the last part if it can be repeated. -/
structure Branches where
  finished : Option Nat
  row : Row
  last : Option Nat

namespace Branches

/-- One branch without parts. -/
def empty : Branches := ⟨none, .empty, none⟩

/-- One more part. -/
def add (b : Branches) (depth : Nat) : Branches :=
  { b with row := b.row.add depth, last := some depth }

/-- How deep the branches are nested. -/
def height (b : Branches) : Nat :=
  match b.finished with
  | none => b.row.height
  | some depth => max depth b.row.height + 1

def next (b : Branches) : Branches :=
  ⟨some (max (b.finished.getD 0) b.row.height), .empty, none⟩

/-- The last part is repeated. There may be none. -/
def repeated? (b : Branches) : Option Branches :=
  b.last.map fun depth =>
    { b with row.depth := max b.row.depth (depth + 1), last := some (depth + 1) }

end Branches

/-- What is known in the middle of a pattern: the switches, the branches of the innermost open
group, those around it, and the names of groups so far. -/
structure State where
  switches : Switches
  branches : Branches
  outer : List (Switches × Branches)
  names : List (List Char)

namespace State

/-- Nothing is read. -/
def start : State := ⟨.start, .empty, [], []⟩

/-- One more part. -/
def add (s : State) (depth : Nat) : State := { s with branches := s.branches.add depth }

/-- One more part that a sign makes. -/
def addSign? (s : State) (sign : Sign) : Option State :=
  if sign.isPart s.switches then some (s.add 0) else none

/-- A group begins. -/
def enter (s : State) (inside : Switches) : State :=
  { s with
    switches := inside, branches := .empty, outer := (s.switches, s.branches) :: s.outer }

/-- A group ends. -/
def leave? (s : State) : Option State :=
  match s.outer with
  | [] => none
  | (switches, branches) :: outer =>
    some { s with switches, branches := branches.add (s.branches.height + 1), outer }

/-- A name of a group. -/
def isName (name : List Char) : Bool :=
  name.head?.any (fun c => c = '_' || isAlphabetic c) &&
    name.tail.all fun c => ['_', '.', '[', ']'].contains c || isAlphanumeric c

/-- A group with a name begins, before the name. -/
def readName (s : State) (cs : List Char) : Option (State × List Char) :=
  let name := cs.takeWhile (· ≠ '>')
  match cs.dropWhile (· ≠ '>') with
  | [] => none
  | _ :: rest =>
    if isName name && !s.names.contains name then
      some ({ s.enter s.switches with names := name :: s.names }, rest)
    else none

/-- Switches are turned, for a group that begins or from here on. -/
def readSwitches (s : State) (cs : List Char) : Option (State × List Char) :=
  let letters := cs.takeWhile fun c => c ≠ ':' && c ≠ ')'
  let turned := s.switches.turn letters
  if !areSwitches letters then none
  else match cs.drop letters.length with
    | ':' :: rest => some (s.enter turned, rest)
    | _ :: rest =>
      if letters.isEmpty then none
      else
        let branches := { s.branches.add 0 with last := none }
        some ({ s with switches := turned, branches }, rest)
    | [] => none

/-- What follows the opening of a group. -/
def readGroup (s : State) (cs : List Char) : Option (State × List Char) :=
  match s.switches.skip cs with
  | '?' :: 'P' :: '<' :: cs => s.readName cs
  | '?' :: '<' :: cs => s.readName cs
  | '?' :: cs => s.readSwitches cs
  | cs => some (s.enter s.switches, cs)

/-- One step: a character, and what belongs to it. -/
def step? (s : State) (c : Char) (cs : List Char) : Option (State × List Char) :=
  match c with
  | '(' => s.readGroup cs
  | ')' => s.leave?.map (·, cs)
  | '|' => some ({ s with branches := s.branches.next }, cs)
  | '[' =>
    let (set, cs) := OpenSet.start s.switches cs
    (readSet s.switches cs.length [set] cs).map fun (depth, cs) => (s.add depth, cs)
  | '?' | '*' | '+' =>
    s.branches.repeated?.map fun branches =>
      ({ s with branches }, if cs.head? == some '?' then cs.tail else cs)
  | '\x7b' => none
  | '\\' => (readEscape s.switches cs).bind fun (sign, cs) => (s.addSign? sign).map (·, cs)
  | '.' => (s.addSign? (.set false)).map (·, cs)
  | '^' | '$' => (s.addSign? .anchor).map (·, cs)
  | c => (s.addSign? (.char c false)).map (·, cs)

/-- The text that follows completes a pattern. Each step takes a character, so as many steps as
there are characters are enough. -/
def completes : Nat → State → List Char → Bool
  | steps, s, cs =>
    match s.switches.skip cs, steps with
    | [], _ => s.outer.isEmpty && s.branches.height ≤ maxDepth
    | _, 0 => false
    | c :: cs, steps + 1 => (s.step? c cs).any fun (s, cs) => completes steps s cs

end State

/-- A text has the form of a pattern. -/
def isWellFormed (cs : List Char) : Bool := State.start.completes cs.length cs

end ModelLinker.Log.Pattern
