import ModelLinker.Decl.Form
import ModelLinker.Position
import ModelLinker.Schema.Check

/-!
What a diagnostic can be about, sorted by the stage that finds it, with the wording of each. Names
are kept as they were declared.
-/

namespace ModelLinker

/-- How grave a diagnostic is. -/
inductive Severity where
  | warning | error | fatal
deriving DecidableEq, Repr

instance : Keyword Severity where
  all := [.warning, .error, .fatal]
  word
    | .warning => "warning" | .error => "error" | .fatal => "fatal"

/-- The stage that a diagnostic comes from. -/
inductive Channel where
  | source | resolve | unique | roles | recursion | search | aliases | diff
deriving DecidableEq, Repr

instance : Keyword Channel where
  all := [.source, .resolve, .unique, .roles, .recursion, .search, .aliases, .diff]
  word
    | .source => "source" | .resolve => "resolve" | .unique => "unique" | .roles => "roles"
    | .recursion => "recursion" | .search => "search" | .aliases => "aliases" | .diff => "diff"

/-! ### source documents -/

/-- Problems of a source document. -/
inductive SourceProblem where
  | violation (v : Schema.Violation)
  | form (e : Decl.FormError)
  | argumentMissing (type : TypeName)
  | argumentGiven (type : TypeName)
  | foreignKeyOnStruct
  | malformedTarget (target : String)
  | malformedPath (path : String)
  | parentOfNestedRole

def SourceProblem.message : SourceProblem → String
  | .violation v => v.message
  | .form e => e.message
  | .argumentMissing t => Keyword.word t ++ " field requires an `of` argument"
  | .argumentGiven t => Keyword.word t ++ " field does not take an `of` argument"
  | .foreignKeyOnStruct => "struct fields cannot carry a foreign key"
  | .malformedTarget target => "malformed reference target: " ++ target
  | .malformedPath path => "malformed field path: " ++ path
  | .parentOfNestedRole => "nested role cannot name a parent"

/-! ### names and references -/

/-- What a dotted path is used for. -/
inductive PathUse where
  | search | order | aggregate | group
deriving DecidableEq, Repr

def PathUse.word : PathUse → String
  | .search => "search"
  | .order => "order"
  | .aggregate => "aggregate"
  | .group => "group"

/-- What a local field is used for. -/
inductive LocalUse where
  | modify | constrain | unique
deriving DecidableEq, Repr

def LocalUse.word : LocalUse → String
  | .modify => "modify"
  | .constrain => "constrain"
  | .unique => "unique"

/-- Problems of names and of what they refer to. -/
inductive ResolveProblem where
  | noStructs
  | duplicateStruct (name : String) (first : Pos)
  | duplicateField (struct field : String) (first : Pos)
  | duplicateEnumeration (name : String) (first : Pos)
  | duplicateBitfield (name : String) (first : Pos)
  | duplicateRole (name : String) (first : Pos)
  | duplicateEnumItem (enumeration item : String)
  | duplicateEnumValue (enumeration item : String) (value : Int)
  | bitOutOfRange (bitfield item : String) (value : Int)
  | duplicateBitItem (bitfield item : String)
  | duplicateBit (bitfield item : String) (value : Int)
  | nullableRowid (field : String)
  | rowidNotInt (field : String)
  | secondRowid (field : String)
  | unknownEnumeration (name : String)
  | unknownBitfield (name : String)
  | unknownTargetStruct (struct : String)
  | unknownTargetField (struct field : String)
  | selfReference (field : String)
  | targetNotUnique (struct field : String)
  | targetTypeMismatch (source target : TypeName)
  | unknownStructSource (field : String)
  | structSourceIsStruct (field : String)
  | structSourceWithoutKey (field : String)
  | validationNotAllowed (type : TypeName)
  | nothingToModify
  | unknownPathField (use : PathUse) (path : String)
  | pathThroughPlainField (use : PathUse) (path : String)
  | pathToStruct (use : PathUse) (path : String)
  | unknownDistinctField (field : String)
  | distinctThroughPlainField (field : String)
  | unknownLocalField (use : LocalUse) (field : String)
  | localStructField (use : LocalUse) (field : String)
deriving DecidableEq, Repr

/-- A message about a second declaration of a name. -/
def firstDeclared (message : String) (first : Pos) : String :=
  message ++ " (first declared at " ++ first.text ++ ")"

/-- The name of a part, with the name of the whole in front. -/
def dotted (whole part : String) : String := whole ++ "." ++ part

def valued (whole part : String) (value : Int) : String :=
  dotted whole part ++ " = " ++ toString value

def ResolveProblem.message : ResolveProblem → String
  | .noStructs => "no structures in configuration"
  | .duplicateStruct n first => firstDeclared ("duplicate structure name: " ++ n) first
  | .duplicateField s f first => firstDeclared ("duplicate field name: " ++ dotted s f) first
  | .duplicateEnumeration n first => firstDeclared ("duplicate enumeration name: " ++ n) first
  | .duplicateBitfield n first => firstDeclared ("duplicate bitfield name: " ++ n) first
  | .duplicateRole n first => firstDeclared ("duplicate role name: " ++ n) first
  | .duplicateEnumItem e i => "duplicate enumeration item: " ++ dotted e i
  | .duplicateEnumValue e i v => "duplicate enumeration value: " ++ valued e i v
  | .bitOutOfRange b i v => "bit index out of range: " ++ valued b i v
  | .duplicateBitItem b i => "duplicate bitfield item: " ++ dotted b i
  | .duplicateBit b i v => "duplicate bit index: " ++ valued b i v
  | .nullableRowid f => "rowid field cannot be null: " ++ f
  | .rowidNotInt f => "rowid field must be an int: " ++ f
  | .secondRowid f => "multiple rowid fields: " ++ f
  | .unknownEnumeration n => "unknown enumeration: " ++ n
  | .unknownBitfield n => "unknown bitfield: " ++ n
  | .unknownTargetStruct s => "unknown reference target structure: " ++ s
  | .unknownTargetField s f => "unknown reference target field: " ++ dotted s f
  | .selfReference f => "field references itself: " ++ f
  | .targetNotUnique s f => "reference target must be a rowid or unique field: " ++ dotted s f
  | .targetTypeMismatch a b =>
    "reference type mismatch: " ++ Keyword.word a ++ " references " ++ Keyword.word b
  | .unknownStructSource f => "unknown struct source field: " ++ f
  | .structSourceIsStruct f => "struct source field is itself a struct: " ++ f
  | .structSourceWithoutKey f => "struct source field has no foreign key: " ++ f
  | .validationNotAllowed t => "validation rules not allowed on " ++ Keyword.word t ++ " fields"
  | .nothingToModify => "update has no fields to modify"
  | .unknownPathField use path => "unknown " ++ use.word ++ " field: " ++ path
  | .pathThroughPlainField use path => use.word ++ " path component is not a struct: " ++ path
  | .pathToStruct use path => "cannot " ++ use.word ++ " on a struct field: " ++ path
  | .unknownDistinctField f => "unknown distinct field: " ++ f
  | .distinctThroughPlainField f => "distinct path component is not a struct: " ++ f
  | .unknownLocalField use f => "unknown " ++ use.word ++ " field: " ++ f
  | .localStructField use f => "cannot " ++ use.word ++ " a struct field: " ++ f

/-! ### roles -/

/-- Problems of roles and of the operations granted to them. -/
inductive RoleProblem where
  | reservedName (role : String)
  | unknownParent (parent : String)
  | nestedUnderLeaf (parent role : String)
  | parentCycle (role : String)
  | unknownRole (role : String)
  | noneGranted
  | duplicateGrant (role : String)
  | overlappingGrant (descendant ancestor : String)
  | noRoles (operation : OperationKind)
deriving DecidableEq, Repr

def RoleProblem.message : RoleProblem → String
  | .reservedName r => "reserved role name cannot be redeclared: " ++ r
  | .unknownParent p => "unknown parent role: " ++ p
  | .nestedUnderLeaf p r => "roles cannot be nested under " ++ p ++ ": " ++ r
  | .parentCycle r => "role parent cycle: " ++ r
  | .unknownRole r => "unknown role: " ++ r
  | .noneGranted => "the none role cannot be granted"
  | .duplicateGrant r => "duplicate operation role: " ++ r
  | .overlappingGrant d a => "overlapping role: " ++ d ++ ", " ++ a
  | .noRoles op => "no roles defined for " ++ op.label

/-- An operation without roles is only warned of. -/
def RoleProblem.severity : RoleProblem → Severity
  | .noRoles _ => .warning
  | _ => .error

/-! ### searches -/

/-- Problems of searches. -/
inductive SearchProblem where
  | uniqueWithoutParams
  | manyOnUnique
  | singleOnNonUnique
  | nullTestOnNonNull
  | passwordOperator
  | likeOnNonText
  | passwordWithDistinct
  | groupWithoutAggregate
  | aggregateWithoutGroup
  | nullableGroup
  | groupIsAggregate
  | groupInOtherStruct
deriving DecidableEq, Repr

def SearchProblem.message : SearchProblem → String
  | .uniqueWithoutParams => "unique result search without parameters"
  | .manyOnUnique => "multiple-result search on a unique field"
  | .singleOnNonUnique => "single-result search on a non-unique field without a limit of one"
  | .nullTestOnNonNull => "null operator on field that's never null"
  | .passwordOperator => "passwords only accept unary or equality operators"
  | .likeOnNonText => "LIKE operator on non-textual field"
  | .passwordWithDistinct => "password queries not allowed when searching on distinct subsets"
  | .groupWithoutAggregate => "group without a constraint"
  | .aggregateWithoutGroup => "constraint without a group"
  | .nullableGroup => "group cannot be null"
  | .groupIsAggregate => "same column for group and constraint"
  | .groupInOtherStruct => "structure for group and constraint must be the same"

/-- Doubts about the number of rows and about tests for null are only warned of. -/
def SearchProblem.severity : SearchProblem → Severity
  | .manyOnUnique | .singleOnNonUnique | .nullTestOnNonNull => .warning
  | _ => .error

/-! ### changes from one model to the next -/

/-- Changes that matter to stored data. -/
inductive Change where
  | newEnumeration
  | newEnumItem
  | enumItemValue
  | lostEnumItem
  | lostEnumeration
  | lostStruct
  | newStructField
  | lostStructField
  | lostField
  | integerType (before after : TypeName)
  | textType (before after : TypeName)
  | type (before after : TypeName)
  | attribute
  | deleteAction
  | updateAction
  | referenceTarget
  | reference
  | newUnique
  | lostUnique
deriving DecidableEq, Repr

def fromTo (before after : TypeName) : String :=
  Keyword.word before ++ " to " ++ Keyword.word after

def Change.message : Change → String
  | .newEnumeration => "new enumeration"
  | .newEnumItem => "new item"
  | .enumItemValue => "item has changed value"
  | .lostEnumItem => "lost old item"
  | .lostEnumeration => "lost old enumeration"
  | .lostStruct => "table was dropped"
  | .newStructField => "new inner joined field"
  | .lostStructField => "old inner joined field"
  | .lostField => "column was dropped"
  | .integerType a b => "change between integer alias types: " ++ fromTo a b
  | .textType a b => "change between text alias types: " ++ fromTo a b
  | .type a b => "type change: " ++ fromTo a b
  | .attribute => "attribute change"
  | .deleteAction => "delete action change"
  | .updateAction => "update action change"
  | .referenceTarget => "foreign reference target change"
  | .reference => "foreign reference change"
  | .newUnique => "new unique fields"
  | .lostUnique => "unique field disappeared"

/-- Changes that keep the stored data are only warned of. -/
def Change.severity : Change → Severity
  | .newEnumeration | .newEnumItem | .newStructField | .lostStructField => .warning
  | .integerType _ _ | .textType _ _ => .warning
  | _ => .error

/-! ### all stages -/

/-- What a diagnostic is about. A note is one that was given from outside. -/
inductive Cause where
  | note (severity : Severity) (channel : Channel) (message : String)
  | source (p : SourceProblem)
  | resolve (p : ResolveProblem)
  | duplicateUnique (later : Pos)
  | roles (p : RoleProblem)
  | recursion
  | search (p : SearchProblem)
  | tooManyAliases
  | change (c : Change)

namespace Cause

/-- How grave a cause is. -/
@[simp] def severity : Cause → Severity
  | .note s _ _ => s
  | .roles p => p.severity
  | .search p => p.severity
  | .change c => c.severity
  | _ => .error

/-- The stage of a cause. -/
def channel : Cause → Channel
  | .note _ c _ => c
  | .source _ => .source
  | .resolve _ => .resolve
  | .duplicateUnique _ => .unique
  | .roles _ => .roles
  | .recursion => .recursion
  | .search _ => .search
  | .tooManyAliases => .aliases
  | .change _ => .diff

def message : Cause → String
  | .note _ _ m => m
  | .source p => p.message
  | .resolve p => p.message
  | .duplicateUnique later => "duplicate unique statements: " ++ later.text
  | .roles p => p.message
  | .recursion => "recursive reference"
  | .search p => p.message
  | .tooManyAliases => "too many aliases"
  | .change c => c.message

end Cause

end ModelLinker
