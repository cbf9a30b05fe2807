/-!
The closed vocabularies of declarations. Each is a type with its words, in the order in which
messages list them.
-/

namespace ModelLinker

/-- A type whose values are written as words. -/
class Keyword (α : Type) where
  /-- The values, in the order in which messages list them. -/
  all : List α
  /-- The word of a value. -/
  word : α → String

/-- The words of a vocabulary. -/
def Keyword.words (α : Type) [Keyword α] : List String :=
  (Keyword.all : List α).map Keyword.word

/-- The value that a word stands for. Case counts. -/
def Keyword.ofWord? {α : Type} [Keyword α] (w : String) : Option α :=
  (Keyword.all : List α).find? fun a => Keyword.word a == w

/-- The types of a field that name nothing else. -/
inductive PlainType where
  | int | bit | blob | date | epoch | real | text | email | password
deriving DecidableEq, Repr

instance : Keyword PlainType where
  all := [.int, .bit, .blob, .date, .epoch, .real, .text, .email, .password]
  word
    | .int => "int" | .bit => "bit" | .blob => "blob" | .date => "date" | .epoch => "epoch"
    | .real => "real" | .text => "text" | .email => "email" | .password => "password"

/-- The kinds of field types: a plain one, or one with an argument. -/
inductive TypeName where
  | plain (t : PlainType)
  | enum | bitfield | struct
deriving DecidableEq, Repr

instance : Keyword TypeName where
  all := (Keyword.all : List PlainType).map .plain ++ [.enum, .bitfield, .struct]
  word
    | .plain t => Keyword.word t
    | .enum => "enum" | .bitfield => "bitfield" | .struct => "struct"

/-- What happens to a foreign key when its target is updated or deleted. -/
inductive Action where
  | none | restrict | nullify | cascade | default
deriving DecidableEq, Repr

instance : Keyword Action where
  all := [.none, .restrict, .nullify, .cascade, .default]
  word
    | .none => "none" | .restrict => "restrict" | .nullify => "nullify"
    | .cascade => "cascade" | .default => "default"

/-- The comparison of a validation rule. -/
inductive ValidationOp where
  | ge | le | gt | lt | eq
deriving DecidableEq, Repr

instance : Keyword ValidationOp where
  all := [.ge, .le, .gt, .lt, .eq]
  word
    | .ge => "ge" | .le => "le" | .gt => "gt" | .lt => "lt" | .eq => "eq"

/-- The operator applied to a field by a search or a constraint. -/
inductive Operator where
  | eq | ge | gt | le | lt | neq | like | and | or | streq | strneq | isnull | notnull
deriving DecidableEq, Repr

instance : Keyword Operator where
  all := [.eq, .ge, .gt, .le, .lt, .neq, .like, .and, .or, .streq, .strneq, .isnull, .notnull]
  word
    | .eq => "eq" | .ge => "ge" | .gt => "gt" | .le => "le" | .lt => "lt" | .neq => "neq"
    | .like => "like" | .and => "and" | .or => "or" | .streq => "streq" | .strneq => "strneq"
    | .isnull => "isnull" | .notnull => "notnull"

/-- Operators that take no value. -/
def Operator.isUnary : Operator → Bool
  | .isnull | .notnull => true
  | _ => false

/-- Operators that compare for equality; of those with a value only they fit passwords. -/
def Operator.isEquality : Operator → Bool
  | .eq | .neq | .streq | .strneq => true
  | _ => false

/-- The shape of the result of a search: one row at most, a list, a number or a stream. -/
inductive SearchKind where
  | search | list | count | iterate
deriving DecidableEq, Repr

instance : Keyword SearchKind where
  all := [.search, .list, .count, .iterate]
  word
    | .search => "search" | .list => "list" | .count => "count" | .iterate => "iterate"

/-- The direction of an order. -/
inductive OrderDirection where
  | asc | desc
deriving DecidableEq, Repr

instance : Keyword OrderDirection where
  all := [.asc, .desc]
  word
    | .asc => "asc" | .desc => "desc"

/-- The aggregate of a grouped search. -/
inductive AggregateOp where
  | max | min
deriving DecidableEq, Repr

instance : Keyword AggregateOp where
  all := [.max, .min]
  word
    | .max => "max" | .min => "min"

/-- How an update changes a field. -/
inductive ModifierKind where
  | set | inc | dec | concat
deriving DecidableEq, Repr

instance : Keyword ModifierKind where
  all := [.set, .inc, .dec, .concat]
  word
    | .set => "set" | .inc => "inc" | .dec => "dec" | .concat => "concat"

/-- An update changes rows or removes them. -/
inductive UpdateKind where
  | modify | delete
deriving DecidableEq, Repr

instance : Keyword UpdateKind where
  all := [.modify, .delete]
  word
    | .modify => "modify" | .delete => "delete"

/-- The kinds of operations that roles are granted. -/
inductive OperationKind where
  | search (kind : SearchKind)
  | update (kind : UpdateKind)
  | insert
deriving DecidableEq, Repr

/-- What messages call an operation. -/
def OperationKind.label : OperationKind → String
  | .search kind => Keyword.word kind ++ " function"
  | .update .modify => "update function"
  | .update .delete => "delete function"
  | .insert => "insert function"

/-- The place of a role: the root `all`, the sink `none`, the role a session starts in, or one
that was declared. -/
inductive RoleKind where
  | root | sink | default | named
deriving DecidableEq, Repr

instance : Keyword RoleKind where
  all := [.root, .sink, .default, .named]
  word
    | .root => "root" | .sink => "sink" | .default => "default" | .named => "named"

/-- Every role kind but that of declared roles is reserved. -/
def RoleKind.isReserved : RoleKind → Bool
  | .named => false
  | _ => true

end ModelLinker
