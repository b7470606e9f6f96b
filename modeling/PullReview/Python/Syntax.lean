/-!
# Syntax trees of Python source

Expressions keep their round brackets as `group` nodes, so a tree serves readers that look through
brackets and readers that do not. A compound statement is the list of its clauses, each with the
expressions of its head and a block. Definitions carry the lines they cover.
-/

namespace PullReview.Python

inductive UnaryOp where
  | invert | not | plus | minus
  deriving DecidableEq, Repr

inductive BinaryOp where
  | add | sub | mul | matMul | div | mod | shiftLeft | shiftRight | bitOr | bitXor | bitAnd
  | floorDiv | pow
  deriving DecidableEq, Repr

inductive BoolOp where
  | and | or
  deriving DecidableEq, Repr

inductive CompareOp where
  | eq | notEq | lt | le | gt | ge | is | isNot | in | notIn
  deriving DecidableEq, Repr

inductive Constant where
  | none | true | false | ellipsis
  deriving DecidableEq, Repr

/-- The four brackets a comprehension can stand in, a mapping having one of its own. -/
inductive Collection where
  | list | set | generator
  deriving DecidableEq, Repr

/-- The roles of an entry in a parameter list. `slash` and `star` are the bare marks. -/
inductive ParamRole where
  | plain | slash | star | varPositional | varKeyword | pattern
  deriving DecidableEq, Repr

mutual

/-- Expressions. Texts are code points, since an escape may name one that is no character; a call
has the line it starts on. -/
inductive Expr where
  | name (id : String)
  | constant (value : Constant)
  | int (value : Nat)
  | float (value : Float)
  | imaginary (value : Float)
  | text (unicodeMark : Bool) (codes : List Nat)
  | bytes (codes : List Nat)
  | formatted (pieces : List Piece)
  | group (inner : Expr)
  | attribute (value : Expr) (attr : String)
  | subscript (value index : Expr)
  | call (line : Nat) (func : Expr) (args : List Argument)
  | await (value : Expr)
  | yield (value : Option Expr)
  | yieldFrom (value : Expr)
  | unary (op : UnaryOp) (operand : Expr)
  | binary (op : BinaryOp) (left right : Expr)
  | bool (op : BoolOp) (values : List Expr)
  | compare (first : Expr) (ops : List CompareOp) (others : List Expr)
  | conditional (body test orElse : Expr)
  | lambda (params : List LambdaParam) (body : Expr)
  | tuple (items : List Expr)
  | list (items : List Expr)
  | set (items : List Expr)
  | dict (items : List DictItem)
  | comprehension (shape : Collection) (element : Expr) (loops : List Loop)
  | dictComprehension (key value : Expr) (loops : List Loop)
  | starred (value : Expr)
  | slice (lower upper step : Option Expr)
  | named (target value : Expr)

/-- Pieces of a formatted literal. -/
inductive Piece where
  | text (codes : List Nat)
  | field (value : Expr) (conversion : Option Char) (format : Option (List Piece))

inductive Argument where
  | positional (value : Expr)
  | starred (value : Expr)
  | keyword (name : String) (value : Expr)
  | doubleStarred (value : Expr)

inductive DictItem where
  | pair (key value : Expr)
  | unpack (value : Expr)

/-- One loop of a comprehension with the conditions behind it. -/
inductive Loop where
  | mk (isAsync : Bool) (target source : Expr) (conditions : List Expr)

inductive LambdaParam where
  | mk (role : ParamRole) (name : String) (default : Option Expr)

end

/-- An expression together with the text it is written as. -/
structure Written where
  expr : Expr
  source : String

/-- An entry of a parameter list. `source` is the name as written, with its stars. -/
structure Param where
  role : ParamRole
  name : String
  source : String
  hint : Option Written
  default : Option Expr

/-- A decorator: the line of its mark, the line its expression starts on, and its text from the
mark to the end of the line. -/
structure Decorator where
  expr : Expr
  markLine : Nat
  exprLine : Nat
  source : String

/-- An argument in a class header and the text it is written as. -/
structure Base where
  argument : Argument
  source : String

/-- The lines of a statement: where it starts, where its last token ends, and where it ends when
the comments that belong to its block are counted. -/
structure Extent where
  first : Nat
  last : Nat
  reach : Nat
  deriving DecidableEq, Repr

structure FunctionHead where
  name : String
  decorators : List Decorator
  params : List Param
  returns : Option Written
  extent : Extent

structure ClassHead where
  name : String
  decorators : List Decorator
  bases : List Base
  extent : Extent

mutual

inductive Stmt where
  /-- Any statement without a block that defines nothing: its expressions in order. -/
  | simple (exprs : List Expr)
  | assign (extent : Extent) (targets : List Expr) (value : Expr)
  | annotate (extent : Extent) (target : Expr) (hint : Written) (value : Option Expr)
  | compound (clauses : List Clause)
  | function (head : FunctionHead) (body : List Stmt)
  | class (head : ClassHead) (body : List Stmt)

inductive Clause where
  | mk (head : List Expr) (body : List Stmt)

end

/-- The expression inside any number of round brackets. -/
def Expr.ungroup : Expr → Expr
  | .group inner => inner.ungroup
  | e => e

end PullReview.Python
