/-!
# Tokens of Python source

The pieces a source text is cut into, each with the place it was found. A token also carries the
comments that follow it, so that a reader of blocks can tell which comments belong to a block.
-/

namespace PullReview.Python

/-- `strict` reads exactly the language of version 3.11 and refuses everything else. `tolerant`
reads a wider language, with newer and older statements, and checks no order or context rule. -/
inductive Dialect where
  | strict
  | tolerant
  deriving DecidableEq, Repr, Inhabited

/-- A place in a source: characters before it, and its line counted from one. -/
structure Mark where
  offset : Nat
  line : Nat
  deriving DecidableEq, Repr, Inhabited

/-- A comment. `indent` is the width of the blanks before it when it has a line of its own. -/
structure Comment where
  line : Nat
  stop : Nat
  indent : Option Nat
  deriving DecidableEq, Repr

/-- A string literal as written: what stands between the quotes, and the letters before them. -/
structure Quoted where
  raw : Bool
  bytes : Bool
  formatted : Bool
  unicodeMark : Bool
  body : List Char
  bodyStart : Mark
  deriving Repr

inductive TokenKind where
  | name (text : String)
  | number (text : String)
  | quoted (text : Quoted)
  | op (text : String)
  | newline
  | indent (width : Nat)
  | dedent
  | finish
  deriving Repr

structure Token where
  kind : TokenKind
  start : Mark
  stop : Mark
  comments : List Comment := []
  deriving Repr

/-- Tokens that stand for characters of the source, as against its layout. -/
def TokenKind.isSolid : TokenKind → Bool
  | .newline | .indent _ | .dedent | .finish => false
  | _ => true

/-- Words that are never names. -/
def keywords : List String :=
  ["False", "None", "True", "and", "as", "assert", "async", "await", "break", "class",
    "continue", "def", "del", "elif", "else", "except", "finally", "for", "from", "global",
    "if", "import", "in", "is", "lambda", "nonlocal", "not", "or", "pass", "raise", "return",
    "try", "while", "with", "yield"]

end PullReview.Python
