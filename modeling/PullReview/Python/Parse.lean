import PullReview.Python.Literal
import PullReview.Python.Syntax
import PullReview.Python.Token.Scanner

/-!
# Reading tokens

The state of a reader is the tokens ahead and the last solid token behind. `Knot` holds the
readers that grammar rules call back into; a rule takes the knot as an argument, and the knot is
tied by a bound on the depth of the tree.
-/

namespace PullReview.Python

structure Source where
  dialect : Dialect
  chars : List Char

structure Tape where
  ahead : List Token
  last : Token

abbrev Parse := ReaderT Source (StateT Tape Option)

namespace Parse

def refuse {α : Type} : Parse α := failure

def dialect : Parse Dialect := return (← read).dialect

def isStrict : Parse Bool := return (← dialect) == .strict

def peekToken : Parse Token := do
  match (← get).ahead with
  | t :: _ => return t
  | [] => refuse

def peek : Parse TokenKind := return (← peekToken).kind

/-- The kind of the token after the next. -/
def peekSecond : Parse TokenKind := do
  match (← get).ahead with
  | _ :: t :: _ => return t.kind
  | _ => return .finish

def take : Parse Token := do
  match (← get).ahead with
  | t :: ahead =>
      modify fun tape => ⟨ahead, if t.kind.isSolid then t else tape.last⟩
      return t
  | [] => refuse

def lastToken : Parse Token := return (← get).last

def remaining : Parse Nat := return (← get).ahead.length

def isOp (text : String) : TokenKind → Bool
  | .op t => t == text
  | _ => false

def isWord (text : String) : TokenKind → Bool
  | .name t => t == text
  | _ => false

/-- Whether the next token is of some kind. -/
def sees (isKind : TokenKind → Bool) : Parse Bool := return isKind (← peek)

/-- Takes a token of some kind. -/
def expect (isKind : TokenKind → Bool) : Parse Token := do
  if ← sees isKind then take else refuse

/-- Takes a token of some kind if it is next. -/
def accept (isKind : TokenKind → Bool) : Parse Bool := do
  if ← sees isKind then
    let _ ← take
    return true
  else return false

def atOp (text : String) : Parse Bool := sees (isOp text)

def atWord (text : String) : Parse Bool := sees (isWord text)

def op (text : String) : Parse Token := expect (isOp text)

def word (text : String) : Parse Token := expect (isWord text)

def tryOp (text : String) : Parse Bool := accept (isOp text)

def tryWord (text : String) : Parse Bool := accept (isWord text)

def newline : Parse Unit := do
  match ← peek with
  | .newline => let _ ← take
  | _ => refuse

def isIdentifier : TokenKind → Bool
  | .name t => !keywords.contains t
  | _ => false

/-- A name that is no keyword. -/
def identifier : Parse String := do
  match ← peek with
  | .name t => if keywords.contains t then refuse else let _ ← take; return t
  | _ => refuse

/-- Whether an expression can start with a token. -/
def startsExpression : TokenKind → Bool
  | .name t =>
      !keywords.contains t || ["None", "True", "False", "lambda", "not", "await"].contains t
  | .number _ | .quoted _ => true
  | .op t => ["(", "[", "\x7b", "-", "+", "~", "...", "*"].contains t
  | _ => false

def manyBounded {α : Type} (p : Parse (Option α)) : Nat → Parse (List α)
  | 0 => return []
  | bound + 1 => do
      match ← p with
      | some a => return a :: (← manyBounded p bound)
      | none => return []

/-- Repeats a reader until it answers `none`. -/
def many {α : Type} (p : Parse (Option α)) : Parse (List α) := do
  manyBounded p ((← remaining) + 1)

def leftBounded {α : Type} (step : α → Parse (Option α)) : Nat → α → Parse α
  | 0, a => return a
  | bound + 1, a => do
      match ← step a with
      | some b => leftBounded step bound b
      | none => return a

/-- Grows a value to the left-associated tree of all steps that apply. -/
def growLeft {α : Type} (step : α → Parse (Option α)) (a : α) : Parse α := do
  leftBounded step ((← remaining) + 1) a

/-- Elements divided by commas, up to a token that satisfies `stop`. The flag tells whether a
comma stands behind the last element. -/
def commaBounded {α : Type} (p : Parse α) (stop : TokenKind → Bool) :
    Nat → Parse (List α × Bool)
  | 0 => return ([], false)
  | bound + 1 => do
      let a ← p
      if ← tryOp "," then
        if stop (← peek) then return ([a], true)
        else
          let (more, trailing) ← commaBounded p stop bound
          return (a :: more, trailing)
      else return ([a], false)

/-- One or more elements divided by commas, and whether a comma follows the last. -/
def commaList {α : Type} (p : Parse α) (stop : TokenKind → Bool) : Parse (List α × Bool) := do
  commaBounded p stop ((← remaining) + 1)

/-- Zero or more elements divided by commas before a closing operator. -/
def bracketed {α : Type} (p : Parse α) (closing : String) : Parse (List α) := do
  if ← atOp closing then return []
  else return (← commaList p (isOp closing)).1

/-- The characters between two offsets. -/
def slice (start stop : Nat) : Parse String := do
  return String.ofList (((← read).chars.drop start).take (stop - start))

/-- Reads with `p` and keeps the text it covers. -/
def written (p : Parse Expr) : Parse Written := do
  let start := (← peekToken).start.offset
  let expr ← p
  let stop := (← lastToken).stop.offset
  return ⟨expr, ← slice start stop⟩

end Parse

/-- A block and the last line that belongs to it when its comments are counted. -/
structure Block where
  body : List Stmt
  reach : Nat

/-- The readers that rules call for parts nested inside. -/
structure Knot where
  expression : Parse Expr
  factor : Parse Expr
  primary : Parse Expr
  block : Parse Block
  pattern : Parse (List Expr)

end PullReview.Python
