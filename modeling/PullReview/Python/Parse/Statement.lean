import PullReview.Python.Parse.Pattern

/-!
# Statements

The rules of statements and blocks, and `parseModule`, which ties the knot. Statements that define
nothing keep only their expressions.
-/

namespace PullReview.Python.Parse

/-! ### Simple statements -/

def atStatementEnd : Parse Bool := do
  match ← peek with
  | .newline | .finish => return true
  | t => return isOp ";" t

def dottedName : Parse Unit := do
  let _ ← identifier
  let _ ← many do
    if ← tryOp "." then return some (← identifier) else return none

def asName : Parse Unit := do
  if ← tryWord "as" then
    let _ ← identifier

def importNames : Parse Unit := do
  let _ ← word "import"
  let (_, trailing) ← commaList (do dottedName; asName) (fun t => !isIdentifier t)
  if trailing then refuse

def importFrom : Parse Unit := do
  let _ ← word "from"
  let dots ← many do
    if ← tryOp "." then return some () else
      if ← tryOp "..." then return some () else return none
  if !dots.isEmpty && (← atWord "import") then pure () else dottedName
  let _ ← word "import"
  if ← tryOp "*" then return
  let bracket ← tryOp "("
  let stop (t : TokenKind) : Bool := if bracket then isOp ")" t else !isIdentifier t
  let (_, trailing) ← commaList (do let _ ← identifier; asName) stop
  if bracket then
    let _ ← op ")"
  else if trailing then refuse

def names : Parse Unit := do
  let (_, trailing) ← commaList identifier (fun t => !isIdentifier t)
  if trailing then refuse

def augmentedOps : List String :=
  ["+=", "-=", "*=", "@=", "/=", "%=", "&=", "|=", "^=", "<<=", ">>=", "**=", "//="]

def atAugmented : Parse Bool := do
  match ← peek with
  | .op t => return augmentedOps.contains t
  | _ => return false

def rightSide (k : Knot) : Parse Expr := do
  if ← atWord "yield" then yieldExpression k else starExpressions k

/-- Further targets and the value of an assignment; the last expression is the value. -/
def assigned (k : Knot) : Parse (List Expr) :=
  many do
    if ← tryOp "=" then return some (← rightSide k) else return none

def isYield : Expr → Bool
  | .yield _ | .yieldFrom _ => true
  | _ => false

/-- Whether an expression may be the targets of a plain assignment: a tuple without brackets is a
list of them. -/
def isAssignable (e : Expr) : Bool := !isYield e && e.isTarget true

def extentFrom (first : Nat) : Parse Extent := do
  let last := (← lastToken).stop.line
  return ⟨first, last, last⟩

/-- A statement that starts with an expression: an assignment in one of its forms, or only that. -/
def expressionStatement (k : Knot) : Parse Stmt := do
  let first := (← peekToken).start.line
  let left ← rightSide k
  if ← atOp "=" then
    match (left :: (← assigned k)).reverse with
    | value :: targets =>
        if (← isStrict) && !targets.all isAssignable then refuse
        return .assign (← extentFrom first) targets.reverse value
    | [] => refuse
  else if ← tryOp ":" then
    if (← isStrict) && !left.isPlace then refuse
    let hint ← written k.expression
    let value ← if ← tryOp "=" then (do return some (← rightSide k)) else pure none
    return .annotate (← extentFrom first) left hint value
  else if ← atAugmented then
    if (← isStrict) && !left.isPlace then refuse
    let _ ← take
    return .simple [left, ← rightSide k]
  else return .simple [left]

def raiseStatement (k : Knot) : Parse Stmt := do
  let _ ← word "raise"
  if ← atStatementEnd then return .simple []
  let raised ← if ← isStrict then k.expression else starExpressions k
  if ← tryWord "from" then return .simple [raised, ← k.expression] else return .simple [raised]

def deleteStatement (k : Knot) : Parse Stmt := do
  let _ ← word "del"
  let (items, _) ← commaList k.primary (fun t => !startsExpression t)
  if (← isStrict) && !items.all Expr.isDeletable then refuse
  if ← atStatementEnd then return .simple items else refuse

def assertStatement (k : Knot) : Parse Stmt := do
  let _ ← word "assert"
  let test ← k.expression
  if ← tryOp "," then return .simple [test, ← k.expression] else return .simple [test]

def returnStatement (k : Knot) : Parse Stmt := do
  let _ ← word "return"
  if ← atStatementEnd then return .simple [] else return .simple [← starExpressions k]

/-- Whether a token that follows a name makes the two an old-style statement: it starts an operand
and cannot continue an expression. -/
def startsOperandOnly : TokenKind → Bool
  | .name t =>
      !keywords.contains t || ["None", "True", "False", "lambda", "await"].contains t
  | .number _ | .quoted _ => true
  | .op t => t == "\x7b"
  | _ => false

/-- The statements that only the tolerant dialect has: aliases of types, and old forms that print
or run their operands. -/
def looseStatement? (k : Knot) : Parse (Option Stmt) := do
  if ← isStrict then return none
  else if (← atWord "type") && isIdentifier (← peekSecond) then
    let _ ← take
    let left ← k.primary
    let _ ← op "="
    return some (.simple [left, ← k.expression])
  else if (← atWord "print") && startsOperandOnly (← peekSecond) then
    let _ ← take
    return some (.simple [← starExpressions k])
  else if (← atWord "exec") && startsOperandOnly (← peekSecond) then
    let _ ← take
    return some (.simple [← starExpressions k])
  else return none

def simpleStatement (k : Knot) : Parse Stmt := do
  match ← peek with
  | .name "return" => returnStatement k
  | .name "import" => importNames; return .simple []
  | .name "from" => importFrom; return .simple []
  | .name "raise" => raiseStatement k
  | .name "del" => deleteStatement k
  | .name "assert" => assertStatement k
  | .name "pass" | .name "break" | .name "continue" => let _ ← take; return .simple []
  | .name "global" | .name "nonlocal" => let _ ← take; names; return .simple []
  | _ =>
      match ← looseStatement? k with
      | some s => return s
      | none => expressionStatement k

/-- Statements divided by semicolons up to the end of the line. -/
def simpleStatements (k : Knot) : Parse (List Stmt) := do
  let first ← simpleStatement k
  let others ← many do
    if ← tryOp ";" then
      if ← atStatementEnd then return none else return some (← simpleStatement k)
    else return none
  newline
  return first :: others

/-! ### Definitions -/

def paramHint (k : Knot) (starAllowed : Bool) : Parse (Option Written) := do
  if ← tryOp ":" then
    return some (← written (if starAllowed then starExpression k else k.expression))
  else return none

/-- A name behind stars, and its text with the stars. -/
def starredName (start : Nat) : Parse (String × String) := do
  let name ← identifier
  return (name, ← slice start (← lastToken).stop.offset)

def param (k : Knot) : Parse Param := do
  let start := (← peekToken).start.offset
  if ← tryOp "/" then return ⟨.slash, "", "/", none, none⟩
  else if ← tryOp "**" then
    let (name, source) ← starredName start
    return ⟨.varKeyword, name, source, ← paramHint k false, none⟩
  else if ← tryOp "*" then
    if isIdentifier (← peek) then
      let (name, source) ← starredName start
      return ⟨.varPositional, name, source, ← paramHint k true, none⟩
    else return ⟨.star, "", "*", none, none⟩
  else
    let tolerantPattern := (← dialect) == .tolerant && (← atOp "(")
    let (role, name) ←
      if tolerantPattern then (do let _ ← k.primary; return (ParamRole.pattern, ""))
      else (do return (ParamRole.plain, ← identifier))
    let hint ← paramHint k false
    let default ← if ← tryOp "=" then (do return some (← k.expression)) else pure none
    return ⟨role, name, name, hint, default⟩

def params (k : Knot) : Parse (List Param) := do
  let items ← bracketed (param k) ")"
  if (← isStrict) && !rolesInOrder (items.map fun p => (p.role, p.default.isSome)) then refuse
  return items

/-- Takes tokens up to the bracket that closes `depth` open ones. -/
def skipBrackets : Nat → Nat → Parse Unit
  | 0, _ => refuse
  | bound + 1, depth => do
      let t ← take
      if isOp "[" t.kind then skipBrackets bound (depth + 1)
      else if isOp "]" t.kind then
        if depth ≤ 1 then return else skipBrackets bound (depth - 1)
      else skipBrackets bound depth

/-- Skips a bracketed list of type parameters, which only the tolerant dialect has. -/
def skipTypeParams : Parse Unit := do
  if (← dialect) == .tolerant && (← atOp "[") then
    skipBrackets (← remaining) 0

/-- The line on which an expression starts once its own brackets are taken away. -/
def startLine : Expr → List Token → Nat
  | .group e, _ :: rest => startLine e rest
  | _, t :: _ => t.start.line
  | _, [] => 0

def decorator (k : Knot) : Parse Decorator := do
  let mark ← op "@"
  let ahead := (← get).ahead
  let expr ← namedExpression k
  let last ← lastToken
  let sameLine := last.comments.find? (·.indent.isNone)
  let stop := match sameLine with | some c => c.stop | none => last.stop.offset
  newline
  return ⟨expr, mark.start.line, startLine expr ahead, ← slice mark.start.offset stop⟩

def decorators (k : Knot) : Parse (List Decorator) :=
  many do
    if ← atOp "@" then return some (← decorator k) else return none

def returnHint (k : Knot) : Parse (Option Written) := do
  if ← tryOp "->" then return some (← written k.expression) else return none

def functionDef (k : Knot) (decorators : List Decorator) : Parse Stmt := do
  let first := (← peekToken).start.line
  let _ ← tryWord "async"
  let _ ← word "def"
  let name ← identifier
  skipTypeParams
  let _ ← op "("
  let ps ← params k
  let _ ← op ")"
  let returns ← returnHint k
  let block ← k.block
  let last := (← lastToken).stop.line
  return .function ⟨name, decorators, ps, returns, ⟨first, last, max last block.reach⟩⟩ block.body

/-- The arguments in the header of a class, if it has brackets. -/
def bases (k : Knot) : Parse (List Base) := do
  if ← tryOp "(" then
    let args ← arguments k false
    let _ ← op ")"
    args.mapM fun (arg, start, stop) => do return Base.mk arg (← slice start stop)
  else return []

def classDef (k : Knot) (decorators : List Decorator) : Parse Stmt := do
  let first := (← peekToken).start.line
  let _ ← word "class"
  let name ← identifier
  skipTypeParams
  let bases ← bases k
  let block ← k.block
  let last := (← lastToken).stop.line
  return .class ⟨name, decorators, bases, ⟨first, last, max last block.reach⟩⟩ block.body

/-! ### Compound statements -/

def clause (k : Knot) (head : List Expr) : Parse Clause := do
  return .mk head (← k.block).body

/-- A block behind a word, if it is there. -/
def wordClause (k : Knot) (w : String) : Parse (List Clause) := do
  if ← tryWord w then return [← clause k []] else return []

def ifStatement (k : Knot) : Parse Stmt := do
  let _ ← word "if"
  let first ← clause k [← namedExpression k]
  let others ← many do
    if ← tryWord "elif" then return some (← clause k [← namedExpression k]) else return none
  return .compound (first :: others ++ (← wordClause k "else"))

def whileStatement (k : Knot) : Parse Stmt := do
  let _ ← word "while"
  let body ← clause k [← namedExpression k]
  return .compound (body :: (← wordClause k "else"))

def forStatement (k : Knot) : Parse Stmt := do
  let _ ← word "for"
  let target ← targets k (isWord "in")
  let _ ← word "in"
  let source ← starExpressions k
  let body ← clause k [target, source]
  return .compound (body :: (← wordClause k "else"))

/-- An item of a `with` statement: a value and the target it may be bound to. -/
def withItem (k : Knot) : Parse (List Expr) := do
  let value ← k.expression
  if ← tryWord "as" then
    let target ← if ← tryOp "*" then (do return Expr.starred (← k.primary)) else k.primary
    if (← isStrict) && !target.isTarget true then refuse
    return [value, target]
  else return [value]

/-- Items in round brackets, if a colon follows the bracket. -/
def bracketedItems (k : Knot) : Parse (List Expr) := do
  let _ ← op "("
  let (items, _) ← commaList (withItem k) (isOp ")")
  let _ ← op ")"
  if ← atOp ":" then return items.flatten else refuse

def withStatement (k : Knot) : Parse Stmt := do
  let _ ← word "with"
  let plain : Parse (List Expr) := do
    let (items, trailing) ← commaList (withItem k) (isOp ":")
    if trailing && (← isStrict) then refuse
    return items.flatten
  let head ← bracketedItems k <|> plain
  return .compound [← clause k head]

/-- The head of an exception handler: the expressions, and whether it is starred. -/
def handlerHead (k : Knot) : Parse (List Expr × Bool) := do
  let _ ← word "except"
  let starred ← tryOp "*"
  if ← atOp ":" then
    if starred then refuse
    return ([], false)
  let caught ← if ← isStrict then k.expression else starExpressions k
  if ← tryWord "as" then
    if ← isStrict then
      let _ ← identifier
    else
      return ([caught, ← k.expression], starred)
  return ([caught], starred)

def tryStatement (k : Knot) : Parse Stmt := do
  let _ ← word "try"
  let body ← clause k []
  let handlers ← many do
    if ← atWord "except" then
      let (head, starred) ← handlerHead k
      return some (← clause k head, starred)
    else return none
  let mixed := handlers.any (·.2) && handlers.any (!·.2)
  if mixed && (← isStrict) then refuse
  let otherwise ← if handlers.isEmpty then pure [] else wordClause k "else"
  let final ← wordClause k "finally"
  if handlers.isEmpty && final.isEmpty then refuse
  return .compound (body :: handlers.map (·.1) ++ otherwise ++ final)

/-- The subject of a `match`: an expression, or a tuple without brackets. -/
def subject (k : Knot) : Parse Expr := do
  let (items, trailing) ← commaList (starNamed k) (isOp ":")
  match items, trailing with
  | [.starred _], false => refuse
  | [e], false => return e
  | _, _ => return .tuple items

def caseClause (k : Knot) : Parse Clause := do
  let _ ← word "case"
  let values ← patterns k
  let guard ← if ← tryWord "if" then (do return [← namedExpression k]) else pure []
  clause k (values ++ guard)

/-- The head of a `match` statement up to the start of its block. -/
def matchHead (k : Knot) : Parse Expr := do
  let _ ← word "match"
  let e ← subject k
  let _ ← op ":"
  newline
  match ← peek with
  | .indent _ => let _ ← take; return e
  | _ => refuse

def matchCases (k : Knot) (subject : Expr) : Parse Stmt := do
  let cases ← many do
    if ← atWord "case" then return some (← caseClause k) else return none
  match ← peek with
  | .dedent => let _ ← take
  | _ => refuse
  if cases.isEmpty then refuse
  return .compound (.mk [subject] [] :: cases)

/-! ### Blocks and modules -/

/-- Statements of one kind read in one go: a line of simple ones, or a compound one. -/
def statement (k : Knot) : Parse (List Stmt) := do
  match ← peek with
  | .name "def" => return [← functionDef k []]
  | .name "class" => return [← classDef k []]
  | .op "@" =>
      let ds ← decorators k
      if ← atWord "class" then return [← classDef k ds] else return [← functionDef k ds]
  | .name "async" =>
      match ← peekSecond with
      | .name "def" => return [← functionDef k []]
      | .name "with" => let _ ← take; return [← withStatement k]
      | .name "for" => let _ ← take; return [← forStatement k]
      | _ => refuse
  | .name "if" => return [← ifStatement k]
  | .name "with" => return [← withStatement k]
  | .name "for" => return [← forStatement k]
  | .name "try" => return [← tryStatement k]
  | .name "while" => return [← whileStatement k]
  | .name "match" =>
      match ← (do return some (← matchHead k)) <|> pure none with
      | some e => return [← matchCases k e]
      | none => simpleStatements k
  | _ => simpleStatements k

def isBlockEnd : TokenKind → Bool
  | .dedent | .finish => true
  | _ => false

def statements (k : Knot) : Parse (List Stmt) := do
  let groups ← many do
    if isBlockEnd (← peek) then return none else return some (← statement k)
  return groups.flatten

/-- The last line of a block indented by `width` whose last token is `last`: comments on lines of
their own that are indented as far belong to it, up to the first that is not. -/
def blockReach (width : Nat) (last : Token) : Nat :=
  let own := last.comments.filterMap fun c => c.indent.map fun i => (c.line, i)
  match (own.takeWhile fun c => width ≤ c.2).getLast? with
  | some c => c.1
  | none => last.stop.line

/-- A block behind a colon: statements on the same line or an indented list. The tolerant dialect
also has a block without statements. -/
def blockRule (k : Knot) : Parse Block := do
  let _ ← op ":"
  match ← peek with
  | .newline =>
      let _ ← take
      match ← peek with
      | .indent width =>
          let _ ← take
          let body ← statements k
          match ← peek with
          | .dedent => let _ ← take
          | _ => refuse
          return ⟨body, blockReach width (← lastToken)⟩
      | _ => if ← isStrict then refuse else return ⟨[], (← lastToken).stop.line⟩
  | _ =>
      let body ← simpleStatements k
      return ⟨body, (← lastToken).stop.line⟩

/-- The readers for trees of bounded depth. -/
def knot : Nat → Knot
  | 0 => ⟨refuse, refuse, refuse, refuse, refuse⟩
  | n + 1 =>
      { expression := fun source tape => expressionRule (knot n) source tape
        factor := fun source tape => factorRule (knot n) source tape
        primary := fun source tape => primaryRule (knot n) source tape
        block := fun source tape => blockRule (knot n) source tape
        pattern := fun source tape => patternRule (knot n) source tape }

def moduleBody (k : Knot) : Parse (List Stmt) := do
  let body ← statements k
  match ← peek with
  | .finish => return body
  | _ => refuse

end Parse

/-- The statements of a source, or `none` where the dialect has no tree for it. -/
def parseModule (d : Dialect) (source : String) : Option (List Stmt) := do
  let chars := sourceChars d source
  let tokens ← scan d chars
  let start : Token := ⟨.newline, ⟨0, 1⟩, ⟨0, 1⟩, []⟩
  let depth := 4 * chars.length + 16
  let (body, _) ← (Parse.moduleBody (Parse.knot depth)).run ⟨d, chars⟩ |>.run ⟨tokens, start⟩
  return body

end PullReview.Python
