import PullReview.Python.Parse

/-!
# Expressions

The rules of expressions, tightest last. Lists, brackets and calls are read once and told apart by
what follows their first element. Targets of assignments are read as expressions and checked.
-/

namespace PullReview.Python

/-! ### Shapes -/

mutual

/-- Whether an expression may stand on the left of an assignment. A star is allowed at the top and
in the elements of lists and tuples, not inside another star or a bracket of its own. -/
def Expr.isTarget (starAllowed : Bool) : Expr → Bool
  | .name _ | .attribute _ _ | .subscript _ _ => true
  | .starred e => starAllowed && e.isTarget false
  | .group e => e.isTarget false
  | .tuple items | .list items => allTargets items
  | _ => false

def allTargets : List Expr → Bool
  | [] => true
  | e :: rest => e.isTarget true && allTargets rest

end

mutual

/-- Whether an expression may be deleted. -/
def Expr.isDeletable : Expr → Bool
  | .name _ | .attribute _ _ | .subscript _ _ => true
  | .group e => e.isDeletable
  | .tuple items | .list items => allDeletable items
  | _ => false

def allDeletable : List Expr → Bool
  | [] => true
  | e :: rest => e.isDeletable && allDeletable rest

end

/-- Whether an expression is a single place: a name, an attribute or an element, in any number of
brackets. -/
def Expr.isPlace (e : Expr) : Bool :=
  match e.ungroup with
  | .name _ | .attribute _ _ | .subscript _ _ => true
  | _ => false

def isStarred : Expr → Bool
  | .starred _ => true
  | _ => false

def isNamed : Expr → Bool
  | .named _ _ => true
  | _ => false

/-- The order of a parameter list: positional entries with the defaults last and one slash at most
behind the first, then one star with a name or with an entry behind it, then one double star. -/
def rolesInOrder (roles : List (ParamRole × Bool)) : Bool :=
  positional false false true roles
where
  keywordOnly : List (ParamRole × Bool) → Bool
    | [] => true
    | [(.varKeyword, _)] => true
    | (.plain, _) :: rest => keywordOnly rest
    | _ => false
  positional (slashSeen defaultSeen first : Bool) : List (ParamRole × Bool) → Bool
    | [] => true
    | (.plain, hasDefault) :: rest =>
        (hasDefault || !defaultSeen) && positional slashSeen (defaultSeen || hasDefault) false rest
    | (.slash, _) :: rest => !slashSeen && !first && positional true defaultSeen false rest
    | (.varPositional, _) :: rest => keywordOnly rest
    | (.star, _) :: (.plain, _) :: rest => keywordOnly rest
    | [(.varKeyword, _)] => true
    | _ => false

/-- The order of a call's arguments: no positional one behind a keyword, no star behind a double
star. -/
def argumentsInOrder (keywordSeen unpackSeen : Bool) : List Argument → Bool
  | [] => true
  | .positional _ :: rest => !keywordSeen && argumentsInOrder keywordSeen unpackSeen rest
  | .starred _ :: rest => !unpackSeen && argumentsInOrder keywordSeen unpackSeen rest
  | .keyword _ _ :: rest => argumentsInOrder true unpackSeen rest
  | .doubleStarred _ :: rest => argumentsInOrder true true rest

/-- Joins neighbouring texts and drops empty ones. -/
def mergeTexts : List Piece → List Piece
  | [] => []
  | .text codes :: rest =>
      match mergeTexts rest with
      | .text more :: tail => .text (codes ++ more) :: tail
      | tail => if codes.isEmpty then tail else .text codes :: tail
  | piece :: rest => piece :: mergeTexts rest

namespace Parse

/-! ### Operators -/

/-- `name := value`, or an expression. -/
def namedExpression (k : Knot) : Parse Expr := do
  if isIdentifier (← peek) && isOp ":=" (← peekSecond) then
    let id ← identifier
    let _ ← take
    return .named (.name id) (← k.expression)
  else k.expression

/-- One of some operators and the operand behind it. -/
def binaryStep (ops : List (String × BinaryOp)) (next : Parse Expr) (left : Expr) :
    Parse (Option Expr) := do
  match ← peek with
  | .op t =>
      match ops.lookup t with
      | some o =>
          let _ ← take
          return some (.binary o left (← next))
      | none => return none
  | _ => return none

def binaryLevel (ops : List (String × BinaryOp)) (next : Parse Expr) : Parse Expr := do
  growLeft (binaryStep ops next) (← next)

def bitwiseOr (k : Knot) : Parse Expr :=
  binaryLevel [("|", .bitOr)] <| binaryLevel [("^", .bitXor)] <| binaryLevel [("&", .bitAnd)] <|
  binaryLevel [("<<", .shiftLeft), (">>", .shiftRight)] <|
  binaryLevel [("+", .add), ("-", .sub)] <|
  binaryLevel [("*", .mul), ("/", .div), ("//", .floorDiv), ("%", .mod), ("@", .matMul)] k.factor

def compareOp? : Parse (Option CompareOp) := do
  match ← peek with
  | .op t =>
      let found : Option CompareOp :=
        [("==", .eq), ("!=", .notEq), ("<", .lt), ("<=", .le), (">", .gt), (">=", .ge)].lookup t
      match found with
      | some o =>
          let _ ← take
          return some o
      | none =>
          if t == "<>" && (← dialect) == .tolerant then
            let _ ← take
            return some .notEq
          else return none
  | .name "in" =>
      let _ ← take
      return some .in
  | .name "not" =>
      if isWord "in" (← peekSecond) then
        let _ ← take
        let _ ← take
        return some .notIn
      else return none
  | .name "is" =>
      let _ ← take
      if ← tryWord "not" then return some .isNot else return some .is
  | _ => return none

def compared (k : Knot) : Parse (Option (CompareOp × Expr)) := do
  match ← compareOp? with
  | some o => return some (o, ← bitwiseOr k)
  | none => return none

def comparison (k : Knot) : Parse Expr := do
  let first ← bitwiseOr k
  let pairs ← many (compared k)
  if pairs.isEmpty then return first
  else return .compare first (pairs.map (·.1)) (pairs.map (·.2))

def inversion (k : Knot) : Parse Expr := do
  let nots ← many do
    if ← tryWord "not" then return some () else return none
  return nots.foldl (fun e _ => .unary .not e) (← comparison k)

/-- Operands joined by a word. -/
def boolLevel (o : BoolOp) (w : String) (next : Parse Expr) : Parse Expr := do
  let first ← next
  let others ← many do
    if ← tryWord w then return some (← next) else return none
  if others.isEmpty then return first else return .bool o (first :: others)

def disjunction (k : Knot) : Parse Expr :=
  boolLevel .or "or" (boolLevel .and "and" (inversion k))

/-! ### Lists of expressions -/

def tupleUnlessSingle (items : List Expr) (trailing : Bool) : Expr :=
  match items, trailing with
  | [e], false => e
  | _, _ => .tuple items

/-- An expression or a starred operand. -/
def starExpression (k : Knot) : Parse Expr := do
  if ← tryOp "*" then return .starred (← bitwiseOr k)
  else if (← dialect) == .tolerant then namedExpression k
  else k.expression

/-- One or more expressions divided by commas; more than one, or a comma behind one, is a tuple. -/
def starExpressions (k : Knot) : Parse Expr := do
  let (items, trailing) ← commaList (starExpression k) (fun t => !startsExpression t)
  return tupleUnlessSingle items trailing

def starNamed (k : Knot) : Parse Expr := do
  if ← tryOp "*" then return .starred (← bitwiseOr k) else namedExpression k

def yieldExpression (k : Knot) : Parse Expr := do
  let _ ← word "yield"
  if ← tryWord "from" then return .yieldFrom (← k.expression)
  else if startsExpression (← peek) then return .yield (some (← starExpressions k))
  else return .yield none

/-! ### Calls and subscripts -/

/-- A comprehension or a definition may start with `async`. -/
def atLoop : Parse Bool := do
  if ← atWord "for" then return true
  else return (← atWord "async") && isWord "for" (← peekSecond)

/-- One or more targets, each a primary with an optional star. -/
def targets (k : Knot) (stop : TokenKind → Bool) : Parse Expr := do
  let (items, trailing) ← commaList (do
    if ← tryOp "*" then return Expr.starred (← k.primary) else k.primary) stop
  if (← isStrict) && !items.all (Expr.isTarget true) then refuse
  return tupleUnlessSingle items trailing

def loops (k : Knot) : Parse (List Loop) :=
  many do
    if ← atLoop then
      let isAsync ← tryWord "async"
      let _ ← word "for"
      let target ← targets k (isWord "in")
      let _ ← word "in"
      let source ← disjunction k
      let conditions ← many do
        if ← tryWord "if" then return some (← disjunction k) else return none
      return some (.mk isAsync target source conditions)
    else return none

def argument (k : Knot) : Parse Argument := do
  if ← tryOp "*" then return .starred (← k.expression)
  else if ← tryOp "**" then return .doubleStarred (← k.expression)
  else if isIdentifier (← peek) && isOp "=" (← peekSecond) then
    let name ← identifier
    let _ ← take
    return .keyword name (← k.expression)
  else return .positional (← namedExpression k)

/-- The arguments before a closing bracket, each with the offsets of its text. A bare comprehension
may stand alone in a call. -/
def arguments (k : Knot) (inCall : Bool) : Parse (List (Argument × Nat × Nat)) := do
  if ← atOp ")" then return []
  let (items, trailing) ← commaList (do
    let start := (← peekToken).start.offset
    let arg ← argument k
    match arg with
    | .positional element =>
        if ← atLoop then
          let whole := Argument.positional (.comprehension .generator element (← loops k))
          return (whole, start, (← lastToken).stop.offset, true)
    | _ => pure ()
    return (arg, start, (← lastToken).stop.offset, false)) (isOp ")")
  if ← isStrict then
    let bare := items.any (·.2.2.2)
    if bare && (!inCall || trailing || items.length != 1) then refuse
    if !argumentsInOrder false false (items.map (·.1)) then refuse
  return items.map fun i => (i.1, i.2.1, i.2.2.1)

def isSliceEnd (t : TokenKind) : Bool := isOp ":" t || isOp "," t || isOp "]" t

def sliceBound (k : Knot) : Parse (Option Expr) := do
  if isSliceEnd (← peek) then return none else return some (← k.expression)

/-- What follows the lower bound of a slice. -/
def sliceAfter (k : Knot) (lower : Option Expr) : Parse Expr := do
  let _ ← op ":"
  let upper ← sliceBound k
  if ← tryOp ":" then return .slice lower upper (← sliceBound k)
  else return .slice lower upper none

def subscriptItem (k : Knot) : Parse Expr := do
  if ← tryOp "*" then return .starred (← k.expression)
  else if ← atOp ":" then sliceAfter k none
  else
    let e ← namedExpression k
    if !isNamed e && (← atOp ":") then sliceAfter k (some e) else return e

def subscriptIndex (k : Knot) : Parse Expr := do
  let (items, trailing) ← commaList (subscriptItem k) (isOp "]")
  match items with
  | [e] => if trailing || isStarred e then return .tuple [e] else return e
  | _ => return .tuple items

/-! ### Atoms -/

/-- What stands in round brackets after the opening one, up to and with the closing one. -/
def roundContent (k : Knot) : Parse Expr := do
  if ← tryOp ")" then return .tuple []
  else if ← atWord "yield" then
    let e ← yieldExpression k
    let _ ← op ")"
    return .group e
  else
    let first ← starNamed k
    if ← tryOp "," then
      let rest ← bracketed (starNamed k) ")"
      let _ ← op ")"
      return .tuple (first :: rest)
    else if ← atLoop then
      if isStarred first then refuse
      let ls ← loops k
      let _ ← op ")"
      return .comprehension .generator first ls
    else
      if isStarred first then refuse
      let _ ← op ")"
      return .group first

def squareContent (k : Knot) : Parse Expr := do
  if ← tryOp "]" then return .list []
  else
    let first ← starNamed k
    if ← tryOp "," then
      let rest ← bracketed (starNamed k) "]"
      let _ ← op "]"
      return .list (first :: rest)
    else if ← atLoop then
      if isStarred first then refuse
      let ls ← loops k
      let _ ← op "]"
      return .comprehension .list first ls
    else
      let _ ← op "]"
      return .list [first]

def dictItem (k : Knot) : Parse DictItem := do
  if ← tryOp "**" then return .unpack (← bitwiseOr k)
  else
    let key ← k.expression
    let _ ← op ":"
    return .pair key (← k.expression)

def curlyContent (k : Knot) : Parse Expr := do
  if ← atOp "\x7d" then
    let _ ← take
    return .dict []
  else if ← atOp "**" then
    let items ← bracketed (dictItem k) "\x7d"
    let _ ← op "\x7d"
    return .dict items
  else
    let first ← starNamed k
    if (← atOp ":") && !isStarred first && !isNamed first then
      let _ ← take
      let value ← k.expression
      if ← atLoop then
        let ls ← loops k
        let _ ← op "\x7d"
        return .dictComprehension first value ls
      else
        let rest ← if ← tryOp "," then bracketed (dictItem k) "\x7d" else pure []
        let _ ← op "\x7d"
        return .dict (.pair first value :: rest)
    else if ← atLoop then
      if isStarred first then refuse
      let ls ← loops k
      let _ ← op "\x7d"
      return .comprehension .set first ls
    else
      let rest ← if ← tryOp "," then bracketed (starNamed k) "\x7d" else pure []
      let _ ← op "\x7d"
      return .set (first :: rest)

/-- Reads the expression of a field from its own characters. -/
def fieldExpression (k : Knot) (chars : List Char) (start : Mark) :
    Parse Expr := do
  match scanInside (← dialect) start chars with
  | none => refuse
  | some tokens =>
      let outside ← get
      set (⟨tokens, outside.last⟩ : Tape)
      let e ← roundContent k
      if (← get).ahead.isEmpty then
        set outside
        match e with
        | .group inner => return inner
        | e => return e
      else refuse

mutual

def readPiece (k : Knot) : RawPiece → Parse (List Piece)
  | .text codes => return [.text codes]
  | .field chars start shown conversion format => do
      let value ← fieldExpression k chars start
      let spec ← readFormat k format
      return [.text shown, .field value conversion spec]

def readFormat (k : Knot) :
    Option (List RawPiece) → Parse (Option (List Piece))
  | none => return none
  | some pieces => do return some (mergeTexts (← readPieces k pieces))

def readPieces (k : Knot) : List RawPiece → Parse (List Piece)
  | [] => return []
  | piece :: rest => do
      let here ← readPiece k piece
      return here ++ (← readPieces k rest)

end

/-- The pieces of one literal among those written side by side. -/
def literalPieces (k : Knot) (q : Quoted) : Parse (List Piece) := do
  let d ← dialect
  if q.formatted then
    match rawPieces d q.raw (q.body.length + 2) 0 q.bodyStart q.body with
    | some (pieces, []) => readPieces k pieces
    | _ => refuse
  else
    match decodeText d q.raw q.body with
    | some codes => return [.text codes]
    | none => refuse

def quoted? : Parse (Option Quoted) := do
  match ← peek with
  | .quoted q =>
      let _ ← take
      return some q
  | _ => return none

/-- String literals written side by side are one. Texts and bytes do not mix. -/
def strings (k : Knot) : Parse Expr := do
  let d ← dialect
  let literals ← many quoted?
  if literals.isEmpty then refuse
  if d == .strict && literals.any (·.bytes) then
    if !literals.all (·.bytes) then refuse
    match literals.mapM fun q => decodeBytes d q.raw q.body with
    | some parts => return .bytes parts.flatten
    | none => refuse
  let mut pieces : List Piece := []
  for q in literals do
    pieces := pieces ++ (← literalPieces k q)
  let merged := mergeTexts pieces
  if literals.any (·.formatted) then return .formatted merged
  else
    let mark := match literals with | q :: _ => q.unicodeMark | [] => false
    match merged with
    | [.text codes] => return .text mark codes
    | _ => return .text mark []

def numberAtom (text : String) : Parse Expr := do
  match numberValue text with
  | some (.int n) => return .int n
  | some (.float x) => return .float x
  | some (.imaginary x) => return .imaginary x
  | none => refuse

def atom (k : Knot) : Parse Expr := do
  match ← peek with
  | .name "None" => let _ ← take; return .constant .none
  | .name "True" => let _ ← take; return .constant .true
  | .name "False" => let _ ← take; return .constant .false
  | .name _ => return .name (← identifier)
  | .number text => let _ ← take; numberAtom text
  | .quoted _ => strings k
  | .op "(" => let _ ← take; roundContent k
  | .op "[" => let _ ← take; squareContent k
  | .op "..." => let _ ← take; return .constant .ellipsis
  | .op t => if t == "\x7b" then let _ ← take; curlyContent k else refuse
  | _ => refuse

/-- An attribute, a call or a subscript behind an expression that starts on a line. -/
def trailer (k : Knot) (line : Nat) (e : Expr) : Parse (Option Expr) := do
  if ← tryOp "." then return some (.attribute e (← identifier))
  else if ← tryOp "(" then
    let args ← arguments k true
    let _ ← op ")"
    return some (.call line e (args.map (·.1)))
  else if ← tryOp "[" then
    let index ← subscriptIndex k
    let _ ← op "]"
    return some (.subscript e index)
  else return none

/-- An atom with its attributes, calls and subscripts. A call starts where its first token does. -/
def primaryRule (k : Knot) : Parse Expr := do
  let line := (← peekToken).start.line
  growLeft (trailer k line) (← atom k)

/-- A sign before a factor, or a power. -/
def factorRule (k : Knot) : Parse Expr := do
  if ← tryOp "-" then return .unary .minus (← k.factor)
  else if ← tryOp "+" then return .unary .plus (← k.factor)
  else if ← tryOp "~" then return .unary .invert (← k.factor)
  else
    let base ← if ← tryWord "await" then Expr.await <$> k.primary else k.primary
    if ← tryOp "**" then return .binary .pow base (← k.factor) else return base

/-! ### Lambdas and whole expressions -/

def lambdaParam (k : Knot) : Parse LambdaParam := do
  if ← tryOp "/" then return .mk .slash "" none
  else if ← tryOp "**" then return .mk .varKeyword (← identifier) none
  else if ← tryOp "*" then
    if isIdentifier (← peek) then return .mk .varPositional (← identifier) none
    else return .mk .star "" none
  else
    let name ← identifier
    if ← tryOp "=" then return .mk .plain name (some (← k.expression))
    else return .mk .plain name none

def lambda (k : Knot) : Parse Expr := do
  let _ ← word "lambda"
  let params ← bracketed (lambdaParam k) ":"
  let _ ← op ":"
  if (← isStrict) && !rolesInOrder (params.map fun | .mk role _ default => (role, default.isSome))
    then refuse
  return .lambda params (← k.expression)

def expressionRule (k : Knot) : Parse Expr := do
  if ← atWord "lambda" then lambda k
  else
    let body ← disjunction k
    if ← tryWord "if" then
      let test ← disjunction k
      let _ ← word "else"
      return .conditional body test (← k.expression)
    else return body

end Parse

end PullReview.Python
