import PullReview.Number.Decimal
import PullReview.Number.Whole
import PullReview.Python.Syntax
import PullReview.Text.Quoted

/-!
# Canonical text of expressions

`Expr.render` writes an expression in one fixed layout: brackets only where the strength of the
operators asks for them, strings in normal quotes, numbers in normal form. The expression in a field
of a formatted literal cannot hold a backslash, and a whole number has a bounded number of digits;
an expression that would need more has no text.
-/

namespace PullReview.Python

/-- Why an expression has no canonical text. -/
inductive Unwritable where
  | backslash
  | tooManyDigits
  deriving DecidableEq, Repr

def Unwritable.message : Unwritable → String
  | .backslash => "Unable to avoid backslash in f-string expression part"
  | .tooManyDigits =>
      "Exceeds the limit (4300 digits) for integer string conversion; " ++
        "use sys.set_int_max_str_digits() to increase the limit"

/-! ### Strengths

How tightly an expression binds, from a named expression to an atom. -/

namespace Strength

def named : Nat := 1
def tuple : Nat := 2
def yield : Nat := 3
def test : Nat := 4
def or : Nat := 5
def and : Nat := 6
def not : Nat := 7
def compare : Nat := 8
def operand : Nat := 9
def factor : Nat := 15
def power : Nat := 16
def await : Nat := 17
def atom : Nat := 18

/-- The next tighter strength. -/
def next (n : Nat) : Nat := min (n + 1) atom

end Strength

def UnaryOp.symbol : UnaryOp → String
  | .invert => "~"
  | .not => "not "
  | .plus => "+"
  | .minus => "-"

def UnaryOp.strength : UnaryOp → Nat
  | .not => Strength.not
  | _ => Strength.factor

def BinaryOp.symbol : BinaryOp → String
  | .add => "+"
  | .sub => "-"
  | .mul => "*"
  | .matMul => "@"
  | .div => "/"
  | .mod => "%"
  | .shiftLeft => "<<"
  | .shiftRight => ">>"
  | .bitOr => "|"
  | .bitXor => "^"
  | .bitAnd => "&"
  | .floorDiv => "//"
  | .pow => "**"

def BinaryOp.strength : BinaryOp → Nat
  | .bitOr => 9
  | .bitXor => 10
  | .bitAnd => 11
  | .shiftLeft | .shiftRight => 12
  | .add | .sub => 13
  | .mul | .matMul | .div | .mod | .floorDiv => 14
  | .pow => Strength.power

/-- The strengths asked of the left and right operands: the side an operator groups to may have
the operator's own. -/
def BinaryOp.operandStrengths (o : BinaryOp) : Nat × Nat :=
  match o with
  | .pow => (Strength.next o.strength, o.strength)
  | _ => (o.strength, Strength.next o.strength)

def CompareOp.symbol : CompareOp → String
  | .eq => "=="
  | .notEq => "!="
  | .lt => "<"
  | .le => "<="
  | .gt => ">"
  | .ge => ">="
  | .is => "is"
  | .isNot => "is not"
  | .in => "in"
  | .notIn => "not in"

def Constant.text : Constant → String
  | .none => "None"
  | .true => "True"
  | .false => "False"
  | .ellipsis => "..."

/-! ### String literals -/

private def allQuotes : List String := ["'", "\"", "\"\"\"", "'''"]

private def hasInfix (part : List Char) : List Char → Bool
  | [] => part.isEmpty
  | c :: rest => part.isPrefixOf (c :: rest) || hasInfix part rest

/-- The text of a literal and the quotes it can be put in. Line feeds and tabs may stand as they
are, in triple quotes, unless `escapeSpaces`. Where no quote fits, the text is escaped for one. -/
private def styled (quotes : List String) (escapeSpaces : Bool) (codes : List Nat) :
    List Char × List String :=
  let one (n : Nat) : List Char :=
    if !escapeSpaces && (n == 9 || n == 10) then [Char.ofNat n]
    else if n == 92 || !Text.isPrintableCode n then Text.escapeCode n
    else [Char.ofNat n]
  let escaped := codes.flatMap one
  let fitting := quotes.filter fun q =>
    (q.length == 3 || !escaped.contains '\n') && !hasInfix q.toList escaped
  if fitting.isEmpty then
    let quoted := Text.quoteCodes codes
    let mark := quoted.headD '\''
    let quote := (quotes.find? fun q => q.toList.contains mark).getD (String.ofList [mark])
    ((quoted.drop 1).dropLast, [quote])
  else
    match escaped.getLast? with
    | none => (escaped, fitting)
    | some last =>
        let clash (q : String) : Bool := q.toList.head? == some last
        let ordered := fitting.filter (!clash ·) ++ fitting.filter clash
        if (ordered.head?.map clash).getD false then (escaped.dropLast ++ ['\\', last], ordered)
        else (escaped, ordered)

private def inQuotes (style : List Char × List String) : String :=
  let quote := style.2.headD "'"
  quote ++ String.ofList style.1 ++ quote

/-- Braces of plain text are doubled inside a formatted literal. -/
private def doubleBraces (codes : List Nat) : List Nat :=
  codes.flatMap fun n => if n == 123 || n == 125 then [n, n] else [n]

/-- Finds quotes that suit every part; `none` where the parts ask for different ones. -/
private def styleParts (quotes : List String) :
    List (List Nat × Bool) → Option (List Char × List String)
  | [] => some ([], quotes)
  | (codes, isText) :: rest =>
      let (chars, fitting) := styled quotes isText codes
      if fitting.any quotes.contains then
        (styleParts fitting rest).map fun (more, final) => (chars ++ more, final)
      else none

/-- A formatted literal from its parts, each with a flag for plain text. -/
private def joinParts (parts : List (List Nat × Bool)) : String :=
  match styleParts allQuotes parts with
  | some style => inQuotes style
  | none =>
      let plain := parts.flatMap fun p => ((Text.quoteCodes (34 :: p.1)).drop 2).dropLast
      "'''" ++ String.ofList plain ++ "'''"

/-! ### Numbers -/

/-- A whole number in digits, as many as it may have. -/
private def wholeText (n : Nat) : Except Unwritable String :=
  let digits := toString n
  if digits.toList.length > Number.digitLimit then .error .tooManyDigits else .ok digits

private def replaceInfinity (s : String) : String := s.replace "inf" "1e309"

/-- An imaginary number drops the fraction of a whole one. -/
private def imaginaryText (x : Float) : String :=
  let s := Number.plain x
  replaceInfinity (if s.endsWith ".0" then (s.dropEnd 2).toString else s) ++ "j"

def enclose (open_ close : String) (s : String) : String := open_ ++ s ++ close

def bracketIf (condition : Bool) (s : String) : String :=
  if condition then "(" ++ s ++ ")" else s

/-- A sequence of items, a comma behind a single one. -/
def tupleText (items : List String) : String :=
  match items with
  | [item] => item ++ ","
  | items => ", ".intercalate items

/-! ### Expressions -/

private def codesOf (s : String) : List Nat := s.toList.map Char.toNat

/-- Whether a point behind an expression would be read as part of a number. -/
def endsInDigit : Expr → Bool
  | .int _ | .constant .true | .constant .false => true
  | .group e => endsInDigit e
  | _ => false

/-- The strength asked between the brackets of a subscript, where a tuple needs no brackets. -/
def indexStrength (index : Expr) : Nat :=
  match index.ungroup with
  | .tuple _ => Strength.tuple
  | _ => Strength.test

/-- The parameters of a lambda from the texts of its entries. -/
private def lambdaParamText (role : ParamRole) (name : String) (default : Option String) : String :=
  match role with
  | .slash => "/"
  | .star => "*"
  | .varPositional => "*" ++ name
  | .varKeyword => "**" ++ name
  | _ => match default with
    | some d => name ++ "=" ++ d
    | none => name

mutual

/-- The canonical text of an expression where `asked` is the strength its place asks for. With
`plainStrings` string literals avoid backslashes. -/
def Expr.renderAt (plainStrings : Bool) (asked : Nat) : Expr → Except Unwritable String
  | .name id => .ok id
  | .constant c => .ok c.text
  | .int n => wholeText n
  | .float x => .ok (replaceInfinity (Number.plain x))
  | .imaginary x => .ok (imaginaryText x)
  | .text mark codes =>
      let body :=
        if plainStrings then inQuotes (styled allQuotes false codes)
        else String.ofList (Text.quoteCodes codes)
      .ok ((if mark then "u" else "") ++ body)
  | .bytes codes => .ok (String.ofList (Text.quoteBytes codes))
  | .formatted pieces => do
      let parts ← renderPieces pieces
      if plainStrings then
        return "f" ++ inQuotes (styled allQuotes false (parts.flatMap (·.1)))
      else return "f" ++ joinParts parts
  | .group e => e.renderAt plainStrings asked
  | .attribute value attr => do
      let text ← value.renderAt plainStrings Strength.atom
      return text ++ (if endsInDigit value then " ." else ".") ++ attr
  | .subscript value index => do
      let text ← value.renderAt plainStrings Strength.atom
      return text ++ enclose "[" "]" (← index.renderAt plainStrings (indexStrength index))
  | .call _ func args => do
      let text ← func.renderAt plainStrings Strength.atom
      let first ← renderPositional plainStrings args
      let last ← renderNamed plainStrings args
      return text ++ enclose "(" ")" (", ".intercalate (first ++ last))
  | .await value => do
      let text ← value.renderAt plainStrings Strength.atom
      return bracketIf (asked > Strength.await) ("await " ++ text)
  | .yield value => do
      match value with
      | none => return bracketIf (asked > Strength.yield) "yield"
      | some e =>
          let text ← e.renderAt plainStrings Strength.atom
          return bracketIf (asked > Strength.yield) ("yield " ++ text)
  | .yieldFrom value => do
      let text ← value.renderAt plainStrings Strength.atom
      return bracketIf (asked > Strength.yield) ("yield from " ++ text)
  | .unary o operand => do
      let text ← operand.renderAt plainStrings o.strength
      return bracketIf (asked > o.strength) (o.symbol ++ text)
  | .binary o left right => do
      let l ← left.renderAt plainStrings o.operandStrengths.1
      let r ← right.renderAt plainStrings o.operandStrengths.2
      return bracketIf (asked > o.strength) (l ++ " " ++ o.symbol ++ " " ++ r)
  | .bool o values => do
      let (strength, joint) :=
        match o with
        | .and => (Strength.and, " and ")
        | .or => (Strength.or, " or ")
      let texts ← renderRising plainStrings strength values
      return bracketIf (asked > strength) (joint.intercalate texts)
  | .compare first ops others => do
      let head ← first.renderAt plainStrings (Strength.next Strength.compare)
      let texts ← renderAll plainStrings (Strength.next Strength.compare) others
      let tail := (ops.zip texts).map fun p => " " ++ p.1.symbol ++ " " ++ p.2
      return bracketIf (asked > Strength.compare) (head ++ String.join tail)
  | .conditional body test orElse => do
      let b ← body.renderAt plainStrings (Strength.next Strength.test)
      let t ← test.renderAt plainStrings (Strength.next Strength.test)
      let o ← orElse.renderAt plainStrings Strength.test
      return bracketIf (asked > Strength.test) (b ++ " if " ++ t ++ " else " ++ o)
  | .lambda params body => do
      let ps ← renderParams plainStrings params
      let b ← body.renderAt plainStrings Strength.test
      let head := if ps.isEmpty then "lambda" else "lambda " ++ ", ".intercalate ps
      return bracketIf (asked > Strength.test) (head ++ ": " ++ b)
  | .tuple items => do
      let texts ← renderAll plainStrings Strength.test items
      return bracketIf (items.isEmpty || asked > Strength.tuple) (tupleText texts)
  | .list items => do
      return enclose "[" "]" (", ".intercalate (← renderAll plainStrings Strength.test items))
  | .set items => do
      return enclose "\x7b" "\x7d" (", ".intercalate (← renderAll plainStrings Strength.test items))
  | .dict items => do
      return enclose "\x7b" "\x7d" (", ".intercalate (← renderItems plainStrings items))
  | .comprehension shape element loops => do
      let text := (← element.renderAt plainStrings Strength.test) ++
        (← renderLoops plainStrings loops)
      match shape with
      | .list => return enclose "[" "]" text
      | .set => return enclose "\x7b" "\x7d" text
      | .generator => return enclose "(" ")" text
  | .dictComprehension key value loops => do
      let text := (← key.renderAt plainStrings Strength.test) ++ ": " ++
        (← value.renderAt plainStrings Strength.test) ++ (← renderLoops plainStrings loops)
      return enclose "\x7b" "\x7d" text
  | .starred value => do
      return "*" ++ (← value.renderAt plainStrings Strength.operand)
  | .slice lower upper step => do
      let l ← renderOptional plainStrings "" lower
      let u ← renderOptional plainStrings "" upper
      return l ++ ":" ++ u ++ (← renderOptional plainStrings ":" step)
  | .named target value => do
      let t ← target.renderAt plainStrings Strength.atom
      let v ← value.renderAt plainStrings Strength.atom
      return bracketIf (asked > Strength.named) (t ++ " := " ++ v)

def renderAll (plainStrings : Bool) (asked : Nat) :
    List Expr → Except Unwritable (List String)
  | [] => .ok []
  | e :: rest => do
      return (← e.renderAt plainStrings asked) :: (← renderAll plainStrings asked rest)

/-- Operands of which each asks for more strength than the one before. -/
private def renderRising (plainStrings : Bool) (asked : Nat) :
    List Expr → Except Unwritable (List String)
  | [] => .ok []
  | e :: rest => do
      let asked := Strength.next asked
      return (← e.renderAt plainStrings asked) :: (← renderRising plainStrings asked rest)

private def renderOptional (plainStrings : Bool) (lead : String) :
    Option Expr → Except Unwritable String
  | none => .ok ""
  | some e => do return lead ++ (← e.renderAt plainStrings Strength.test)

private def renderPositional (plainStrings : Bool) :
    List Argument → Except Unwritable (List String)
  | [] => .ok []
  | .positional e :: rest => do
      let text ← e.renderAt plainStrings Strength.test
      return text :: (← renderPositional plainStrings rest)
  | .starred e :: rest => do
      let text ← e.renderAt plainStrings Strength.operand
      return ("*" ++ text) :: (← renderPositional plainStrings rest)
  | .keyword _ _ :: rest | .doubleStarred _ :: rest => renderPositional plainStrings rest

private def renderNamed (plainStrings : Bool) : List Argument → Except Unwritable (List String)
  | [] => .ok []
  | .keyword name e :: rest => do
      let text ← e.renderAt plainStrings Strength.test
      return (name ++ "=" ++ text) :: (← renderNamed plainStrings rest)
  | .doubleStarred e :: rest => do
      let text ← e.renderAt plainStrings Strength.test
      return ("**" ++ text) :: (← renderNamed plainStrings rest)
  | .positional _ :: rest | .starred _ :: rest => renderNamed plainStrings rest

private def renderItems (plainStrings : Bool) :
    List DictItem → Except Unwritable (List String)
  | [] => .ok []
  | .pair key value :: rest => do
      let text := (← key.renderAt plainStrings Strength.test) ++ ": " ++
        (← value.renderAt plainStrings Strength.test)
      return text :: (← renderItems plainStrings rest)
  | .unpack value :: rest => do
      let text := "**" ++ (← value.renderAt plainStrings Strength.operand)
      return text :: (← renderItems plainStrings rest)

private def renderLoops (plainStrings : Bool) : List Loop → Except Unwritable String
  | [] => .ok ""
  | .mk isAsync target source conditions :: rest => do
      let t ← target.renderAt plainStrings Strength.tuple
      let s ← source.renderAt plainStrings (Strength.next Strength.test)
      let cs ← renderAll plainStrings (Strength.next Strength.test) conditions
      let lead := if isAsync then " async for " else " for "
      return lead ++ t ++ " in " ++ s ++ String.join (cs.map (" if " ++ ·)) ++
        (← renderLoops plainStrings rest)

private def renderParams (plainStrings : Bool) :
    List LambdaParam → Except Unwritable (List String)
  | [] => .ok []
  | .mk role name default :: rest => do
      let text ←
        match default with
        | none => pure none
        | some e => (e.renderAt plainStrings Strength.test).map some
      return lambdaParamText role name text :: (← renderParams plainStrings rest)

/-- The parts of a formatted literal; the flag marks plain text. -/
private def renderPieces : List Piece → Except Unwritable (List (List Nat × Bool))
  | [] => .ok []
  | .text codes :: rest => do
      return (doubleBraces codes, true) :: (← renderPieces rest)
  | .field value conversion format :: rest => do
      let text ← value.renderAt true (Strength.next Strength.test)
      if text.toList.contains '\\' then throw .backslash
      let lead := if text.startsWith "\x7b" then [32] else []
      let conv := match conversion with | some c => [33, c.toNat] | none => []
      let spec ←
        match format with
        | none => pure []
        | some pieces => (renderPieces pieces).map fun parts => 58 :: parts.flatMap (·.1)
      return ([123] ++ lead ++ codesOf text ++ conv ++ spec ++ [125], false) ::
        (← renderPieces rest)

end

/-- The canonical text of an expression that stands alone. -/
def Expr.render (e : Expr) : Except Unwritable String := e.renderAt false Strength.test

end PullReview.Python
