import PullReview.Path
import PullReview.Python.Parse.Statement
import PullReview.Python.Render
import PullReview.Symbol
import PullReview.Text.Lines

/-!
# Symbols and calls of a source file

Two extractors share the syntax tree. The strict one visits every statement, writes types and bases
in canonical form and looks through round brackets. The tolerant one follows definitions that stand
directly in a module, a class or a function, keeps texts as written, and counts trailing comments
into a block.
-/

namespace PullReview.Extract

open Python

/-! ### Names and kinds -/

def tail (sep : Char) (name : String) : String :=
  String.ofList ((Path.splitAt sep name.toList).getLast?.getD [])

/-- The last part of a base's dotted name, without type arguments. -/
def baseTail (base : String) : String :=
  String.ofList ((tail '.' base).toList.takeWhile (· != '['))

def enumBases : List String := ["Enum", "IntEnum", "StrEnum", "Flag", "IntFlag"]

def interfaceBases : List String := ["Protocol", "ABC"]

/-- A class is an enum or an interface if a base says so. -/
def classKind (bases : List String) : String :=
  let tails := bases.map baseTail
  if tails.any enumBases.contains then "enum"
  else if tails.any interfaceBases.contains then "interface"
  else "class"

/-- Names in capitals, with digits and underscores behind the first letter. -/
def isConstantName (name : String) : Bool :=
  match name.toList with
  | [] => false
  | c :: rest => c.isUpper && rest.all fun d => d.isUpper || d.isDigit || d == '_'

/-- A leading receiver is no parameter of a method, unless the method is static. -/
def dropReceiver (inClass isStatic : Bool) (params : List Parameter) : List Parameter :=
  match params with
  | p :: rest =>
      if inClass && !isStatic && (p.name == "self" || p.name == "cls") then rest else params
  | [] => []

/-- The name a called expression resolves to: a name, the last part of an attribute, or what the
called result of another call resolves to. -/
def calleeName (seeThrough : Bool) : Expr → Option String
  | .name id => some id
  | .attribute _ attr => some attr
  | .call _ func _ => calleeName seeThrough func
  | .group e => if seeThrough then calleeName seeThrough e else none
  | _ => none

/-! ### Calls in expressions -/

/-- A call in an expression: its line, and the name it resolves to. -/
structure CallSite where
  line : Nat
  callee : Option String
  deriving DecidableEq, Repr

mutual

/-- The calls in an expression, outer before inner. The strict order takes the parts of a node as
its kind lists them: a test before its branches, keys before values, positional arguments before
named ones, and in a lambda the defaults of named parameters first. The tolerant order is that of
the text. -/
def exprCalls (d : Dialect) : Expr → List CallSite
  | .name _ | .constant _ | .int _ | .float _ | .imaginary _ | .text _ _ | .bytes _ => []
  | .formatted pieces => pieceCalls d pieces
  | .group e | .attribute e _ | .await e | .yieldFrom e | .unary _ e | .starred e => exprCalls d e
  | .yield e => optionCalls d e
  | .subscript value index => exprCalls d value ++ exprCalls d index
  | .call line func args =>
      let (first, last, source) := argumentCalls d args
      ⟨line, calleeName (d == .strict) func⟩ :: exprCalls d func ++
        (if d == .strict then first ++ last else source)
  | .binary _ left right | .named left right => exprCalls d left ++ exprCalls d right
  | .bool _ values | .tuple values | .list values | .set values => listCalls d values
  | .compare first _ others => exprCalls d first ++ listCalls d others
  | .conditional body test orElse =>
      if d == .strict then exprCalls d test ++ exprCalls d body ++ exprCalls d orElse
      else exprCalls d body ++ exprCalls d test ++ exprCalls d orElse
  | .lambda params body =>
      let (positional, named, source) := paramCalls d false params
      (if d == .strict then named ++ positional else source) ++ exprCalls d body
  | .dict items =>
      let (keys, values, source) := itemCalls d items
      if d == .strict then keys ++ values else source
  | .comprehension _ element loops => exprCalls d element ++ loopCalls d loops
  | .dictComprehension key value loops =>
      exprCalls d key ++ exprCalls d value ++ loopCalls d loops
  | .slice lower upper step => optionCalls d lower ++ optionCalls d upper ++ optionCalls d step

def optionCalls (d : Dialect) : Option Expr → List CallSite
  | none => []
  | some e => exprCalls d e

def listCalls (d : Dialect) : List Expr → List CallSite
  | [] => []
  | e :: rest => exprCalls d e ++ listCalls d rest

def pieceCalls (d : Dialect) : List Piece → List CallSite
  | [] => []
  | .text _ :: rest => pieceCalls d rest
  | .field value _ none :: rest => exprCalls d value ++ pieceCalls d rest
  | .field value _ (some format) :: rest =>
      exprCalls d value ++ pieceCalls d format ++ pieceCalls d rest

/-- Calls in positional arguments, in named ones, and in all of them as written. -/
def argumentCalls (d : Dialect) :
    List Argument → List CallSite × List CallSite × List CallSite
  | [] => ([], [], [])
  | .positional e :: rest | .starred e :: rest =>
      let here := exprCalls d e
      let (first, last, source) := argumentCalls d rest
      (here ++ first, last, here ++ source)
  | .keyword _ e :: rest | .doubleStarred e :: rest =>
      let here := exprCalls d e
      let (first, last, source) := argumentCalls d rest
      (first, here ++ last, here ++ source)

/-- Calls in the keys of a mapping, in its values, and in all of it as written. -/
def itemCalls (d : Dialect) : List DictItem → List CallSite × List CallSite × List CallSite
  | [] => ([], [], [])
  | .pair key value :: rest =>
      let k := exprCalls d key
      let v := exprCalls d value
      let (keys, values, source) := itemCalls d rest
      (k ++ keys, v ++ values, k ++ v ++ source)
  | .unpack value :: rest =>
      let v := exprCalls d value
      let (keys, values, source) := itemCalls d rest
      (keys, v ++ values, v ++ source)

def loopCalls (d : Dialect) : List Loop → List CallSite
  | [] => []
  | .mk _ target source conditions :: rest =>
      exprCalls d target ++ exprCalls d source ++ listCalls d conditions ++ loopCalls d rest

/-- Calls in the defaults of positional parameters, of named-only ones, and of all as written. -/
def paramCalls (d : Dialect) (starSeen : Bool) :
    List LambdaParam → List CallSite × List CallSite × List CallSite
  | [] => ([], [], [])
  | .mk role _ default :: rest =>
      let here := optionCalls d default
      let starSeen := starSeen || role == .star || role == .varPositional
      let (positional, named, source) := paramCalls d starSeen rest
      if starSeen then (positional, here ++ named, here ++ source)
      else (here ++ positional, named, here ++ source)

end

/-! ### The strict extractor -/

/-- Why a source has no symbols: it holds the null character, or a type, a base or a decorator
cannot be written. -/
inductive Fault where
  | nullCharacter
  | unwritable (why : Unwritable)
  deriving DecidableEq, Repr

def Fault.message : Fault → String
  | .nullCharacter => "source code string cannot contain null bytes"
  | .unwritable why => why.message

structure Extracted where
  symbols : List Symbol
  calls : List CallEdge
  deriving DecidableEq, Repr, Inhabited

/-- A file under extraction: its path, and its lines. -/
structure Text where
  path : String
  lines : List String

def render (e : Expr) : Except Fault String :=
  match e.render with
  | .ok s => .ok s
  | .error why => .error (.unwritable why)

def renderHint : Option Written → Except Fault (Option String)
  | none => .ok none
  | some w => (render w.expr).map some

/-- An entry of a parameter list in canonical form; the bare marks are none. -/
def strictParam (p : Param) : Except Fault (List Parameter) := do
  let hint ← renderHint p.hint
  let type := hint.getD ""
  match p.role with
  | .plain => return [⟨p.name, type, p.default.isSome⟩]
  | .varPositional => return [⟨"*" ++ p.name, type, false⟩]
  | .varKeyword => return [⟨"**" ++ p.name, type, false⟩]
  | _ => return []

def strictParams (params : List Param) : Except Fault (List Parameter) := do
  return (← params.mapM strictParam).flatten

def strictStart (extent : Extent) (decorators : List Decorator) : Nat :=
  decorators.foldl (fun n d => min n d.exprLine) extent.first

def isStaticMark (d : Decorator) : Except Fault Bool := do
  return (← render d.expr) == "staticmethod"

def strictFunction (text : Text) (inClass : Bool) (head : FunctionHead) :
    Except Fault Symbol := do
  let isStatic := (← head.decorators.mapM isStaticMark).any id
  let params := dropReceiver inClass isStatic (← strictParams head.params)
  let returnType ← renderHint head.returns
  let start := strictStart head.extent head.decorators
  return {
    name := head.name
    kind := functionKind head.name inClass
    file := text.path
    startLine := start
    endLine := head.extent.last
    signature := some (formatSignature head.name params returnType)
    parameters := params
    returnType := returnType
    visibility := some (visibilityOf head.name)
    isStatic := isStatic
    code := some (PullReview.Text.excerpt text.lines start head.extent.last) }

def classSymbol (text : Text) (name : String) (bases : List String) (start last : Nat) :
    Symbol :=
  { name := name
    kind := classKind bases
    file := text.path
    startLine := start
    endLine := last
    visibility := some (visibilityOf name)
    base := bases.head?
    otherBases := bases.drop 1
    code := some (PullReview.Text.excerpt text.lines start last) }

/-- Bases are the arguments without a name. -/
def strictBase (b : Base) : Except Fault (List String) :=
  match b.argument with
  | .positional e => (render e).map ([·])
  | .starred e => (render (.starred e)).map ([·])
  | _ => .ok []

def strictBases (bases : List Base) : Except Fault (List String) := do
  return (← bases.mapM strictBase).flatten

def strictClass (text : Text) (head : ClassHead) : Except Fault Symbol := do
  let bases ← strictBases head.bases
  let start := strictStart head.extent head.decorators
  return classSymbol text head.name bases start head.extent.last

def fieldSymbol (text : Text) (name : String) (extent : Extent) (type : Option String) :
    Symbol :=
  { name := name
    kind := "field"
    file := text.path
    startLine := extent.first
    endLine := extent.last
    returnType := type
    visibility := some (visibilityOf name)
    isStatic := true
    isConstant := true
    code := some (PullReview.Text.excerpt text.lines extent.first extent.last) }

/-- A constant defined by a statement of the module itself. -/
def strictConstant (text : Text) : Stmt → Except Fault (List Symbol)
  | .assign extent [target] _ =>
      match target.ungroup with
      | .name id => .ok (if isConstantName id then [fieldSymbol text id extent none] else [])
      | _ => .ok []
  | .annotate extent target hint _ =>
      match target.ungroup with
      | .name id => do
          let type ← render hint.expr
          return if isConstantName id then [fieldSymbol text id extent (some type)] else []
      | _ => .ok []
  | _ => .ok []

def edges (path : String) (caller : Option String) (sites : List CallSite) :
    List CallEdge :=
  match caller with
  | none => []
  | some name => sites.filterMap fun s =>
      match s.callee with
      | some callee => if callee == "" then none else some ⟨name, callee, path, s.line⟩
      | none => none

/-- Calls in the header of a class: bases before named arguments. -/
def headerCalls (d : Dialect) (bases : List Base) : List CallSite :=
  let (first, last, _) := argumentCalls d (bases.map (·.argument))
  first ++ last

/-- What a statement stands directly in. -/
inductive Scope where
  | module | «class» | function
  deriving DecidableEq, Repr

/-- A visit of a module: what was found so far, the scopes around the statement at hand, and the
names of the functions around it, the innermost first. -/
structure Visit where
  symbols : List Symbol := []
  calls : List CallEdge := []
  scopes : List Scope := [.module]
  functions : List String := []
  deriving DecidableEq, Repr

namespace Visit

def inClass (v : Visit) : Bool := v.scopes.head? == some .class

def addSymbols (v : Visit) (found : List Symbol) : Visit :=
  { v with symbols := v.symbols ++ found }

/-- Calls are made by the innermost function around them; outside of all functions they are none. -/
def addCalls (v : Visit) (path : String) (sites : List CallSite) : Visit :=
  { v with calls := v.calls ++ edges path v.functions.head? sites }

def enterFunction (v : Visit) (name : String) : Visit :=
  { v with scopes := .function :: v.scopes, functions := name :: v.functions }

def leaveFunction (v : Visit) : Visit :=
  { v with scopes := v.scopes.tail, functions := v.functions.tail }

def enterClass (v : Visit) : Visit := { v with scopes := .class :: v.scopes }

def leaveClass (v : Visit) : Visit := { v with scopes := v.scopes.tail }

end Visit

mutual

/-- Visits a statement: each definition comes before those inside it. What stands in the head of a
function is no part of it; the header of a class belongs to the function around. -/
def visitStmt (text : Text) (v : Visit) : Stmt → Except Fault Visit
  | .simple exprs => .ok (v.addCalls text.path (listCalls .strict exprs))
  | .assign _ targets value =>
      .ok (v.addCalls text.path (listCalls .strict targets ++ exprCalls .strict value))
  | .annotate _ target hint value =>
      .ok (v.addCalls text.path
        (exprCalls .strict target ++ exprCalls .strict hint.expr ++ optionCalls .strict value))
  | .compound clauses => visitClauses text v clauses
  | .function head body => do
      let symbol ← strictFunction text v.inClass head
      let inner ← visitBody text ((v.addSymbols [symbol]).enterFunction head.name) body
      return inner.leaveFunction
  | .class head body => do
      let symbol ← strictClass text head
      let opened := (v.addSymbols [symbol]).enterClass.addCalls text.path
        (headerCalls .strict head.bases)
      let inner ← visitBody text opened body
      let decorated := inner.addCalls text.path (listCalls .strict (head.decorators.map (·.expr)))
      return decorated.leaveClass

def visitBody (text : Text) (v : Visit) : List Stmt → Except Fault Visit
  | [] => .ok v
  | s :: rest => do visitBody text (← visitStmt text v s) rest

def visitClauses (text : Text) (v : Visit) : List Clause → Except Fault Visit
  | [] => .ok v
  | .mk head body :: rest => do
      let inner ← visitBody text (v.addCalls text.path (listCalls .strict head)) body
      visitClauses text inner rest

end

/-- Visits the statements of a module, each after the constant that it defines. -/
def visitModule (text : Text) (v : Visit) : List Stmt → Except Fault Visit
  | [] => .ok v
  | s :: rest => do
      let constants ← strictConstant text s
      visitModule text (← visitStmt text (v.addSymbols constants) s) rest

/-! ### The tolerant extractor -/

def tolerantParam (p : Param) : List Parameter :=
  let type := (p.hint.map (·.source)).getD ""
  match p.role with
  | .plain => [⟨p.name, type, p.default.isSome⟩]
  | .varPositional | .varKeyword => [⟨p.source, type, false⟩]
  | _ => []

/-- A decorator's text without its mark. -/
def decoratorText (d : Decorator) : String :=
  PullReview.Text.strip (String.ofList (d.source.toList.dropWhile (· == '@')))

def tolerantStart (extent : Extent) (decorators : List Decorator) : Nat :=
  match decorators with
  | d :: _ => d.markLine
  | [] => extent.first

def tolerantFunction (text : Text) (inClass : Bool) (head : FunctionHead) : Symbol :=
  let isStatic := head.decorators.any fun d => decoratorText d == "staticmethod"
  let params := dropReceiver inClass isStatic (head.params.flatMap tolerantParam)
  let returnType := head.returns.map (·.source)
  let start := tolerantStart head.extent head.decorators
  { name := head.name
    kind := functionKind head.name inClass
    file := text.path
    startLine := start
    endLine := head.extent.reach
    signature := some (formatSignature head.name params returnType)
    parameters := params
    returnType := returnType
    visibility := some (visibilityOf head.name)
    isStatic := isStatic
    code := some (PullReview.Text.excerpt text.lines start head.extent.reach) }

/-- Bases are the arguments without a name, and whatever is unpacked. -/
def tolerantBases (bases : List Base) : List String :=
  bases.filterMap fun b =>
    match b.argument with
    | .keyword _ _ => none
    | _ => some b.source

def tolerantClass (text : Text) (head : ClassHead) : Symbol :=
  classSymbol text head.name (tolerantBases head.bases) (tolerantStart head.extent head.decorators)
    head.extent.reach

def tolerantConstant (text : Text) : Stmt → List Symbol
  | .assign extent (.name id :: _) _ =>
      if isConstantName id then [fieldSymbol text id extent none] else []
  | .annotate extent (.name id) hint _ =>
      if isConstantName id then [fieldSymbol text id extent (some hint.source)] else []
  | _ => []

mutual

/-- The calls in a statement outside every definition in it. -/
def ownCalls : Stmt → List CallSite
  | .simple exprs => listCalls .tolerant exprs
  | .assign _ targets value => listCalls .tolerant targets ++ exprCalls .tolerant value
  | .annotate _ target hint value =>
      exprCalls .tolerant target ++ exprCalls .tolerant hint.expr ++ optionCalls .tolerant value
  | .compound clauses => ownClauseCalls clauses
  | .function _ _ | .class _ _ => []

def ownBodyCalls : List Stmt → List CallSite
  | [] => []
  | s :: rest => ownCalls s ++ ownBodyCalls rest

def ownClauseCalls : List Clause → List CallSite
  | [] => []
  | .mk head body :: rest =>
      listCalls .tolerant head ++ ownBodyCalls body ++ ownClauseCalls rest

end

mutual

/-- The definitions that a statement is, each before those directly inside it. -/
def tolerantStmt (text : Text) (inClass : Bool) : Stmt → Extracted
  | .function head body =>
      let inner := tolerantBody text false body
      ⟨tolerantFunction text inClass head :: inner.symbols,
        edges text.path (some head.name) (ownBodyCalls body) ++ inner.calls⟩
  | .class head body =>
      let inner := tolerantBody text true body
      ⟨tolerantClass text head :: inner.symbols, inner.calls⟩
  | _ => ⟨[], []⟩

def tolerantBody (text : Text) (inClass : Bool) : List Stmt → Extracted
  | [] => ⟨[], []⟩
  | s :: rest =>
      let here := tolerantStmt text inClass s
      let more := tolerantBody text inClass rest
      ⟨here.symbols ++ more.symbols, here.calls ++ more.calls⟩

end

def tolerantModule (text : Text) : List Stmt → Extracted
  | [] => ⟨[], []⟩
  | s :: rest =>
      let here := tolerantStmt text false s
      let more := tolerantModule text rest
      ⟨tolerantConstant text s ++ here.symbols ++ more.symbols, here.calls ++ more.calls⟩

/-! ### Files -/

def supports (path : String) : Bool := Path.language? path == some "python"

/-- The symbols and calls of a file. A file in another language, or one that the dialect has no
tree for, has none. -/
def extract (d : Dialect) (path content : String) : Except Fault Extracted :=
  if !supports path then .ok ⟨[], []⟩
  else
    let text : Text := ⟨path, PullReview.Text.lines content⟩
    match d with
    | .strict =>
        if content.toList.contains '\x00' then .error .nullCharacter
        else
          match parseModule .strict content with
          | none => .ok ⟨[], []⟩
          | some body => do
              let v ← visitModule text {} body
              return ⟨v.symbols, v.calls⟩
    | .tolerant =>
        match parseModule .tolerant content with
        | none => .ok ⟨[], []⟩
        | some body => .ok (tolerantModule text body)

end PullReview.Extract
