/-!
# Symbols and calls

What is known of a definition in a source file, and of a call from one definition to a name.
-/

namespace PullReview

structure Parameter where
  name : String
  type : String := ""
  optional : Bool := false
  deriving DecidableEq, Repr, Inhabited

/-- A definition. `base` is its first base class and `otherBases` are the rest; `code` is the text
of its lines. -/
structure Symbol where
  name : String
  kind : String
  file : String
  startLine : Int
  endLine : Int
  signature : Option String := none
  parameters : List Parameter := []
  returnType : Option String := none
  visibility : Option String := none
  isStatic : Bool := false
  isConstant : Bool := false
  base : Option String := none
  otherBases : List String := []
  code : Option String := none
  deriving DecidableEq, Repr, Inhabited

/-- A call, at a line of a file, of the name `callee` inside the definition `caller`. -/
structure CallEdge where
  caller : String
  callee : String
  file : String
  line : Int
  deriving DecidableEq, Repr, Inhabited

namespace Symbol

def location (s : Symbol) : String := s.file ++ ":" ++ toString s.startLine

/-- The identity of a definition: where it is, what it is called and what it is. -/
def id (s : Symbol) : String :=
  s.file ++ ":" ++ s.name ++ ":" ++ s.kind ++ ":" ++ toString s.startLine

/-- Changes are followed for these kinds; constructors share one name across classes. -/
def isCallable (s : Symbol) : Bool := s.kind == "method" || s.kind == "function"

end Symbol

/-- Names with two leading underscores are private unless they also end so; one leading underscore
makes a name protected. -/
def visibilityOf (name : String) : String :=
  if name.startsWith "__" && name.endsWith "__" then "public"
  else if name.startsWith "__" then "private"
  else if name.startsWith "_" then "protected"
  else "public"

def Parameter.render (p : Parameter) : String :=
  (if p.type == "" then p.name else p.name ++ ": " ++ p.type) ++
    (if p.optional then " = ..." else "")

/-- A definition's head: name, parameters, and the return type if there is one. -/
def formatSignature (name : String) (params : List Parameter) (returnType : Option String) :
    String :=
  let head := name ++ "(" ++ ", ".intercalate (params.map Parameter.render) ++ ")"
  match returnType with
  | some t => if t == "" then head else head ++ " -> " ++ t
  | none => head

/-- A function in a class is a method, or its constructor. -/
def functionKind (name : String) (inClass : Bool) : String :=
  if !inClass then "function" else if name == "__init__" then "constructor" else "method"

end PullReview
