import PullReview.Json.Reader
import PullReview.Json.Writer
import PullReview.Symbol

/-!
# Symbols as records

A symbol is written as an object with fourteen members. Reading one back checks the names of the
members and that the five required ones are there; a missing list is empty, and a text in place of
the list of bases counts as its characters. The text of a record has a limit on the digits of its
line numbers, if there is one.
-/

namespace PullReview

/-- What is wrong with a record. -/
inductive RecordError where
  | missing (record : String) (fields : List String)
  | unexpected (record field : String)
  | notIterable (type : String)
  deriving DecidableEq, Repr

def conjoin : List String → String
  | [] => ""
  | [a] => a
  | [a, b] => a ++ " and " ++ b
  | xs => ", ".intercalate xs.dropLast ++ ", and " ++ (xs.getLast?.getD "")

def RecordError.message : RecordError → String
  | .missing record fields =>
      let names := fields.map fun f => "'" ++ f ++ "'"
      record ++ ".__init__() missing " ++ toString fields.length ++
        " required positional argument" ++ (if fields.length == 1 then "" else "s") ++ ": " ++
        conjoin names
  | .unexpected record field =>
      record ++ ".__init__() got an unexpected keyword argument '" ++ field ++ "'"
  | .notIterable type => "'" ++ type ++ "' object is not iterable"

/-- Checks the member names of a record: first for a name it does not have, then for the required
ones. -/
def checkMembers (record : String) (known required : List String) (members : List (String × Json)) :
    Except RecordError Unit :=
  match members.find? fun m => !known.contains m.1 with
  | some m => .error (.unexpected record m.1)
  | none =>
      let absent := required.filter fun r => !members.any (·.1 == r)
      if absent.isEmpty then .ok () else .error (.missing record absent)

/-- The word for the type of a value that is no list. -/
def Json.typeWord : Json → String
  | .null => "NoneType"
  | .bool _ => "bool"
  | .int _ => "int"
  | .float _ => "float"
  | .str _ => "str"
  | .arr _ => "list"
  | .obj _ => "dict"

namespace Json

def text : Json → String
  | .str s => s
  | _ => ""

def text? : Json → Option String
  | .str s => some s
  | _ => none

def whole : Json → Int
  | .int n => n
  | _ => 0

def truth : Json → Bool
  | .bool b => b
  | _ => false

def items : Json → List Json
  | .arr xs => xs
  | _ => []

def members : Json → List (String × Json)
  | .obj ms => ms
  | _ => []

/-- A member, or null. -/
def field (j : Json) (key : String) : Json := (j.get? key).getD .null

end Json

namespace Parameter

def ofJson (j : Json) : Except RecordError Parameter := do
  checkMembers "Parameter" ["name", "type", "optional"] ["name"] j.members
  return ⟨(j.field "name").text, (j.field "type").text, (j.field "optional").truth⟩

def toJson (p : Parameter) : Json :=
  .obj [("name", .str p.name), ("type", .str p.type), ("optional", .bool p.optional)]

end Parameter

namespace Symbol

def memberNames : List String :=
  ["name", "kind", "file", "start_line", "end_line", "signature", "parameters", "return_type",
    "visibility", "is_static", "is_constant", "extends", "implements", "code"]

def requiredNames : List String := ["name", "kind", "file", "start_line", "end_line"]

def toJson (s : Symbol) : Json :=
  .obj
    [("name", .str s.name), ("kind", .str s.kind), ("file", .str s.file),
      ("start_line", .int s.startLine), ("end_line", .int s.endLine),
      ("signature", Json.ofOption .str s.signature),
      ("parameters", .arr (s.parameters.map Parameter.toJson)),
      ("return_type", Json.ofOption .str s.returnType),
      ("visibility", Json.ofOption .str s.visibility), ("is_static", .bool s.isStatic),
      ("is_constant", .bool s.isConstant), ("extends", Json.ofOption .str s.base),
      ("implements", Json.strings s.otherBases), ("code", Json.ofOption .str s.code)]

/-- The elements of a member that should be a list. -/
def elements (j : Json) : Except RecordError (List Json) :=
  if !j.isTruthy then .ok []
  else
    match j with
    | .arr xs => .ok xs
    | .str s => .ok (s.toList.map fun c => .str (String.ofList [c]))
    | .obj ms => .ok (ms.map fun m => .str m.1)
    | j => .error (.notIterable j.typeWord)

def ofJson (j : Json) : Except RecordError Symbol := do
  let parameters ← (← elements (j.field "parameters")).mapM Parameter.ofJson
  let otherBases ← elements (j.field "implements")
  checkMembers "CodeSymbol" memberNames requiredNames j.members
  return {
    name := (j.field "name").text
    kind := (j.field "kind").text
    file := (j.field "file").text
    startLine := (j.field "start_line").whole
    endLine := (j.field "end_line").whole
    signature := (j.field "signature").text?
    parameters := parameters
    returnType := (j.field "return_type").text?
    visibility := (j.field "visibility").text?
    isStatic := (j.field "is_static").truth
    isConstant := (j.field "is_constant").truth
    base := (j.field "extends").text?
    otherBases := otherBases.map Json.text
    code := (j.field "code").text? }

/-- The text of a record, if the line numbers are within the limit. -/
def record? (limit : Option Nat) (s : Symbol) : Option String := Json.writeWithin limit s.toJson

/-- The symbol that the text of a record is for. -/
def ofRecord? (limit : Option Nat) (text : String) : Option Symbol := do
  (ofJson (← (Json.readWithin limit text).toOption)).toOption

end Symbol

namespace CallEdge

/-- A call inside a larger record. -/
def toJson (c : CallEdge) : Json :=
  .obj
    [("caller", .str c.caller), ("callee", .str c.callee), ("file", .str c.file),
      ("line", .int c.line)]

end CallEdge

end PullReview
