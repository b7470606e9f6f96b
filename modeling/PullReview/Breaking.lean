import PullReview.Index
import PullReview.Level
import PullReview.Text.Case

/-!
# Breaking changes

A changed function or method is compared with the indexed symbol of its name: its signature, its
visibility and its return type are checked one by one, each check with a record of its own. A
function that a changed file declared, and that no changed file declares any more, is removed.
-/

namespace PullReview

inductive ChangeKind where
  | signature
  | visibility
  | returnType
  | removed
  | other (word : String)
  deriving DecidableEq, Repr, Inhabited

namespace ChangeKind

def word : ChangeKind → String
  | signature => "signature"
  | visibility => "visibility"
  | returnType => "return_type"
  | removed => "removed"
  | other w => w

def ofWord (w : String) : ChangeKind :=
  if w == "signature" then signature
  else if w == "visibility" then visibility
  else if w == "return_type" then returnType
  else if w == "removed" then removed
  else other w

end ChangeKind

structure BreakingChange where
  symbol : Symbol
  kind : ChangeKind
  oldSignature : Option String
  newSignature : Option String
  impactedFiles : List String
  callSites : List CallEdge
  severity : Level
  message : String
  deriving DecidableEq, Repr, Inhabited

namespace Breaking

/-- How far a symbol can be seen; a word that is none of the four is as narrow as private. -/
def visibilityRank (visibility : String) : Nat :=
  if visibility == "public" then 3
  else if visibility == "protected" then 2
  else if visibility == "package" then 1
  else 0

def isReduced (old new : String) : Bool := visibilityRank new < visibilityRank old

/-- A text that is there and not empty. -/
def present (t : Option String) : Option String := t.filter (· != "")

/-- The record of a change, with the calls of the symbol's name. A change nobody is known to call
is of medium severity, unless it is one of the return type. -/
def record (ix : Index) (s : Symbol) (kind : ChangeKind) (old new : Option String)
    (message : String) : BreakingChange :=
  let sites := ix.callers s.name
  { symbol := s
    kind := kind
    oldSignature := old
    newSignature := new
    impactedFiles := distinct (sites.map (·.file))
    callSites := sites
    severity := if !sites.isEmpty || kind == .returnType then .high else .medium
    message := message }

def signatureChange (ix : Index) (old new : Symbol) : List BreakingChange :=
  match present old.signature, present new.signature with
  | some a, some b =>
      if a == b then []
      else [record ix new .signature (some a) (some b) ("Signature changed: " ++ a ++ " -> " ++ b)]
  | _, _ => []

def visibilityChange (ix : Index) (old new : Symbol) : List BreakingChange :=
  match present old.visibility, present new.visibility with
  | some a, some b =>
      if isReduced a b then
        [record ix new .visibility old.signature new.signature
          ("Visibility reduced: " ++ a ++ " -> " ++ b)]
      else []
  | _, _ => []

def returnChange (ix : Index) (old new : Symbol) : List BreakingChange :=
  match present old.returnType, present new.returnType with
  | some a, some b =>
      if a == b then []
      else
        [record ix new .returnType old.signature new.signature
          ("Return type changed: " ++ a ++ " -> " ++ b)]
  | _, _ => []

/-- The changes of one symbol against the indexed symbol of its name. -/
def symbolChanges (ix : Index) (new : Symbol) : List BreakingChange :=
  if new.isCallable then
    match ix.symbol? new.name with
    | some old =>
        signatureChange ix old new ++ visibilityChange ix old new ++ returnChange ix old new
    | none => []
  else []

def removal (ix : Index) (old : Symbol) : BreakingChange :=
  record ix old .removed old.signature none
    (Text.upperFirst old.kind ++ " removed: " ++ (present old.signature).getD old.name)

/-- The indexed callables of the changed files whose names no changed file declares, the first of
each name. -/
def removedSymbols (ix : Index) (changed : List (String × List Symbol)) : List Symbol :=
  let surviving := changed.flatMap fun f => f.2.map (·.name)
  let gone := (changed.flatMap fun f => ix.fileSymbols f.1).filter fun s =>
    s.isCallable && !surviving.contains s.name
  gone.foldl (fun kept s => if kept.any (·.name == s.name) then kept else kept ++ [s]) []

/-- All breaking changes of a set of changed symbols, and the removals from the changed files. -/
def detect (ix : Index) (symbols : List Symbol) (changed : List (String × List Symbol)) :
    List BreakingChange :=
  symbols.flatMap (symbolChanges ix) ++ (removedSymbols ix changed).map (removal ix)

end Breaking

end PullReview
