import PullReview.Feature
import PullReview.Index
import PullReview.Level

/-!
# Impacted areas

A call of a changed symbol is an impacted area of the code base. The areas of one feature are
grouped, and the group is as risky as its riskiest area.
-/

namespace PullReview

structure ImpactedArea where
  file : String
  line : Int
  method : String
  feature : String
  callSite : CallEdge
  risk : Level
  reason : String
  deriving DecidableEq, Repr, Inhabited

structure ImpactedFeature where
  name : String
  files : List String
  areas : List ImpactedArea
  risk : Level
  description : String
  deriving DecidableEq, Repr, Inhabited

/-- A change of what is visible everywhere is risky everywhere. -/
def Symbol.risk (s : Symbol) : Level :=
  if s.visibility == some "public" then .high
  else if s.visibility == some "protected" then .medium
  else .low

namespace Impact

/-- Impact is followed for functions, methods and classes. -/
def isFollowed (s : Symbol) : Bool := s.isCallable || s.kind == "class"

def areaReason (s : Symbol) (site : CallEdge) : String :=
  let called :=
    s.kind ++ " " ++ s.name ++ " is called from " ++ site.caller ++ "() in " ++ site.file
  if s.visibility == some "public" then "Public " ++ called
  else if s.visibility == some "protected" then "Protected " ++ called
  else Text.upperFirst s.kind ++ " " ++ s.name ++ " is referenced in " ++ site.file

def area (s : Symbol) (site : CallEdge) : ImpactedArea where
  file := site.file
  line := site.line
  method := site.caller
  feature := Feature.ofPath site.file
  callSite := site
  risk := s.risk
  reason := areaReason s site

/-- The calls of a symbol's name outside the files that are under review anyway. -/
def areas (ix : Index) (skipped : List String) (s : Symbol) : List ImpactedArea :=
  ((ix.callers s.name).filter fun site => !skipped.contains site.file).map (area s)

/-- The areas of every feature, features in the order of their first area. -/
def grouped (as : List ImpactedArea) : Table (List ImpactedArea) :=
  as.foldl
    (fun t a => t.alter (if a.feature == "" then "Unknown" else a.feature) fun old =>
      old.getD [] ++ [a])
    {}

def feature (name : String) (members : List ImpactedArea) : ImpactedFeature where
  name := name
  files := distinct (members.map (·.file))
  areas := members
  risk := Level.highest (members.map (·.risk))
  description :=
    "The " ++ name ++ " feature uses code that is being modified in this PR. " ++
      "Changes may affect functionality in " ++ ((members.head?.map (·.file)).getD "") ++ "."

def features (as : List ImpactedArea) : List ImpactedFeature :=
  (grouped as).entries.map fun e => feature e.1 e.2

end Impact

end PullReview
