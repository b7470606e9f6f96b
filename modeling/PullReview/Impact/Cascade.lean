import PullReview.Impact.Area

/-!
# Cascades

A change that reaches more than one feature, or more than one service, may fail in a cascade. The
cascade is the longer the more calls come from other files.
-/

namespace PullReview

structure Cascade where
  trigger : String
  features : List String
  services : List String
  length : Nat
  severity : Level
  description : String
  deriving DecidableEq, Repr, Inhabited

namespace Impact

def cascadeLength (indirect : Nat) : Nat := 1 + (indirect + 2) / 3

def cascadeSeverity (length : Nat) : Level :=
  if length > 3 then .high else if length > 2 then .medium else .low

def cascade? (s : Symbol) (as : List ImpactedArea) : Option Cascade :=
  let features := distinct (as.map (·.feature))
  let services := distinct ((as.filterMap fun a => serviceName? a.file).filter (· != ""))
  if features.length ≤ 1 && services.length ≤ 1 then none
  else
    let length := cascadeLength (as.countP fun a => a.file != s.file)
    some
      { trigger := s.name
        features := features
        services := services
        length := length
        severity := cascadeSeverity length
        description :=
          "Changing " ++ s.name ++ " reaches " ++ toString features.length ++ " feature(s) and " ++
            toString services.length ++ " service(s) through " ++ toString as.length ++
            " call site(s)." }

end Impact

end PullReview
