import PullReview.Impact.Area

/-!
# Predictions

What may break. Without an answer from elsewhere the predictions follow from the changed symbols
and the number of impacted areas.
-/

namespace PullReview

structure Prediction where
  scenario : String
  probability : Level
  impact : String
  affectedFiles : List String := []
  mitigation : String := ""
  deriving DecidableEq, Repr, Inhabited

namespace Prediction

def ofSignatures (callables areas : Nat) (files : List String) : Prediction where
  scenario := "Signature changes may break calling code"
  probability := .high
  impact :=
    toString callables ++ " function(s) or method(s) have been modified. " ++ toString areas ++
      " call site(s) may need updates to match new signatures."
  affectedFiles := files
  mitigation :=
    "Review all call sites and update calls to match the new signatures. " ++
      "Run the full test suite before merging."

def ofVisibility (files : List String) : Prediction where
  scenario := "Visibility reduction may break external access"
  probability := .medium
  impact := "Symbols may no longer be meant for use outside their module or class."
  affectedFiles := files
  mitigation := "Verify every call site is in an allowed scope, or keep the symbol public."

/-- The predictions that the changes alone support; there are none without an impacted area. -/
def byRules (changed : List Symbol) (areas : List ImpactedArea) : List Prediction :=
  if areas.isEmpty then []
  else
    let files := distinct (areas.map (·.file))
    let callables := changed.countP (·.isCallable)
    let isRestricted (s : Symbol) : Bool :=
      s.visibility == some "private" || s.visibility == some "protected"
    (if callables == 0 then [] else [ofSignatures callables areas.length files]) ++
      (if changed.any isRestricted then [ofVisibility files] else [])

end Prediction

end PullReview
