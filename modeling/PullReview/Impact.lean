import PullReview.Impact.Cascade
import PullReview.Impact.Chain
import PullReview.Impact.Prediction

/-!
# Impact of a change

The calls that a set of changed symbols reaches, by feature, with the cascades and the dependency
chains of every symbol that is called at all, and the predictions of what may break.
-/

namespace PullReview

structure ImpactAnalysis where
  changed : List Symbol := []
  files : List String := []
  features : List ImpactedFeature := []
  callSites : List CallEdge := []
  cascades : List Cascade := []
  chains : List DependencyChain := []
  predictions : List Prediction := []
  deriving Repr, Inhabited

namespace Impact

/-- A source of predictions; it may have no answer. -/
abbrev Predictor := List Symbol → List ImpactedArea → List ImpactedFeature →
  Option (List Prediction)

/-- An outside predictor is asked only if something changed. -/
def Predictor.ifChanged (ask : Predictor) : Predictor := fun changed as fs =>
  if changed.isEmpty then none else ask changed as fs

def Predictor.rules : Predictor := fun changed as _ => some (Prediction.byRules changed as)

/-- The first answer of a list of predictors. -/
def predict (sources : List Predictor) (changed : List Symbol) (as : List ImpactedArea)
    (fs : List ImpactedFeature) : List Prediction :=
  (sources.findSome? fun ask => ask changed as fs).getD []

/-- The predictors in use: an outside one, if there is any, before the rules. -/
def sources (outside : Option Predictor) : List Predictor :=
  (outside.map Predictor.ifChanged).toList ++ [Predictor.rules]

/-- The depth to which chains are followed unless told otherwise. -/
def defaultDepth : Int := 4

def analyze (ix : Index) (predictors : List Predictor) (depth : Int) (symbols : List Symbol)
    (skipped : List String) : ImpactAnalysis :=
  let changed := symbols.filter isFollowed
  let reached := changed.map fun s => (s, areas ix skipped s)
  let all := reached.flatMap (·.2)
  let called := reached.filter fun r => !r.2.isEmpty
  let fs := features all
  { changed := changed
    files := distinct (all.map (·.file))
    features := fs
    callSites := all.map (·.callSite)
    cascades := called.filterMap fun r => cascade? r.1 r.2
    chains := called.map fun r => chain ix skipped depth r.1 r.2
    predictions := predict predictors changed all fs }

end Impact

end PullReview
