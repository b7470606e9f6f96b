import PullReview.Impact
import PullReview.LanguageModel.Provider
import PullReview.LanguageModel.Reply

/-!
# Predictions by a language model

The model is asked what may break. No answer, or one that cannot be read, means no predictions.
-/

namespace PullReview.LanguageModel

/-- The predictions in the answer of a model. -/
def predictionsIn (answer : Json) : Except Fault (Option (List Prediction)) :=
  if !answer.isTruthy then .ok none
  else
    match answer with
    | .str text => (predictions text).mapError Fault.tooManyDigits
    | j => .error (.notText j.typeWord)

/-- What a model that answers prompts by `ask` predicts. -/
def predict (ask : String → Except Fault Json) (changed : List Symbol) (areas : List ImpactedArea)
    (features : List ImpactedFeature) : Except Fault (Option (List Prediction)) := do
  predictionsIn (← ask (prompt changed areas features))

/-- A model as a source of predictions; a fault counts as no answer. -/
def predictor (ask : String → Except Fault Json) : Impact.Predictor := fun changed as fs =>
  ((predict ask changed as fs).toOption).getD none

end PullReview.LanguageModel
