import PullReview.Config
import PullReview.Duplicate
import PullReview.Impact

/-!
# Settings in use

The settings a configuration gives, with defaults for what it does not say. Thresholds are doubles
and counts are whole numbers; a setting in another form is converted, if it can be.
-/

namespace PullReview.Config

/-- Why a setting is no number. -/
inductive ConversionFault where
  | notDouble (text : String)
  | noDouble (type : String)
  | tooLarge
  | notWhole (text : String)
  | noWhole (type : String)
  | fraction (fault : Number.NotWhole)
  | digits (fault : Number.TooManyDigits)

def ConversionFault.message : ConversionFault → String
  | notDouble s => "could not convert string to float: " ++ Text.quote s
  | noDouble t => "float() argument must be a string or a real number, not '" ++ t ++ "'"
  | tooLarge => "int too large to convert to float"
  | notWhole s => "invalid literal for int() with base 10: " ++ Text.quote s
  | noWhole t =>
      "int() argument must be a string, a bytes-like object or a real number, not '" ++ t ++ "'"
  | fraction f => f.message
  | digits f => f.message

/-- A setting as a double. -/
def toDouble : Toml.Value → Except ConversionFault Float
  | .float x => .ok x
  | .bool b => .ok (if b then 1.0 else 0.0)
  | .int n =>
      let x := Number.nearest (decide (n < 0)) n.natAbs 1
      if x.isFinite then .ok x else .error .tooLarge
  | .str s =>
      match Number.parseDouble? s with
      | some x => .ok x
      | none => .error (.notDouble s)
  | v => .error (.noDouble v.typeWord)

/-- A setting as a whole number; a double loses its fraction. -/
def toWhole : Toml.Value → Except ConversionFault Int
  | .int n => .ok n
  | .bool b => .ok (if b then 1 else 0)
  | .float x => (Number.truncate x).mapError .fraction
  | .str s =>
      match Number.parseWhole s with
      | .ok (some n) => .ok n
      | .ok none => .error (.notWhole s)
      | .error f => .error (.digits f)
  | v => .error (.noWhole v.typeWord)

structure Values where
  provider : Toml.Value := .str "ollama"
  apiKey : Toml.Value := .str ""
  model : Toml.Value := .str LanguageModel.localModel
  endpoint : Toml.Value := .str LanguageModel.localEndpoint
  embeddingModel : Toml.Value := .str "hash"
  limits : Duplicate.Limits := {}
  batchSize : Int := 10
  depth : Int := Impact.defaultDepth

/-- Why a file gives no settings. -/
inductive ValuesFault where
  | file (fault : Fault)
  | conversion (fault : ConversionFault)

def ValuesFault.message : ValuesFault → String
  | .file f => f.message
  | .conversion f => f.message

def limitsOf (settings : Members) : Except ConversionFault Duplicate.Limits := do
  let d : Duplicate.Limits := {}
  let double (key : String) (other : Float) : Except ConversionFault Float :=
    toDouble ((settings.lookup key).getD (.float other))
  return {
    withinReview := ← double "within_pr_threshold" d.withinReview
    acrossIndex := ← double "cross_repo_threshold" d.acrossIndex
    vector := ← double "vector_threshold" d.vector
    exact := ← double "exact_threshold" d.exact
    neighbours := ← toWhole ((settings.lookup "vector_top_k").getD (.int d.neighbours)) }

/-- The settings of the sections of a file. -/
def values (sections : Members) : Except ValuesFault Values := do
  let model ← (languageModel sections).mapError .file
  let embedding ← (embedding sections).mapError .file
  let settings ← (analysis sections).mapError .file
  let d : Values := {}
  let limits ← (limitsOf settings).mapError .conversion
  let count (key : String) (other : Int) : Except ValuesFault Int :=
    (toWhole ((settings.lookup key).getD (.int other))).mapError .conversion
  return {
    provider := (model.lookup "provider").getD d.provider
    apiKey := (model.lookup "api_key").getD d.apiKey
    model := (model.lookup "model").getD d.model
    endpoint := (model.lookup "endpoint").getD d.endpoint
    embeddingModel := (embedding.lookup "model").getD d.embeddingModel
    limits := limits
    batchSize := ← count "batch_size" d.batchSize
    depth := ← count "max_chain_depth" d.depth }

end PullReview.Config
